import AppDescription.Text.Basic

namespace AppDescription

/-- How a computed value asks to be shown. -/
inductive ComputedFormat where
  | percentage | currency | number | date | timestamp | duration
  deriving Repr, DecidableEq

namespace ComputedFormat

def all : List ComputedFormat :=
  [percentage, currency, number, date, timestamp, duration]

def name : ComputedFormat → Text
  | percentage => "percentage"
  | currency => "currency"
  | number => "number"
  | date => "date"
  | timestamp => "timestamp"
  | duration => "duration"

def ofName? (name : Text) : Option ComputedFormat :=
  all.find? fun format => format.name = name

end ComputedFormat

/-- A computed value. On one line it gives its `expression`; as a block it may give a `value`, a
`format` and whether to `cache`. -/
structure ComputedValue where
  name : Text
  expression : Option Text
  value : Option Text
  format : Option ComputedFormat
  cache : Option Bool
  deriving Repr, DecidableEq

namespace ComputedValue

def ofExpression (name expression : Text) : ComputedValue :=
  ⟨name, some expression, none, none, none⟩

def empty (name : Text) : ComputedValue :=
  ⟨name, none, none, none, none⟩

/-- The expression text, whichever way it was written. -/
def source? (value : ComputedValue) : Option Text :=
  value.expression.or value.value

/-- A value with no expression, or with an empty one. -/
def lacksSource (value : ComputedValue) : Bool :=
  value.source?.all List.isEmpty

end ComputedValue

end AppDescription
