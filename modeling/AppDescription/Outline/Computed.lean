import AppDescription.Block
import AppDescription.Document.Computed
import AppDescription.Header

namespace AppDescription

/-- A line of a computed block that says something about the value. -/
inductive ComputedEntry where
  | value (expression : Text)
  | format (name : Text)
  | cache (enabled : Bool)
  deriving Repr, DecidableEq

namespace ComputedEntry

/-- What a property of the block sets. An empty one sets nothing. -/
def ofProperty? (key setting : Text) : Option ComputedEntry :=
  if setting.isEmpty then none
  else if key = "value".toList then some (.value setting)
  else if key = "format".toList then some (.format setting)
  else if key = "cache".toList then some (.cache (setting = "true".toList))
  else none

/-- Reads the lines of a computed block. Only `value` may be given as a literal block. -/
def read : List Line → List ComputedEntry
  | [] => []
  | line :: rest =>
    match line.kind with
    | .literalMarker key =>
      if key = "value".toList then
        .value (literalText line.inner rest) :: read (afterLiteral line.inner rest)
      else read rest
    | .property key setting => (ofProperty? key setting).toList ++ read rest
    | _ => read rest
termination_by lines => lines.length
decreasing_by
  all_goals
    have := afterLiteral_length_le line.inner rest
    simp only [List.length_cons]
    omega

def values (entries : List ComputedEntry) : List Text :=
  entries.filterMap fun
    | value expression => some expression
    | _ => none

def formats (entries : List ComputedEntry) : List Text :=
  entries.filterMap fun
    | format name => some name
    | _ => none

def caches (entries : List ComputedEntry) : List Bool :=
  entries.filterMap fun
    | cache enabled => some enabled
    | _ => none

end ComputedEntry

/-- A computed declaration, written on its header line, as one literal, or as a block. -/
inductive ComputedBlock where
  | inline (name expression : Text)
  | block (name : Text) (entries : List ComputedEntry)
  deriving Repr, DecidableEq

namespace ComputedBlock

/-- The declared value. Of each setting the last one counts, even a format that is not known. -/
def computed : ComputedBlock → ComputedValue
  | inline name expression => .ofExpression name expression
  | block name entries =>
    { name
      expression := none
      value := (ComputedEntry.values entries).getLast?
      format := (ComputedEntry.formats entries).getLast?.bind ComputedFormat.ofName?
      cache := (ComputedEntry.caches entries).getLast? }

def name : ComputedBlock → Text
  | inline name _ => name
  | block name _ => name

/-- The formats asked for that are not known. -/
def unknownFormats : ComputedBlock → List Text
  | inline .. => []
  | block _ entries =>
    (ComputedEntry.formats entries).filter fun name => (ComputedFormat.ofName? name).isNone

end ComputedBlock

end AppDescription
