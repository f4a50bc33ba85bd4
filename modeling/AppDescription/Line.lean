import AppDescription.Text.Word

namespace AppDescription

/-- What one line of source is, judged on its own. -/
inductive LineKind where
  | blank
  | comment
  /-- The form `key: |`, which opens a literal block. -/
  | literalMarker (key : Text)
  /-- The form `key: value`, or a bare `key:` with an empty value. -/
  | property (key value : Text)
  /-- A keyword and a colon with white space somewhere before the colon. -/
  | header (keyword : Text)
  | other (keyword : Option Text)
  deriving Repr, DecidableEq

namespace LineKind

/-- The kind of a line, from its text without surrounding white space. A value may not run over a
line break. -/
def ofText (text : Text) : LineKind :=
  match text with
  | [] => .blank
  | '#' :: _ => .comment
  | _ =>
    match Text.word? text with
    | none => .other none
    | some (word, ':' :: rest) =>
      let value := Text.trim rest
      if '\n' ∈ value then .other (some word)
      else if value = ['|'] then .literalMarker word
      else .property word value
    | some (word, _) =>
      if ':' ∈ text ∧ (text.takeWhile (· ≠ ':')).any isBlank then .header word
      else .other (some word)

/-- Blank and comment lines never open, close or fill a block. -/
def isSignificant : LineKind → Bool
  | .blank | .comment => false
  | _ => true

/-- The word a line starts with. -/
def keyword? : LineKind → Option Text
  | .blank | .comment => none
  | .literalMarker key | .property key _ => some key
  | .header keyword => some keyword
  | .other keyword => keyword

def key? : LineKind → Option Text
  | .literalMarker key | .property key _ => some key
  | _ => none

def value? : LineKind → Option Text
  | .literalMarker _ => some ['|']
  | .property _ value => some value
  | _ => none

/-- A `key:` line with nothing after the colon. -/
def isBareKey : LineKind → Bool
  | .property _ value => value.isEmpty
  | _ => false

/-- A bare key with one of the given names. -/
def isBareSection (names : List Text) (kind : LineKind) : Bool :=
  kind.isBareKey && kind.key?.any names.contains

end LineKind

/-- The number of white space characters a line starts with. -/
def indentOf (raw : Text) : Nat :=
  (raw.takeWhile isBlank).length

/-- A line of a source with its number, counted from one. -/
structure Line where
  number : Nat
  raw : Text
  deriving Repr, DecidableEq

namespace Line

def indent (line : Line) : Nat :=
  indentOf line.raw

/-- The line without surrounding white space. -/
def text (line : Line) : Text :=
  Text.trim line.raw

def kind (line : Line) : LineKind :=
  LineKind.ofText line.text

def isSignificant (line : Line) : Bool :=
  line.kind.isSignificant

def isBlank (line : Line) : Bool :=
  line.text.isEmpty

def keyword? (line : Line) : Option Text :=
  line.kind.keyword?

/-- Numbers the lines from `first` on. -/
def numberFrom (first : Nat) : List Text → List Line
  | [] => []
  | raw :: rest => ⟨first, raw⟩ :: numberFrom (first + 1) rest

/-- The lines of a source. A source without line breaks, even an empty one, is one line. -/
def ofSource (source : Text) : List Line :=
  numberFrom 1 (Text.splitOn '\n' source)

end Line

end AppDescription
