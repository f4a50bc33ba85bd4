import AppDescription.Block
import AppDescription.Document.Field
import AppDescription.Header

namespace AppDescription

/-- A significant line of a data block. -/
inductive DataEntry where
  | field (field : Field)
  | relationship (text : Text)
  | ignored (text : Text)
  deriving Repr, DecidableEq

namespace DataEntry

/-- The field that a line defines, if any. -/
def field? (line : Line) : Option Field :=
  (Header.field? line.text).bind fun parts => Field.ofDefinition? parts.1 parts.2

/-- Reads the lines of a data block. What is deeper than a `relationships:` line is kept as it
stands; every other line is a field or is ignored. -/
def read : List Line → List DataEntry
  | [] => []
  | line :: rest =>
    if line.isSignificant then
      if line.text = "relationships:".toList then
        (significantTexts (block line.inner rest)).map relationship ++
          read (afterBlock line.inner rest)
      else
        match field? line with
        | some f => .field f :: read rest
        | none => .ignored line.text :: read rest
    else read rest
termination_by lines => lines.length
decreasing_by
  all_goals
    have := afterBlock_length_le line.inner rest
    simp only [List.length_cons]
    omega

def fields (entries : List DataEntry) : List Field :=
  entries.filterMap fun
    | field f => some f
    | _ => none

def relationships (entries : List DataEntry) : List Text :=
  entries.filterMap fun
    | relationship text => some text
    | _ => none

def ignoredTexts (entries : List DataEntry) : List Text :=
  entries.filterMap fun
    | ignored text => some text
    | _ => none

end DataEntry

/-- A data declaration with all of its lines. -/
structure DataBlock where
  name : Text
  entries : List DataEntry
  deriving Repr, DecidableEq

namespace DataBlock

def model (data : DataBlock) : DataModel :=
  ⟨data.name, DataEntry.fields data.entries, DataEntry.relationships data.entries⟩

end DataBlock

end AppDescription
