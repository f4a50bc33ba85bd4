import AppDescription.Path

namespace AppDescription

/-- The phases that can reject an input. -/
inductive FailureKind where
  | parse | validation | backend | general
  deriving Repr, DecidableEq

/-- Where in a source something went wrong. -/
structure Place where
  file : Option Path
  line : Int
  column : Int
  snippet : Option Text
  deriving Repr, DecidableEq

namespace Place

/-- The snippet after a gutter with its line number, and a marker under the column. -/
def snippetText (place : Place) (snippet : Text) : Text :=
  let gutter := Text.padLeft 4 (Text.ofInt place.line) ++ " | "
  gutter ++ snippet ++ "\n" ++
    List.replicate ((gutter.length : Int) + place.column - 1).toNat ' ' ++ "^^^"

/-- The place as `file:line:column`, and below it the snippet when there is one. -/
def text (place : Place) : Text :=
  let position := (place.file.map Path.text).getD "<input>" ++ ":" ++ Text.ofInt place.line ++
    ":" ++ Text.ofInt place.column
  match place.snippet with
  | none | some [] => position
  | some snippet => position ++ "\n" ++ place.snippetText snippet

end Place

/-- A rejected input: why, and where when that is known. -/
structure Failure where
  kind : FailureKind
  message : Text
  place : Option Place
  deriving Repr, DecidableEq

namespace Failure

/-- The message, below the place it is about. -/
def text (failure : Failure) : Text :=
  match failure.place with
  | none => failure.message
  | some place => place.text ++ "\n" ++ failure.message

/-- A failed check of a whole file, placed at its first character. -/
def validation (message : Text) (file : Option Path) : Failure :=
  ⟨.validation, message, file.map fun path => ⟨some path, 1, 1, none⟩⟩

end Failure

end AppDescription
