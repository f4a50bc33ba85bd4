import AppDescription.Block
import AppDescription.Document

namespace AppDescription

namespace App

/-- The values a block gives to a key; empty ones do not count. -/
def valuesOf (key : Text) (lines : List Line) : List Text :=
  lines.filterMap fun line =>
    match line.kind with
    | .property k value => if k = key ∧ !value.isEmpty then some (Text.unquote value) else none
    | _ => none

/-- Reads the lines of an app block. The last value of a key counts. -/
def ofLines (name : Text) (lines : List Line) : App :=
  { name
    title := (valuesOf "title" lines).getLast?
    description := (valuesOf "description" lines).getLast?
    version := (valuesOf "version" lines).getLast?
    languageVersion := (valuesOf "apml_version" lines).getLast? }

end App

/-- The name of a section line: its key, or else the keyword of a header. -/
def sectionName? (kind : LineKind) : Option Text :=
  match kind with
  | .header keyword => some keyword
  | _ => kind.key?

/-- The names given by the top lines of a body; what is deeper than such a line belongs to it. -/
def namesOf (name? : LineKind → Option Text) : List Line → List Text
  | [] => []
  | line :: rest =>
    if line.isSignificant then
      (name? line.kind).toList ++ namesOf name? (afterBlock line.inner rest)
    else namesOf name? rest
termination_by lines => lines.length
decreasing_by
  all_goals
    have := afterBlock_length_le line.inner rest
    simp only [List.length_cons]
    omega

/-- A setting of a deploy block. -/
inductive DeployEntry where
  | platform (name : Text)
  | environment (name : Text)
  deriving Repr, DecidableEq

namespace DeployEntry

/-- Reads the lines of a deploy block. Every line but a platform with a value owns what is deeper
than it. -/
def read : List Line → List DeployEntry
  | [] => []
  | line :: rest =>
    if line.isSignificant then
      let value := line.kind.value?.getD []
      if line.kind.key? = some "platform".toList ∧ !value.isEmpty then
        .platform (Text.unquote value) :: read rest
      else if line.kind.key? = some "environments".toList then
        (namesOf LineKind.key? (block line.inner rest)).map environment ++
          read (afterBlock line.inner rest)
      else read (afterBlock line.inner rest)
    else read rest
termination_by lines => lines.length
decreasing_by
  all_goals
    have := afterBlock_length_le line.inner rest
    simp only [List.length_cons]
    omega

end DeployEntry

namespace DeployConfig

/-- The last platform counts, and every environment. -/
def ofEntries (entries : List DeployEntry) : DeployConfig :=
  { platform := (entries.filterMap fun
      | .platform name => some name
      | .environment _ => none).getLast?
    environments := entries.filterMap fun
      | .platform _ => none
      | .environment name => some name }

end DeployConfig

end AppDescription
