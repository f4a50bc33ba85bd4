import AppDescription.Text.Basic

namespace AppDescription

/-- Properties in the order their keys first appeared. -/
abbrev Properties := List (Text × Text)

namespace Properties

/-- Gives a key a value. A key that is already there keeps its place. -/
def assign (properties : Properties) (key value : Text) : Properties :=
  match properties with
  | [] => [(key, value)]
  | entry :: rest =>
    if entry.1 = key then (key, value) :: rest else entry :: assign rest key value

/-- Makes all assignments in turn. -/
def ofAssignments (assignments : List (Text × Text)) : Properties :=
  assignments.foldl (fun properties entry => assign properties entry.1 entry.2) []

end Properties

end AppDescription
