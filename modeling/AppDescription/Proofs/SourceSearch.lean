import Mathlib.Data.List.Nodup
import AppDescription.Proofs.Discovery
import AppDescription.Proofs.RootedTree

namespace AppDescription

namespace FileTree

/-- What an entry for a place stands for: the file there, or whatever has the ending of a source
below the folder there. -/
def GivesSource (tree : FileTree) (place location : Location) : Prop :=
  (tree.isFile place ∧ location = place) ∨
    (tree.isFolder place ∧ place <+: location ∧ location ≠ place ∧
      (tree.node? location).isSome ∧ sourceEnding <:+ location.name)

instance decidableGivesSource (tree : FileTree) (place location : Location) :
    Decidable (tree.GivesSource place location) :=
  inferInstanceAs (Decidable (_ ∨ _))

variable {tree : FileTree} {place location : Location}

end FileTree

namespace Manifest

/-- The place that a source entry names. -/
def placeOf (directory : Location) (root : Path) (entry : Text) : Location :=
  (root.append (.ofText entry)).resolve directory

/-- An entry whose place can be searched. -/
def CanSearch (tree : FileTree) (directory : Location) (root : Path) (entry : Text) : Prop :=
  (root.append (.ofText entry)).isMalformed = false ∧ ¬tree.Refuses (placeOf directory root entry)

instance decidableCanSearch (tree : FileTree) (directory : Location) (root : Path) (entry : Text) :
    Decidable (CanSearch tree directory root entry) :=
  inferInstanceAs (Decidable (_ ∧ _))

section

variable {tree : FileTree} {directory : Location} {root : Path} {entries : List Text}

end

end Manifest

end AppDescription
