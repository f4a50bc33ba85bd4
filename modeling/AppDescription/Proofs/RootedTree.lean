import Mathlib.Data.List.Induction
import AppDescription.FileTree

namespace AppDescription

namespace FileTree

/-- A tree that holds every location once, each in a folder. -/
structure IsRooted (tree : FileTree) : Prop where
  distinct : (tree.map Prod.fst).Nodup
  inFolders : ∀ entry ∈ tree, tree.isFolder entry.1.dropLast

instance decidableIsRooted (tree : FileTree) : Decidable tree.IsRooted :=
  decidable_of_iff
    ((tree.map Prod.fst).Nodup ∧ ∀ entry ∈ tree, tree.isFolder entry.1.dropLast = true)
    ⟨fun ⟨distinct, inFolders⟩ => ⟨distinct, inFolders⟩,
      fun ⟨distinct, inFolders⟩ => ⟨distinct, inFolders⟩⟩

/-- A name that is too long for anything to have, looked for in a folder. -/
def RefusesStep (tree : FileTree) (step : Location) : Prop :=
  tree.isFolder step.dropLast ∧ step.name.isLongName

instance decidableRefusesStep (tree : FileTree) (step : Location) :
    Decidable (tree.RefusesStep step) :=
  inferInstanceAs (Decidable (_ ∧ _))

/-- A place that cannot be looked at, for the length of its path or of a name on the way to it. -/
def Refuses (tree : FileTree) (place : Location) : Prop :=
  place.text.isLongPath ∨ ∃ step ∈ wayDown place, tree.RefusesStep step

instance decidableRefuses (tree : FileTree) (place : Location) : Decidable (tree.Refuses place) :=
  inferInstanceAs (Decidable (_ ∨ ∃ step ∈ wayDown place, tree.RefusesStep step))

variable {tree : FileTree} {place location : Location}

theorem lookup_isSome_iff : (List.lookup location tree).isSome ↔ location ∈ tree.map Prod.fst := by
  induction tree with
  | nil => simp
  | cons entry rest ih =>
    obtain ⟨first, node⟩ := entry
    rw [lookup_cons_eq, List.map_cons, List.mem_cons, ← ih]
    by_cases here : location = first <;> simp [here]

/-- What is there is there under its location, unless it is the root. -/
theorem node?_isSome_iff (below : location ≠ []) :
    (tree.node? location).isSome ↔ location ∈ tree.map Prod.fst := by
  rw [node?, if_neg (by simpa using below), lookup_isSome_iff]

/-- Whatever is there lies in a folder. -/
theorem IsRooted.above (rooted : tree.IsRooted) {name : Text}
    (there : (tree.node? (location ++ [name])).isSome) : tree.isFolder location := by
  rw [node?_isSome_iff (by simp), List.mem_map] at there
  obtain ⟨entry, member, same⟩ := there
  have folder := rooted.inFolders entry member
  rwa [same, List.dropLast_concat] at folder

section Descent

end Descent

end FileTree

end AppDescription
