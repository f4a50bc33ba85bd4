import AppDescription.Proofs.TextForm
import AppDescription.Project.Output

namespace AppDescription

/-- A text that can be the name of a file or a folder. -/
structure Text.IsFileName (text : Text) : Prop where
  nonempty : text ≠ []
  unbroken : '/' ∉ text
  notHere : text ≠ "."
  notAbove : text ≠ ".."

instance Text.decidableIsFileName (text : Text) : Decidable text.IsFileName :=
  decidable_of_iff (text ≠ [] ∧ '/' ∉ text ∧ text ≠ "." ∧ text ≠ "..")
    ⟨fun ⟨nonempty, unbroken, here, above⟩ => ⟨nonempty, unbroken, here, above⟩,
      fun ⟨nonempty, unbroken, here, above⟩ => ⟨nonempty, unbroken, here, above⟩⟩

namespace Location

/-- Steps through names only ever lead down. -/
theorem foldl_step {names : List Text} (down : ∀ name ∈ names, name ≠ "..") (location : Location) :
    names.foldl step location = location ++ names := by
  induction names generalizing location with
  | nil => simp
  | cons name names ih =>
    rw [List.foldl_cons, ih fun other member => down other (List.mem_cons_of_mem name member), step,
      if_neg (down name List.mem_cons_self), List.append_assoc, List.singleton_append]

end Location

namespace Path

/-- Names joined by slashes make up the path with just these names. -/
theorem ofText_join {names : List Text} (nonempty : names ≠ [])
    (proper : ∀ name ∈ names, name.IsFileName) : ofText (Text.join ['/'] names) = ⟨[], names⟩ := by
  have pieces : Text.splitOn '/' (Text.join ['/'] names) = names :=
    Text.splitOn_join nonempty fun name member => (proper name member).unbroken
  have kept : (names.filter fun part => !part.isEmpty && part ≠ ".".toList) = names := by
    rw [List.filter_eq_self]
    intro name member
    have filled : (!name.isEmpty) = true := by simpa using (proper name member).nonempty
    rw [filled, Bool.true_and]
    exact decide_eq_true (proper name member).notHere
  have relative : (Text.join ['/'] names).takeWhile (· = '/') = [] := by
    cases names with
    | nil => exact absurd rfl nonempty
    | cons name more =>
      obtain ⟨filled, unbroken, _, _⟩ := proper name List.mem_cons_self
      cases name with
      | nil => exact absurd rfl filled
      | cons c rest =>
        have solid : ¬c = '/' := fun same => unbroken (same ▸ List.mem_cons_self)
        cases more <;> simp [Text.join, solid]
  simp only [ofText, pieces, kept, relative, List.length_nil, List.take_nil, ite_self]

/-- A relative path goes on from where the path before it leads. -/
theorem resolve_append {base path : Path} (relative : path.isAbsolute = false)
    (directory : Location) :
    (base.append path).resolve directory = path.resolve (base.resolve directory) := by
  have onward (start : Location) : path.resolve start = path.parts.foldl Location.step start := by
    rw [resolve, if_neg (by simp [relative])]
  rw [append, if_neg (by simp [relative]), onward]
  exact List.foldl_append

end Path

/-- An artifact whose path is made of names belongs right there below an output directory. -/
theorem Artifact.target_eq {artifact : Artifact} {names : List Text} (nonempty : names ≠ [])
    (proper : ∀ name ∈ names, name.IsFileName) (path : artifact.path = Text.join ['/'] names)
    (root : Location) : artifact.target root = root ++ names := by
  rw [target, path, Path.ofText_join nonempty proper]
  exact Location.foldl_step (fun name member => (proper name member).notAbove) root

end AppDescription
