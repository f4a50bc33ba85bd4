import Mathlib.Data.List.TakeWhile
import AppDescription.Project.Output

namespace AppDescription

/-- Different texts have different octets. -/
theorem Utf8.encode_inj {text other : Text} : encode text = encode other ↔ text = other := by
  constructor
  · intro same
    have octets : text.utf8Encode = other.utf8Encode := congrArg List.toByteArray same
    have strings : String.ofList text = String.ofList other := String.toByteArray_inj.mp octets
    exact String.ofList_inj.mp strings
  · rintro rfl
    rfl

namespace FileTree

/-- A location holds what it held before, or else a folder where nothing was. -/
def Keeps (before after : FileTree) (location : Location) : Prop :=
  after.node? location = before.node? location ∨
    before.node? location = none ∧ after.node? location = some .folder

namespace Keeps

variable {before middle after : FileTree} {location : Location}

theorem refl (tree : FileTree) (location : Location) : Keeps tree tree location := Or.inl rfl

theorem trans (first : Keeps before middle location) (second : Keeps middle after location) :
    Keeps before after location := by
  rcases second with same | ⟨free, made⟩
  · rcases first with same' | ⟨free, made⟩
    · exact Or.inl (same.trans same')
    · exact Or.inr ⟨free, same.trans made⟩
  · rcases first with same' | ⟨_, made'⟩
    · exact Or.inr ⟨same'.symm.trans free, made⟩
    · rw [made'] at free
      cases free

/-- What a location holds it goes on holding. -/
theorem node?_eq {node : FileNode} (keeps : Keeps before after location)
    (held : before.node? location = some node) : after.node? location = some node := by
  rcases keeps with same | ⟨free, _⟩
  · exact same.trans held
  · rw [held] at free
    cases free

end Keeps

theorem lookup_folders (folders : List Location) (location : Location) :
    List.lookup location (folders.map (·, FileNode.folder)) =
      if location ∈ folders then some .folder else none := by
  induction folders with
  | nil => rfl
  | cons folder folders ih =>
    rw [List.map_cons, lookup_cons_eq, ih]
    by_cases here : location = folder <;> simp [here]

theorem node?_append_folders (tree : FileTree) (folders : List Location) (location : Location) :
    (tree ++ folders.map (·, FileNode.folder)).node? location =
      (tree.node? location).or (if location ∈ folders then some .folder else none) := by
  unfold node?
  split
  · rfl
  · rw [List.lookup_append, lookup_folders]

theorem append_folders_keeps (tree : FileTree) {folders : List Location}
    (free : ∀ folder ∈ folders, tree.node? folder = none) (location : Location) :
    Keeps tree (tree ++ folders.map (·, FileNode.folder)) location := by
  unfold Keeps
  rw [node?_append_folders]
  by_cases added : location ∈ folders
  · rw [if_pos added, free location added]
    exact Or.inr ⟨rfl, rfl⟩
  · rw [if_neg added, Option.or_none]
    exact Or.inl rfl

theorem node?_of_mem_missing {tree : FileTree} {location folder : Location}
    (among : folder ∈ tree.missing location) : tree.node? folder = none := by
  have absent := List.mem_takeWhile_imp (List.mem_reverse.mp among)
  simpa using absent

/-- Making folders touches nothing that is there. -/
theorem makeFolders_keeps (tree : FileTree) (folder location : Location) :
    Keeps tree (tree.makeFolders folder).files location := by
  unfold makeFolders
  dsimp only
  split
  · exact .refl tree location
  · split
    · exact .refl tree location
    · split
      · exact .refl tree location
      · refine append_folders_keeps tree ?_ location
        intro other among
        exact node?_of_mem_missing ((List.takeWhile_sublist _).mem among)

theorem write_eq_ok {tree after : FileTree} {location : Location} {octets : Octets}
    (written : tree.write location octets = .ok after) :
    location ≠ [] ∧ after = put tree location (.file octets) := by
  unfold write at written
  split at written
  · cases written
  · split at written
    · cases written
    · rename_i plain
      cases written
      refine ⟨?_, rfl⟩
      rintro rfl
      exact plain rfl

/-- What was put where in the course of some writing, in its order. -/
abbrev Placements := List (Location × Text)

/-- The files after some writing: what was put last at a location lies there, and a location where
nothing was put is kept. -/
def Holds (placements : Placements) (before after : FileTree) (location : Location) : Prop :=
  match placements.reverse.lookup location with
  | some content => after.node? location = some (.file (Utf8.encode content))
  | none => Keeps before after location

namespace Holds

variable {before middle after : FileTree} {placements others : Placements} {location : Location}

theorem append (first : Holds placements before middle location)
    (second : Holds others middle after location) :
    Holds (placements ++ others) before after location := by
  unfold Holds at first second ⊢
  rw [List.reverse_append, List.lookup_append]
  cases last : others.reverse.lookup location with
  | some content =>
    rw [last] at second
    exact second
  | none =>
    rw [last] at second
    rw [Option.none_or]
    cases earlier : placements.reverse.lookup location with
    | some content =>
      rw [earlier] at first
      exact second.node?_eq first
    | none =>
      rw [earlier] at first
      exact first.trans second

/-- All that was put somewhere is there in the end exactly if nothing else was put in its place. -/
theorem all_iff (holds : ∀ location, Holds placements before after location) :
    (∀ entry ∈ placements, after.node? entry.1 = some (.file (Utf8.encode entry.2))) ↔
      ∀ entry ∈ placements, ∀ other ∈ placements, entry.1 = other.1 → entry.2 = other.2 := by
  constructor
  · intro all entry member other otherMember same
    have there := all entry member
    rw [same, all other otherMember, Option.some.injEq, FileNode.file.injEq] at there
    exact (Utf8.encode_inj.mp there).symm
  · intro agree entry member
    have found : (placements.reverse.lookup entry.1).isSome = true :=
      List.lookup_isSome_iff.mpr ⟨entry, List.mem_reverse.mpr member, beq_self_eq_true _⟩
    obtain ⟨content, last⟩ := Option.isSome_iff_exists.mp found
    obtain ⟨above, below, whole, _⟩ := List.lookup_eq_some_iff.mp last
    have among : (entry.1, content) ∈ placements := by
      rw [← List.mem_reverse, whole]
      exact List.mem_append_right above List.mem_cons_self
    have there := holds entry.1
    rw [Holds, last] at there
    rw [agree entry member _ among rfl]
    exact there

end Holds

/-- Where artifacts are put under an output directory. -/
def placements (root : Location) (artifacts : List Artifact) : Placements :=
  artifacts.map fun artifact => (artifact.target root, artifact.content)

/-- An artifact that is written without a fault lies at its place, and everything else is kept. -/
theorem writeArtifact_holds {root : Location} {artifact : Artifact} {tree after : FileTree}
    {targets : List Location} (done : tree.writeArtifact root artifact = ⟨after, targets, none⟩)
    (location : Location) :
    Holds [(artifact.target root, artifact.content)] tree after location := by
  unfold writeArtifact at done
  dsimp only at done
  split at done
  · cases done
  · split at done
    · have kept := makeFolders_keeps tree (artifact.target root).dropLast location
      split at done
      · cases done
      · rename_i made folders
        rw [folders] at kept
        split at done
        · cases done
        · rename_i final written
          cases done
          obtain ⟨below, rfl⟩ := write_eq_ok written
          have put := node?_put made location (.file (Utf8.encode artifact.content)) below
          rw [Holds, List.reverse_singleton]
          by_cases here : location = artifact.target root
          · rw [if_pos here] at put
            rw [here] at put ⊢
            rw [List.lookup_cons_self]
            exact put
          · rw [if_neg here] at put
            have elsewhere :
                List.lookup location [(artifact.target root, artifact.content)] = none :=
              List.lookup_eq_none_iff.mpr (by simpa using here)
            rw [elsewhere]
            exact kept.trans (.inl put)
    · cases done

/-- Artifacts that are all written without a fault lie at their places, the last one for each. -/
theorem writeArtifacts_holds {root : Location} {artifacts : List Artifact} {tree after : FileTree}
    {targets : List Location} (done : tree.writeArtifacts root artifacts = ⟨after, targets, none⟩)
    (location : Location) : Holds (placements root artifacts) tree after location := by
  induction artifacts generalizing tree targets with
  | nil =>
    cases done
    exact .refl _ location
  | cons artifact rest ih =>
    rw [writeArtifacts] at done
    split at done
    · cases done
    · rename_i made _ first
      generalize others : made.writeArtifacts root rest = writing at done
      obtain ⟨final, more, fault?⟩ := writing
      cases done
      exact (writeArtifact_holds first location).append (ih others)

theorem writeArtifacts_faultless {root : Location} {artifacts : List Artifact} {tree : FileTree}
    (faultless : (tree.writeArtifacts root artifacts).fault? = none) (location : Location) :
    Holds (placements root artifacts) tree (tree.writeArtifacts root artifacts).files location := by
  generalize done : tree.writeArtifacts root artifacts = writing at faultless ⊢
  obtain ⟨after, targets, fault?⟩ := writing
  cases faultless
  exact writeArtifacts_holds done location

theorem forall_mem_placements {root : Location} {artifacts : List Artifact}
    {p : Location × Text → Prop} : (∀ entry ∈ placements root artifacts, p entry) ↔
      ∀ artifact ∈ artifacts, p (artifact.target root, artifact.content) :=
  List.forall_mem_map

/-- Artifacts written without a fault are all there afterwards exactly if no two of them want to put
different things in one place. -/
theorem writeArtifacts_all {root : Location} {artifacts : List Artifact} {tree : FileTree}
    (faultless : (tree.writeArtifacts root artifacts).fault? = none) :
    (∀ artifact ∈ artifacts, (tree.writeArtifacts root artifacts).files.node?
        (artifact.target root) = some (.file (Utf8.encode artifact.content))) ↔
      ∀ artifact ∈ artifacts, ∀ other ∈ artifacts,
        artifact.target root = other.target root → artifact.content = other.content := by
  have all := Holds.all_iff (writeArtifacts_faultless faultless)
  simpa only [forall_mem_placements] using all

end FileTree

end AppDescription
