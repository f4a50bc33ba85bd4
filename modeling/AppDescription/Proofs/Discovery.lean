import AppDescription.Proofs.PathForm
import AppDescription.Proofs.Success

namespace AppDescription

/-- A text that can be a part of a path: the name of something, or the way back up. -/
structure Text.IsPathPart (text : Text) : Prop where
  nonempty : text ≠ []
  unbroken : '/' ∉ text
  notHere : text ≠ "."

theorem Text.IsFileName.isPathPart {text : Text} (name : text.IsFileName) : text.IsPathPart :=
  ⟨name.nonempty, name.unbroken, name.notHere⟩

/-- A location that something can have. -/
def Location.IsProper (location : Location) : Prop :=
  ∀ name ∈ location, name.IsFileName

instance Location.decidableIsProper (location : Location) : Decidable location.IsProper :=
  List.decidableBAll _ location

/-- Files and folders with names that they can have. -/
def FileTree.IsProper (tree : FileTree) : Prop :=
  ∀ entry ∈ tree, entry.1.IsProper

instance FileTree.decidableIsProper (tree : FileTree) : Decidable tree.IsProper :=
  List.decidableBAll _ tree

namespace Location

variable {location : Location}

theorem IsProper.isPathPart (proper : location.IsProper) : ∀ part ∈ location, part.IsPathPart :=
  fun part member => (proper part member).isPathPart

theorem IsProper.dropLast (proper : location.IsProper) : IsProper (List.dropLast location) :=
  fun name member => proper name ((List.dropLast_sublist location).mem member)

theorem IsProper.step (proper : location.IsProper) {part : Text} (fine : part.IsPathPart) :
    (location.step part).IsProper := by
  unfold Location.step
  split
  · exact proper.dropLast
  · rename_i notAbove
    intro name member
    rcases List.mem_append.mp member with old | new
    · exact proper name old
    · rw [List.mem_singleton.mp new]
      exact ⟨fine.nonempty, fine.unbroken, fine.notHere, notAbove⟩

theorem IsProper.foldl_step (proper : location.IsProper) {parts : List Text}
    (fine : ∀ part ∈ parts, part.IsPathPart) : (parts.foldl Location.step location).IsProper := by
  induction parts generalizing location with
  | nil => exact proper
  | cons part parts ih =>
    obtain ⟨first, rest⟩ := List.forall_mem_cons.mp fine
    exact ih (proper.step first) rest

end Location

namespace Path

/-- What is read as a path has no parts that a path cannot have. -/
theorem parts_ofText (text : Text) : ∀ part ∈ (ofText text).parts, part.IsPathPart := by
  intro part member
  obtain ⟨piece, kept⟩ := List.mem_filter.mp member
  simp only [Bool.and_eq_true, Bool.not_eq_true', List.isEmpty_eq_false_iff,
    decide_eq_true_eq] at kept
  exact ⟨kept.1, Text.not_mem_of_mem_splitOn piece, kept.2⟩

theorem append_parts {base path : Path} (start : ∀ part ∈ base.parts, part.IsPathPart)
    (onward : ∀ part ∈ path.parts, part.IsPathPart) :
    ∀ part ∈ (base.append path).parts, part.IsPathPart := by
  unfold append
  split
  · exact onward
  · exact List.forall_mem_append.mpr ⟨start, onward⟩

theorem resolve_isProper {path : Path} (fine : ∀ part ∈ path.parts, part.IsPathPart)
    {directory : Location} (proper : directory.IsProper) : (path.resolve directory).IsProper := by
  unfold resolve
  split
  · exact Location.IsProper.foldl_step (List.forall_mem_nil _) fine
  · exact proper.foldl_step fine

end Path

namespace FileTree

/-- Sources have names. -/
theorem sourcesAt_isProper {tree : FileTree} (proper : tree.IsProper) {location : Location}
    (place : location.IsProper) {sources : List Location}
    (found : tree.sourcesAt location = .ok sources) :
    ∀ source ∈ sources, source.IsProper ∧ source ≠ [] := by
  unfold sourcesAt at found
  split at found
  · cases found
  · cases found
    exact List.forall_mem_nil _
  · cases found
    intro source member
    rw [below, List.mem_mergeSort, List.mem_filter, List.mem_map] at member
    obtain ⟨⟨entry, among, rfl⟩, kept⟩ := member
    simp only [Bool.and_eq_true, decide_eq_true_eq, Location.isAtOrBelow,
      List.isPrefixOf_iff_prefix] at kept
    obtain ⟨⟨within, inside⟩, _⟩ := kept
    refine ⟨proper entry among, ?_⟩
    intro top
    rw [top, List.prefix_nil] at within
    exact inside (top.trans within.symm)
  · rename_i octets looked
    cases found
    refine List.forall_mem_singleton.mpr ⟨place, ?_⟩
    rintro rfl
    cases looked

end FileTree

/-- What comes of a list step by step comes of its members. -/
theorem exists_mem_of_mapM {ε α β : Type} {step : α → Except ε β} {list : List α}
    {results : List β} (done : list.mapM step = .ok results) :
    ∀ result ∈ results, ∃ item ∈ list, step item = .ok result := by
  induction list generalizing results with
  | nil =>
    cases done
    exact List.forall_mem_nil _
  | cons item rest ih =>
    rw [List.mapM_cons] at done
    cases first : step item with
    | error fault =>
      rw [first] at done
      cases done
    | ok result =>
      cases others : rest.mapM step with
      | error fault =>
        rw [first, others] at done
        cases done
      | ok more =>
        rw [first, others] at done
        cases done
        refine List.forall_mem_cons.mpr ⟨⟨item, List.mem_cons_self, first⟩, ?_⟩
        intro other member
        obtain ⟨origin, among, made⟩ := ih others other member
        exact ⟨origin, List.mem_cons_of_mem item among, made⟩

namespace Manifest

variable {directory : Location} {path : Path} {before after : Progress}

theorem load_succeeds {manifest : Manifest}
    (done : Succeeds (load directory path) before manifest after) : after = before := by
  obtain ⟨text, _, read, afterRead⟩ := Succeeds.bind_iff.mp done
  obtain ⟨rfl, _⟩ := readText_succeeds read
  obtain ⟨table, _, parsed, afterParse⟩ := Succeeds.bind_iff.mp afterRead
  obtain ⟨_, rfl⟩ := Work.ofExcept_succeeds parsed
  obtain ⟨_, rfl⟩ := Work.ofExcept_succeeds afterParse
  rfl

theorem sourcesOf_isProper {tree : FileTree} (proper : tree.IsProper) (folder : directory.IsProper)
    (fine : ∀ part ∈ path.parts, part.IsPathPart) {entry : TomlValue} {sources : List Location}
    (found : sourcesOf tree directory path entry = .ok sources) :
    ∀ source ∈ sources, source.IsProper ∧ source ≠ [] := by
  unfold sourcesOf at found
  split at found
  · dsimp only at found
    split at found
    · cases found
    · exact tree.sourcesAt_isProper proper (Path.resolve_isProper
        (Path.append_parts fine (Path.parts_ofText _)) folder) found
  · cases found

/-- Looking for sources changes nothing, and what is found has a name. -/
theorem discover_succeeds {manifest : Manifest} {sources : List Location}
    (proper : before.files.IsProper) (folder : directory.IsProper)
    (fine : ∀ part ∈ path.parts, part.IsPathPart)
    (done : Succeeds (manifest.discover directory path) before sources after) :
    after = before ∧ ∀ source ∈ sources, source.IsProper ∧ source ≠ [] := by
  unfold discover at done
  split at done
  · exact absurd done Succeeds.not_throw
  · rename_i entries given
    obtain ⟨_, _, looked, afterLook⟩ := Succeeds.bind_iff.mp done
    obtain ⟨rfl, rfl⟩ := Work.files_succeeds looked
    obtain ⟨groups, _, searched, afterSearch⟩ := Succeeds.bind_iff.mp afterLook
    obtain ⟨found, rfl⟩ := Work.ofExcept_succeeds searched
    obtain ⟨rfl, rfl⟩ := Succeeds.pure_iff.mp afterSearch
    refine ⟨rfl, ?_⟩
    intro source member
    obtain ⟨group, among, within⟩ := List.mem_flatten.mp member
    obtain ⟨entry, _, gives⟩ := exists_mem_of_mapM found group among
    exact sourcesOf_isProper proper folder fine gives source within

end Manifest

namespace Interaction

variable {setting : Setting} {argument : Text} {before after : Session}

/-- Looking for the sources of a project changes no files, and finds only locations with names. -/
theorem manifestSources_succeeds {path : Path} {manifest : Manifest} {sources : List Location}
    (proper : before.files.IsProper) (folder : setting.directory.IsProper)
    (done : Succeeds (manifestSources setting argument) before (path, manifest, sources) after) :
    after.files = before.files ∧ ∀ source ∈ sources, source.IsProper ∧ source ≠ [] := by
  unfold manifestSources at done
  dsimp only at done
  split at done
  · exact absurd done Succeeds.not_throw_bind
  obtain ⟨_, _, looked, afterLook⟩ := Succeeds.bind_iff.mp done
  obtain ⟨rfl, rfl⟩ := files_succeeds looked
  split at afterLook
  · exact absurd afterLook Succeeds.not_throw_bind
  · obtain ⟨⟨given, found⟩, searched, required, afterSearch⟩ := Succeeds.bind_iff.mp afterLook
    obtain ⟨progress, worked, files⟩ := require_succeeds required
    obtain ⟨loaded, _, load, afterLoad⟩ := Succeeds.bind_iff.mp worked
    obtain rfl := Manifest.load_succeeds load
    obtain ⟨located, _, discover, ended⟩ := Succeeds.bind_iff.mp afterLoad
    obtain ⟨same, rfl⟩ := Succeeds.pure_iff.mp ended
    cases same
    have place := Path.resolve_isProper (Path.parts_ofText argument) folder
    have above := place.dropLast.isPathPart
    obtain ⟨rfl, named⟩ := Manifest.discover_succeeds proper folder above discover
    dsimp only at afterSearch
    split at afterSearch
    · obtain ⟨_, _, _, afterCheck⟩ := Succeeds.bind_iff.mp afterSearch
      obtain ⟨_, _, _, afterPrint⟩ := Succeeds.bind_iff.mp afterCheck
      exact absurd afterPrint Succeeds.not_throw_bind
    · obtain ⟨same, rfl⟩ := Succeeds.pure_iff.mp afterSearch
      cases same
      exact ⟨files, named⟩
  · obtain ⟨_, _, _, afterPrint⟩ := Succeeds.bind_iff.mp afterLook
    exact absurd afterPrint Succeeds.not_throw_bind

end Interaction

end AppDescription
