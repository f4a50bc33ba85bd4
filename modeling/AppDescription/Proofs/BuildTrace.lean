import AppDescription.Proofs.ArtifactPlace
import AppDescription.Proofs.Success
import AppDescription.Proofs.Writing

namespace AppDescription

namespace FileTree

/-- Sources built one after the other, each from the files that the ones before it left, with the
documents that they turned out to declare. -/
inductive Builds (directory : Location) (target : Location → Path) :
    FileTree → List (Location × Document) → FileTree → Prop where
  | done (tree : FileTree) : Builds directory target tree [] tree
  | source {tree after : FileTree} {source : Location} {document : Document}
      {rest : List (Location × Document)}
      (declared : tree.Declares directory (.ofLocation source) document)
      (faultless : (tree.writeArtifacts ((target source).resolve directory)
        (Vue.artifacts document)).fault? = none)
      (others : Builds directory target (tree.writeArtifacts ((target source).resolve directory)
        (Vue.artifacts document)).files rest after) :
      Builds directory target tree ((source, document) :: rest) after

namespace Builds

variable {directory : Location} {target : Location → Path} {before after : FileTree}
  {generations : List (Location × Document)}

/-- Whatever was built was read from a text. -/
theorem isNamed (built : Builds directory target before generations after) :
    ∀ generation ∈ generations, generation.2.IsNamed := by
  induction built with
  | done => exact List.forall_mem_nil _
  | source declared _ _ ih =>
    obtain ⟨_, _, _, _, parsed⟩ := declared
    exact List.forall_mem_cons.mpr ⟨Document.isNamed_of_parse parsed, ih⟩

/-- All that is put somewhere in the course of a build. -/
def placements (directory : Location) (target : Location → Path)
    (generations : List (Location × Document)) : Placements :=
  generations.flatMap fun generation =>
    FileTree.placements ((target generation.1).resolve directory) (Vue.artifacts generation.2)

theorem holds (built : Builds directory target before generations after) (location : Location) :
    Holds (placements directory target generations) before after location := by
  induction built with
  | done tree => exact .refl tree location
  | source _ faultless _ ih => exact (writeArtifacts_faultless faultless location).append ih

theorem forall_mem_placements {p : Location × Text → Prop} :
    (∀ entry ∈ placements directory target generations, p entry) ↔
      ∀ generation ∈ generations, ∀ artifact ∈ Vue.artifacts generation.2,
        p (artifact.target ((target generation.1).resolve directory), artifact.content) := by
  simp only [placements, List.forall_mem_flatMap, FileTree.forall_mem_placements]

/-- Everything that was generated is there in the end exactly if generations that share an output
directory agree on the artifacts that share a path. -/
theorem all_iff (built : Builds directory target before generations after) :
    (∀ generation ∈ generations, ∀ artifact ∈ Vue.artifacts generation.2,
        after.node? (artifact.target ((target generation.1).resolve directory)) =
          some (.file (Utf8.encode artifact.content))) ↔
      ∀ generation ∈ generations, ∀ other ∈ generations,
        (target generation.1).resolve directory = (target other.1).resolve directory →
          ∀ artifact ∈ Vue.artifacts generation.2, ∀ counterpart ∈ Vue.artifacts other.2,
            artifact.path = counterpart.path → artifact.content = counterpart.content := by
  have all := Holds.all_iff built.holds
  simp only [forall_mem_placements] at all
  rw [all]
  have places := fun generation member =>
    Vue.artifacts_lieAt (built.isNamed generation member)
  constructor
  · intro agree generation member other otherMember shared artifact among counterpart among' path
    obtain ⟨_, place⟩ := places generation member artifact among
    obtain ⟨_, place'⟩ := places other otherMember counterpart among'
    exact agree generation member artifact among other otherMember counterpart among'
      ((place.target_inj place').mpr ⟨shared, path⟩)
  · intro agree generation member artifact among other otherMember counterpart among' same
    obtain ⟨_, place⟩ := places generation member artifact among
    obtain ⟨_, place'⟩ := places other otherMember counterpart among'
    obtain ⟨shared, path⟩ := (place.target_inj place').mp same
    exact agree generation member other otherMember shared artifact among counterpart among' path

end Builds

end FileTree

/-- One source is built on the files of the session. -/
theorem buildSource_succeeds {directory : Location} {target path : Path} {before after : Progress}
    {targets : List Location}
    (done : Succeeds (do
      let document ← parseFile directory path
      writeArtifacts directory target (← Vue.backend.run document)) before targets after) :
    ∃ document, before.files.Declares directory path document ∧
      (before.files.writeArtifacts (target.resolve directory)
        (Vue.artifacts document)).fault? = none ∧
      after.files = (before.files.writeArtifacts (target.resolve directory)
        (Vue.artifacts document)).files := by
  obtain ⟨document, read, parsed, afterParse⟩ := Succeeds.bind_iff.mp done
  obtain ⟨artifacts, made, ran, afterRun⟩ := Succeeds.bind_iff.mp afterParse
  obtain ⟨files, declared⟩ := parseFile_succeeds parsed
  obtain ⟨rfl, files'⟩ := Backend.run_succeeds ran
  have written := writeArtifacts_succeeds afterRun
  rw [files', files] at written
  exact ⟨document, declared, written⟩

theorem buildSources_builds {setting : Setting} {target : Location → Path}
    {sources : List Location} {before after : Session} {count : Nat}
    (done : Succeeds (buildSources setting Vue.backend target sources) before count after) :
    ∃ generations, generations.map Prod.fst = sources ∧
      FileTree.Builds setting.directory target before.files generations after.files := by
  induction sources generalizing before count with
  | nil =>
    obtain ⟨_, rfl⟩ := Succeeds.pure_iff.mp done
    exact ⟨[], rfl, .done _⟩
  | cons source rest ih =>
    obtain ⟨targets, built, required, afterBuild⟩ := Succeeds.bind_iff.mp done
    obtain ⟨progress, worked, files⟩ := Interaction.require_succeeds required
    obtain ⟨document, declared, faultless, changed⟩ := buildSource_succeeds worked
    obtain ⟨_, told, printed, afterPrint⟩ := Succeeds.bind_iff.mp afterBuild
    obtain ⟨more, last, others, ended⟩ := Succeeds.bind_iff.mp afterPrint
    obtain ⟨_, rfl⟩ := Succeeds.pure_iff.mp ended
    obtain ⟨generations, firsts, trace⟩ := ih others
    rw [Interaction.print_succeeds printed, files, changed] at trace
    refine ⟨(source, document) :: generations, ?_, .source declared faultless trace⟩
    rw [List.map_cons, firsts]

end AppDescription
