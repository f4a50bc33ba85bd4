import AppDescription.Proofs.Success
import AppDescription.Proofs.Writing

namespace AppDescription

/-- An artifact whose path leads neither to the output directory nor below it. A path that holds the
character zero leads nowhere. -/
def Artifact.Escapes (artifact : Artifact) (root : Location) : Prop :=
  (Path.ofText artifact.path).isMalformed = false ∧ ¬root <+: artifact.target root

instance Artifact.decidableEscapes (artifact : Artifact) (root : Location) :
    Decidable (artifact.Escapes root) :=
  inferInstanceAs (Decidable (_ ∧ _))

/-- The file system refused something, or cannot be asked about a path at all. -/
def ProjectFault.IsSystem : ProjectFault → Prop
  | system _ | pathForm => True
  | _ => False

theorem Location.isAtOrBelow_iff {location root : Location} :
    location.isAtOrBelow root = true ↔ root <+: location :=
  List.isPrefixOf_iff_prefix

namespace FileTree

variable {root : Location} {artifact : Artifact} {artifacts : List Artifact} {tree : FileTree}

/-- All that writing an artifact can come to. -/
theorem writeArtifact_cases (root : Location) (artifact : Artifact) (tree : FileTree) :
    tree.writeArtifact root artifact = ⟨tree, [], some .pathForm⟩ ∨
      artifact.Escapes root ∧
        tree.writeArtifact root artifact = ⟨tree, [], some (.rejected artifact.escape)⟩ ∨
      root <+: artifact.target root ∧
        let made := (tree.makeFolders (artifact.target root).dropLast).files
        (∃ fault, tree.writeArtifact root artifact = ⟨made, [], some (.system fault)⟩) ∨
          ∃ after, made.write (artifact.target root) (Utf8.encode artifact.content) = .ok after ∧
            tree.writeArtifact root artifact = ⟨after, [artifact.target root], none⟩ := by
  unfold writeArtifact
  dsimp only
  split
  · exact .inl rfl
  · rename_i formed
    right
    split
    · rename_i inside
      refine .inr ⟨Location.isAtOrBelow_iff.mp inside, ?_⟩
      generalize tree.makeFolders (artifact.target root).dropLast = change
      obtain ⟨made, fault?⟩ := change
      cases fault? with
      | some fault => exact .inl ⟨fault, rfl⟩
      | none =>
        dsimp only
        split
        · rename_i fault _
          exact .inl ⟨fault, rfl⟩
        · rename_i after written
          exact .inr ⟨after, written, rfl⟩
    · rename_i outside
      rw [Location.isAtOrBelow_iff] at outside
      exact .inl ⟨⟨by simpa using formed, outside⟩, rfl⟩

/-- An artifact that escapes is refused before anything is touched. -/
theorem writeArtifact_of_escapes (escapes : artifact.Escapes root) :
    tree.writeArtifact root artifact = ⟨tree, [], some (.rejected artifact.escape)⟩ := by
  obtain ⟨formed, outside⟩ := escapes
  rw [← Location.isAtOrBelow_iff] at outside
  simp only [writeArtifact, formed, outside, Bool.false_eq_true, if_false]

/-- Whatever comes of it, writing an artifact touches nothing but its target, and that only where the
target lies in the output directory. -/
theorem writeArtifact_keeps {location : Location}
    (elsewhere : root <+: artifact.target root → location ≠ artifact.target root) :
    Keeps tree (tree.writeArtifact root artifact).files location := by
  have kept := makeFolders_keeps tree (artifact.target root).dropLast location
  rcases writeArtifact_cases root artifact tree with same | ⟨_, same⟩ |
    ⟨inside, ⟨fault, same⟩ | ⟨after, written, same⟩⟩
  · rw [same]
    exact .refl tree location
  · rw [same]
    exact .refl tree location
  · rw [same]
    exact kept
  · obtain ⟨below, rfl⟩ := write_eq_ok written
    rw [same]
    exact kept.trans (.inl ((node?_put _ location _ below).trans (if_neg (elsewhere inside))))

/-- A fault is one of the file system, or else the artifact escapes. -/
theorem writeArtifact_fault {fault : ProjectFault}
    (failed : (tree.writeArtifact root artifact).fault? = some fault) :
    fault.IsSystem ∨ artifact.Escapes root := by
  rcases writeArtifact_cases root artifact tree with same | ⟨escapes, _⟩ |
    ⟨_, ⟨fault, same⟩ | ⟨after, _, same⟩⟩
  · rw [same] at failed
    cases failed
    exact .inl trivial
  · exact .inr escapes
  · rw [same] at failed
    cases failed
    exact .inl trivial
  · rw [same] at failed
    cases failed

theorem writeArtifact_targets (faultless : (tree.writeArtifact root artifact).fault? = none) :
    (tree.writeArtifact root artifact).targets = [artifact.target root] := by
  rcases writeArtifact_cases root artifact tree with same | ⟨_, same⟩ |
    ⟨_, ⟨fault, same⟩ | ⟨after, _, same⟩⟩
  · rw [same] at faultless
    cases faultless
  · rw [same] at faultless
    cases faultless
  · rw [same] at faultless
    cases faultless
  · rw [same]

/-- Writing goes on from an artifact that was written. -/
theorem writeArtifacts_cons_of_faultless
    (faultless : (tree.writeArtifact root artifact).fault? = none) :
    tree.writeArtifacts root (artifact :: artifacts) =
      { (tree.writeArtifact root artifact).files.writeArtifacts root artifacts with
        targets := artifact.target root ::
          ((tree.writeArtifact root artifact).files.writeArtifacts root artifacts).targets } := by
  have targets := writeArtifact_targets faultless
  rw [writeArtifacts]
  generalize tree.writeArtifact root artifact = writing at faultless targets ⊢
  obtain ⟨files, written, fault?⟩ := writing
  cases faultless
  cases targets
  rfl

/-- Writing stops at an artifact that was not written. -/
theorem writeArtifacts_cons_of_fault {fault : ProjectFault}
    (failed : (tree.writeArtifact root artifact).fault? = some fault) :
    tree.writeArtifacts root (artifact :: artifacts) = tree.writeArtifact root artifact := by
  rw [writeArtifacts]
  generalize tree.writeArtifact root artifact = writing at failed ⊢
  obtain ⟨files, written, fault?⟩ := writing
  cases failed
  rfl

theorem writeArtifacts_targets (faultless : (tree.writeArtifacts root artifacts).fault? = none) :
    (tree.writeArtifacts root artifacts).targets = artifacts.map (Artifact.target · root) := by
  induction artifacts generalizing tree with
  | nil => rfl
  | cons artifact rest ih =>
    cases first : (tree.writeArtifact root artifact).fault? with
    | some fault =>
      rw [writeArtifacts_cons_of_fault first, first] at faultless
      cases faultless
    | none =>
      rw [writeArtifacts_cons_of_faultless first] at faultless ⊢
      exact congrArg _ (ih faultless)

theorem writeArtifacts_fault {fault : ProjectFault}
    (failed : (tree.writeArtifacts root artifacts).fault? = some fault) :
    fault.IsSystem ∨ ∃ artifact ∈ artifacts, artifact.Escapes root := by
  induction artifacts generalizing tree with
  | nil => cases failed
  | cons artifact rest ih =>
    cases first : (tree.writeArtifact root artifact).fault? with
    | some cause =>
      rw [writeArtifacts_cons_of_fault first] at failed
      refine (writeArtifact_fault failed).imp_right ?_
      exact fun escapes => ⟨artifact, List.mem_cons_self, escapes⟩
    | none =>
      rw [writeArtifacts_cons_of_faultless first] at failed
      refine (ih failed).imp_right ?_
      exact fun ⟨other, member, escapes⟩ => ⟨other, List.mem_cons_of_mem artifact member, escapes⟩

/-- Whatever comes of it, writing artifacts touches nothing but their targets in the output
directory. -/
theorem writeArtifacts_keeps {location : Location}
    (elsewhere : ∀ artifact ∈ artifacts, root <+: artifact.target root →
      location ≠ artifact.target root) :
    Keeps tree (tree.writeArtifacts root artifacts).files location := by
  induction artifacts generalizing tree with
  | nil => exact .refl tree location
  | cons artifact rest ih =>
    have kept : Keeps tree (tree.writeArtifact root artifact).files location :=
      writeArtifact_keeps (elsewhere artifact List.mem_cons_self)
    cases first : (tree.writeArtifact root artifact).fault? with
    | some fault =>
      rw [writeArtifacts_cons_of_fault first]
      exact kept
    | none =>
      rw [writeArtifacts_cons_of_faultless first]
      exact kept.trans (ih fun other member =>
        elsewhere other (List.mem_cons_of_mem artifact member))

/-- An artifact that escapes ends the writing of a list where the artifacts before it left off. -/
theorem writeArtifacts_append_escaping {earlier : List Artifact}
    (faultless : (tree.writeArtifacts root earlier).fault? = none)
    (escapes : artifact.Escapes root) (later : List Artifact) :
    (tree.writeArtifacts root (earlier ++ artifact :: later)).fault? =
        some (.rejected artifact.escape) ∧
      (tree.writeArtifacts root (earlier ++ artifact :: later)).files =
        (tree.writeArtifacts root earlier).files := by
  induction earlier generalizing tree with
  | nil =>
    have refused : tree.writeArtifact root artifact = ⟨tree, [], some (.rejected artifact.escape)⟩ :=
      writeArtifact_of_escapes escapes
    rw [List.nil_append, writeArtifacts_cons_of_fault (congrArg Writing.fault? refused), refused]
    exact ⟨rfl, rfl⟩
  | cons first rest ih =>
    cases done : (tree.writeArtifact root first).fault? with
    | some fault =>
      rw [writeArtifacts_cons_of_fault done, done] at faultless
      cases faultless
    | none =>
      rw [writeArtifacts_cons_of_faultless done] at faultless
      rw [List.cons_append, writeArtifacts_cons_of_faultless done,
        writeArtifacts_cons_of_faultless done]
      exact ih faultless

end FileTree

section

variable {directory : Location} {output : Path} {artifacts : List Artifact} {before : Progress}

theorem writeArtifacts_run_of_malformed (malformed : output.isMalformed = true) :
    (ExceptT.run (writeArtifacts directory output artifacts)).run before =
      (.error .pathForm, before) := by
  have refused : Work.checkPath output = throw .pathForm := if_pos malformed
  rw [writeArtifacts, refused]
  rfl

/-- What comes of writing artifacts under a path that can be used. -/
theorem writeArtifacts_run (formed : output.isMalformed = false) :
    ∃ log, (ExceptT.run (writeArtifacts directory output artifacts)).run before =
      let writing := before.files.writeArtifacts (output.resolve directory) artifacts
      (match writing.fault? with
        | some fault => .error fault
        | none => .ok writing.targets, ⟨writing.files, log⟩) := by
  let writing := before.files.writeArtifacts (output.resolve directory) artifacts
  have checked : Work.checkPath output = pure () := if_neg (by simp [formed])
  refine ⟨before.log ++ writing.targets.map fun target =>
    ⟨.info, "apml.core.build", "Wrote " ++ target.text⟩, ?_⟩
  rw [writeArtifacts, checked]
  change (ExceptT.run (match writing.fault? with
    | some fault => throw fault
    | none => return writing.targets : Work (List Location))).run _ = _
  cases ended : writing.fault? <;> simp only [writing, ended] <;> rfl

/-- Nothing goes wrong where no path escapes and the file system refuses nothing. -/
theorem writeArtifacts_faultless_of_run (formed : output.isMalformed = false)
    (inside : ∀ artifact ∈ artifacts, ¬artifact.Escapes (output.resolve directory))
    (fine : ¬∃ fault, ((ExceptT.run (writeArtifacts directory output artifacts)).run before).1 =
      .error fault ∧ fault.IsSystem) :
    (before.files.writeArtifacts (output.resolve directory) artifacts).fault? = none := by
  cases failed : (before.files.writeArtifacts (output.resolve directory) artifacts).fault? with
  | none => rfl
  | some fault =>
    obtain ⟨log, same⟩ := @writeArtifacts_run directory output artifacts before formed
    dsimp only at same
    rw [failed] at same
    rcases FileTree.writeArtifacts_fault failed with system | ⟨artifact, member, escapes⟩
    · exact absurd ⟨fault, congrArg Prod.fst same, system⟩ fine
    · exact absurd escapes (inside artifact member)

end

/-- Writing artifacts leaves all as it is outside the output directory, but for folders on the way to
it. If no path escapes and the file system refuses nothing, the artifacts lie at their targets, the
last one at each, and all else is as it was. The first artifact that escapes is rejected, and the
files are then those that the artifacts before it come to. -/
theorem writeArtifacts_contained (directory : Location) (output : Path) (artifacts : List Artifact)
    (before : Progress) :
    let root := output.resolve directory
    let run (list : List Artifact) := (ExceptT.run (writeArtifacts directory output list)).run before
    let Refused (list : List Artifact) := ∃ fault, (run list).1 = .error fault ∧ fault.IsSystem
    (∀ location, ¬root <+: location →
      FileTree.Keeps before.files (run artifacts).2.files location) ∧
    ((∀ artifact ∈ artifacts, ¬artifact.Escapes root) → ¬Refused artifacts →
      (run artifacts).1 = .ok (artifacts.map (Artifact.target · root)) ∧
        ∀ location, FileTree.Holds (FileTree.placements root artifacts) before.files
          (run artifacts).2.files location) ∧
    ∀ earlier artifact later, artifacts = earlier ++ artifact :: later → artifact.Escapes root →
      (∀ other ∈ earlier, ¬other.Escapes root) → ¬Refused earlier →
        (run artifacts).1 = .error (.rejected artifact.escape) ∧
          (run artifacts).2.files = (run earlier).2.files := by
  intro root run Refused
  cases formed : output.isMalformed with
  | true =>
    have refuses (list : List Artifact) : run list = (.error .pathForm, before) :=
      writeArtifacts_run_of_malformed formed
    have refused (list : List Artifact) : Refused list :=
      ⟨.pathForm, congrArg Prod.fst (refuses list), trivial⟩
    refine ⟨fun location _ => ?_, fun _ fine => absurd (refused artifacts) fine,
      fun earlier _ _ _ _ _ fine => absurd (refused earlier) fine⟩
    rw [refuses]
    exact .refl before.files location
  | false =>
    let writing (list : List Artifact) := before.files.writeArtifacts root list
    have runs (list : List Artifact) : ∃ log, run list = (match (writing list).fault? with
        | some fault => .error fault
        | none => .ok (writing list).targets, ⟨(writing list).files, log⟩) :=
      writeArtifacts_run formed
    obtain ⟨log, same⟩ := runs artifacts
    refine ⟨fun location outside => ?_, fun inside fine => ?_, ?_⟩
    · rw [same]
      refine FileTree.writeArtifacts_keeps fun artifact _ within here => ?_
      exact outside (here ▸ within)
    · have done : (writing artifacts).fault? = none :=
        writeArtifacts_faultless_of_run formed inside fine
      rw [done] at same
      rw [same]
      exact ⟨congrArg _ (FileTree.writeArtifacts_targets done),
        fun location => FileTree.writeArtifacts_faultless done location⟩
    · rintro earlier artifact later rfl escapes inside fine
      obtain ⟨rejected, files⟩ :=
        FileTree.writeArtifacts_append_escaping
          (writeArtifacts_faultless_of_run formed inside fine) escapes later
      obtain ⟨_, same'⟩ := runs earlier
      rw [same, same', rejected]
      exact ⟨rfl, files⟩

/-- Two paths lead to one place below the output directory, one of them up and down again and the
other from the root, and a third one leads out. -/
theorem writeArtifacts_contained_amid_dots :
    let artifacts : List Artifact := [⟨"a/../b", "one"⟩, ⟨"/w/out//./b", "two"⟩]
    let escaping : Artifact := ⟨"c/../../b", "three"⟩
    let place : Location := ["w", "out", "b"]
    let run (list : List Artifact) :=
      (ExceptT.run (writeArtifacts ["w"] (.ofText "out") list)).run ⟨[], []⟩
    (run artifacts).1 = .ok [place, place] ∧
      FileTree.Holds [(place, "one"), (place, "two")] [] (run artifacts).2.files place ∧
      (run (artifacts ++ [escaping])).1 = .error (.rejected escaping.escape) ∧
      (run (artifacts ++ [escaping])).2.files = (run artifacts).2.files := by
  intro artifacts escaping place run
  have done : (run artifacts).1 = .ok [place, place] := by decide +kernel
  have inside : ∀ artifact ∈ artifacts, ¬artifact.Escapes ["w", "out"] := by decide
  have fine : ¬∃ fault, (run artifacts).1 = .error fault ∧ fault.IsSystem := by
    rintro ⟨fault, failed, _⟩
    rw [done] at failed
    cases failed
  have written := (writeArtifacts_contained ["w"] (.ofText "out") artifacts ⟨[], []⟩).2.1 inside fine
  have rejected := (writeArtifacts_contained ["w"] (.ofText "out") (artifacts ++ [escaping])
    ⟨[], []⟩).2.2 artifacts escaping [] rfl (by decide) inside fine
  exact ⟨written.1, written.2 place, rejected⟩

end AppDescription
