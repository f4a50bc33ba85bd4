import AppDescription.Proofs.BuildTrace
import AppDescription.Proofs.Escape
import AppDescription.Proofs.Interruption

namespace AppDescription

/-- An artifact that lies at names is written below any output directory, by its names alone. -/
theorem Artifact.LiesAt.inside {artifact : Artifact} {names : List Text}
    (place : artifact.LiesAt names) :
    (Path.ofText artifact.path).isAbsolute = false ∧
      "..".toList ∉ (Path.ofText artifact.path).parts ∧
      ∀ root, root <+: artifact.target root ∧ artifact.target root ≠ root := by
  have written : Path.ofText artifact.path = ⟨[], names⟩ := by
    rw [place.path]
    exact Path.ofText_join place.nonempty place.proper
  rw [written]
  refine ⟨rfl, fun above => (place.proper _ above).notAbove rfl, fun root => ?_⟩
  rw [place.target]
  exact ⟨List.prefix_append root names, fun same =>
    place.nonempty (List.append_right_eq_self.mp same)⟩

theorem Artifact.LiesAt.not_escapes {artifact : Artifact} {names : List Text}
    (place : artifact.LiesAt names) (root : Location) : ¬artifact.Escapes root :=
  fun escapes => escapes.2 (place.inside.2.2 root).1

/-- What is generated from a source is only refused by the file system. -/
theorem writeArtifacts_fails {source : Text} {document : Document}
    (parsed : Document.parse source = .ok document) {directory : Location} {output : Path}
    {before after : Progress} {fault : ProjectFault}
    (failed : Fails (writeArtifacts directory output (Vue.artifacts document)) before fault after) :
    fault.IsSystem := by
  cases formed : output.isMalformed with
  | true =>
    cases failed.symm.trans (writeArtifacts_run_of_malformed formed)
    trivial
  | false =>
    obtain ⟨log, run⟩ := @writeArtifacts_run directory output (Vue.artifacts document) before formed
    have result := congrArg Prod.fst (failed.symm.trans run)
    cases cause : (before.files.writeArtifacts (output.resolve directory)
      (Vue.artifacts document)).fault? with
    | none =>
      simp only [cause] at result
      cases result
    | some found =>
      simp only [cause] at result
      cases result
      rcases FileTree.writeArtifacts_fault cause with system | ⟨artifact, member, escapes⟩
      · exact system
      · obtain ⟨_, place⟩ := Vue.artifacts_lieAt (Document.isNamed_of_parse parsed) artifact member
        exact absurd escapes (place.not_escapes _)

namespace Interaction

/-- Looking for the sources of a project changes no files. -/
theorem manifestSources_keeping (setting : Setting) (argument : Text) :
    Keeping Session.files (manifestSources setting argument) := by
  unfold manifestSources
  dsimp only
  split
  · exact Keeping.throw_bind _
  · refine files_keeping.bind fun files => ?_
    split
    · exact Keeping.throw_bind _
    · refine (require_keeping setting ?_).bind fun found => ?_
      · exact (Manifest.load_keeping _ _).bind fun _ =>
          (Manifest.discover_keeping _ _ _).bind fun _ => .pure _
      · split
        · exact (require_keeping setting (Work.checkShowable_keeping _)).bind fun _ =>
            (printError_keeping _).bind fun _ => Keeping.throw_bind _
        · exact .pure _
    · exact (printError_keeping _).bind fun _ => Keeping.throw_bind _

end Interaction

variable {setting : Setting} {backend : Backend} {target : Location → Path}

/-- Building ends at the first source that cannot be read, with the files that the sources before it
left. -/
theorem buildSources_fails {earlier : List Location} {source : Location}
    {start middle : Session} {count : Nat} {fault : ProjectFault} {progress : Progress}
    (done : Succeeds (buildSources setting backend target earlier) start count middle)
    (unread : Fails (parseFile setting.directory (.ofLocation source)) ⟨middle.files, []⟩ fault
      progress) (later : List Location) :
    ∃ after, Fails (buildSources setting backend target (earlier ++ source :: later)) start
      fault.ending after ∧ after.files = middle.files := by
  induction earlier generalizing start count with
  | nil =>
    obtain ⟨_, rfl⟩ := Succeeds.pure_iff.mp done
    have unbuilt : Fails (do
        let document ← parseFile setting.directory (.ofLocation source)
        writeArtifacts setting.directory (target source) (← backend.run document))
        ⟨start.files, []⟩ fault progress := unread.bind
    obtain ⟨after, ended, files⟩ := Interaction.require_fails setting unbuilt
    refine ⟨after, ended.bind, files.trans ?_⟩
    exact (parseFile_keeping _ _).of_fails unread
  | cons first rest ih =>
    obtain ⟨targets, built, required, afterBuild⟩ := Succeeds.bind_iff.mp done
    obtain ⟨_, told, printed, afterPrint⟩ := Succeeds.bind_iff.mp afterBuild
    obtain ⟨more, last, others, ended⟩ := Succeeds.bind_iff.mp afterPrint
    obtain ⟨_, rfl⟩ := Succeeds.pure_iff.mp ended
    obtain ⟨after, failed, files⟩ := ih others
    exact ⟨after, .after_success required (.after_success printed failed.bind), files⟩

/-- Building ends at a source that cannot be read, or that the file system refuses to write. -/
theorem buildSources_stops {sources : List Location} {start after : Session} {ending : Ending}
    (failed : Fails (buildSources setting Vue.backend target sources) start ending after) :
    ∃ earlier source later count middle fault progress,
      sources = earlier ++ source :: later ∧
      Succeeds (buildSources setting Vue.backend target earlier) start count middle ∧
      ending = fault.ending ∧ after.files = progress.files ∧
      (Fails (parseFile setting.directory (.ofLocation source)) ⟨middle.files, []⟩ fault progress ∨
        fault.IsSystem ∧ ∃ document read,
          Succeeds (parseFile setting.directory (.ofLocation source)) ⟨middle.files, []⟩ document
            read ∧
          Fails (do writeArtifacts setting.directory (target source) (← Vue.backend.run document))
            read fault progress) := by
  induction sources generalizing start after with
  | nil => exact absurd failed Fails.not_pure
  | cons source rest ih =>
    -- it stops at `source`, or at one of the rest when `source` is built and told
    rcases Fails.bind_iff.mp failed with here | ⟨targets, built, required, afterBuild⟩
    · obtain ⟨fault, progress, unbuilt, ended, files⟩ := Interaction.fails_of_require setting here
      refine ⟨[], source, rest, 0, start, fault, progress, rfl, rfl, ended, files, ?_⟩
      rcases Fails.bind_iff.mp unbuilt with unread | ⟨document, read, parsed, unwritten⟩
      · exact .inl unread
      · refine .inr ⟨?_, document, read, parsed, unwritten⟩
        obtain ⟨_, _, _, _, declared⟩ := (parseFile_succeeds parsed).2
        rcases Fails.bind_iff.mp unwritten with ungenerated | ⟨artifacts, made, ran, refused⟩
        · cases ungenerated
        · obtain ⟨rfl, _⟩ := Backend.run_succeeds ran
          exact writeArtifacts_fails declared refused
    · obtain ⟨told, printed, afterPrint⟩ := Interaction.fails_after_print afterBuild
      rcases Fails.bind_iff.mp afterPrint with others | ⟨_, _, _, ended⟩
      · obtain ⟨earlier, next, later, count, middle, fault, progress, rfl, done, stop⟩ := ih others
        have counted : Succeeds (do
            return targets.length + (← buildSources setting Vue.backend target earlier)) told
            (targets.length + count) middle := Succeeds.bind_iff.mpr ⟨count, middle, done, rfl⟩
        exact ⟨source :: earlier, next, later, _, middle, fault, progress, rfl,
          Succeeds.bind_iff.mpr ⟨targets, built, required,
            Succeeds.bind_iff.mpr ⟨(), told, printed, counted⟩⟩, stop⟩
      · exact absurd ended Fails.not_pure

/-- The ways in which a build can stop, with the files it leaves: at a source that cannot be read, at
files that the file system refuses to write, or when all sources are built and the project cannot be
told. What the sources before that come to lies at its places, and everything else is kept. -/
inductive BuildStops (directory : Location) (target : Location → Path) (sources : List Location)
    (before : FileTree) : Ending → FileTree → Prop where
  | unread {generations : List (Location × Document)} {source : Location} {later : List Location}
      {middle : FileTree} {fault : ProjectFault} {progress : Progress}
      (order : sources = generations.map Prod.fst ++ source :: later)
      (built : FileTree.Builds directory target before generations middle)
      (holds : ∀ location, FileTree.Holds
        (FileTree.Builds.placements directory target generations) before middle location)
      (failed : Fails (parseFile directory (.ofLocation source)) ⟨middle, []⟩ fault progress) :
      BuildStops directory target sources before fault.ending middle
  | unwritten {generations : List (Location × Document)} {source : Location}
      {later : List Location} {document : Document} {middle after : FileTree} {read : Progress}
      {fault : ProjectFault} {log : List LogRecord}
      (order : sources = generations.map Prod.fst ++ source :: later)
      (built : FileTree.Builds directory target before generations middle)
      (holds : ∀ location, FileTree.Holds
        (FileTree.Builds.placements directory target generations) before middle location)
      (parsed : Succeeds (parseFile directory (.ofLocation source)) ⟨middle, []⟩ document read)
      (failed : Fails (do writeArtifacts directory (target source) (← Vue.backend.run document))
        read fault ⟨after, log⟩)
      (refused : fault.IsSystem) :
      BuildStops directory target sources before fault.ending after
  | untold {generations : List (Location × Document)} {ending : Ending} {after : FileTree}
      (order : sources = generations.map Prod.fst)
      (built : FileTree.Builds directory target before generations after)
      (holds : ∀ location, FileTree.Holds
        (FileTree.Builds.placements directory target generations) before after location) :
      BuildStops directory target sources before ending after

section

variable {argument name : Text} {stack? output? : Option Text} {before found : Session} {path : Path}
  {manifest : Manifest} {sources : List Location}

/-- A name that is bound to nothing selects nothing. -/
theorem Registry.select_fails {registry : Registry} {stack : Text}
    (unknown : registry.find? stack = none) (progress : Progress) :
    ∃ fault, Fails (registry.select (.text stack)) progress fault progress := by
  have unfound : registry.get stack = .error (.unknownName stack registry.names) := by
    simp only [get, unknown]
  refine ⟨.rejected (RegistryFault.unknownName stack registry.names).failure, ?_⟩
  simp only [select, unfound]
  rfl

/-- The backend that every registry of this program has under its name. -/
theorem require_vue (setting : Setting) (session : Session) :
    Succeeds (Interaction.require setting (Registry.standard.select (.text "vue"))) session
      Vue.backend session := by
  have selected : Succeeds (Registry.standard.select (.text "vue")) ⟨session.files, []⟩ Vue.backend
      ⟨session.files, []⟩ := rfl
  have required := Interaction.require_of_succeeds setting selected
  have same : Interaction.sessionAfter setting session ⟨session.files, []⟩ = session :=
    congrArg (Session.mk session.files session.output) (List.append_nil _)
  rwa [same] at required

/-- A build that has its sources ends where the building of the sources ends, or after it. -/
theorem buildCommand_fails {ending : Ending} {after : Session}
    (discovered : Succeeds (Interaction.manifestSources setting argument) before
      (path, manifest, sources) found)
    (output : optionOr output? manifest.output = .text name)
    (stack : optionOr stack? manifest.stack = .text "vue")
    (failed : Fails (buildSources setting Vue.backend
      (targetDirectory (path.parent.append (.ofText name)) sources) sources) found ending after) :
    Fails (buildCommand setting argument stack? output?) before ending after := by
  refine .after_success discovered ?_
  dsimp only
  rw [output, stack]
  exact .after_success (require_vue setting found) failed.bind

theorem fails_of_buildCommand {ending : Ending} {after : Session}
    (discovered : Succeeds (Interaction.manifestSources setting argument) before
      (path, manifest, sources) found)
    (output : optionOr output? manifest.output = .text name)
    (stack : optionOr stack? manifest.stack = .text "vue")
    (failed : Fails (buildCommand setting argument stack? output?) before ending after) :
    Fails (buildSources setting Vue.backend
        (targetDirectory (path.parent.append (.ofText name)) sources) sources) found ending after ∨
      ∃ total built, Succeeds (buildSources setting Vue.backend
          (targetDirectory (path.parent.append (.ofText name)) sources) sources) found total built ∧
        after.files = built.files := by
  have rest := failed.of_bind discovered
  dsimp only at rest
  rw [output, stack] at rest
  rcases Fails.bind_iff.mp (rest.of_bind (require_vue setting found)) with here |
    ⟨total, built, done, told⟩
  · exact .inl here
  · refine .inr ⟨total, built, done, Keeping.of_fails (.bind ?_ fun _ => ?_) told⟩
    · exact Interaction.require_keeping setting ((Work.checkShowable_keeping _).bind fun _ =>
        Work.checkShowable_keeping _)
    · exact Keeping.modify fun _ => rfl

/-- A build that has its sources stops at one of them, or after them. -/
theorem buildCommand_stops {ending : Ending} {after : Session}
    (discovered : Succeeds (Interaction.manifestSources setting argument) before
      (path, manifest, sources) found)
    (output : optionOr output? manifest.output = .text name)
    (stack : optionOr stack? manifest.stack = .text "vue")
    (failed : Fails (buildCommand setting argument stack? output?) before ending after) :
    BuildStops setting.directory (targetDirectory (path.parent.append (.ofText name)) sources) sources
      before.files ending after.files := by
  rw [← (Interaction.manifestSources_keeping setting argument).of_succeeds discovered]
  rcases fails_of_buildCommand discovered output stack failed with stopped |
    ⟨total, built, done, files⟩
  · obtain ⟨earlier, source, later, count, middle, fault, progress, order, done, rfl, files,
      cause⟩ := buildSources_stops stopped
    obtain ⟨generations, rfl, trace⟩ := buildSources_builds done
    rw [files]
    rcases cause with unread | ⟨refused, document, read, parsed, unwritten⟩
    · rw [(parseFile_keeping _ _).of_fails unread]
      exact .unread order trace trace.holds unread
    · exact .unwritten order trace trace.holds parsed unwritten refused
  · obtain ⟨generations, rfl, trace⟩ := buildSources_builds done
    rw [files]
    exact .untold rfl trace trace.holds

end

/-- A source that is read is turned into files that lie strictly inside any output directory and that
only the file system can refuse. So a build stops where a source cannot be read, and then leaves just
what the sources before it come to, the last of it at each place and everything else as it was, unless
the file system refuses something or all sources are built. Compiling a source that cannot be read changes no file, and nor does compiling for a stack
that is not known. -/
theorem sources_written_whole :
    (∀ source document, Document.parse source = .ok document →
      (∀ artifact ∈ Vue.artifacts document,
        (Path.ofText artifact.path).isAbsolute = false ∧
        "..".toList ∉ (Path.ofText artifact.path).parts ∧
        ∀ root, root <+: artifact.target root ∧ artifact.target root ≠ root) ∧
      ∀ directory output before fault after,
        Fails (writeArtifacts directory output (Vue.artifacts document)) before fault after →
          fault.IsSystem) ∧
    (∀ setting argument stack? output? before path manifest sources found name,
      Succeeds (Interaction.manifestSources setting argument) before (path, manifest, sources) found →
      optionOr output? manifest.output = .text name →
      optionOr stack? manifest.stack = .text "vue" →
      let target := targetDirectory (path.parent.append (.ofText name)) sources
      (∀ ending after, Fails (buildCommand setting argument stack? output?) before ending after →
        BuildStops setting.directory target sources before.files ending after.files) ∧
      ∀ earlier source later count middle fault progress, sources = earlier ++ source :: later →
        Succeeds (buildSources setting Vue.backend target earlier) found count middle →
        Fails (parseFile setting.directory (.ofLocation source)) ⟨middle.files, []⟩ fault progress →
        ∃ after generations,
          Fails (buildCommand setting argument stack? output?) before fault.ending after ∧
          generations.map Prod.fst = earlier ∧
          FileTree.Builds setting.directory target before.files generations after.files ∧
          ∀ location, FileTree.Holds
            (FileTree.Builds.placements setting.directory target generations) before.files
              after.files location) ∧
    ∀ directory input output stack before,
      (∀ fault after, Fails (parseFile directory input) before fault after →
        Fails (compileFile directory input output stack) before fault after ∧
          after.files = before.files) ∧
      (Registry.standard.find? stack = none → ∃ fault after,
        Fails (compileFile directory input output stack) before fault after ∧
          after.files = before.files) := by
  refine ⟨fun source document parsed => ⟨fun artifact member => ?placed, fun _ _ _ _ _ failed =>
    writeArtifacts_fails parsed failed⟩, ?builds, fun directory input output stack before =>
      ⟨fun fault after failed => ⟨failed.bind, ?unread⟩, fun unknown => ?unknown⟩⟩
  case placed =>
    obtain ⟨_, place⟩ := Vue.artifacts_lieAt (Document.isNamed_of_parse parsed) artifact member
    exact place.inside
  case unread => exact (parseFile_keeping directory input).of_fails failed
  case builds =>
    intro setting argument stack? output? before path manifest sources found name discovered output
      stack target
    refine ⟨fun ending after => buildCommand_stops discovered output stack, ?_⟩
    rintro earlier source later count middle fault progress rfl done unread
    have unchanged := (Interaction.manifestSources_keeping setting argument).of_succeeds discovered
    obtain ⟨generations, rfl, trace⟩ := buildSources_builds done
    obtain ⟨after, failed, files⟩ := buildSources_fails done unread later
    rw [unchanged, ← files] at trace
    exact ⟨after, generations, buildCommand_fails discovered output stack failed, rfl, trace,
      trace.holds⟩
  case unknown =>
    rcases succeeds_or_fails (parseFile directory input) before with ⟨document, read, parsed⟩ |
      ⟨fault, after, failed⟩
    · obtain ⟨fault, unfound⟩ := Registry.select_fails unknown read
      refine ⟨fault, read, .after_success parsed unfound.bind, ?_⟩
      exact (parseFile_keeping directory input).of_succeeds parsed
    · exact ⟨fault, after, failed.bind, (parseFile_keeping directory input).of_fails failed⟩

/-- A project of two sources, of which the second is malformed. -/
def malformedProject : Session where
  files :=
    [(["apml.toml"], .file (Utf8.encode "[sources]\npaths = [\"a.apml\", \"b.apml\"]\n")),
      (["a.apml"], .file (Utf8.encode "interface Home:\n")),
      (["b.apml"], .file (Utf8.encode "interface Home Page:\n"))]
  output := []
  diagnostics := []

theorem sources_written_whole_before_malformed :
    let sources : List Location := [["a.apml"], ["b.apml"]]
    let target := targetDirectory ⟨['/'], ["build"]⟩ sources
    ∃ after generations,
      Fails (buildCommand ⟨[], false⟩ "apml.toml" (some "vue".toList) (some "build".toList))
        malformedProject (.exit 1) after ∧
      generations.map Prod.fst = [["a.apml".toList]] ∧
      FileTree.Builds [] target malformedProject.files generations after.files ∧
      ∀ location, FileTree.Holds (FileTree.Builds.placements [] target generations)
        malformedProject.files after.files location := by
  intro sources target
  let setting : Setting := ⟨[], false⟩
  obtain ⟨⟨path, manifest, _⟩, found, discovered, known⟩ :=
    Succeeds.exists_of_run (Interaction.manifestSources setting "apml.toml") malformedProject
      (fun value after => value.1 = ⟨['/'], ["apml.toml"]⟩ ∧ value.2.2 = sources ∧
        after = malformedProject) (by decide +kernel)
  obtain ⟨rfl, rfl, rfl⟩ := of_decide_eq_true known
  obtain ⟨count, middle, built, unread⟩ := Succeeds.exists_of_run
    (buildSources setting Vue.backend target [["a.apml"]]) malformedProject
    (fun _ middle =>
      match (ExceptT.run (parseFile [] (.ofLocation ["b.apml"]))).run ⟨middle.files, []⟩ with
      | (.ok _, _) => false
      | (.error fault, _) => decide (fault.ending = .exit 1)) (by decide +kernel)
  rcases succeeds_or_fails (parseFile [] (.ofLocation ["b.apml"])) ⟨middle.files, []⟩ with
    ⟨document, read, parsed⟩ | ⟨fault, progress, failed⟩
  · rw [show _ = _ from parsed] at unread
    cases unread
  · rw [show _ = _ from failed] at unread
    obtain ⟨after, generations, stopped, order, trace, holds⟩ := (sources_written_whole.2.1 setting
      "apml.toml" (some "vue".toList) (some "build".toList) _ _ _ _ _ _ discovered rfl rfl).2
      [["a.apml"]] ["b.apml"] [] count middle fault progress rfl built failed
    rw [show fault.ending = .exit 1 from of_decide_eq_true unread] at stopped
    exact ⟨after, generations, stopped, order, trace, holds⟩

end AppDescription
