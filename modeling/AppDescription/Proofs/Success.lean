import AppDescription.Command

namespace AppDescription

/-- Work that ends well, with what it gives and the state it leaves. -/
def Succeeds {ε σ α : Type} (work : ExceptT ε (StateM σ) α) (before : σ) (value : α) (after : σ) :
    Prop :=
  (ExceptT.run work).run before = (.ok value, after)

namespace Succeeds

variable {ε σ α β : Type} {before after : σ}

theorem run_bind (work : ExceptT ε (StateM σ) α) (next : α → ExceptT ε (StateM σ) β) (before : σ) :
    (ExceptT.run (work >>= next)).run before =
      match (ExceptT.run work).run before with
      | (.ok value, middle) => (ExceptT.run (next value)).run middle
      | (.error fault, middle) => (.error fault, middle) := by
  rw [ExceptT.run_bind, StateT.run_bind]
  rcases (ExceptT.run work).run before with ⟨result, middle⟩
  cases result <;> rfl

/-- Work in two parts ends well if both do, the second from where the first ends. -/
theorem bind_iff {work : ExceptT ε (StateM σ) α} {next : α → ExceptT ε (StateM σ) β} {value : β} :
    Succeeds (work >>= next) before value after ↔
      ∃ first middle, Succeeds work before first middle ∧
        Succeeds (next first) middle value after := by
  unfold Succeeds
  rw [run_bind]
  rcases (ExceptT.run work).run before with ⟨result, middle⟩
  cases result with
  | ok first =>
    constructor
    · exact fun rest => ⟨first, middle, rfl, rest⟩
    · rintro ⟨_, _, same, rest⟩
      cases same
      exact rest
  | error fault =>
    constructor
    · intro failed
      cases failed
    · rintro ⟨_, _, failed, _⟩
      cases failed

theorem pure_iff {given value : α} :
    Succeeds (pure given : ExceptT ε (StateM σ) α) before value after ↔
      given = value ∧ before = after := by
  constructor
  · intro done
    cases done
    exact ⟨rfl, rfl⟩
  · rintro ⟨rfl, rfl⟩
    rfl

theorem not_throw {fault : ε} {value : α} :
    ¬Succeeds (throw fault : ExceptT ε (StateM σ) α) before value after := by
  intro done
  cases done

theorem not_throw_bind {fault : ε} {next : α → ExceptT ε (StateM σ) β} {value : β} :
    ¬Succeeds (throw fault >>= next) before value after := by
  intro done
  obtain ⟨_, _, failed, _⟩ := bind_iff.mp done
  exact not_throw failed

theorem modify_iff {change : σ → σ} {value : PUnit} :
    Succeeds (modify change : ExceptT ε (StateM σ) PUnit) before value after ↔
      change before = after := by
  constructor
  · intro done
    cases done
    rfl
  · rintro rfl
    rfl

theorem get_iff {value : σ} :
    Succeeds (get : ExceptT ε (StateM σ) σ) before value after ↔
      before = value ∧ before = after := by
  constructor
  · intro done
    cases done
    exact ⟨rfl, rfl⟩
  · rintro ⟨rfl, rfl⟩
    rfl

/-- Work that is run to a good end succeeds. -/
theorem exists_of_run (work : ExceptT ε (StateM σ) α) (before : σ) (test : α → σ → Bool)
    (passed : (match (ExceptT.run work).run before with
      | (.ok value, after) => test value after
      | (.error _, _) => false) = true) :
    ∃ value after, Succeeds work before value after ∧ test value after = true := by
  unfold Succeeds
  generalize (ExceptT.run work).run before = outcome at passed ⊢
  obtain ⟨result, after⟩ := outcome
  cases result with
  | ok value => exact ⟨value, after, rfl, passed⟩
  | error fault => cases passed

end Succeeds

section Work

variable {before after : Progress}

theorem Work.files_succeeds {files : FileTree} (done : Succeeds Work.files before files after) :
    files = before.files ∧ after = before := by
  obtain ⟨progress, middle, found, rest⟩ := Succeeds.bind_iff.mp done
  obtain ⟨rfl, rfl⟩ := Succeeds.get_iff.mp found
  obtain ⟨rfl, rfl⟩ := Succeeds.pure_iff.mp rest
  exact ⟨rfl, rfl⟩

theorem Work.log_succeeds {records : List LogRecord} {value : Unit}
    (done : Succeeds (Work.log records) before value after) : after.files = before.files := by
  rw [← Succeeds.modify_iff.mp done]

theorem Work.checkPath_succeeds {path : Path} {value : Unit}
    (done : Succeeds (Work.checkPath path) before value after) : after = before := by
  unfold Work.checkPath at done
  split at done
  · exact absurd done Succeeds.not_throw
  · exact (Succeeds.pure_iff.mp done).2.symm

theorem Work.checkShowable_succeeds {shown : TomlValue} {value : Unit}
    (done : Succeeds (Work.checkShowable shown) before value after) : after = before := by
  unfold Work.checkShowable at done
  split at done
  · exact (Succeeds.pure_iff.mp done).2.symm
  · exact absurd done Succeeds.not_throw

theorem Work.ofExcept_succeeds {ε α : Type} {fault : ε → ProjectFault} {result : Except ε α}
    {value : α} (done : Succeeds (Work.ofExcept fault result) before value after) :
    result = .ok value ∧ after = before := by
  cases result with
  | ok found =>
    obtain ⟨rfl, rfl⟩ := Succeeds.pure_iff.mp done
    exact ⟨rfl, rfl⟩
  | error cause => exact absurd done Succeeds.not_throw

/-- A file that holds a text which declares a document. -/
def FileTree.Declares (tree : FileTree) (directory : Location) (path : Path) (document : Document) :
    Prop :=
  ∃ octets text, tree.read directory path = .ok octets ∧ Utf8.decode octets = .ok text ∧
    Document.parse (Text.normalizeNewlines text) = .ok document

theorem readText_succeeds {directory : Location} {path : Path} {text : Text}
    (done : Succeeds (readText directory path) before text after) : after = before ∧
      ∃ octets source, before.files.read directory path = .ok octets ∧
        Utf8.decode octets = .ok source ∧ Text.normalizeNewlines source = text := by
  obtain ⟨_, _, checked, afterCheck⟩ := Succeeds.bind_iff.mp done
  obtain rfl := Work.checkPath_succeeds checked
  obtain ⟨_, _, looked, afterLook⟩ := Succeeds.bind_iff.mp afterCheck
  obtain ⟨rfl, rfl⟩ := Work.files_succeeds looked
  obtain ⟨octets, _, read, afterRead⟩ := Succeeds.bind_iff.mp afterLook
  obtain ⟨reads, rfl⟩ := Work.ofExcept_succeeds read
  obtain ⟨source, _, decoded, afterDecode⟩ := Succeeds.bind_iff.mp afterRead
  obtain ⟨decodes, rfl⟩ := Work.ofExcept_succeeds decoded
  obtain ⟨rfl, rfl⟩ := Succeeds.pure_iff.mp afterDecode
  exact ⟨rfl, octets, source, reads, decodes, rfl⟩

/-- Parsing a file changes no files. -/
theorem parseFile_succeeds {directory : Location} {path : Path} {document : Document}
    (done : Succeeds (parseFile directory path) before document after) :
    after.files = before.files ∧ before.files.Declares directory path document := by
  obtain ⟨_, started, logged, afterStart⟩ := Succeeds.bind_iff.mp done
  obtain ⟨text, _, read, afterRead⟩ := Succeeds.bind_iff.mp afterStart
  obtain ⟨rfl, octets, source, reads, decodes, rfl⟩ := readText_succeeds read
  obtain ⟨_, noted, notes, afterNotes⟩ := Succeeds.bind_iff.mp afterRead
  obtain ⟨found, _, parsed, afterParse⟩ := Succeeds.bind_iff.mp afterNotes
  obtain ⟨parses, rfl⟩ := Work.ofExcept_succeeds parsed
  obtain ⟨_, told, recorded, afterRecord⟩ := Succeeds.bind_iff.mp afterParse
  obtain ⟨rfl, rfl⟩ := Succeeds.pure_iff.mp afterRecord
  have files := Work.log_succeeds logged
  refine ⟨?_, octets, source, files ▸ reads, decodes, parses⟩
  rw [Work.log_succeeds recorded, Work.log_succeeds notes, files]

theorem Backend.run_succeeds {backend : Backend} {document : Document} {artifacts : List Artifact}
    (done : Succeeds (backend.run document) before artifacts after) :
    artifacts = (backend.generate document).artifacts ∧ after.files = before.files := by
  obtain ⟨_, told, logged, afterLog⟩ := Succeeds.bind_iff.mp done
  obtain ⟨rfl, rfl⟩ := Succeeds.pure_iff.mp afterLog
  exact ⟨rfl, Work.log_succeeds logged⟩

/-- Writing ends well if it meets no fault. -/
theorem writeArtifacts_succeeds {directory : Location} {output : Path} {artifacts : List Artifact}
    {targets : List Location}
    (done : Succeeds (writeArtifacts directory output artifacts) before targets after) :
    (before.files.writeArtifacts (output.resolve directory) artifacts).fault? = none ∧
      after.files = (before.files.writeArtifacts (output.resolve directory) artifacts).files := by
  obtain ⟨_, _, checked, afterCheck⟩ := Succeeds.bind_iff.mp done
  obtain rfl := Work.checkPath_succeeds checked
  obtain ⟨_, _, looked, afterLook⟩ := Succeeds.bind_iff.mp afterCheck
  obtain ⟨rfl, rfl⟩ := Work.files_succeeds looked
  obtain ⟨_, _, changed, afterChange⟩ := Succeeds.bind_iff.mp afterLook
  obtain rfl := Succeeds.modify_iff.mp changed
  obtain ⟨_, told, logged, ended⟩ := Succeeds.bind_iff.mp afterChange
  split at ended
  · exact absurd ended Succeeds.not_throw
  · rename_i faultless
    obtain ⟨_, rfl⟩ := Succeeds.pure_iff.mp ended
    exact ⟨faultless, Work.log_succeeds logged⟩

end Work

namespace Interaction

variable {before after : Session}

theorem files_succeeds {files : FileTree} (done : Succeeds Interaction.files before files after) :
    files = before.files ∧ after = before := by
  obtain ⟨session, middle, found, rest⟩ := Succeeds.bind_iff.mp done
  obtain ⟨rfl, rfl⟩ := Succeeds.get_iff.mp found
  obtain ⟨rfl, rfl⟩ := Succeeds.pure_iff.mp rest
  exact ⟨rfl, rfl⟩

theorem print_succeeds {line : Text} {value : Unit}
    (done : Succeeds (print line) before value after) : after.files = before.files := by
  rw [← Succeeds.modify_iff.mp done]

theorem not_reject {α : Type} {fault : ProjectFault} {value : α} :
    ¬Succeeds (reject fault : Interaction α) before value after := by
  intro done
  unfold reject at done
  split at done
  · exact Succeeds.not_throw_bind done
  · obtain ⟨_, _, _, ended⟩ := Succeeds.bind_iff.mp done
    exact Succeeds.not_throw ended
  · obtain ⟨_, _, _, ended⟩ := Succeeds.bind_iff.mp done
    exact Succeeds.not_throw ended

theorem attempt_succeeds {α : Type} {setting : Setting} {work : Work α}
    {result : Except ProjectFault α}
    (done : Succeeds (attempt setting work) before result after) :
    ∃ progress, (ExceptT.run work).run ⟨before.files, []⟩ = (result, progress) ∧
      after.files = progress.files := by
  obtain ⟨_, _, looked, afterLook⟩ := Succeeds.bind_iff.mp done
  obtain ⟨rfl, rfl⟩ := files_succeeds looked
  generalize (ExceptT.run work).run ⟨_, []⟩ = outcome at afterLook ⊢
  obtain ⟨found, progress⟩ := outcome
  obtain ⟨_, _, changed, afterChange⟩ := Succeeds.bind_iff.mp afterLook
  obtain rfl := Succeeds.modify_iff.mp changed
  obtain ⟨_, _, logged, afterLog⟩ := Succeeds.bind_iff.mp afterChange
  obtain rfl := Succeeds.modify_iff.mp logged
  obtain ⟨rfl, rfl⟩ := Succeeds.pure_iff.mp afterLog
  exact ⟨progress, rfl, rfl⟩

/-- Work that a command requires is done on the files of the session. -/
theorem require_succeeds {α : Type} {setting : Setting} {work : Work α} {value : α}
    (done : Succeeds (require setting work) before value after) :
    ∃ progress, Succeeds work ⟨before.files, []⟩ value progress ∧
      after.files = progress.files := by
  obtain ⟨result, attempted, tried, afterTry⟩ := Succeeds.bind_iff.mp done
  obtain ⟨progress, worked, files⟩ := attempt_succeeds tried
  cases result with
  | error fault => exact absurd afterTry not_reject
  | ok found =>
    obtain ⟨rfl, rfl⟩ := Succeeds.pure_iff.mp afterTry
    exact ⟨progress, worked, files⟩

end Interaction

end AppDescription
