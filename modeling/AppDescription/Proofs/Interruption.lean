import AppDescription.Proofs.Success

namespace AppDescription

/-- Work that ends in a fault, with the state it leaves. -/
def Fails {ε σ α : Type} (work : ExceptT ε (StateM σ) α) (before : σ) (fault : ε) (after : σ) :
    Prop :=
  (ExceptT.run work).run before = (.error fault, after)

namespace Fails

variable {ε σ α β : Type} {work : ExceptT ε (StateM σ) α} {next : α → ExceptT ε (StateM σ) β}
  {before middle after : σ} {fault : ε}

theorem throw (fault : ε) (state : σ) :
    Fails (throw fault : ExceptT ε (StateM σ) α) state fault state := rfl

/-- What fails is not gone on with. -/
theorem bind (failed : Fails work before fault after) : Fails (work >>= next) before fault after := by
  unfold Fails at failed ⊢
  rw [Succeeds.run_bind, failed]

theorem after_success {value : α} (done : Succeeds work before value middle)
    (failed : Fails (next value) middle fault after) : Fails (work >>= next) before fault after := by
  unfold Fails at failed ⊢
  unfold Succeeds at done
  rw [Succeeds.run_bind, done]
  exact failed

theorem not_succeeds {value : α} {other : σ} (failed : Fails work before fault after) :
    ¬Succeeds work before value other := by
  intro done
  cases failed.symm.trans done

/-- Work fails in one way only. -/
theorem unique {other : ε} {last : σ} (failed : Fails work before fault after)
    (again : Fails work before other last) : fault = other ∧ after = last := by
  cases failed.symm.trans again
  exact ⟨rfl, rfl⟩

theorem not_pure {value : α} : ¬Fails (pure value : ExceptT ε (StateM σ) α) before fault after := by
  intro failed
  cases failed

end Fails

/-- Work that ends well or in a fault, and in one way only. -/
theorem succeeds_or_fails {ε σ α : Type} (work : ExceptT ε (StateM σ) α) (before : σ) :
    (∃ value after, Succeeds work before value after) ∨
      ∃ fault after, Fails work before fault after := by
  unfold Succeeds Fails
  generalize (ExceptT.run work).run before = outcome
  obtain ⟨result, after⟩ := outcome
  cases result with
  | ok value => exact .inl ⟨value, after, rfl⟩
  | error fault => exact .inr ⟨fault, after, rfl⟩

/-- Work in two parts fails in the first or in the second. -/
theorem Fails.bind_iff {ε σ α β : Type} {work : ExceptT ε (StateM σ) α}
    {next : α → ExceptT ε (StateM σ) β} {before after : σ} {fault : ε} :
    Fails (work >>= next) before fault after ↔
      Fails work before fault after ∨
        ∃ value middle, Succeeds work before value middle ∧
          Fails (next value) middle fault after := by
  constructor
  · intro failed
    rcases succeeds_or_fails work before with ⟨value, middle, done⟩ | ⟨cause, middle, first⟩
    · refine .inr ⟨value, middle, done, ?_⟩
      unfold Fails Succeeds at *
      rwa [Succeeds.run_bind, done] at failed
    · obtain ⟨rfl, rfl⟩ := failed.unique first.bind
      exact .inl first
  · rintro (first | ⟨value, middle, done, second⟩)
    · exact first.bind
    · exact .after_success done second

/-- What follows on a success is what fails. -/
theorem Fails.of_bind {ε σ α β : Type} {work : ExceptT ε (StateM σ) α}
    {next : α → ExceptT ε (StateM σ) β} {before middle after : σ} {value : α} {fault : ε}
    (failed : Fails (work >>= next) before fault after)
    (done : Succeeds work before value middle) : Fails (next value) middle fault after := by
  unfold Fails Succeeds at *
  rwa [Succeeds.run_bind, done] at failed

/-- Work that keeps what is seen of its state, however it ends. -/
def Keeping {ε σ τ α : Type} (view : σ → τ) (work : ExceptT ε (StateM σ) α) : Prop :=
  ∀ before, view ((ExceptT.run work).run before).2 = view before

namespace Keeping

variable {ε σ τ α β : Type} {view : σ → τ} {work : ExceptT ε (StateM σ) α}
  {next : α → ExceptT ε (StateM σ) β} {before after : σ}

theorem of_succeeds {value : α} (keeping : Keeping view work)
    (done : Succeeds work before value after) : view after = view before := by
  have kept := keeping before
  rwa [done] at kept

theorem of_fails {fault : ε} (keeping : Keeping view work) (failed : Fails work before fault after) :
    view after = view before := by
  have kept := keeping before
  rwa [failed] at kept

theorem pure (value : α) : Keeping view (pure value : ExceptT ε (StateM σ) α) := fun _ => rfl

theorem throw (fault : ε) : Keeping view (throw fault : ExceptT ε (StateM σ) α) := fun _ => rfl

/-- Nothing comes after a fault. -/
theorem throw_bind (fault : ε) :
    Keeping view ((MonadExcept.throw fault : ExceptT ε (StateM σ) α) >>= next) := fun _ => rfl

theorem get : Keeping view (get : ExceptT ε (StateM σ) σ) := fun _ => rfl

theorem modify {change : σ → σ} (unseen : ∀ state, view (change state) = view state) :
    Keeping view (modify change : ExceptT ε (StateM σ) PUnit) := unseen

theorem bind (first : Keeping view work) (second : ∀ value, Keeping view (next value)) :
    Keeping view (work >>= next) := by
  intro before
  rw [Succeeds.run_bind]
  have kept := first before
  generalize (ExceptT.run work).run before = outcome at kept ⊢
  obtain ⟨result, middle⟩ := outcome
  cases result with
  | ok value => exact (second value middle).trans kept
  | error fault => exact kept

end Keeping

section Work

open Keeping

theorem Work.log_keeping (records : List LogRecord) : Keeping Progress.files (Work.log records) :=
  modify fun _ => rfl

theorem Work.files_keeping : Keeping Progress.files Work.files := get.bind fun _ => .pure _

theorem Work.checkPath_keeping (path : Path) : Keeping Progress.files (Work.checkPath path) := by
  unfold Work.checkPath
  split
  · exact throw _
  · exact .pure _

theorem Work.checkShowable_keeping (value : TomlValue) :
    Keeping Progress.files (Work.checkShowable value) := by
  unfold Work.checkShowable
  split
  · exact .pure _
  · exact throw _

theorem Work.ofExcept_keeping {ε α : Type} (fault : ε → ProjectFault) (result : Except ε α) :
    Keeping Progress.files (Work.ofExcept fault result) := by
  cases result with
  | ok value => exact .pure value
  | error cause => exact throw _

theorem readText_keeping (directory : Location) (path : Path) :
    Keeping Progress.files (readText directory path) :=
  (Work.checkPath_keeping path).bind fun _ => Work.files_keeping.bind fun _ =>
    (Work.ofExcept_keeping _ _).bind fun _ => (Work.ofExcept_keeping _ _).bind fun _ => .pure _

/-- Reading a source changes no files. -/
theorem parseFile_keeping (directory : Location) (path : Path) :
    Keeping Progress.files (parseFile directory path) :=
  (Work.log_keeping _).bind fun _ => (readText_keeping directory path).bind fun _ =>
    (Work.log_keeping _).bind fun _ => (Work.ofExcept_keeping _ _).bind fun _ =>
      (Work.log_keeping _).bind fun _ => .pure _

theorem Manifest.load_keeping (directory : Location) (path : Path) :
    Keeping Progress.files (Manifest.load directory path) :=
  (readText_keeping directory path).bind fun _ => (Work.ofExcept_keeping _ _).bind fun _ =>
    Work.ofExcept_keeping _ _

theorem Manifest.discover_keeping (manifest : Manifest) (directory : Location) (root : Path) :
    Keeping Progress.files (manifest.discover directory root) := by
  unfold Manifest.discover
  split
  · exact throw _
  · exact Work.files_keeping.bind fun _ => (Work.ofExcept_keeping _ _).bind fun _ => .pure _

end Work

/-- How a command ends because of a fault: without a message it is a crash. -/
def ProjectFault.ending (fault : ProjectFault) : Ending :=
  match fault.text? with
  | none => .crash fault
  | some _ => .exit 1

namespace Interaction

open Keeping

theorem files_keeping : Keeping Session.files Interaction.files := get.bind fun _ => .pure _

theorem printError_keeping (line : Text) : Keeping Session.files (printError line) :=
  modify fun _ => rfl

/-- Printing does not fail. -/
theorem fails_after_print {line : Text} {α : Type} {next : Unit → Interaction α}
    {start after : Session} {ending : Ending}
    (failed : Fails (print line >>= next) start ending after) :
    ∃ told, Succeeds (print line) start () told ∧ Fails (next ()) told ending after := by
  rcases Fails.bind_iff.mp failed with unprinted | ⟨_, told, printed, rest⟩
  · cases unprinted
  · exact ⟨told, printed, rest⟩

/-- A fault that is reported ends the command and changes no files. -/
theorem reject_fails {α : Type} (fault : ProjectFault) (session : Session) :
    ∃ after, Fails (reject fault : Interaction α) session fault.ending after ∧
      after.files = session.files := by
  unfold reject ProjectFault.ending
  split
  · rename_i silent
    rw [silent]
    exact ⟨session, Fails.throw _ session |>.bind, rfl⟩
  · rename_i place text told
    rw [told]
    exact ⟨_, rfl, rfl⟩
  · rename_i text _ told
    rw [told]
    exact ⟨_, rfl, rfl⟩

theorem reject_keeping {α : Type} (fault : ProjectFault) :
    Keeping Session.files (reject fault : Interaction α) := by
  intro session
  obtain ⟨after, failed, files⟩ := reject_fails (α := α) fault session
  rw [failed]
  exact files

variable {α : Type} (setting : Setting) {work : Work α}

/-- The session after some work on the project: the files have changed, and what was logged is
shown. -/
def sessionAfter (session : Session) (progress : Progress) : Session :=
  { session with
    files := progress.files
    diagnostics := session.diagnostics ++ (shown setting progress.log).map LogRecord.text }

theorem attempt_run (work : Work α) (session : Session) :
    (ExceptT.run (attempt setting work)).run session =
      (.ok ((ExceptT.run work).run ⟨session.files, []⟩).1,
        sessionAfter setting session ((ExceptT.run work).run ⟨session.files, []⟩).2) := rfl

/-- What a command requires and gets, it goes on with. -/
theorem require_of_succeeds {session : Session} {value : α} {progress : Progress}
    (done : Succeeds work ⟨session.files, []⟩ value progress) :
    Succeeds (require setting work) session value (sessionAfter setting session progress) := by
  have attempted := attempt_run setting work session
  rw [done] at attempted
  exact Succeeds.bind_iff.mpr ⟨.ok value, _, attempted, rfl⟩

/-- What a command requires and fails at ends the command. -/
theorem require_fails {session : Session} {fault : ProjectFault} {progress : Progress}
    (failed : Fails work ⟨session.files, []⟩ fault progress) :
    ∃ after, Fails (require setting work) session fault.ending after ∧
      after.files = progress.files := by
  have attempted := attempt_run setting work session
  rw [failed] at attempted
  obtain ⟨after, rejected, files⟩ :=
    reject_fails (α := α) fault (sessionAfter setting session progress)
  exact ⟨after, Fails.after_success attempted rejected, files⟩

/-- A command that requires something ends on a fault of what it requires. -/
theorem fails_of_require {session after : Session} {ending : Ending}
    (failed : Fails (require setting work) session ending after) :
    ∃ fault progress, Fails work ⟨session.files, []⟩ fault progress ∧ ending = fault.ending ∧
      after.files = progress.files := by
  rcases succeeds_or_fails work ⟨session.files, []⟩ with
    ⟨value, progress, done⟩ | ⟨fault, progress, cause⟩
  · exact absurd (require_of_succeeds setting done) failed.not_succeeds
  · obtain ⟨_, ended, files⟩ := require_fails setting cause
    obtain ⟨rfl, rfl⟩ := failed.unique ended
    exact ⟨fault, progress, cause, rfl, files⟩

theorem require_keeping (keeping : Keeping Progress.files work) :
    Keeping Session.files (require setting work) := by
  have attempted : Keeping Session.files (attempt setting work) := fun session =>
    keeping ⟨session.files, []⟩
  refine attempted.bind fun result => ?_
  cases result with
  | ok value => exact .pure value
  | error fault => exact reject_keeping fault

end Interaction

end AppDescription
