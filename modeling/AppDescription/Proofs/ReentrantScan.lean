import AppDescription.Proofs.Loop
import AppDescription.Proofs.StillScan

namespace AppDescription

universe u

namespace Loop

theorem turn_moves {loop : Loop} {cursor after : Cursor} (significant : cursor.current.isSignificant)
    (turn : loop.turn cursor = .ok after) : cursor.MovesWithin 0 after := by
  have step : loop.step cursor = .ok after := by rw [step, if_pos significant, turn]
  exact step_moves (by simp [Line.within]) step

/-- The consumer that takes a turn of the loop at each line it is given. A fault breaks the scan off. -/
def consumer (loop : Loop) : Consumer (Option Fault) where
  take _ cursor :=
    match loop.turn cursor with
    | .ok after => .yield (none, after.position)
    | .error fault => .done (some fault, cursor.position)
  forward _ cursor more significant := by
    cases turn : loop.turn cursor with
    | ok after =>
      have advances := (turn_moves significant turn).advances more
      exact ⟨Nat.le_of_lt advances.forward, advances.inside⟩
    | error fault => exact ⟨Nat.le_refl _, Nat.le_of_lt (Cursor.hasMore_iff.mp more)⟩

end Loop

/-- Where the scan of a loop leaves the cursor, unless there is a fault. -/
def ScanRun.outcome (run : ScanRun (Option Fault)) : Except Fault Cursor :=
  match run.state with
  | none => .ok run.cursor
  | some fault => .error fault

namespace Loop

theorem run_over {loop : Loop} {inside : Line → Bool} {cursor : Cursor}
    (finished : ¬(cursor.hasMore ∧ inside cursor.current)) (turns : Nat) :
    loop.run inside turns cursor = .ok cursor := by
  cases turns with
  | zero => rfl
  | succ turns => rw [run, if_neg (by simpa using finished)]

theorem run_further {loop : Loop} {inside : Line → Bool} {turns : Nat} {cursor : Cursor}
    (enough : cursor.lines.length ≤ cursor.position + turns) (more : cursor.hasMore)
    (going : inside cursor.current) :
    ∃ others, cursor.lines.length ≤ cursor.position + 1 + others ∧
      loop.run inside turns cursor = (loop.step cursor).bind (loop.run inside others) := by
  have within := Cursor.hasMore_iff.mp more
  obtain ⟨others, rfl⟩ : ∃ others, turns = others + 1 := ⟨turns - 1, by omega⟩
  exact ⟨others, by omega, by rw [run, if_pos (by simp [more, going])]⟩

/-- The loops over blocks are scans. What a turn reads, with the scans in it, moves the same cursor. -/
theorem run_eq_scan (loop : Loop) (least : Nat) {turns : Nat} {cursor : Cursor}
    (enough : cursor.lines.length ≤ cursor.position + turns) :
    loop.run (Line.within least) turns cursor =
      (cursor.scan least loop.consumer none).outcome := by
  generalize start : (none : Option Fault) = state
  fun_induction Cursor.scan least loop.consumer state cursor generalizing turns with
  | case1 state cursor more significant level last left taking =>
    obtain ⟨others, _, run⟩ := run_further enough more ((Line.within_iff significant).mpr level)
    rw [run, step, if_pos significant]
    cases turn : loop.turn cursor with
    | ok after => simp [consumer, turn] at taking
    | error fault =>
      simp only [consumer, turn, ForInStep.done.injEq, Prod.mk.injEq] at taking
      rw [← taking.1]
      rfl
  | case2 state cursor more significant level next left taking ih =>
    obtain ⟨others, enough, run⟩ := run_further enough more ((Line.within_iff significant).mpr level)
    rw [run, step, if_pos significant]
    cases turn : loop.turn cursor with
    | ok after =>
      simp only [consumer, turn, ForInStep.yield.injEq, Prod.mk.injEq] at taking
      obtain ⟨rfl, rfl⟩ := taking
      have advances := (turn_moves significant turn).advances more
      have forward := advances.forward
      -- A turn moves past its own line, so the scan adds no step to it.
      have resumed : Cursor.resumeAt cursor.position after.position = after.position :=
        if_neg (by omega)
      have same : after = ⟨cursor.lines, after.position⟩ := Cursor.eq_of_parts advances.lines rfl
      rw [resumed] at ih ⊢
      rw [← same] at ih ⊢
      exact ih (by rw [advances.lines]; omega) rfl
    | error fault => simp [consumer, turn] at taking
  | case3 state cursor more significant outside =>
    rw [run_over fun going => outside ((Line.within_iff significant).mp going.2), ← start]
    rfl
  | case4 state cursor more insignificant ih =>
    have inside := Line.within_of_not_significant insignificant least
    obtain ⟨others, enough, run⟩ := run_further enough more inside
    rw [run, step, if_neg insignificant]
    exact ih enough start
  | case5 state cursor done =>
    rw [run_over fun going => done going.1, ← start]
    rfl

end Loop

namespace ScopePolicy

/-- A line is in the scope of a base. -/
def Admits (base : Int) (line : Line) : ScopePolicy → Prop
  | owned => base < line.indent
  | sibling => base ≤ line.indent

/-- A line ends the scope: it counts, and it is not in it. -/
def Ends (policy : ScopePolicy) (base : Int) (line : Line) : Prop :=
  line.isSignificant ∧ ¬policy.Admits base line

theorem least_le_iff {policy : ScopePolicy} {base : Int} {line : Line} :
    policy.least base ≤ line.indent ↔ policy.Admits base line := by
  cases policy with
  | owned => simp only [least, Admits]; omega
  | sibling => simp only [least, Admits]; omega

theorem ends_iff {policy : ScopePolicy} {base : Int} {line : Line} :
    policy.Ends base line ↔ ¬line.within (policy.least base) := by
  by_cases significant : line.isSignificant
  · rw [Ends, Line.within_iff significant, least_le_iff]
    simp [significant]
  · simp [Ends, significant, Line.within_of_not_significant significant]

end ScopePolicy

/-- What holds of a scan with any consumer, whatever it does with the cursor. -/
structure Cursor.Scanned {σ : Type u} (cursor : Cursor) (policy : ScopePolicy) (base : Int)
    (run : ScanRun σ) : Prop where
  source : run.cursor.lines = cursor.lines
  forward : cursor.position ≤ run.cursor.position
  inside : cursor.position ≤ cursor.lines.length → run.cursor.position ≤ cursor.lines.length
  /-- The lines given are significant lines from the cursor on, and in the scope. -/
  scope : ∀ entry ∈ run.taken, ∃ position, cursor.position ≤ position ∧
    position < cursor.lines.length ∧ entry.line = cursor.lineAt position ∧
    entry.line.isSignificant ∧ policy.Admits base entry.line
  /-- Each stands below those given before it, and not above where the cursor was left. -/
  order : run.taken.Pairwise fun earlier later =>
    earlier.line.number < later.line.number ∧ earlier.left < later.line.number
  /-- A significant line that is passed was given, or else the consumer moved the cursor past it. -/
  covers : ∀ position, cursor.position ≤ position → position < run.cursor.position →
    (cursor.lineAt position).isSignificant →
      ∃ entry ∈ run.taken, entry.line = cursor.lineAt position ∨
        entry.line.number ≤ position ∧ position < entry.left
  /-- In the end the cursor is at the end of the source or at the first line that ends the scope, from
  where the consumer left it last. -/
  stop : run.complete → Taken.lastLeft cursor.position run.taken ≤ run.cursor.position ∧
    (run.cursor.hasMore → policy.Ends base run.cursor.current) ∧
    ∀ position, Taken.lastLeft cursor.position run.taken ≤ position → position < run.cursor.position →
      ¬policy.Ends base (cursor.lineAt position)
  /-- A scan that is broken off leaves the cursor where its consumer did. -/
  broken : ¬run.complete → run.cursor.position = Taken.lastLeft cursor.position run.taken

theorem Cursor.scan_scanned {σ : Type u} (cursor : Cursor) (policy : ScopePolicy) (base : Int)
    (consumer : Consumer σ) (state : σ) :
    cursor.Scanned policy base (cursor.scan (policy.least base) consumer state) := by
  obtain ⟨source, course⟩ := scan_course (policy.least base) consumer state cursor
  refine ⟨source, course.start_le, course.stop_le, ?_, course.increasing, ?_, ?_, ?_⟩
  · intro entry member
    obtain ⟨position, lower, gives, same⟩ := course.gives_of_mem member
    rw [same]
    exact ⟨position, lower, gives.inside, rfl, gives.significant,
      ScopePolicy.least_le_iff.mp gives.level⟩
  · intro position lower upper significant
    exact course.covers lower upper significant
  · intro complete
    obtain ⟨reached, outside, inside⟩ := course.closes complete
    refine ⟨reached, ?_, ?_⟩
    · rw [ScopePolicy.ends_iff]
      rw [← source] at outside
      exact outside
    · intro position lower upper ends
      exact ScopePolicy.ends_iff.mp ends (inside position lower upper)
  · intro incomplete
    obtain ⟨last, found, same⟩ := course.breaks ((Bool.not_eq_true _).mp incomplete)
    rw [same, Taken.lastLeft, found]
    rfl

/-- Scanning is safe with any consumer. The lines given go forward through the scope, and nothing
significant is lost but what the consumer passes; a scan that is not broken off stops at the end of the
source or at the first line that ends the scope. With a consumer that never moves the cursor these are
the significant lines of the whole block, as a skipped block gives them, and up to a limit, as a block
is taken. The loops of the reader are scans too. -/
theorem Cursor.scan_reentrant {σ : Type u} (cursor : Cursor) (policy : ScopePolicy) (base : Int)
    (consumer : Consumer σ) (state : σ) :
    let scan := cursor.scan (policy.least base) consumer state
    cursor.Scanned policy base scan ∧ (consumer.Patient → scan.complete) ∧
    (∃ run rest, cursor.remaining = run ++ rest ∧ (∀ line ∈ run, ¬policy.Ends base line) ∧
      (∀ line ∈ rest.head?, policy.Ends base line) ∧
      (consumer.Unmoving → scan.complete →
        scan.lines = run.filter Line.isSignificant ∧ scan.cursor = cursor.leaving rest) ∧
      (policy = .owned → cursor.skipBlock base = (significantTexts run, cursor.leaving rest))) ∧
    (∀ limit, cursor.takeBlock (policy.least base) limit =
      let counted := cursor.scan (policy.least base) (.upTo limit) 0
      (counted.lines, counted.cursor)) ∧
    cursor.skipUnknown = (cursor.advance.skipBlock cursor.current.indent).2 ∧
    ∀ loop : Loop,
      loop.run (Line.within (policy.least base)) cursor.remaining.length cursor =
        (cursor.scan (policy.least base) loop.consumer none).outcome := by
  have enough : cursor.lines.length ≤ cursor.position + cursor.remaining.length := by
    rw [remaining_length]
    omega
  refine ⟨cursor.scan_scanned policy base consumer state, ?_, ?_, ?_, ?_, ?_⟩
  · intro patient
    exact scan_complete patient _ state cursor
  · refine ⟨block (policy.least base) cursor.remaining, afterBlock (policy.least base) cursor.remaining,
      (block_append_afterBlock _ _).symm, ?_, ?_, fun unmoving => scan_block unmoving, ?_⟩
    · intro line member ends
      exact ScopePolicy.ends_iff.mp ends (List.mem_takeWhile_imp member)
    · intro line first
      have outside := Stops.of_dropWhile (Line.within (policy.least base)) cursor.remaining line first
      rw [ScopePolicy.ends_iff, outside]
      exact Bool.false_ne_true
    · rintro rfl
      exact skipBlock_eq base cursor
  · intro limit
    exact takeBlock_eq_scan cursor (policy.least base) limit
  · rw [skipBlock_eq]
    rfl
  · intro loop
    exact loop.run_eq_scan (policy.least base) enough

/-- A scan whose consumer reads the elements of a body, one of them with lines of its own. -/
theorem Cursor.scan_reentrant_over_element :
    let cursor : Cursor := ⟨["  show a:".toList, "    # note".toList, "    title: x".toList, [],
      "  b: 1".toList, "c:".toList], 0⟩
    let scan := cursor.scan (ScopePolicy.sibling.least 2) Loop.body.consumer none
    scan.taken = [⟨⟨1, "  show a:".toList⟩, 4⟩, ⟨⟨5, "  b: 1".toList⟩, 5⟩] ∧ scan.complete ∧
      scan.cursor.position = 5 ∧ cursor.Scanned .sibling 2 scan := by
  intro cursor scan
  have taken : scan.taken = [⟨⟨1, "  show a:".toList⟩, 4⟩, ⟨⟨5, "  b: 1".toList⟩, 5⟩] := by
    decide +kernel
  have complete : scan.complete = true := by decide +kernel
  have position : scan.cursor.position = 5 := by decide +kernel
  exact ⟨taken, complete, position, (cursor.scan_reentrant .sibling 2 Loop.body.consumer none).1⟩

end AppDescription
