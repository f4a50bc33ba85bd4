import AppDescription.Proofs.Containment
import AppDescription.Proofs.Outlying

namespace AppDescription

/-- The loops of the reader. Each takes one line after another, with what belongs to it. -/
inductive Loop where
  /-- Declarations and unknown lines at the top of a source. -/
  | source
  /-- The body of an interface or of an element. -/
  | body
  /-- The fields and relationships of a data block. -/
  | fields
  /-- The settings of a computed block. -/
  | settings
  /-- Names that own what is deeper: integration sections and environments. -/
  | names
  | deployment
  /-- Lines that own nothing: app properties, skipped bodies and literals. -/
  | lines
  deriving DecidableEq

namespace Cursor

/-- Passes over the marker at the cursor and its literal block. -/
def skipLiteral (cursor : Cursor) : Cursor :=
  (cursor.advance.readLiteral cursor.current.inner).2

end Cursor

namespace Loop

/-- One turn of a loop at a significant line. -/
def turn (cursor : Cursor) : Loop → Except Fault Cursor
  | source =>
    match cursor.current.declarationKind? with
    | some kind => cursor.pass (.declaration kind)
    | none => cursor.pass .unknown
  | body =>
    match BodyRole.ofLine cursor.current with
    | .opens _ | .malformed _ => cursor.pass .element
    | .closed | .looseElse => cursor.pass .unknown
    | .literal _ => .ok cursor.skipLiteral
    | .property .. | .ignored => .ok cursor.advance
  | fields =>
    if cursor.current.text = "relationships:".toList then cursor.pass .unknown
    else .ok cursor.advance
  | settings =>
    if cursor.current.kind = .literalMarker "value".toList then .ok cursor.skipLiteral
    else .ok cursor.advance
  | names => cursor.pass .unknown
  | deployment =>
    if cursor.current.kind.key? = some "platform".toList ∧ cursor.current.kind.value? ≠ some [] then
      .ok cursor.advance
    else cursor.pass .unknown
  | lines => .ok cursor.advance

/-- Blank and comment lines are passed on their own. -/
def step (loop : Loop) (cursor : Cursor) : Except Fault Cursor :=
  if cursor.current.isSignificant then loop.turn cursor else .ok cursor.advance

/-- Runs a loop for so many turns, as long as there are lines and the next one is `inside`. -/
def run (loop : Loop) (inside : Line → Bool) : Nat → Cursor → Except Fault Cursor
  | 0, cursor => .ok cursor
  | turns + 1, cursor =>
    if cursor.hasMore && inside cursor.current then
      (loop.step cursor).bind (loop.run inside turns)
    else .ok cursor

/-- A step that starts in a block goes over lines of the block only. -/
theorem step_moves {loop : Loop} {least : Nat} {cursor after : Cursor}
    (inside : cursor.current.within least) (step : loop.step cursor = .ok after) :
    cursor.MovesWithin least after := by
  have single (pass : Except.ok (ε := Fault) cursor.advance = .ok after) :
      cursor.MovesWithin least after := by
    refine ⟨_, .refl _ _, (Except.ok.inj pass).symm.trans ?_⟩
    rw [Cursor.leaving, Nat.sub_self]
    rfl
  unfold Loop.step at step
  split at step
  · rename_i significant
    have level : least ≤ cursor.current.indent := (Line.within_iff significant).mp inside
    have construct {c : Construct} (pass : cursor.pass c = .ok after) :
        cursor.MovesWithin least after := (Cursor.pass_moves pass).mono level
    have literal (pass : Except.ok (ε := Fault) cursor.skipLiteral = .ok after) :
        cursor.MovesWithin least after :=
      ⟨_, (afterLiteral_passes cursor.current.inner _).mono (level.trans (Nat.le_succ _)),
        (Except.ok.inj pass).symm⟩
    cases loop with
    | source =>
      simp only [turn] at step
      split at step <;> exact construct step
    | body =>
      simp only [turn] at step
      split at step
      · exact construct step
      · exact construct step
      · exact construct step
      · exact construct step
      · exact literal step
      · exact single step
      · exact single step
    | fields =>
      simp only [turn] at step
      split at step
      · exact construct step
      · exact single step
    | settings =>
      simp only [turn] at step
      split at step
      · exact literal step
      · exact single step
    | names => exact construct (c := .unknown) step
    | deployment =>
      simp only [turn] at step
      split at step
      · exact single step
      · exact construct step
    | lines => exact single step
  · exact single step

/-- A loop stops after as many turns as there are lines left, whatever it is that stops it. -/
theorem run_ends {loop : Loop} {inside : Line → Bool} {turns : Nat} {cursor after : Cursor}
    (enough : cursor.lines.length ≤ cursor.position + turns)
    (run : loop.run inside turns cursor = .ok after) :
    ¬(after.hasMore ∧ inside after.current) := by
  induction turns generalizing cursor with
  | zero =>
    cases run
    intro going
    have more := Cursor.hasMore_iff.mp going.1
    omega
  | succ turns ih =>
    unfold Loop.run at run
    split at run
    · rename_i going
      obtain ⟨more, _⟩ := Bool.and_eq_true_iff.mp going
      obtain ⟨next, step, rest⟩ := Except.bind_eq_ok_iff.mp run
      have anywhere : cursor.current.within 0 = true := by simp [Line.within]
      have advances := (step_moves anywhere step).advances more
      exact ih (by rw [advances.lines]; have := advances.forward; omega) rest
    · rename_i stopped
      cases run
      simpa using stopped

/-- A loop over a block ends just where the block ends. -/
theorem run_block {loop : Loop} {least turns : Nat} {cursor after : Cursor}
    (run : loop.run (Line.within least) turns cursor = .ok after) :
    after.lines = cursor.lines ∧
      afterBlock least after.remaining = afterBlock least cursor.remaining := by
  induction turns generalizing cursor with
  | zero =>
    cases run
    exact ⟨rfl, rfl⟩
  | succ turns ih =>
    unfold Loop.run at run
    split at run
    · rename_i going
      obtain ⟨more, inside⟩ := Bool.and_eq_true_iff.mp going
      obtain ⟨next, step, later⟩ := Except.bind_eq_ok_iff.mp run
      obtain ⟨rest, passes, rfl⟩ := step_moves inside step
      obtain ⟨_, same, _⟩ := id passes
      obtain ⟨lines, block⟩ := ih later
      refine ⟨lines, block.trans ?_⟩
      rw [Cursor.leaving_remaining same, Cursor.remaining_cons more]
      exact (Passes.cons inside passes).afterBlock_eq.symm
    · cases run
      exact ⟨rfl, rfl⟩

/-- The loop over a source fails where reading the source fails, and for the same reason. -/
theorem run_source_eq_error {turns : Nat} {cursor : Cursor} {fault : Fault}
    (enough : cursor.lines.length ≤ cursor.position + turns) :
    source.run (fun _ => true) turns cursor = .error fault ↔
      (Outline.read cursor.remaining).fault? = some fault := by
  induction turns generalizing cursor with
  | zero =>
    have done : cursor.remaining = [] :=
      Cursor.remaining_of_not_hasMore fun more => by have := Cursor.hasMore_iff.mp more; omega
    simp [run, done]
  | succ turns ih =>
    by_cases more : cursor.hasMore
    · have next {after : Cursor} {rest : List Line}
          (passes : Passes 0 cursor.advance.remaining rest)
          (same : after = cursor.advance.leaving rest) :
          source.run (fun _ => true) turns after = .error fault ↔
            (Outline.read rest).fault? = some fault := by
        have advances := Cursor.MovesWithin.advances more ⟨rest, passes, same⟩
        obtain ⟨_, split, _⟩ := passes
        rw [ih (by rw [advances.lines]; have := advances.forward; omega), same,
          Cursor.leaving_remaining split]
      rw [run, if_pos (by simp [more]), Cursor.remaining_cons more, step]
      by_cases significant : cursor.current.isSignificant
      · rw [if_pos significant, turn]
        cases declares : cursor.current.declarationKind? with
        | none =>
          rw [Outline.read_unknown significant declares, Outline.fault?_unknown]
          exact next ((afterBlock_passes _ _).mono (Nat.zero_le _)) rfl
        | some kind =>
          dsimp only
          rw [Cursor.pass_declaration_eq]
          cases reading : Declaration.read kind cursor.current cursor.advance.remaining with
          | error cause =>
            rw [Outline.read_malformed significant declares reading]
            simp [Except.bind]
          | ok parts =>
            obtain ⟨declaration, rest⟩ := parts
            have passes := Declaration.read_within _ _ kind _ _ reading
            rw [Outline.read_declared significant declares reading, Outline.fault?_declared]
            dsimp only
            cases Finding.firstFault? declaration.findings with
            | some inner => simp [Except.bind]
            | none => exact next (passes.mono (Nat.zero_le _)) rfl
      · rw [if_neg significant, Outline.read_insignificant significant]
        refine next (.refl 0 _) ?_
        rw [Cursor.leaving, Nat.sub_self]
        rfl
    · simp [run, more, Cursor.remaining_of_not_hasMore more]

/-- A step of the loop over a body reads the same nodes as the reader of bodies, from the lines of
the body alone, and leaves the same lines of it. -/
theorem step_body {least : Nat} {cursor : Cursor} {lines tail : List Line}
    (whole : cursor.advance.remaining = lines ++ tail) (outlies : Outlies least tail)
    (inside : cursor.current.within least) :
    ∃ nodes left, Node.read (cursor.current :: lines) = nodes ++ Node.read left ∧
      Passes 0 lines left ∧
        body.step cursor = match Finding.firstFault? (Node.allFindings nodes) with
          | some fault => .error fault
          | none => .ok (cursor.advance.leaving (left ++ tail)) := by
  have stay : cursor.advance.leaving (lines ++ tail) = cursor.advance := by
    rw [← whole, Cursor.leaving, Nat.sub_self]
    rfl
  rw [step]
  by_cases significant : cursor.current.isSignificant
  · have level : least ≤ cursor.current.indent := (Line.within_iff significant).mp inside
    have deep : least ≤ cursor.current.inner := level.trans (Nat.le_succ _)
    have skip : cursor.skipUnknown =
        cursor.advance.leaving (afterBlock cursor.current.inner lines ++ tail) := by
      rw [← outlies.afterBlock_append deep, ← whole]
      rfl
    rw [if_pos significant, turn]
    cases role : BodyRole.ofLine cursor.current with
    | ignored => exact ⟨[], lines, Node.read_ignored role, .refl 0 lines, by rw [stay]; rfl⟩
    | property key value =>
      exact ⟨[.property key value], lines, Node.read_property role, .refl 0 lines, by rw [stay]; rfl⟩
    | closed =>
      exact ⟨[], _, Node.read_closed role, (afterBlock_passes _ _).mono (Nat.zero_le _),
        congrArg Except.ok skip⟩
    | looseElse =>
      exact ⟨[.looseElse _], _, Node.read_looseElse role,
        (afterBlock_passes _ _).mono (Nat.zero_le _), congrArg Except.ok skip⟩
    | literal key =>
      refine ⟨[.property key _], _, Node.read_literal role,
        (afterLiteral_passes _ _).mono (Nat.zero_le _), congrArg Except.ok ?_⟩
      rw [← (outlies.literal_append deep lines).2, ← whole]
      rfl
    | malformed cause =>
      refine ⟨[.malformed cursor.current cause], [], by rw [Node.read_malformed role]; simp,
        ⟨lines, by simp, by simp [Line.within]⟩, ?_⟩
      exact Cursor.pass_element_of_malformed role
    | opens header =>
      have seam : Node.ofHeader header cursor.current (lines ++ tail) =
          Prod.map id (· ++ tail) (Node.ofHeader header cursor.current lines) :=
        outlies.ofHeader_append level lines
      refine ⟨[_], _, Node.read_opens role,
        (Node.ofHeader_moves header cursor.current lines).mono (Nat.zero_le _), ?_⟩
      dsimp only
      rw [Cursor.pass_element_of_opens role, whole, seam, Node.allFindings, Node.allFindings,
        List.append_nil]
      rfl
  · rw [if_neg significant]
    have role : BodyRole.ofLine cursor.current = .ignored := by rw [BodyRole.ofLine, if_neg significant]
    exact ⟨[], lines, Node.read_ignored role, .refl 0 lines, by rw [stay]; rfl⟩

/-- The loop over a body fails where reading the body fails, and for the same reason. -/
theorem run_body_eq_error {least turns : Nat} {cursor : Cursor} {fault : Fault}
    (enough : cursor.lines.length ≤ cursor.position + turns) :
    body.run (Line.within least) turns cursor = .error fault ↔
      Finding.firstFault? (Node.allFindings (Node.read (block least cursor.remaining))) =
        some fault := by
  induction turns generalizing cursor with
  | zero =>
    have done : cursor.remaining = [] :=
      Cursor.remaining_of_not_hasMore fun more => by have := Cursor.hasMore_iff.mp more; omega
    simp [run, done, block, Node.allFindings]
  | succ turns ih =>
    by_cases more : cursor.hasMore
    · rw [run, Cursor.remaining_cons more]
      by_cases inside : cursor.current.within least
      · have owns : ∀ line ∈ block least cursor.advance.remaining, line.within least = true :=
          fun line member => List.mem_takeWhile_imp member
        have outlies := afterBlock_outlies least cursor.advance.remaining
        obtain ⟨nodes, left, read, ⟨passed, same, _⟩, step⟩ :=
          step_body (block_append_afterBlock least _).symm outlies inside
        have split : cursor.advance.remaining =
            passed ++ (left ++ afterBlock least cursor.advance.remaining) := by
          rw [← List.append_assoc, ← same, block_append_afterBlock]
        have position := Cursor.leaving_position split
        rw [Cursor.advance_position] at position
        have within : ∀ line ∈ left, line.within least = true := by
          intro line member
          exact owns line (by rw [same]; exact List.mem_append_right passed member)
        have rest : body.run (Line.within least) turns (cursor.advance.leaving
            (left ++ afterBlock least cursor.advance.remaining)) = .error fault ↔
              Finding.firstFault? (Node.allFindings (Node.read left)) = some fault := by
          rw [ih (by rw [Cursor.leaving_lines, Cursor.advance_lines]; omega),
            Cursor.leaving_remaining split, outlies.block_eq within]
        have owned : block least (cursor.current :: cursor.advance.remaining) =
            cursor.current :: block least cursor.advance.remaining :=
          List.takeWhile_cons_of_pos inside
        rw [if_pos (by simp [more, inside]), step, owned, read, Node.allFindings_append,
          Finding.firstFault?_append]
        cases Finding.firstFault? (Node.allFindings nodes) with
        | some inner => simp [Except.bind]
        | none => exact rest
      · rw [if_neg (by simp [inside]), block, List.takeWhile_cons_of_neg inside]
        simp [Node.allFindings]
    · simp [run, more, Cursor.remaining_of_not_hasMore more, block, Node.allFindings]

end Loop

/-- Reading makes progress. A construct that is read moves the cursor forward, not past the end of
the source, over deeper lines only but for the own `else` of a conditional. So every loop of the
reader stops after as many turns as there are lines left, one over a block stops where the block
ends, and the loops over a source and over a body find the faults that are read there. -/
theorem Cursor.reading_progresses (cursor : Cursor) :
    (∀ construct after, cursor.hasMore → cursor.pass construct = .ok after →
      cursor.Advances after ∧ ∃ own, cursor.DeeperUpTo after own ∧
        ∀ position, own = some position → construct = .element ∧ cursor.OwnElse after position) ∧
    (∀ (loop : Loop) inside after, loop.run inside cursor.remaining.length cursor = .ok after →
      ¬(after.hasMore ∧ inside after.current)) ∧
    (∀ (loop : Loop) least after,
      loop.run (Line.within least) cursor.remaining.length cursor = .ok after →
        after.lines = cursor.lines ∧ after.remaining = afterBlock least cursor.remaining) ∧
    (∀ fault, Loop.source.run (fun _ => true) cursor.remaining.length cursor = .error fault ↔
      (Outline.read cursor.remaining).fault? = some fault) ∧
    ∀ least fault,
      Loop.body.run (Line.within least) cursor.remaining.length cursor = .error fault ↔
        Finding.firstFault? (Node.allFindings (Node.read (block least cursor.remaining))) =
          some fault := by
  have enough : cursor.lines.length ≤ cursor.position + cursor.remaining.length := by
    rw [Cursor.remaining_length]
    omega
  refine ⟨?_, ?_, ?_, ?_, ?_⟩
  · intro construct after more pass
    exact ⟨(Cursor.pass_moves pass).advances more, Cursor.pass_deeper pass⟩
  · intro loop inside after run
    exact Loop.run_ends enough run
  · intro loop least after run
    have stopped := Loop.run_ends enough run
    obtain ⟨lines, block⟩ := Loop.run_block run
    refine ⟨lines, ?_⟩
    rw [← block]
    by_cases more : after.hasMore
    · have outside : ¬after.current.within least := fun inside => stopped ⟨more, inside⟩
      rw [Cursor.remaining_cons more, afterBlock, List.dropWhile_cons_of_neg outside]
    · rw [Cursor.remaining_of_not_hasMore more]
      rfl
  · intro fault
    exact Loop.run_source_eq_error enough
  · intro least fault
    exact Loop.run_body_eq_error enough

/-- A conditional at the second line of a source, passed together with its `else`. -/
theorem Cursor.reading_progresses_over_else :
    let cursor : Cursor := ⟨["interface a:".toList, "  when x:".toList, "    show y:".toList,
      "  else:".toList, "    show z:".toList, "  show w:".toList], 1⟩
    let after : Cursor := ⟨cursor.lines, 5⟩
    cursor.hasMore ∧ cursor.pass .element = .ok after ∧ cursor.Advances after ∧
      ∃ own, cursor.DeeperUpTo after own ∧
        ∀ position, own = some position →
          Construct.element = .element ∧ cursor.OwnElse after position := by
  intro cursor after
  have more : cursor.hasMore := by decide
  have pass : cursor.pass .element = .ok after := by decide +kernel
  exact ⟨more, pass, (Cursor.reading_progresses cursor).1 .element after more pass⟩

end AppDescription
