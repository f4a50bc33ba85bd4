import AppDescription.Proofs.CursorPassage
import AppDescription.Proofs.OutlineReading

namespace AppDescription

/-- The constructs that are read from their header at the cursor. -/
inductive Construct where
  | declaration (kind : DeclarationKind)
  | element
  /-- A line that starts nothing, with everything deeper. -/
  | unknown
  deriving DecidableEq

namespace Cursor

/-- Reads a construct and tells where it leaves the cursor. -/
def pass (cursor : Cursor) : Construct → Except Fault Cursor
  | .declaration .interface => cursor.readInterface.map Prod.snd
  | .declaration kind => (cursor.read (Declaration.read kind)).map Prod.snd
  | .element => cursor.readElement.map Prod.snd
  | .unknown => .ok cursor.skipUnknown

theorem faultless_of_map {reading : Reading α} {declare : α → Declaration}
    (faultless : ∀ value, Finding.firstFault? (declare value).findings = none)
    {declaration : Declaration} {rest : List Line}
    (read : reading.map (Prod.map declare id) = .ok (declaration, rest)) :
    Finding.firstFault? declaration.findings = none := by
  obtain ⟨⟨value, left⟩, _, same⟩ := Except.map_eq_ok_iff.mp read
  cases same
  exact faultless value

/-- A declaration is passed whole, unless its header or a header in it is malformed. -/
theorem pass_declaration_eq (cursor : Cursor) (kind : DeclarationKind) :
    cursor.pass (.declaration kind) =
      match Declaration.read kind cursor.current cursor.advance.remaining with
      | .error cause => .error ⟨cursor.current, cause⟩
      | .ok (declaration, rest) =>
        match Finding.firstFault? declaration.findings with
        | some fault => .error fault
        | none => .ok (cursor.advance.leaving rest) := by
  have plain (faultless : ∀ declaration rest,
      Declaration.read kind cursor.current cursor.advance.remaining = .ok (declaration, rest) →
        Finding.firstFault? declaration.findings = none) :
      (cursor.read (Declaration.read kind)).map Prod.snd =
        match Declaration.read kind cursor.current cursor.advance.remaining with
        | .error cause => .error ⟨cursor.current, cause⟩
        | .ok (declaration, rest) =>
          match Finding.firstFault? declaration.findings with
          | some fault => .error fault
          | none => .ok (cursor.advance.leaving rest) := by
    unfold Cursor.read
    match reading : Declaration.read kind cursor.current cursor.advance.remaining with
    | .error cause => simp only [reading, Except.map]
    | .ok (declaration, rest) =>
      simp only [reading, Except.map, faultless declaration rest reading]
  cases kind with
  | interface =>
    simp only [pass, Cursor.readInterface, Cursor.read, Declaration.read]
    cases AppDescription.readInterface cursor.current cursor.advance.remaining with
    | error cause => rfl
    | ok parts =>
      simp only [bind, Except.bind, Except.map, Prod.map_fst, Prod.map_snd, Declaration.findings, id]
      cases Finding.firstFault? (Node.allFindings parts.1.body) <;> rfl
  | app | data | computed | logic | stateMachine | realtime | external | integrations | deploy =>
    exact plain fun _ _ read => faultless_of_map (fun _ => Declaration.firstFault?_findings _) read

theorem readElement_eq_ok {cursor after : Cursor} {node : Node}
    (read : cursor.readElement = .ok (node, after)) :
    ∃ header, node = (Node.ofHeader header cursor.current cursor.advance.remaining).1 ∧
      after = cursor.advance.leaving
        (Node.ofHeader header cursor.current cursor.advance.remaining).2 := by
  unfold readElement at read
  dsimp only at read
  split at read
  · simp at read
  · simp at read
  · rename_i header _
    split at read
    · simp at read
    · simp only [Except.ok.injEq, Prod.mk.injEq] at read
      exact ⟨header, read.1.symm, read.2.symm⟩

theorem pass_element_of_opens {cursor : Cursor} {header : ElementHeader}
    (role : BodyRole.ofLine cursor.current = .opens header) :
    cursor.pass .element =
      match Finding.firstFault?
          (Node.ofHeader header cursor.current cursor.advance.remaining).1.findings with
      | some fault => .error fault
      | none => .ok (cursor.advance.leaving
          (Node.ofHeader header cursor.current cursor.advance.remaining).2) := by
  simp only [pass, readElement, BodyRole.ofLine_opens role]
  cases Finding.firstFault?
    (Node.ofHeader header cursor.current cursor.advance.remaining).1.findings <;> rfl

theorem pass_element_of_malformed {cursor : Cursor} {cause : HeaderFault}
    (role : BodyRole.ofLine cursor.current = .malformed cause) :
    cursor.pass .element = .error ⟨cursor.current, cause⟩ := by
  simp only [pass, readElement, BodyRole.ofLine_malformed role]
  rfl

/-- The cursor stays in its source and moves forward, at most to the end. -/
structure Advances (cursor after : Cursor) : Prop where
  lines : after.lines = cursor.lines
  forward : cursor.position < after.position
  inside : after.position ≤ cursor.lines.length

/-- The cursor passes its line, and after that only what may lie in a block whose members are
indented by `least` or more. -/
def MovesWithin (least : Nat) (cursor after : Cursor) : Prop :=
  ∃ rest, Passes least cursor.advance.remaining rest ∧ after = cursor.advance.leaving rest

/-- Every significant line strictly between two cursors is deeper than the line at the first one,
apart from the position `own`. -/
def DeeperUpTo (cursor after : Cursor) (own : Option Nat) : Prop :=
  ∀ position, cursor.position < position → position < after.position → own ≠ some position →
    (cursor.lineAt position).isSignificant →
      cursor.current.indent < (cursor.lineAt position).indent

/-- The position of the `else` line that belongs to the element at the cursor. -/
structure OwnElse (cursor after : Cursor) (position : Nat) : Prop where
  belongs : ∃ node, cursor.readElement = .ok (node, after) ∧
    node.elseLine? = some (cursor.lineAt position)
  lower : cursor.position < position
  upper : position < after.position
  spelled : Header.isElse (cursor.lineAt position).text
  level : (cursor.lineAt position).indent = cursor.current.indent

section

variable {cursor : Cursor} {rest : List Line}

theorem MovesWithin.mono {lower upper : Nat} {after : Cursor} (ordered : lower ≤ upper)
    (moves : cursor.MovesWithin upper after) : cursor.MovesWithin lower after := by
  obtain ⟨rest, passes, same⟩ := moves
  exact ⟨rest, passes.mono ordered, same⟩

theorem MovesWithin.advances {least : Nat} {after : Cursor} (more : cursor.hasMore)
    (moves : cursor.MovesWithin least after) : cursor.Advances after := by
  obtain ⟨rest, ⟨passed, same, _⟩, rfl⟩ := moves
  have inside := hasMore_iff.mp more
  have bound := leaving_position_le same inside
  have position := leaving_position same
  rw [advance_position] at position
  exact ⟨rfl, by omega, bound⟩

theorem MovesWithin.deeper {after : Cursor} (moves : cursor.MovesWithin cursor.current.inner after) :
    cursor.DeeperUpTo after none := by
  obtain ⟨rest, ⟨passed, same, inside⟩, rfl⟩ := moves
  intro position lower upper _ significant
  have member := lineAt_mem_passed same (show cursor.advance.position ≤ position from lower) upper
  exact (Line.within_iff significant).mp (inside _ member)

/-- Over the `else` line of a conditional two stretches of deeper lines are passed. -/
theorem deeperUpTo_of_else {elseLine : Line} {more : List Line}
    (body : Passes cursor.current.inner cursor.advance.remaining (elseLine :: more))
    (otherwise : Passes cursor.current.inner more rest) :
    ∃ position, cursor.lineAt position = elseLine ∧ cursor.position < position ∧
      position < (cursor.advance.leaving rest).position ∧
      cursor.DeeperUpTo (cursor.advance.leaving rest) (some position) := by
  obtain ⟨first, same, insideFirst⟩ := body
  obtain ⟨second, rfl, insideSecond⟩ := otherwise
  have whole : cursor.advance.remaining = (first ++ elseLine :: second) ++ rest := by
    rw [same]; simp
  have ending := leaving_position whole
  rw [advance_position, List.length_append, List.length_cons] at ending
  have line (index : Nat) (within : index < first.length + (second.length + 1)) :
      (first ++ elseLine :: second)[index]? =
        some (cursor.lineAt (cursor.position + 1 + index)) :=
    passed_getElem? whole (by simpa using within)
  refine ⟨cursor.position + 1 + first.length, ?_, by omega, by omega, ?_⟩
  · have found := line first.length (by omega)
    rw [List.getElem?_append_right (Nat.le_refl _)] at found
    simpa using found.symm
  · intro position lower upper other significant
    have found := line (position - (cursor.position + 1)) (by omega)
    rw [show cursor.position + 1 + (position - (cursor.position + 1)) = position by omega] at found
    have apart : position ≠ cursor.position + 1 + first.length := fun equal => other (by rw [equal])
    by_cases early : position - (cursor.position + 1) < first.length
    · rw [List.getElem?_append_left early] at found
      exact (Line.within_iff significant).mp (insideFirst _ (List.mem_of_getElem? found))
    · rw [List.getElem?_append_right (by omega)] at found
      obtain ⟨index, after⟩ : ∃ index, position - (cursor.position + 1) - first.length = index + 1 :=
        ⟨position - (cursor.position + 1) - first.length - 1, by omega⟩
      rw [after, List.getElem?_cons_succ] at found
      exact (Line.within_iff significant).mp (insideSecond _ (List.mem_of_getElem? found))

end

theorem pass_declaration_moves {kind : DeclarationKind} {cursor after : Cursor}
    (pass : cursor.pass (.declaration kind) = .ok after) :
    cursor.MovesWithin cursor.current.inner after := by
  rw [pass_declaration_eq] at pass
  split at pass
  · simp at pass
  · rename_i declaration rest reading
    split at pass
    · simp at pass
    · exact ⟨rest, Declaration.read_within _ _ kind _ _ reading, (Except.ok.inj pass).symm⟩

theorem skipUnknown_moves (cursor : Cursor) :
    cursor.MovesWithin cursor.current.inner cursor.skipUnknown :=
  ⟨_, afterBlock_passes _ _, rfl⟩

/-- Any construct goes over lines no shallower than its header. -/
theorem pass_moves {construct : Construct} {cursor after : Cursor}
    (pass : cursor.pass construct = .ok after) :
    cursor.MovesWithin cursor.current.indent after := by
  have ordered : cursor.current.indent ≤ cursor.current.inner := Nat.le_succ _
  cases construct with
  | declaration kind => exact (pass_declaration_moves pass).mono ordered
  | unknown =>
    cases pass
    exact cursor.skipUnknown_moves.mono ordered
  | element =>
    obtain ⟨⟨node, _⟩, reads, rfl⟩ := Except.map_eq_ok_iff.mp pass
    obtain ⟨header, _, same⟩ := readElement_eq_ok reads
    exact ⟨_, Node.ofHeader_moves header _ _, same⟩

/-- Between its header and where it leaves the cursor, a construct goes over nothing significant
but deeper lines and, for a conditional, its own `else` line at the header's indentation. -/
theorem pass_deeper {construct : Construct} {cursor after : Cursor}
    (pass : cursor.pass construct = .ok after) :
    ∃ own, cursor.DeeperUpTo after own ∧
      ∀ position, own = some position → construct = .element ∧ cursor.OwnElse after position := by
  cases construct with
  | declaration kind => exact ⟨none, (pass_declaration_moves pass).deeper, by simp⟩
  | unknown =>
    cases pass
    exact ⟨none, cursor.skipUnknown_moves.deeper, by simp⟩
  | element =>
    obtain ⟨⟨node, _⟩, reads, rfl⟩ := Except.map_eq_ok_iff.mp pass
    obtain ⟨header, rfl, same⟩ := readElement_eq_ok reads
    rcases Node.ofHeader_passes header cursor.current cursor.advance.remaining with
      passes | ⟨elseLine, more, owns, level, spelled, body, otherwise⟩
    · exact ⟨none, MovesWithin.deeper ⟨_, passes, same⟩, by simp⟩
    · obtain ⟨position, line, lower, upper, below⟩ := deeperUpTo_of_else body otherwise
      rw [← same] at upper below
      refine ⟨some position, below, ?_⟩
      rintro _ ⟨⟩
      refine ⟨rfl, ⟨_, reads, ?_⟩, lower, upper, ?_, ?_⟩
      · rw [line, owns]
      · rw [line]
        exact spelled
      · rw [line]
        exact level

end Cursor

end AppDescription
