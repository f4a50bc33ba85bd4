import Mathlib.Data.List.GetD
import AppDescription.Cursor
import AppDescription.Proofs.DeclarationReading
import AppDescription.Proofs.NodeReading
import AppDescription.Proofs.Numbering

namespace AppDescription

namespace Cursor

/-- A line of the cursor's source, by its position. -/
def lineAt (cursor : Cursor) (position : Nat) : Line :=
  { cursor with position }.current

@[simp]
theorem advance_lines (cursor : Cursor) : cursor.advance.lines = cursor.lines := rfl

@[simp]
theorem advance_position (cursor : Cursor) : cursor.advance.position = cursor.position + 1 := rfl

@[simp]
theorem leaving_lines (cursor : Cursor) (rest : List Line) :
    (cursor.leaving rest).lines = cursor.lines := rfl

theorem hasMore_iff {cursor : Cursor} : cursor.hasMore ↔ cursor.position < cursor.lines.length := by
  simp [hasMore]

theorem remaining_length (cursor : Cursor) :
    cursor.remaining.length = cursor.lines.length - cursor.position := by
  simp [remaining]

theorem remaining_cons {cursor : Cursor} (more : cursor.hasMore) :
    cursor.remaining = cursor.current :: cursor.advance.remaining := by
  have inside := hasMore_iff.mp more
  simp only [remaining, List.drop_eq_getElem_cons inside, Line.numberFrom_cons, advance, advanceBy,
    current, lineNumber, List.getD_eq_getElem _ _ inside]

theorem remaining_of_not_hasMore {cursor : Cursor} (done : ¬cursor.hasMore) :
    cursor.remaining = [] := by
  apply List.eq_nil_of_length_eq_zero
  have outside := mt hasMore_iff.mpr done
  rw [remaining_length]
  omega

section

variable {cursor : Cursor} {passed rest : List Line}

theorem leaving_position (same : cursor.remaining = passed ++ rest) :
    (cursor.leaving rest).position = cursor.position + passed.length := by
  simp [leaving, same]

/-- A cursor that leaves the end of its remaining lines has just that end before it. -/
theorem leaving_remaining (same : cursor.remaining = passed ++ rest) :
    (cursor.leaving rest).remaining = rest := by
  calc (cursor.leaving rest).remaining
      = Line.numberFrom (cursor.position + passed.length + 1)
          (cursor.lines.drop (cursor.position + passed.length)) := by
        rw [remaining, lineNumber, leaving_position same, leaving_lines]
    _ = cursor.remaining.drop passed.length := by
        rw [remaining, lineNumber, Line.numberFrom_drop, List.drop_drop, Nat.add_right_comm]
    _ = rest := by rw [same, List.drop_left]

theorem leaving_position_le (same : cursor.remaining = passed ++ rest)
    (inside : cursor.position ≤ cursor.lines.length) :
    (cursor.leaving rest).position ≤ cursor.lines.length := by
  have length := cursor.remaining_length
  rw [same, List.length_append] at length
  rw [leaving_position same]
  omega

theorem passed_getElem? (same : cursor.remaining = passed ++ rest) {index : Nat}
    (within : index < passed.length) :
    passed[index]? = some (cursor.lineAt (cursor.position + index)) := by
  have found : cursor.remaining[index]? = some passed[index] := by
    rw [same, List.getElem?_append_left within, List.getElem?_eq_getElem within]
  rw [List.getElem?_eq_getElem within, ← found]
  rw [remaining, Line.numberFrom_getElem?, List.getElem?_drop] at found ⊢
  obtain ⟨raw, atRaw, _⟩ := Option.map_eq_some_iff.mp found
  simp [atRaw, lineAt, current, lineNumber, Nat.add_right_comm]

/-- The lines at the positions that a cursor passes are the lines it passes. -/
theorem lineAt_mem_passed (same : cursor.remaining = passed ++ rest) {position : Nat}
    (lower : cursor.position ≤ position) (upper : position < (cursor.leaving rest).position) :
    cursor.lineAt position ∈ passed := by
  rw [leaving_position same] at upper
  have within : position - cursor.position < passed.length := by omega
  have found := passed_getElem? same within
  rw [show cursor.position + (position - cursor.position) = position by omega] at found
  exact List.mem_of_getElem? found

end

end Cursor

end AppDescription
