import AppDescription.Proofs.ScanCourse

namespace AppDescription

universe u

variable {σ : Type u}

namespace Consumer

/-- Never moves the cursor. -/
def Unmoving (consumer : Consumer σ) : Prop :=
  ∀ state cursor, (consumer.take state cursor).value.2 = cursor.position

/-- Never breaks a scan off. -/
def Patient (consumer : Consumer σ) : Prop :=
  ∀ state cursor, ∃ next, consumer.take state cursor = .yield next

theorem upTo_unmoving (limit : Option Nat) : (upTo limit).Unmoving := by
  intro count cursor
  simp only [upTo]
  split <;> rfl

theorem upTo_take (limit count : Nat) (cursor : Cursor) :
    (upTo (some limit)).take count cursor =
      if limit ≤ count + 1 then .done (count + 1, cursor.position)
      else .yield (count + 1, cursor.position) := by
  simp [upTo]

theorem upTo_none_patient : (upTo none).Patient :=
  fun count cursor => ⟨(count + 1, cursor.position), rfl⟩

end Consumer

namespace Cursor

variable {consumer : Consumer σ}

theorem scan_alone (unmoving : consumer.Unmoving) (least : Nat) (state : σ) (cursor : Cursor) :
    ∀ entry ∈ (cursor.scan least consumer state).taken, entry.left + 1 = entry.line.number := by
  have stays {state : σ} {cursor : Cursor} {last : σ × Nat}
      (takes : (consumer.take state cursor).value = last) : last.2 + 1 = cursor.current.number := by
    rw [← takes, unmoving]
    rfl
  fun_induction scan least consumer state cursor with
  | case1 state cursor _ _ _ last left taking =>
    intro entry member
    rw [List.mem_singleton.mp member]
    exact stays (congrArg ForInStep.value taking)
  | case2 state cursor _ _ _ next left taking ih =>
    intro entry member
    rcases List.mem_cons.mp member with rfl | later
    · exact stays (congrArg ForInStep.value taking)
    · exact ih entry later
  | case3 => intro entry member; cases member
  | case4 _ _ _ _ ih => exact ih
  | case5 => intro entry member; cases member

/-- A scan is complete unless its consumer breaks it off. -/
theorem scan_complete (patient : consumer.Patient) (least : Nat) (state : σ) (cursor : Cursor) :
    (cursor.scan least consumer state).complete = true := by
  fun_induction scan least consumer state cursor with
  | case1 state cursor _ _ _ last left taking =>
    obtain ⟨next, takes⟩ := patient state cursor
    cases taking.symm.trans takes
  | case2 _ _ _ _ _ _ _ _ ih => exact ih
  | case3 => rfl
  | case4 _ _ _ _ ih => exact ih
  | case5 => rfl

/-- A counting consumer is given no more lines than it still asks for, and breaks the scan off with
the last of them. -/
theorem upTo_count (least limit count : Nat) (cursor : Cursor) :
    let run := cursor.scan least (.upTo (some limit)) count
    run.taken.length ≤ max 1 (limit - count) ∧
      (run.complete = true ↔ run.taken.length < max 1 (limit - count)) := by
  have asks : 0 < max 1 (limit - count) := Nat.le_max_left 1 _
  fun_induction scan least (.upTo (some limit)) count cursor with
  | case1 count cursor _ _ _ last left taking =>
    rw [Consumer.upTo_take] at taking
    split at taking
    · have only : max 1 (limit - count) = 1 := by omega
      simp [only]
    · cases taking
  | case2 count cursor _ _ _ next left taking ih =>
    rw [Consumer.upTo_take] at taking
    split at taking
    · cases taking
    · cases taking
      obtain ⟨most, ends⟩ := ih (Nat.le_max_left 1 _)
      have fewer : max 1 (limit - count) = max 1 (limit - (count + 1)) + 1 := by omega
      simp only [ScanRun.after, List.length_cons, fewer]
      exact ⟨Nat.succ_le_succ most, ends.trans Nat.succ_lt_succ_iff.symm⟩
  | case3 => exact ⟨Nat.zero_le _, iff_of_true rfl asks⟩
  | case4 _ _ _ _ ih => exact ih asks
  | case5 => exact ⟨Nat.zero_le _, iff_of_true rfl asks⟩

/-- As long as the cursor is left alone, a scan gives away the significant lines of the block. -/
theorem Course.still {lines : List Text} {least start stop : Nat} {taken : List Taken}
    {complete : Bool} (course : Course lines least start taken stop complete)
    (alone : ∀ entry ∈ taken, entry.left + 1 = entry.line.number) :
    ∃ later, (block least (⟨lines, start⟩ : Cursor).remaining).filter Line.isSignificant =
        taken.map Taken.line ++ later ∧
      (complete = true → later = [] ∧
        stop = start + (block least (⟨lines, start⟩ : Cursor).remaining).length) := by
  have next {position : Nat} (more : (⟨lines, position⟩ : Cursor).hasMore)
      (inside : (⟨lines, position⟩ : Cursor).current.within least) :
      block least (⟨lines, position⟩ : Cursor).remaining =
        (⟨lines, position⟩ : Cursor).current ::
          block least (⟨lines, position + 1⟩ : Cursor).remaining := by
    rw [remaining_cons more, block, List.takeWhile_cons_of_pos inside]
    rfl
  induction course with
  | @ended position outside =>
    have empty : block least (⟨lines, position⟩ : Cursor).remaining = [] := by
      by_cases more : (⟨lines, position⟩ : Cursor).hasMore
      · rw [remaining_cons more, block, List.takeWhile_cons_of_neg (outside more)]
      · rw [remaining_of_not_hasMore more]
        rfl
    rw [empty]
    exact ⟨[], rfl, fun _ => ⟨rfl, rfl⟩⟩
  | @hidden position _ _ _ more insignificant _ ih =>
    obtain ⟨later, whole, ending⟩ := ih alone
    rw [next more (Line.within_of_not_significant insignificant least),
      List.filter_cons_of_neg insignificant]
    refine ⟨later, whole, fun complete => ?_⟩
    obtain ⟨none, same⟩ := ending complete
    exact ⟨none, by rw [same, List.length_cons]; omega⟩
  | @broken position left gives =>
    rw [next gives.more gives.within, List.filter_cons_of_pos gives.significant]
    exact ⟨_, rfl, fun complete => by cases complete⟩
  | @given position left taken _ _ gives _ ih =>
    have same : left = position := Nat.succ.inj (alone _ List.mem_cons_self)
    subst same
    rw [resumeAt, if_pos rfl] at ih
    obtain ⟨later, whole, ending⟩ := ih fun entry member => alone entry (List.mem_cons_of_mem _ member)
    rw [next gives.more gives.within, List.filter_cons_of_pos gives.significant, whole]
    refine ⟨later, rfl, fun complete => ?_⟩
    obtain ⟨none, same⟩ := ending complete
    exact ⟨none, by rw [same, List.length_cons]; omega⟩

theorem eq_of_parts {first second : Cursor} (lines : first.lines = second.lines)
    (position : first.position = second.position) : first = second := by
  cases first
  cases second
  cases lines
  cases position
  rfl

/-- A complete scan that leaves the cursor alone is the reading of a block. -/
theorem scan_block (unmoving : consumer.Unmoving) {least : Nat} {state : σ} {cursor : Cursor}
    (complete : (cursor.scan least consumer state).complete = true) :
    (cursor.scan least consumer state).lines =
        (block least cursor.remaining).filter Line.isSignificant ∧
      (cursor.scan least consumer state).cursor =
        cursor.leaving (afterBlock least cursor.remaining) := by
  obtain ⟨lines, course⟩ := scan_course least consumer state cursor
  obtain ⟨later, whole, ending⟩ := course.still (scan_alone unmoving least state cursor)
  obtain ⟨rfl, stop⟩ := ending complete
  constructor
  · rw [whole, List.append_nil]
    rfl
  · refine eq_of_parts lines ?_
    rw [leaving_position (block_append_afterBlock least cursor.remaining).symm]
    exact stop

/-- A scan that leaves the cursor alone and is broken off has given away the first significant lines of
the block, and stands at the last of them. -/
theorem scan_cut (unmoving : consumer.Unmoving) {least : Nat} {state : σ} {cursor : Cursor}
    {count : Nat} (broken : (cursor.scan least consumer state).complete = false)
    (given : (cursor.scan least consumer state).taken.length = count) :
    (cursor.scan least consumer state).lines =
        ((block least cursor.remaining).filter Line.isSignificant).take count ∧
      ∃ last, ((block least cursor.remaining).filter Line.isSignificant)[count - 1]? = some last ∧
        (cursor.scan least consumer state).cursor = cursor.moveTo last := by
  obtain ⟨lines, course⟩ := scan_course least consumer state cursor
  have alone := scan_alone unmoving least state cursor
  obtain ⟨later, whole, _⟩ := course.still alone
  obtain ⟨last, final, stop⟩ := course.breaks broken
  have nonempty : 0 < count := by
    rw [← given, List.length_pos_iff]
    exact List.ne_nil_of_mem (List.mem_of_getLast? final)
  have place : last.left + 1 = last.line.number := alone last (List.mem_of_getLast? final)
  rw [whole]
  refine ⟨(List.take_left' ((List.length_map _).trans given)).symm, last.line, ?_, ?_⟩
  · rw [List.getElem?_append_left (by rw [List.length_map]; omega), List.getElem?_map, ← given,
      ← List.getLast?_eq_getElem?, final, Option.map_some]
  · refine eq_of_parts lines ?_
    rw [stop, moveTo, ← place, Nat.add_sub_cancel]

theorem skipBlock_eq (header : Int) (cursor : Cursor) :
    cursor.skipBlock header =
      (significantTexts (block (ScopePolicy.owned.least header) cursor.remaining),
        cursor.leaving (afterBlock (ScopePolicy.owned.least header) cursor.remaining)) := by
  have complete := scan_complete Consumer.upTo_none_patient (ScopePolicy.owned.least header) 0 cursor
  obtain ⟨lines, after⟩ := scan_block (Consumer.upTo_unmoving none) complete
  simp only [skipBlock, lines, after, significantTexts]

/-- Taking the lines of a block is a scan with a consumer that counts them. -/
theorem takeBlock_eq_scan (cursor : Cursor) (least : Nat) (limit : Option Nat) :
    cursor.takeBlock least limit =
      ((cursor.scan least (.upTo limit) 0).lines, (cursor.scan least (.upTo limit) 0).cursor) := by
  cases limit with
  | none =>
    have complete := scan_complete Consumer.upTo_none_patient least 0 cursor
    obtain ⟨lines, after⟩ := scan_block (Consumer.upTo_unmoving none) complete
    rw [lines, after]
    rfl
  | some limit =>
    have unmoving := Consumer.upTo_unmoving (some limit)
    obtain ⟨most, ends⟩ := upTo_count least limit 0 cursor
    rw [Nat.sub_zero] at most ends
    cases complete : (cursor.scan least (.upTo (some limit)) 0).complete with
    | true =>
      obtain ⟨lines, after⟩ := scan_block unmoving complete
      have few := ends.mp complete
      have beyond : ((block least cursor.remaining).filter Line.isSignificant)[max 1 limit - 1]? =
          none := by
        rw [← lines, List.getElem?_eq_none_iff, ScanRun.lines, List.length_map]
        omega
      rw [lines, after]
      simp only [takeBlock, beyond]
    | false =>
      have stopped : ¬(cursor.scan least (.upTo (some limit)) 0).taken.length < max 1 limit := by
        rw [← ends, complete]
        exact Bool.false_ne_true
      obtain ⟨lines, last, found, after⟩ :=
        scan_cut unmoving complete (Nat.le_antisymm most (Nat.le_of_not_lt stopped))
      rw [lines, after]
      simp only [takeBlock, found]

end Cursor

end AppDescription
