import AppDescription.Cursor.Scan
import AppDescription.Proofs.CursorPassage

namespace AppDescription

universe u

namespace Taken

/-- The position where the consumer left the cursor last, if it was given anything. -/
def lastLeft (start : Nat) (taken : List Taken) : Nat :=
  (taken.getLast?.map Taken.left).getD start

theorem lastLeft_cons (start : Nat) (first : Taken) (taken : List Taken) :
    lastLeft start (first :: taken) = lastLeft first.left taken := by
  simp only [lastLeft, List.getLast?_cons, Option.map_some, Option.getD_some]
  cases taken.getLast? <;> rfl

/-- Where a scan starts matters for the last place only when nothing is given. -/
theorem lastLeft_le {start other position : Nat} {taken : List Taken}
    (reached : lastLeft start taken ≤ position) (alone : start ≤ position → other ≤ position) :
    lastLeft other taken ≤ position := by
  cases taken with
  | nil => exact alone reached
  | cons first taken =>
    rw [lastLeft_cons] at reached ⊢
    exact reached

end Taken

open Taken (lastLeft lastLeft_cons lastLeft_le)

namespace Cursor

theorem le_resumeAt (given left : Nat) : left ≤ resumeAt given left := by
  unfold resumeAt
  split <;> omega

/-- A scan goes on no further than the next line after the place where it was left. -/
theorem resumeAt_le {given left position : Nat} (reached : left ≤ position)
    (other : position ≠ given) : resumeAt given left ≤ position := by
  unfold resumeAt
  split <;> omega

/-- A scan gives the line at a position away, and its consumer moves the cursor on from there. -/
structure Gives (lines : List Text) (least position left : Nat) : Prop where
  more : (⟨lines, position⟩ : Cursor).hasMore
  significant : (⟨lines, position⟩ : Cursor).current.isSignificant
  level : least ≤ (⟨lines, position⟩ : Cursor).current.indent
  forward : position ≤ left
  bound : left ≤ lines.length

/-- The courses that a scan from a position may take: what it gives away, where it stops, and whether
it stops of its own accord. The moves of the consumer are free. -/
inductive Course (lines : List Text) (least : Nat) : Nat → List Taken → Nat → Bool → Prop
  | ended {position} (outside : (⟨lines, position⟩ : Cursor).hasMore →
        ¬(⟨lines, position⟩ : Cursor).current.within least) :
      Course lines least position [] position true
  | hidden {position taken stop complete} (more : (⟨lines, position⟩ : Cursor).hasMore)
      (insignificant : ¬(⟨lines, position⟩ : Cursor).current.isSignificant)
      (rest : Course lines least (position + 1) taken stop complete) :
      Course lines least position taken stop complete
  | broken {position left} (gives : Gives lines least position left) :
      Course lines least position [⟨Cursor.current ⟨lines, position⟩, left⟩] left false
  | given {position left taken stop complete} (gives : Gives lines least position left)
      (rest : Course lines least (resumeAt position left) taken stop complete) :
      Course lines least position (⟨Cursor.current ⟨lines, position⟩, left⟩ :: taken) stop complete

/-- Every scan takes such a course, whoever its consumer is. -/
theorem scan_course {σ : Type u} (least : Nat) (consumer : Consumer σ) (state : σ)
    (cursor : Cursor) :
    (cursor.scan least consumer state).cursor.lines = cursor.lines ∧
      Course cursor.lines least cursor.position (cursor.scan least consumer state).taken
        (cursor.scan least consumer state).cursor.position
        (cursor.scan least consumer state).complete := by
  fun_induction scan least consumer state cursor with
  | case1 state cursor more significant level last left taking =>
    have moves := consumer.forward state cursor more significant
    rw [taking] at moves
    exact ⟨rfl, .broken ⟨more, significant, level, moves.1, moves.2⟩⟩
  | case2 state cursor more significant level next left taking ih =>
    have moves := consumer.forward state cursor more significant
    rw [taking] at moves
    exact ⟨ih.1, .given ⟨more, significant, level, moves.1, moves.2⟩ ih.2⟩
  | case3 state cursor more significant outside =>
    exact ⟨rfl, .ended fun _ => mt (Line.within_iff significant).mp outside⟩
  | case4 state cursor more insignificant ih =>
    exact ⟨ih.1, .hidden more insignificant ih.2⟩
  | case5 state cursor done => exact ⟨rfl, .ended fun more => absurd more done⟩

theorem Gives.inside {lines : List Text} {least position left : Nat}
    (gives : Gives lines least position left) : position < lines.length :=
  hasMore_iff.mp gives.more

theorem Gives.within {lines : List Text} {least position left : Nat}
    (gives : Gives lines least position left) :
    (⟨lines, position⟩ : Cursor).current.within least :=
  (Line.within_iff gives.significant).mpr gives.level

theorem Gives.resumeAt_le {lines : List Text} {least position left : Nat}
    (gives : Gives lines least position left) : resumeAt position left ≤ lines.length := by
  have inside := gives.inside
  exact Cursor.resumeAt_le gives.bound (by omega)

namespace Course

variable {lines : List Text} {least start stop : Nat} {taken : List Taken} {complete : Bool}
  (course : Course lines least start taken stop complete)

include course

theorem start_le : start ≤ stop := by
  induction course with
  | ended => exact Nat.le_refl _
  | hidden _ _ _ ih => omega
  | broken gives => exact gives.forward
  | given gives _ ih => exact (Nat.le_of_lt (lt_resumeAt gives.forward)).trans ih

/-- A scan that starts in its source stops in it. -/
theorem stop_le (inside : start ≤ lines.length) : stop ≤ lines.length := by
  induction course with
  | ended => exact inside
  | hidden more _ _ ih => exact ih (hasMore_iff.mp more)
  | broken gives => exact gives.bound
  | given gives _ ih => exact ih gives.resumeAt_le

/-- What a scan gives away are lines of its source in its scope. -/
theorem gives_of_mem {entry : Taken} (member : entry ∈ taken) :
    ∃ position, start ≤ position ∧ Gives lines least position entry.left ∧
      entry.line = Cursor.current ⟨lines, position⟩ := by
  induction course with
  | ended => cases member
  | hidden _ _ _ ih =>
    obtain ⟨position, later, gives, same⟩ := ih member
    exact ⟨position, by omega, gives, same⟩
  | broken gives =>
    rw [List.mem_singleton.mp member]
    exact ⟨_, Nat.le_refl _, gives, rfl⟩
  | given gives _ ih =>
    rcases List.mem_cons.mp member with rfl | member
    · exact ⟨_, Nat.le_refl _, gives, rfl⟩
    · obtain ⟨position, later, further, same⟩ := ih member
      exact ⟨position, (Nat.le_of_lt (lt_resumeAt gives.forward)).trans later, further, same⟩

/-- Each line stands below the one given before it, and not above the place where the consumer left
the cursor. -/
theorem increasing : taken.Pairwise fun earlier later =>
    earlier.line.number < later.line.number ∧ earlier.left < later.line.number := by
  induction course with
  | ended => exact .nil
  | hidden _ _ _ ih => exact ih
  | broken => exact List.pairwise_singleton _ _
  | @given position left _ _ _ gives rest ih =>
    refine .cons ?_ ih
    intro entry member
    obtain ⟨later, lower, _, same⟩ := rest.gives_of_mem member
    have passed := lt_resumeAt gives.forward
    have number : entry.line.number = later + 1 := by rw [same]; rfl
    have reached := le_resumeAt position left
    constructor
    · change position + 1 < entry.line.number
      omega
    · change left < entry.line.number
      omega

/-- The significant lines that a scan passes are given away, or else its consumer passes them. -/
theorem covers {position : Nat} (lower : start ≤ position) (upper : position < stop)
    (significant : (⟨lines, position⟩ : Cursor).current.isSignificant) :
    ∃ entry ∈ taken, entry.line = Cursor.current ⟨lines, position⟩ ∨
      entry.line.number ≤ position ∧ position < entry.left := by
  induction course with
  | ended => omega
  | @hidden here _ _ _ _ insignificant _ ih =>
    have apart : position ≠ here := by
      rintro rfl
      exact insignificant significant
    exact ih (by omega) upper
  | @broken here left gives =>
    refine ⟨_, List.mem_singleton_self _, ?_⟩
    by_cases same : position = here
    · exact Or.inl (by rw [same])
    · exact Or.inr ⟨show here + 1 ≤ position by omega, upper⟩
  | @given here left _ _ _ gives rest ih =>
    -- Below the line given the consumer passes what is above the place where it leaves the cursor.
    by_cases same : position = here
    · exact ⟨_, List.mem_cons_self, Or.inl (by rw [same])⟩
    · by_cases jumped : position < left
      · exact ⟨_, List.mem_cons_self, Or.inr ⟨show here + 1 ≤ position by omega, jumped⟩⟩
      · obtain ⟨entry, member, covered⟩ := ih (resumeAt_le (by omega) same) upper
        exact ⟨entry, List.mem_cons_of_mem _ member, covered⟩

/-- A complete scan stops at the first line outside its scope that comes after the place where its
consumer left the cursor last. -/
theorem closes (whole : complete = true) :
    lastLeft start taken ≤ stop ∧
      ((⟨lines, stop⟩ : Cursor).hasMore → ¬(⟨lines, stop⟩ : Cursor).current.within least) ∧
      ∀ position, lastLeft start taken ≤ position → position < stop →
        (⟨lines, position⟩ : Cursor).current.within least := by
  induction course with
  | ended outside =>
    refine ⟨Nat.le_refl _, outside, ?_⟩
    intro position lower upper
    exact absurd upper (Nat.not_lt.mpr lower)
  | @hidden here _ _ _ _ insignificant _ ih =>
    obtain ⟨reached, outside, inside⟩ := ih whole
    refine ⟨lastLeft_le reached fun later => by omega, outside, ?_⟩
    intro position lower upper
    by_cases same : position = here
    · rw [same]
      exact Line.within_of_not_significant insignificant least
    · exact inside position (lastLeft_le lower fun later => by omega) upper
  | broken => cases whole
  | @given here left _ _ _ gives _ ih =>
    obtain ⟨reached, outside, inside⟩ := ih whole
    refine ⟨?_, outside, ?_⟩
    · rw [lastLeft_cons]
      exact lastLeft_le reached (le_resumeAt here left).trans
    · intro position lower upper
      rw [lastLeft_cons] at lower
      by_cases same : position = here
      · rw [same]
        exact gives.within
      · exact inside position (lastLeft_le lower fun later => resumeAt_le later same) upper

/-- A scan that is broken off stops where its consumer left the cursor last. -/
theorem breaks (part : complete = false) :
    ∃ last, taken.getLast? = some last ∧ stop = last.left := by
  induction course with
  | ended => cases part
  | hidden _ _ _ ih => exact ih part
  | broken => exact ⟨_, rfl, rfl⟩
  | given _ _ ih =>
    obtain ⟨last, found, same⟩ := ih part
    exact ⟨last, by rw [List.getLast?_cons, found]; rfl, same⟩

end Course

end Cursor

end AppDescription
