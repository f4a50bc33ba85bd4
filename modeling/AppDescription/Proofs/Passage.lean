import AppDescription.Outline
import AppDescription.Proofs.Literal

namespace AppDescription

theorem Line.within_iff {least : Nat} {line : Line} (significant : line.isSignificant) :
    line.within least = true ↔ least ≤ line.indent := by
  simp [within, significant]

theorem Line.within_of_not_significant {line : Line} (hidden : ¬line.isSignificant)
    (least : Nat) : line.within least = true := by
  simp [within, hidden]

theorem Line.within_mono {lower upper : Nat} {line : Line} (ordered : lower ≤ upper)
    (inside : line.within upper = true) : line.within lower = true := by
  by_cases significant : line.isSignificant
  · rw [within_iff significant] at inside ⊢
    exact ordered.trans inside
  · exact within_of_not_significant significant lower

theorem Line.continues_within {least depth : Nat} {line : Line} (deep : least ≤ depth)
    (inside : line.continues depth = true) : line.within least = true := by
  rcases Bool.or_eq_true_iff.mp inside with blank | deeper
  · exact within_of_not_significant (isBlank_not_significant blank) least
  · have ordered := deep.trans (of_decide_eq_true deeper)
    simp [within, ordered]

/-- From `lines` to `rest` a reader goes over lines that may lie in a block whose members are
indented by `least` or more. -/
def Passes (least : Nat) (lines rest : List Line) : Prop :=
  ∃ passed, lines = passed ++ rest ∧ ∀ line ∈ passed, line.within least = true

namespace Passes

theorem refl (least : Nat) (lines : List Line) : Passes least lines lines :=
  ⟨[], rfl, by simp⟩

theorem trans {least : Nat} {lines middle rest : List Line}
    (first : Passes least lines middle) (second : Passes least middle rest) :
    Passes least lines rest := by
  obtain ⟨left, rfl, insideLeft⟩ := first
  obtain ⟨right, rfl, insideRight⟩ := second
  refine ⟨left ++ right, by rw [List.append_assoc], ?_⟩
  intro line member
  rcases List.mem_append.mp member with earlier | later
  · exact insideLeft line earlier
  · exact insideRight line later

theorem mono {lower upper : Nat} {lines rest : List Line} (ordered : lower ≤ upper)
    (passes : Passes upper lines rest) : Passes lower lines rest := by
  obtain ⟨passed, same, inside⟩ := passes
  exact ⟨passed, same, fun line member => Line.within_mono ordered (inside line member)⟩

theorem cons {least : Nat} {line : Line} {lines rest : List Line}
    (inside : line.within least = true) (passes : Passes least lines rest) :
    Passes least (line :: lines) rest :=
  Passes.trans ⟨[line], rfl, by simpa using inside⟩ passes

theorem length_le {least : Nat} {lines rest : List Line} (passes : Passes least lines rest) :
    rest.length ≤ lines.length := by
  obtain ⟨passed, rfl, _⟩ := passes
  simp

/-- What may lie in a block never decides where the block ends. -/
theorem afterBlock_eq {least : Nat} {lines rest : List Line} (passes : Passes least lines rest) :
    afterBlock least lines = afterBlock least rest := by
  obtain ⟨passed, rfl, inside⟩ := passes
  exact List.dropWhile_append_of_pos inside

end Passes

theorem takeWhile_passes {least : Nat} {keep : Line → Bool}
    (inside : ∀ line, keep line = true → line.within least = true) (lines : List Line) :
    Passes least lines (lines.dropWhile keep) :=
  ⟨lines.takeWhile keep, List.takeWhile_append_dropWhile.symm,
    fun line member => inside line (List.mem_takeWhile_imp member)⟩

theorem afterBlock_passes (least : Nat) (lines : List Line) :
    Passes least lines (afterBlock least lines) :=
  takeWhile_passes (fun _ inside => inside) lines

/-- Blank and comment lines are passed at any level. -/
theorem dropInsignificant_passes (least : Nat) (lines : List Line) :
    Passes least lines (lines.dropWhile fun line => !line.isSignificant) :=
  takeWhile_passes (fun _ hidden => Line.within_of_not_significant (by simpa using hidden) least) lines

theorem baseline?_ge {least base : Nat} {lines : List Line}
    (found : baseline? least lines = some base) : least ≤ base := by
  unfold baseline? at found
  split at found
  · split at found
    · cases Option.some.inj found
      assumption
    · simp at found
  · simp at found

theorem afterMembers_passes (least : Nat) (lines : List Line) :
    Passes least lines (afterMembers least lines) := by
  unfold afterMembers
  split
  · rename_i base found
    exact (afterBlock_passes base lines).mono (baseline?_ge found)
  · exact .refl least lines

/-- A literal reaches no further than the block of everything deeper than its marker. -/
theorem afterLiteral_passes (least : Nat) (lines : List Line) :
    Passes least lines (afterLiteral least lines) := by
  obtain ⟨passed, whole, stays⟩ := afterLiteral_continues least lines
  exact ⟨passed, whole, fun line member => Line.continues_within le_rfl (stays line member)⟩

theorem elseBranch?_eq_some {indent : Nat} {lines rest : List Line} {line : Line}
    (found : elseBranch? indent lines = some (line, rest)) :
    lines.dropWhile (fun line => !line.isSignificant) = line :: rest ∧
      line.indent = indent ∧ Header.isElse line.text := by
  unfold elseBranch? at found
  split at found
  · simp at found
  · rename_i first others remaining
    split at found
    · rename_i fits
      simp only [Option.some.injEq, Prod.mk.injEq] at found
      obtain ⟨rfl, rfl⟩ := found
      exact ⟨remaining, fits⟩
    · simp at found

section

variable (least : Nat) (lines : List Line)

theorem members_append_afterMembers : members least lines ++ afterMembers least lines = lines := by
  unfold members afterMembers
  split
  · exact block_append_afterBlock _ _
  · rfl

theorem afterBlock_suffix : afterBlock least lines <:+ lines :=
  List.dropWhile_suffix _

theorem afterMembers_suffix : afterMembers least lines <:+ lines :=
  ⟨members least lines, members_append_afterMembers least lines⟩

theorem afterLiteral_suffix : afterLiteral least lines <:+ lines := by
  obtain ⟨passed, whole, _⟩ := afterLiteral_passes least lines
  exact ⟨passed, whole.symm⟩

theorem members_sublist : (members least lines).Sublist lines := by
  conv => rhs; rw [← members_append_afterMembers least lines]
  exact List.sublist_append_left _ _

end

theorem elseBranch?_suffix {indent : Nat} {lines more : List Line} {elseLine : Line}
    (found : elseBranch? indent lines = some (elseLine, more)) : elseLine :: more <:+ lines := by
  rw [← (elseBranch?_eq_some found).1]
  exact List.dropWhile_suffix _

/-- Every significant line among the members reaches the level they are read at. -/
theorem le_indent_of_mem_members {least : Nat} {lines : List Line} {line : Line}
    (significant : line.isSignificant) (member : line ∈ members least lines) :
    least ≤ line.indent := by
  unfold members at member
  split at member
  · rename_i base found
    exact (baseline?_ge found).trans ((Line.within_iff significant).mp (List.mem_takeWhile_imp member))
  · simp at member

end AppDescription
