import Mathlib.Data.List.TakeWhile
import AppDescription.Block

namespace AppDescription

/-- Whether a line stays in a literal whose first line is indented by `depth`. -/
def Line.continues (depth : Nat) (line : Line) : Bool :=
  line.isBlank || depth ≤ line.indent

theorem Line.isBlank_not_significant {line : Line} (blank : line.isBlank) :
    ¬line.isSignificant := by
  have empty : line.text = [] := List.isEmpty_iff.mp blank
  simp [isSignificant, kind, empty, LineKind.ofText, LineKind.isSignificant]

theorem Line.significant_not_isBlank {line : Line} (significant : line.isSignificant) :
    line.isBlank = false := by
  rw [← Bool.not_eq_true]
  exact fun blank => isBlank_not_significant blank significant

theorem literalLines?_of_deep {least : Nat} {lines rest : List Line} {first : Line}
    (started : lines.dropWhile Line.isBlank = first :: rest) (deep : least ≤ first.indent) :
    literalLines? least lines =
      some (first.indent, first :: rest.takeWhile (Line.continues first.indent)) := by
  simp only [literalLines?, started, if_pos deep]
  rfl

theorem literalLines?_of_shallow {least : Nat} {lines : List Line}
    (shallow : ∀ first rest, lines.dropWhile Line.isBlank = first :: rest → first.indent < least) :
    literalLines? least lines = none := by
  unfold literalLines?
  split
  · rfl
  · rename_i first rest started
    exact if_neg (Nat.not_le.mpr (shallow first rest started))

/-- A literal is empty, or it has a first line, which sets the indentation of all its lines. -/
theorem literal_cases (least : Nat) (lines : List Line) :
    (∃ first rest, lines.dropWhile Line.isBlank = first :: rest ∧ least ≤ first.indent) ∨
      ∀ first rest, lines.dropWhile Line.isBlank = first :: rest → first.indent < least := by
  by_cases started : ∃ first rest, lines.dropWhile Line.isBlank = first :: rest ∧
      least ≤ first.indent
  · exact Or.inl started
  · right
    intro first rest same
    exact Nat.lt_of_not_le fun deep => started ⟨first, rest, same, deep⟩

theorem afterLiteral_of_deep {least : Nat} {lines rest : List Line} {first : Line}
    (started : lines.dropWhile Line.isBlank = first :: rest) (deep : least ≤ first.indent) :
    afterLiteral least lines = rest.dropWhile (Line.continues first.indent) := by
  have cut := List.takeWhile_append_dropWhile (p := Line.continues first.indent) (l := rest)
  simp only [afterLiteral, literalLines?_of_deep started deep, started, List.length_cons,
    List.drop_succ_cons]
  calc rest.drop (rest.takeWhile (Line.continues first.indent)).length
      = (rest.takeWhile (Line.continues first.indent) ++
          rest.dropWhile (Line.continues first.indent)).drop
            (rest.takeWhile (Line.continues first.indent)).length := by rw [cut]
    _ = rest.dropWhile (Line.continues first.indent) := List.drop_left

theorem afterLiteral_of_shallow {least : Nat} {lines : List Line}
    (shallow : ∀ first rest, lines.dropWhile Line.isBlank = first :: rest → first.indent < least) :
    afterLiteral least lines = lines.dropWhile Line.isBlank := by
  simp only [afterLiteral, literalLines?_of_shallow shallow]

/-- A literal goes over blank lines and over lines that are deep enough, and over no others. -/
theorem afterLiteral_continues (least : Nat) (lines : List Line) :
    ∃ passed, lines = passed ++ afterLiteral least lines ∧
      ∀ line ∈ passed, line.continues least = true := by
  have blanks : ∀ line ∈ lines.takeWhile Line.isBlank, line.continues least = true :=
    fun line member => by simp [Line.continues, List.mem_takeWhile_imp member]
  have whole := List.takeWhile_append_dropWhile (p := Line.isBlank) (l := lines)
  rcases literal_cases least lines with ⟨first, rest, started, deep⟩ | shallow
  · have stays (line : Line) (inside : line.continues first.indent = true) :
        line.continues least = true := by
      rcases Bool.or_eq_true_iff.mp inside with blank | deeper
      · simp [Line.continues, blank]
      · simp [Line.continues, deep.trans (of_decide_eq_true deeper)]
    refine ⟨lines.takeWhile Line.isBlank ++
      first :: rest.takeWhile (Line.continues first.indent), ?_, ?_⟩
    · rw [afterLiteral_of_deep started deep, List.append_assoc, List.cons_append,
        List.takeWhile_append_dropWhile, ← started, whole]
    · rw [List.forall_mem_append, List.forall_mem_cons]
      exact ⟨blanks, by simp [Line.continues, deep], fun line member =>
        stays line (List.mem_takeWhile_imp member)⟩
  · exact ⟨_, by rw [afterLiteral_of_shallow shallow, whole], blanks⟩

end AppDescription
