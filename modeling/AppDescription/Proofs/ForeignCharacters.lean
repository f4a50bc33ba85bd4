import AppDescription.Proofs.Identifiers

namespace AppDescription

namespace Vue

/-- A character that is in no name, and in no symbol that stands for an operator. -/
structure IsForeign (c : Char) : Prop where
  word : isWord c = false
  symbol : c ∉ [' ', '!', '=', '&', '|', '(']

theorem quote_isForeign : IsForeign '"' :=
  ⟨by decide +kernel, by decide⟩

variable {c : Char}

theorem mem_of_afterSpacedWord? {word text more : Text}
    (found : afterSpacedWord? word text = some more) (member : c ∈ more) : c ∈ text := by
  obtain ⟨d, rest, rfl, _, rfl⟩ := afterSpacedWord?_eq_some found
  have inRest := (List.dropWhile_sublist _).mem member
  exact List.mem_append_right _ (List.mem_cons_of_mem d inRest)

theorem mem_of_mem_trimStart {text : Text} (member : c ∈ Text.trimStart text) : c ∈ text :=
  (List.dropWhile_sublist _).mem member

theorem mem_replaceSpacedWord {word replacement text : Text}
    (member : c ∈ replaceSpacedWord word replacement text) : c ∈ replacement ∨ c ∈ text := by
  induction text using replaceSpacedWord.induct word with
  | case1 =>
    rw [replaceSpacedWord] at member
    cases member
  | case2 d rest blank more found ih =>
    rw [replaceSpacedWord_found blank found] at member
    rcases List.mem_append.mp member with symbol | later
    · exact .inl symbol
    · refine (ih later).imp_right fun inMore => List.mem_cons_of_mem d ?_
      exact mem_of_mem_trimStart (mem_of_afterSpacedWord? found inMore)
  | case3 d rest blank none ih =>
    rw [replaceSpacedWord_missing none] at member
    rcases List.mem_cons.mp member with rfl | later
    · exact .inr List.mem_cons_self
    · exact (ih later).imp_right (List.mem_cons_of_mem d)
  | case4 d rest solid ih =>
    rw [replaceSpacedWord, if_neg solid] at member
    rcases List.mem_cons.mp member with rfl | later
    · exact .inr List.mem_cons_self
    · exact (ih later).imp_right (List.mem_cons_of_mem d)

theorem mem_replaceParenthesizedNot {text : Text} (member : c ∈ replaceParenthesizedNot text) :
    c = '!' ∨ c ∈ text := by
  induction text using replaceParenthesizedNot.induct with
  | case1 =>
    rw [replaceParenthesizedNot] at member
    cases member
  | case2 rest more found ih =>
    have whole : "(!".toList = ['(', '!'] := by decide
    rw [replaceParenthesizedNot_found found, whole, List.cons_append, List.cons_append,
      List.nil_append] at member
    rcases List.mem_cons.mp member with rfl | later
    · exact .inr List.mem_cons_self
    · rcases List.mem_cons.mp later with mark | last
      · exact .inl mark
      · refine (ih last).imp_right fun inMore => List.mem_cons_of_mem '(' ?_
        exact mem_of_mem_trimStart (mem_of_afterSpacedWord? found inMore)
  | case3 rest none ih =>
    rw [replaceParenthesizedNot_missing none] at member
    rcases List.mem_cons.mp member with rfl | later
    · exact .inr List.mem_cons_self
    · exact (ih later).imp_right (List.mem_cons_of_mem '(')
  | case4 d rest other ih =>
    rw [replaceParenthesizedNot, if_neg other] at member
    rcases List.mem_cons.mp member with rfl | later
    · exact .inr List.mem_cons_self
    · exact (ih later).imp_right (List.mem_cons_of_mem d)

theorem mem_replaceLeadingNot {text : Text} (member : c ∈ replaceLeadingNot text) :
    c = '!' ∨ c ∈ text := by
  unfold replaceLeadingNot at member
  split at member
  · rename_i rest found
    exact (List.mem_cons.mp member).imp_right (mem_of_afterSpacedWord? found)
  · exact .inr member

namespace IsForeign

variable (foreign : IsForeign c)
include foreign

theorem mem_of_toScript {expression : Text} (member : c ∈ toScript expression) :
    c ∈ expression := by
  have symbols : ∀ operator ∈ wordOperators, operator.2 ⊆ [' ', '!', '=', '&', '|', '('] := by
    decide
  unfold toScript at member
  generalize wordOperators = operators at symbols member
  induction operators generalizing expression with
  | nil => exact member
  | cons operator operators ih =>
    obtain ⟨first, others⟩ := List.forall_mem_cons.mp symbols
    exact (mem_replaceSpacedWord (ih others member)).resolve_left fun inSymbol =>
      foreign.symbol (first inSymbol)

theorem ne_mark : c ≠ '!' := by
  rintro rfl
  exact foreign.symbol (by decide)

theorem mem_of_mapWords {f : Text → Text} (named : ∀ word : Text, word.IsName → (f word).IsName)
    {text : Text} (member : c ∈ mapWords f text) : c ∈ text := by
  induction text using byWords with
  | nil =>
    rw [mapWords] at member
    exact member
  | gap d rest other ih =>
    rw [mapWords, if_neg (by simp [other])] at member
    rcases List.mem_cons.mp member with rfl | later
    · exact List.mem_cons_self
    · exact List.mem_cons_of_mem d (ih later)
  | word word after isName stops ih =>
    rw [mapWords_word isName stops] at member
    rcases List.mem_append.mp member with inWord | later
    · have isWord := (named word isName).2 c inWord
      rw [foreign.word] at isWord
      cases isWord
    · exact List.mem_append_right word (ih later)

/-- A foreign character of a condition comes from its expression. -/
theorem mem_of_toCondition {expression : Text} (member : c ∈ toCondition expression) :
    c ∈ expression := by
  have inText := foreign.mem_of_mapWords spelling_keepsOperators.isName member
  have inScript := (mem_replaceParenthesizedNot inText).resolve_left foreign.ne_mark
  exact foreign.mem_of_toScript ((mem_replaceLeadingNot inScript).resolve_left foreign.ne_mark)

end IsForeign

end Vue

end AppDescription
