import AppDescription.Proofs.ExpressionPasses

namespace AppDescription

namespace Vue

/-- What a pass does to a text. Without a match the text stays, and with one it has fewer word
characters than before. -/
def Wanes (matched : Prop) (old new : Text) : Prop :=
  (¬matched ∧ new = old) ∨ (matched ∧ new.countP isWord < old.countP isWord)

namespace Wanes

variable {matched matched' : Prop} {old old' new new' : Text}

theorem countP_le (wanes : Wanes matched old new) : new.countP isWord ≤ old.countP isWord := by
  rcases wanes with ⟨_, rfl⟩ | ⟨_, fewer⟩
  · exact le_rfl
  · exact fewer.le

theorem eq_iff (wanes : Wanes matched old new) : new = old ↔ ¬matched := by
  rcases wanes with ⟨unmatched, same⟩ | ⟨found, fewer⟩
  · exact iff_of_true same unmatched
  · refine iff_of_false (fun same => ?_) (not_not_intro found)
    rw [same] at fewer
    omega

theorem congr (same : matched ↔ matched') (wanes : Wanes matched old new) :
    Wanes matched' old new := by
  rwa [Wanes, ← same]

theorem append (wanes : Wanes matched old new) (wanes' : Wanes matched' old' new') :
    Wanes (matched ∨ matched') (old ++ old') (new ++ new') := by
  have le := wanes.countP_le
  have le' := wanes'.countP_le
  unfold Wanes
  rw [List.countP_append, List.countP_append]
  rcases wanes with ⟨unmatched, same⟩ | ⟨found, fewer⟩
  · rcases wanes' with ⟨unmatched', same'⟩ | ⟨found', fewer'⟩
    · exact .inl ⟨not_or_intro unmatched unmatched', by rw [same, same']⟩
    · exact .inr ⟨.inr found', by omega⟩
  · exact .inr ⟨.inl found, by omega⟩

theorem cons (c : Char) (wanes : Wanes matched old new) : Wanes matched (c :: old) (c :: new) := by
  have alone : Wanes False [c] [c] := .inl ⟨not_false, rfl⟩
  exact (alone.append wanes).congr (iff_of_eq (false_or matched))

theorem trans {after : Text} (wanes : Wanes matched old new)
    (wanes' : new = old → Wanes matched' old after) (le : after.countP isWord ≤ new.countP isWord) :
    Wanes (matched ∨ matched') old after := by
  rcases wanes with ⟨unmatched, same⟩ | ⟨found, fewer⟩
  · exact (wanes' same).congr (by simp [unmatched])
  · exact .inr ⟨.inl found, by omega⟩

end Wanes

/-- A pass that takes word characters away at each match, and changes nothing else. -/
def WaningPass (matched : Text → Prop) (pass : Text → Text) : Prop :=
  ∀ text, Wanes (matched text) text (pass text)

namespace WaningPass

/-- Passes one after the other change what one of them alone changes. -/
theorem followedBy {matched matched' : Text → Prop} {first second : Text → Text}
    (waning : WaningPass matched first) (waning' : WaningPass matched' second) :
    WaningPass (fun text => matched text ∨ matched' text) fun text => second (first text) := by
  intro text
  refine (waning text).trans (fun same => ?_) (waning' (first text)).countP_le
  have second := waning' text
  dsimp only
  rwa [same]

theorem foldl {matched : α → Text → Prop} {pass : α → Text → Text} {operators : List α}
    (each : ∀ operator ∈ operators, WaningPass (matched operator) (pass operator)) :
    WaningPass (fun text => ∃ operator ∈ operators, matched operator text)
      fun text => operators.foldl (fun text operator => pass operator text) text := by
  induction operators with
  | nil => exact fun text => .inl ⟨by simp, rfl⟩
  | cons operator operators ih =>
    obtain ⟨waning, later⟩ := List.forall_mem_cons.mp each
    exact fun text => (waning.followedBy (ih later) text).congr (by simp)

end WaningPass

/-- A word that stands in white space. -/
def Spaced (word text : Text) : Prop :=
  ∃ before c d after, isBlank c = true ∧ isBlank d = true ∧
    text = before ++ c :: (word ++ d :: after)

/-- A `not` that comes first after an opening parenthesis, white space apart. -/
def NegatedGroup (text : Text) : Prop :=
  ∃ before gap d after, (∀ c ∈ gap, isBlank c = true) ∧ isBlank d = true ∧
    text = before ++ '(' :: (gap ++ ("not" ++ d :: after))

/-- A snake case name with no word character right before or after it. -/
def SnakeCaseWithin (text : Text) : Prop :=
  ∃ before word after, isSnakeCase word = true ∧ (∀ c ∈ before.getLast?, isWord c = false) ∧
    Stops isWord after ∧ text = before ++ (word ++ after)

variable {word symbol text rest more : Text} {c : Char}

theorem countP_of_afterSpacedWord? (found : afterSpacedWord? word (Text.trimStart text) = some more) :
    word.countP isWord + more.countP isWord ≤ text.countP isWord := by
  obtain ⟨_, gap, _, whole⟩ := afterSpacedWord?_eq_some_iff.mp found
  have fewer : (Text.trimStart text).countP isWord ≤ text.countP isWord :=
    (List.dropWhile_suffix isBlank).sublist.countP_le
  rw [whole, List.countP_append, List.countP_append] at fewer
  omega

theorem afterSpacedWord?_isSome_iff (starts : word ≠ [] ∧ Stops isBlank word) :
    (afterSpacedWord? word (Text.trimStart rest)).isSome ↔ ∃ gap d after,
      (∀ c ∈ gap, isBlank c = true) ∧ isBlank d = true ∧ rest = gap ++ (word ++ d :: after) := by
  constructor
  · intro found
    obtain ⟨more, found⟩ := Option.isSome_iff_exists.mp found
    obtain ⟨d, after, whole, blank, _⟩ := afterSpacedWord?_eq_some found
    refine ⟨rest.takeWhile isBlank, d, after, fun x member => List.mem_takeWhile_imp member, blank, ?_⟩
    rw [← whole, Text.trimStart, List.takeWhile_append_dropWhile]
  · rintro ⟨gap, d, after, blanks, blank, rfl⟩
    have stops : Stops isBlank (word ++ d :: after) := .append starts.1 starts.2
    have trimmed : Text.trimStart (gap ++ (word ++ d :: after)) = word ++ d :: after :=
      stops.dropWhile_append blanks
    simp [trimmed, afterSpacedWord?, Text.dropPrefix?_append, blank]

theorem spaced_cons_iff (starts : word ≠ [] ∧ Stops isBlank word) : Spaced word (c :: rest) ↔
    (isBlank c = true ∧ (afterSpacedWord? word (Text.trimStart rest)).isSome) ∨ Spaced word rest := by
  rw [afterSpacedWord?_isSome_iff starts]
  constructor
  · rintro ⟨before, d, e, after, blank, blank', whole⟩
    cases before with
    | nil =>
      obtain ⟨rfl, rfl⟩ := List.cons.inj whole
      exact .inl ⟨blank, [], e, after, by simp, blank', rfl⟩
    | cons x before => exact .inr ⟨before, d, e, after, blank, blank', (List.cons.inj whole).2⟩
  · rintro (⟨blank, gap, e, after, blanks, blank', rfl⟩ | ⟨before, d, e, after, blank, blank', rfl⟩)
    · -- The character right before the word is the last of the gap.
      rcases List.eq_nil_or_concat gap with rfl | ⟨front, d, rfl⟩
      · exact ⟨[], c, e, after, blank, blank', rfl⟩
      · exact ⟨c :: front, d, e, after, blanks d (by simp), blank', by simp⟩
    · exact ⟨c :: before, d, e, after, blank, blank', rfl⟩

/-- A word with a word character in it, and a symbol without one. Lengths would not do, since ` or ` and
its symbol have the same. -/
structure IsRespelling (word symbol : Text) : Prop where
  starts : word ≠ [] ∧ Stops isBlank word
  lettered : 0 < word.countP isWord
  marks : symbol.countP isWord = 0

theorem isRespelling_of_mem {operator : Text × Text} (among : operator ∈ wordOperators) :
    IsRespelling operator.1 operator.2 := by
  have all : ∀ operator ∈ wordOperators,
      (operator.1 ≠ [] ∧ Stops isBlank operator.1) ∧
      0 < operator.1.countP isWord ∧ operator.2.countP isWord = 0 := by
    decide +kernel
  obtain ⟨starts, lettered, marks⟩ := all operator among
  exact ⟨starts, lettered, marks⟩

theorem IsRespelling.waning (respelling : IsRespelling word symbol) :
    WaningPass (Spaced word) (replaceSpacedWord word symbol) := by
  intro text
  induction text using replaceSpacedWord.induct word with
  | case1 => exact .inl ⟨by simp [Spaced], by rw [replaceSpacedWord]⟩
  | case2 c rest blank more found ih =>
    have spaced : Spaced word (c :: rest) :=
      (spaced_cons_iff respelling.starts).mpr (.inl ⟨blank, by rw [found]; rfl⟩)
    have fewer := countP_of_afterSpacedWord? found
    have lettered := respelling.lettered
    have later := ih.countP_le
    rw [replaceSpacedWord_found blank found]
    refine .inr ⟨spaced, ?_⟩
    rw [List.countP_append, respelling.marks, List.countP_cons]
    omega
  | case3 c rest blank none ih =>
    rw [replaceSpacedWord_missing none]
    exact (ih.cons c).congr (by simp [spaced_cons_iff respelling.starts, none])
  | case4 c rest solid ih =>
    rw [replaceSpacedWord, if_neg solid]
    exact (ih.cons c).congr (by simp [spaced_cons_iff respelling.starts, solid])

theorem waning_toScript :
    WaningPass (fun text => ∃ operator ∈ wordOperators, Spaced operator.1 text) toScript :=
  .foldl fun _ among => (isRespelling_of_mem among).waning

theorem isRespelling_not : IsRespelling "not" " !" := by
  have among : ("not".toList, " !".toList) ∈ wordOperators := by decide
  exact isRespelling_of_mem among

theorem negatedGroup_cons_iff : NegatedGroup (c :: rest) ↔
    (c = '(' ∧ (afterSpacedWord? "not" (Text.trimStart rest)).isSome) ∨ NegatedGroup rest := by
  rw [afterSpacedWord?_isSome_iff isRespelling_not.starts]
  constructor
  · rintro ⟨before, gap, d, after, blanks, blank, whole⟩
    cases before with
    | nil =>
      obtain ⟨rfl, rfl⟩ := List.cons.inj whole
      exact .inl ⟨rfl, gap, d, after, blanks, blank, rfl⟩
    | cons x before =>
      exact .inr ⟨before, gap, d, after, blanks, blank, (List.cons.inj whole).2⟩
  · rintro (⟨rfl, gap, d, after, blanks, blank, rfl⟩ | ⟨before, gap, d, after, blanks, blank, rfl⟩)
    · exact ⟨[], gap, d, after, blanks, blank, rfl⟩
    · exact ⟨c :: before, gap, d, after, blanks, blank, rfl⟩

theorem waning_replaceParenthesizedNot : WaningPass NegatedGroup replaceParenthesizedNot := by
  intro text
  induction text using replaceParenthesizedNot.induct with
  | case1 => exact .inl ⟨by simp [NegatedGroup], by rw [replaceParenthesizedNot]⟩
  | case2 rest more found ih =>
    have negated : NegatedGroup ('(' :: rest) :=
      negatedGroup_cons_iff.mpr (.inl ⟨rfl, by rw [found]; rfl⟩)
    have fewer := countP_of_afterSpacedWord? found
    have lettered := isRespelling_not.lettered
    have marks : "(!".toList.countP isWord = 0 := by decide +kernel
    have later := ih.countP_le
    rw [replaceParenthesizedNot_found found]
    refine .inr ⟨negated, ?_⟩
    rw [List.countP_append, marks, List.countP_cons]
    omega
  | case3 rest none ih =>
    rw [replaceParenthesizedNot_missing none]
    refine (ih.cons '(').congr ?_
    rw [negatedGroup_cons_iff, none]
    simp
  | case4 c rest other ih =>
    rw [replaceParenthesizedNot, if_neg other]
    exact (ih.cons c).congr (by simp [negatedGroup_cons_iff, other])

theorem camelCase_eq_or_shorter (word : Text) :
    camelCase word = word ∨ (camelCase word).length < word.length := by
  induction word using camelCase.induct with
  | case1 c rest lower ih =>
    right
    rw [camelCase, if_pos lower]
    rcases ih with same | shorter
    · simp [same]
    · simp only [List.length_cons]
      omega
  | case2 c rest other ih =>
    rw [camelCase, if_neg other, List.cons.injEq, List.length_cons, List.length_cons]
    exact ih.imp (⟨rfl, ·⟩) (by omega)
  | case3 c rest plain ih =>
    rw [camelCase, List.cons.injEq, List.length_cons, List.length_cons]
    · exact ih.imp (⟨rfl, ·⟩) (by omega)
    · exact plain
  | case4 => exact .inl rfl

theorem isName_of_isSnakeCase (snake : isSnakeCase word = true) : word.IsName := by
  obtain ⟨before, c, after, whole, _⟩ := exists_of_isSnakeCase snake
  refine ⟨by simp [whole], fun c among => ?_⟩
  rcases mem_of_isSnakeCase snake c among with rfl | lower
  · decide
  · have letter : (c.isUpper || c.isLower || c.isDigit || c = '_' || inRuns wordRuns c.toNat) = true := by
      simp [lower]
    exact letter

theorem wanes_spelling (word : Text) : Wanes (isSnakeCase word = true) word (spelling word) := by
  have respelled := isSnakeCase_spelling word
  by_cases snake : isSnakeCase word = true
  · have all := (isName_of_isSnakeCase snake).2
    rw [spelling, if_pos snake] at respelled ⊢
    refine .inr ⟨snake, ?_⟩
    rw [List.countP_eq_length.mpr all, List.countP_eq_length.mpr (camelCase_isWord all)]
    refine (camelCase_eq_or_shorter word).resolve_left fun same => ?_
    rw [same, snake] at respelled
    cases respelled
  · exact .inl ⟨snake, by rw [spelling, if_neg snake]⟩

theorem snakeCaseWithin_cons_iff (other : isWord c = false) :
    SnakeCaseWithin (c :: rest) ↔ SnakeCaseWithin rest := by
  constructor
  · rintro ⟨before, word, after, snake, last, stops, whole⟩
    cases before with
    | nil =>
      obtain ⟨nonempty, all⟩ := isName_of_isSnakeCase snake
      obtain ⟨d, word, rfl⟩ := List.exists_cons_of_ne_nil nonempty
      have first := all d List.mem_cons_self
      rw [← (List.cons.inj whole).1, other] at first
      cases first
    | cons x before =>
      refine ⟨before, word, after, snake, fun d final => last d ?_, stops, (List.cons.inj whole).2⟩
      rw [List.getLast?_cons, Option.mem_def.mp final]
      rfl
  · rintro ⟨before, word, after, snake, last, stops, rfl⟩
    refine ⟨c :: before, word, after, snake, fun d final => ?_, stops, rfl⟩
    rw [List.getLast?_cons, Option.mem_some_iff] at final
    cases found : before.getLast? with
    | none => rwa [← final, found]
    | some e =>
      rw [found] at final
      exact last d (final ▸ found)

theorem snakeCaseWithin_append_iff {after : Text} (named : word.IsName) (stops : Stops isWord after) :
    SnakeCaseWithin (word ++ after) ↔ isSnakeCase word = true ∨ SnakeCaseWithin after := by
  constructor
  · rintro ⟨before, snake, rest, isSnake, last, stops', whole⟩
    have named' := isName_of_isSnakeCase isSnake
    rcases List.append_eq_append_iff.mp whole with ⟨more, rfl, split⟩ | ⟨more, rfl, split⟩
    · right
      refine ⟨more, snake, rest, isSnake, fun c final => last c ?_, stops', split⟩
      have nonempty := List.ne_nil_of_mem (List.mem_of_getLast? final)
      rwa [Option.mem_def, List.getLast?_append_of_ne_nil _ nonempty]
    · left
      by_cases nothing : before = []
      · subst nothing
        exact (Stops.append_inj named'.2 stops' named.2 stops whole.symm).1 ▸ isSnake
      · -- The character before the snake case name would be one of the word.
        have final := List.getLast?_eq_getLast_of_ne_nil nothing
        have inWord := named.2 _ (List.mem_append_left more (List.getLast_mem nothing))
        rw [last _ final] at inWord
        cases inWord
  · rintro (snake | ⟨before, snake, rest, isSnake, last, stops', rfl⟩)
    · exact ⟨[], word, after, snake, by simp, stops, rfl⟩
    · refine ⟨word ++ before, snake, rest, isSnake, fun d final => last d ?_, stops', by simp⟩
      have nonempty : before ≠ [] := by
        rintro rfl
        obtain ⟨filled, all⟩ := isName_of_isSnakeCase isSnake
        obtain ⟨c, more, rfl⟩ := List.exists_cons_of_ne_nil filled
        have first := all c List.mem_cons_self
        rw [Stops.cons_iff.mp stops] at first
        cases first
      rwa [Option.mem_def, List.getLast?_append_of_ne_nil _ nonempty] at final

theorem waning_mapWords : WaningPass SnakeCaseWithin (mapWords spelling) := by
  intro text
  induction text using byWords with
  | nil =>
    refine .inl ⟨?_, by rw [mapWords]⟩
    rintro ⟨before, word, after, snake, _, _, whole⟩
    have nonempty := (isName_of_isSnakeCase snake).1
    simp [nonempty] at whole
  | gap c rest other ih =>
    rw [mapWords, if_neg (by simp [other])]
    exact (ih.cons c).congr (snakeCaseWithin_cons_iff other).symm
  | word word after named stops ih =>
    rw [mapWords_word named stops]
    exact ((wanes_spelling word).append ih).congr (snakeCaseWithin_append_iff named stops).symm

end Vue

end AppDescription
