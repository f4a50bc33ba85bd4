import AppDescription.Proofs.DeclaredNames
import AppDescription.Vue.Expression

namespace AppDescription

namespace Vue

/-- The words that stand for operators in an expression. -/
def operatorWords : List Text :=
  ["not", "equals", "and", "or"]

/-- Whether a word is an operator, given what follows it. At the end or before a dot the same word
is a name. -/
def standsAsOperator (word after : Text) : Bool :=
  operatorWords.contains word && after.head?.any isBlank

/-- The names in an expression: its words but for the operators. -/
def identifiers : Text → List Text
  | [] => []
  | c :: rest =>
    if isWord c then
      let word := c :: rest.takeWhile isWord
      let after := rest.dropWhile isWord
      if standsAsOperator word after then identifiers after else word :: identifiers after
    else identifiers rest
termination_by text => text.length
decreasing_by
  all_goals
    have := (List.dropWhile_suffix (l := rest) isWord).length_le
    simp only [List.length_cons]
    omega

theorem identifiers_cons {c : Char} (other : isWord c = false) (rest : Text) :
    identifiers (c :: rest) = identifiers rest := by
  rw [identifiers, if_neg (by simp [other])]

theorem identifiers_word {word after : Text} (named : word.IsName) (stops : Stops isWord after) :
    identifiers (word ++ after) =
      (if standsAsOperator word after then [] else [word]) ++ identifiers after := by
  obtain ⟨nonempty, all⟩ := named
  cases word with
  | nil => exact absurd rfl nonempty
  | cons c word =>
    obtain ⟨first, later⟩ := List.forall_mem_cons.mp all
    rw [List.cons_append, identifiers, if_pos first, stops.takeWhile_append later,
      stops.dropWhile_append later]
    dsimp only
    split <;> rfl

theorem identifiers_gap {gap : Text} (all : ∀ c ∈ gap, isWord c = false) (rest : Text) :
    identifiers (gap ++ rest) = identifiers rest := by
  induction gap with
  | nil => rfl
  | cons c gap ih =>
    obtain ⟨first, later⟩ := List.forall_mem_cons.mp all
    rw [List.cons_append, identifiers_cons first, ih later]

theorem identifiers_nil : identifiers [] = [] := by
  rw [identifiers]

/-- A text is read name by name, with whatever stands between names. -/
theorem byWords {motive : Text → Prop} (nil : motive [])
    (gap : ∀ c rest, isWord c = false → motive rest → motive (c :: rest))
    (word : ∀ word after, word.IsName → Stops isWord after → motive after → motive (word ++ after))
    (text : Text) : motive text := by
  induction size : text.length using Nat.strong_induction_on generalizing text with
  | _ size ih =>
    cases text with
    | nil => exact nil
    | cons c rest =>
      rw [List.length_cons] at size
      cases first : isWord c with
      | false => exact gap c rest first (ih rest.length (by omega) rest rfl)
      | true =>
        have shorter := (List.dropWhile_suffix (l := rest) isWord).length_le
        have named : Text.IsName (c :: rest.takeWhile isWord) :=
          ⟨by simp, List.forall_mem_cons.mpr ⟨first, fun x among => List.mem_takeWhile_imp among⟩⟩
        have whole := word _ _ named (.of_dropWhile isWord rest)
          (ih (rest.dropWhile isWord).length (by omega) _ rfl)
        rwa [List.cons_append, List.takeWhile_append_dropWhile] at whole

theorem standsAsOperator_append {after : Text} (nonempty : after ≠ []) (word rest : Text) :
    standsAsOperator word (after ++ rest) = standsAsOperator word after := by
  rw [standsAsOperator, List.head?_append_of_ne_nil _ nonempty, standsAsOperator]

/-- What stands before and after a character that is not part of a name is read separately. -/
theorem identifiers_break {c : Char} (other : isWord c = false) (before after : Text) :
    identifiers (before ++ c :: after) = identifiers (before ++ [c]) ++ identifiers after := by
  induction before using byWords with
  | nil =>
    rw [List.nil_append, List.nil_append, identifiers_cons other, identifiers_cons other,
      identifiers_nil, List.nil_append]
  | gap d rest gap ih =>
    rw [List.cons_append, List.cons_append, identifiers_cons gap, identifiers_cons gap, ih]
  | word word rest named stops ih =>
    have cuts (more : Text) : Stops isWord (rest ++ c :: more) := by
      cases rest with
      | nil => simpa using other
      | cons d rest => simpa using stops
    have same : standsAsOperator word (rest ++ c :: after) =
        standsAsOperator word (rest ++ [c]) := by
      rw [← List.singleton_append, ← List.append_assoc]
      exact standsAsOperator_append (by simp) word after
    rw [List.append_assoc, List.append_assoc, identifiers_word named (cuts after),
      identifiers_word named (cuts []), same, ih, List.append_assoc]

/-- Any white space ends a name alike. -/
theorem identifiers_blank {c d : Char} (blank : isBlank c = true) (blank' : isBlank d = true)
    (before : Text) : identifiers (before ++ [c]) = identifiers (before ++ [d]) := by
  have gap := isWord_eq_false_of_isBlank blank
  have gap' := isWord_eq_false_of_isBlank blank'
  induction before using byWords with
  | nil =>
    rw [List.nil_append, List.nil_append, identifiers_cons gap, identifiers_cons gap']
  | gap x rest other ih =>
    rw [List.cons_append, List.cons_append, identifiers_cons other, identifiers_cons other, ih]
  | word word rest named stops ih =>
    have same : standsAsOperator word (rest ++ [c]) = standsAsOperator word (rest ++ [d]) := by
      cases rest with
      | nil => simp [standsAsOperator, blank, blank']
      | cons x rest => rfl
    have cuts {x : Char} (gap : isWord x = false) : Stops isWord (rest ++ [x]) := by
      cases rest with
      | nil => simpa using gap
      | cons y rest => simpa using stops
    rw [List.append_assoc, List.append_assoc, identifiers_word named (cuts gap),
      identifiers_word named (cuts gap'), same, ih]

theorem afterSpacedWord?_eq_some {word text more : Text}
    (found : afterSpacedWord? word text = some more) :
    ∃ c rest, text = word ++ c :: rest ∧ isBlank c = true ∧ Text.trimStart rest = more := by
  obtain ⟨rest, after, spaced⟩ := Option.bind_eq_some_iff.mp found
  cases rest with
  | nil => cases spaced
  | cons c rest =>
    dsimp only at spaced
    split at spaced
    · rename_i blank
      exact ⟨c, rest, Text.dropPrefix?_eq_some after, blank, Option.some.inj spaced⟩
    · cases spaced

theorem identifiers_blanks {gap : Text} (all : ∀ c ∈ gap, isBlank c = true) (rest : Text) :
    identifiers (gap ++ rest) = identifiers rest :=
  identifiers_gap (fun c among => isWord_eq_false_of_isBlank (all c among)) rest

theorem identifiers_trimStart (text : Text) :
    identifiers (Text.trimStart text) = identifiers text := by
  have blanks : ∀ c ∈ text.takeWhile isBlank, isBlank c = true :=
    fun c among => List.mem_takeWhile_imp among
  conv_rhs => rw [← List.takeWhile_append_dropWhile (p := isBlank) (l := text)]
  rw [identifiers_blanks blanks, Text.trimStart]

/-- A word or phrase that leaves no names behind where white space follows it. -/
def Wordless (phrase : Text) : Prop :=
  ∀ c rest, isBlank c = true → identifiers (phrase ++ c :: rest) = identifiers rest

theorem wordless_of_mem {word : Text} (among : word ∈ operatorWords) : Wordless word := by
  intro c rest blank
  have named : word.IsName := by
    have all : ∀ word ∈ operatorWords, word.IsName := by decide +kernel
    exact all word among
  have gap := isWord_eq_false_of_isBlank blank
  have operator : standsAsOperator word (c :: rest) = true := by
    simp [standsAsOperator, among, blank]
  rw [identifiers_word named (by simpa using gap), if_pos operator, List.nil_append,
    identifiers_cons gap]

theorem Wordless.append {first second : Text} (wordless : Wordless first)
    (wordless' : Wordless second) : Wordless (first ++ ' ' :: second) := by
  intro c rest blank
  rw [List.append_assoc, List.cons_append, wordless ' ' _ (by decide), wordless' c rest blank]

theorem Wordless.identifiers_eq {word text more : Text} (wordless : Wordless word)
    (found : afterSpacedWord? word (Text.trimStart text) = some more) :
    identifiers more = identifiers text := by
  obtain ⟨c, rest, whole, blank, rfl⟩ := afterSpacedWord?_eq_some found
  rw [identifiers_trimStart, ← identifiers_trimStart text, whole, wordless c rest blank]

theorem replaceSpacedWord_found {word replacement rest more : Text} {c : Char}
    (blank : isBlank c = true) (found : afterSpacedWord? word (Text.trimStart rest) = some more) :
    replaceSpacedWord word replacement (c :: rest) =
      replacement ++ replaceSpacedWord word replacement more := by
  rw [replaceSpacedWord, if_pos blank]
  split
  · rename_i other found'
    rw [Option.some.inj (found'.symm.trans found)]
  · rename_i none
    cases none.symm.trans found

theorem replaceSpacedWord_missing {word replacement rest : Text} {c : Char}
    (none : afterSpacedWord? word (Text.trimStart rest) = none) :
    replaceSpacedWord word replacement (c :: rest) =
      c :: replaceSpacedWord word replacement rest := by
  rw [replaceSpacedWord]
  split
  · split
    · rename_i other found
      cases none.symm.trans found
    · rfl
  · rfl

theorem replaceParenthesizedNot_found {rest more : Text}
    (found : afterSpacedWord? "not" (Text.trimStart rest) = some more) :
    replaceParenthesizedNot ('(' :: rest) = "(!" ++ replaceParenthesizedNot more := by
  rw [replaceParenthesizedNot, if_pos rfl]
  split
  · rename_i other found'
    rw [Option.some.inj (found'.symm.trans found)]
  · rename_i none
    cases none.symm.trans found

theorem replaceParenthesizedNot_missing {rest : Text} {c : Char}
    (none : afterSpacedWord? "not" (Text.trimStart rest) = none) :
    replaceParenthesizedNot (c :: rest) = c :: replaceParenthesizedNot rest := by
  rw [replaceParenthesizedNot]
  split
  · split
    · rename_i other found
      cases none.symm.trans found
    · rfl
  · rfl

/-- Replacing an operator by its symbol leaves the names as they are. -/
theorem identifiers_replaceSpacedWord {word symbol : Text} (wordless : Wordless word)
    (marks : ∀ c ∈ symbol, isWord c = false) (before text : Text) :
    identifiers (before ++ replaceSpacedWord word (' ' :: symbol) text) =
      identifiers (before ++ text) := by
  induction text using replaceSpacedWord.induct word generalizing before with
  | case1 => rw [replaceSpacedWord]
  | case2 c rest blank more found ih =>
    rw [replaceSpacedWord_found blank found, ← List.append_assoc, ih, List.append_assoc, List.cons_append,
      identifiers_break (by decide +kernel), identifiers_gap marks, wordless.identifiers_eq found,
      identifiers_break (isWord_eq_false_of_isBlank blank),
      identifiers_blank (d := ' ') blank (by decide)]
  | case3 c rest blank none ih =>
    rw [replaceSpacedWord_missing none, List.append_cons, ih, ← List.append_cons]
  | case4 c rest solid ih =>
    rw [replaceSpacedWord, if_neg solid, List.append_cons, ih, ← List.append_cons]

theorem wordless_not : Wordless "not" := wordless_of_mem (by decide)

theorem wordless_of_operator {operator : Text × Text} (among : operator ∈ wordOperators) :
    Wordless operator.1 := by
  have phrases : ∀ operator ∈ wordOperators,
      operator.1 = "not equals" ∨ operator.1 ∈ operatorWords := by decide
  rcases phrases operator among with phrase | word
  · have equals : Wordless "equals" := wordless_of_mem (by decide)
    rw [phrase]
    exact wordless_not.append equals
  · exact wordless_of_mem word

theorem identifiers_toScript (expression : Text) :
    identifiers (toScript expression) = identifiers expression := by
  have symbols : ∀ operator ∈ wordOperators, operator.2 = ' ' :: operator.2.tail := by decide
  have written : ∀ operator ∈ wordOperators, operator.2.tail ⊆ ['!', '=', '&', '|', ' '] := by
    decide
  have marks : (['!', '=', '&', '|', ' '].all fun c => !isWord c) = true := by decide +kernel
  rw [List.all_eq_true] at marks
  have step : ∀ operator ∈ wordOperators, ∀ text,
      identifiers (replaceSpacedWord operator.1 operator.2 text) = identifiers text := by
    intro operator among text
    rw [symbols operator among]
    exact identifiers_replaceSpacedWord (wordless_of_operator among)
      (fun c inSymbol => by simpa using marks c (written operator among inSymbol)) [] text
  unfold toScript
  generalize wordOperators = operators at step
  induction operators generalizing expression with
  | nil => rfl
  | cons operator operators ih =>
    rw [List.foldl_cons, ih _ fun other among => step other (List.mem_cons_of_mem _ among),
      step operator List.mem_cons_self]

theorem identifiers_replaceLeadingNot (text : Text) :
    identifiers (replaceLeadingNot text) = identifiers text := by
  unfold replaceLeadingNot
  split
  · rename_i rest found
    obtain ⟨c, after, rfl, blank, rfl⟩ := afterSpacedWord?_eq_some found
    rw [identifiers_cons (by decide +kernel), identifiers_trimStart, wordless_not c after blank]
  · rfl

theorem identifiers_replaceParenthesizedNot (before text : Text) :
    identifiers (before ++ replaceParenthesizedNot text) = identifiers (before ++ text) := by
  induction text using replaceParenthesizedNot.induct generalizing before with
  | case1 => rw [replaceParenthesizedNot]
  | case2 rest more found ih =>
    have opening : isWord '(' = false := by decide +kernel
    have mark : isWord '!' = false := by decide +kernel
    have whole : "(!".toList = ['(', '!'] := by decide
    rw [replaceParenthesizedNot_found found, ← List.append_assoc, ih, List.append_assoc, whole, List.cons_append,
      identifiers_break opening, List.cons_append, List.nil_append, identifiers_cons mark,
      wordless_not.identifiers_eq found, ← identifiers_break opening]
  | case3 rest none ih =>
    rw [replaceParenthesizedNot_missing none, List.append_cons, ih, ← List.append_cons]
  | case4 c rest other ih =>
    rw [replaceParenthesizedNot, if_neg other, List.append_cons, ih, ← List.append_cons]

/-- A change of words that leaves operators alone and makes no others. -/
structure KeepsOperators (f : Text → Text) : Prop where
  isName : ∀ word : Text, word.IsName → (f word).IsName
  operator : ∀ word : Text, f word ∈ operatorWords ↔ word ∈ operatorWords

theorem mapWords_word {f : Text → Text} {word after : Text} (named : word.IsName)
    (stops : Stops isWord after) : mapWords f (word ++ after) = f word ++ mapWords f after := by
  obtain ⟨nonempty, all⟩ := named
  cases word with
  | nil => exact absurd rfl nonempty
  | cons c word =>
    obtain ⟨first, later⟩ := List.forall_mem_cons.mp all
    rw [List.cons_append, mapWords, if_pos first, stops.takeWhile_append later,
      stops.dropWhile_append later]

theorem mapWords_head (f : Text → Text) {after : Text} (stops : Stops isWord after) :
    (mapWords f after).head? = after.head? := by
  cases after with
  | nil => rw [mapWords]
  | cons c after => rw [mapWords, if_neg (by simpa using stops), List.head?_cons, List.head?_cons]

/-- Changing all words changes the names in just this way. -/
theorem identifiers_mapWords {f : Text → Text} (keeps : KeepsOperators f) (text : Text) :
    identifiers (mapWords f text) = (identifiers text).map f := by
  induction text using byWords with
  | nil => rw [mapWords, identifiers_nil, List.map_nil]
  | gap c rest other ih =>
    rw [mapWords, if_neg (by simp [other]), identifiers_cons other, identifiers_cons other, ih]
  | word word after named stops ih =>
    have head := mapWords_head f stops
    have stops' : Stops isWord (mapWords f after) := by
      unfold Stops at stops ⊢
      rwa [head]
    have same : standsAsOperator (f word) (mapWords f after) = standsAsOperator word after := by
      simp only [standsAsOperator, head, List.contains_eq_mem, keeps.operator]
    rw [mapWords_word named stops, identifiers_word (keeps.isName word named) stops', same, ih,
      identifiers_word named stops, List.map_append]
    split <;> rfl

/-- The word that stands for a name in a directive: snake case becomes camel case. -/
def spelling (word : Text) : Text :=
  if isSnakeCase word then camelCase word else word

theorem isSnakeCase_iff {word : Text} : isSnakeCase word = true ↔
    2 ≤ (Text.splitOn '_' word).length ∧
      ∀ part ∈ Text.splitOn '_' word, part ≠ [] ∧ ∀ c ∈ part, c.isLower = true := by
  simp [isSnakeCase]

theorem mem_of_isSnakeCase {word : Text} (snake : isSnakeCase word = true) :
    ∀ c ∈ word, c = '_' ∨ c.isLower = true := by
  intro c among
  rw [← Text.join_splitOn '_' word] at among
  rcases Text.mem_join among with between | ⟨part, member, inside⟩
  · exact .inl (List.mem_singleton.mp between)
  · exact .inr (((isSnakeCase_iff.mp snake).2 part member).2 c inside)

/-- Snake case has a letter right after an underscore. -/
theorem exists_of_isSnakeCase {word : Text} (snake : isSnakeCase word = true) :
    ∃ before c after, word = before ++ '_' :: c :: after ∧ c.isLower = true := by
  obtain ⟨several, parts⟩ := isSnakeCase_iff.mp snake
  have whole := Text.join_splitOn '_' word
  match pieces : Text.splitOn '_' word, several, parts with
  | first :: [] :: more, _, parts => exact absurd rfl (parts [] (by simp)).1
  | first :: (c :: rest) :: more, _, parts =>
    have lower := (parts (c :: rest) (by simp)).2 c List.mem_cons_self
    rw [pieces, Text.join, List.append_assoc, List.singleton_append] at whole
    cases more with
    | nil => exact ⟨first, c, rest, whole.symm, lower⟩
    | cons next more => exact ⟨first, c, _, whole.symm, lower⟩

theorem ascii_toUpper : ∀ n < 128, (Char.ofNat n).isLower →
    (Char.ofNat n).toUpper.isUpper = true ∧ isWord (Char.ofNat n).toUpper = true := by
  decide +kernel

theorem isLower_bounds {c : Char} (lower : c.isLower = true) : 97 ≤ c.toNat ∧ c.toNat ≤ 122 := by
  have both : (decide ('a'.val ≤ c.val) && decide (c.val ≤ 'z'.val)) = true := lower
  rw [Bool.and_eq_true, decide_eq_true_eq, decide_eq_true_eq] at both
  exact both

theorem isUpper_bounds {c : Char} (upper : c.isUpper = true) : 65 ≤ c.toNat ∧ c.toNat ≤ 90 := by
  have both : decide ('A'.val ≤ c.val ∧ c.val ≤ 'Z'.val) = true := upper
  exact of_decide_eq_true both

theorem toUpper_of_isLower {c : Char} (lower : c.isLower = true) :
    c.toUpper.isUpper = true ∧ isWord c.toUpper = true := by
  have bounds := isLower_bounds lower
  have image := ascii_toUpper c.toNat (by omega)
  rw [Char.ofNat_toNat] at image
  exact image lower

theorem not_isLower_of_isUpper {c : Char} (upper : c.isUpper = true) :
    ¬(c = '_' ∨ c.isLower = true) := by
  have bounds := isUpper_bounds upper
  rintro (rfl | lower)
  · exact absurd bounds (by decide)
  · have bounds' := isLower_bounds lower
    omega

theorem camelCase_isWord {word : Text} (all : ∀ c ∈ word, isWord c = true) :
    ∀ c ∈ camelCase word, isWord c = true := by
  induction word using camelCase.induct with
  | case1 c rest lower ih =>
    rw [camelCase, if_pos lower]
    exact List.forall_mem_cons.mpr ⟨(toUpper_of_isLower lower).2, ih fun x among =>
      all x (List.mem_cons_of_mem _ (List.mem_cons_of_mem c among))⟩
  | case2 c rest other ih =>
    rw [camelCase, if_neg other]
    exact List.forall_mem_cons.mpr ⟨all '_' List.mem_cons_self, ih fun x among =>
      all x (List.mem_cons_of_mem _ among)⟩
  | case3 c rest plain ih =>
    rw [camelCase]
    · exact List.forall_mem_cons.mpr ⟨all c List.mem_cons_self, ih fun x among =>
        all x (List.mem_cons_of_mem c among)⟩
    · exact plain
  | case4 => exact all

/-- Camel case has a capital where there was a letter right after an underscore. -/
theorem camelCase_isUpper {before after : Text} {c : Char} (lower : c.isLower = true) :
    ∃ capital ∈ camelCase (before ++ '_' :: c :: after), capital.isUpper = true := by
  generalize whole : before ++ '_' :: c :: after = word
  induction word using camelCase.induct generalizing before with
  | case1 d rest lower' ih =>
    rw [camelCase, if_pos lower']
    exact ⟨d.toUpper, List.mem_cons_self, (toUpper_of_isLower lower').1⟩
  | case2 d rest other ih =>
    rw [camelCase, if_neg other]
    cases before with
    | nil =>
      cases whole
      exact absurd lower other
    | cons x before =>
      obtain ⟨_, later⟩ := List.cons.inj whole
      obtain ⟨capital, among, upper⟩ := ih later
      exact ⟨capital, List.mem_cons_of_mem _ among, upper⟩
  | case3 d rest plain ih =>
    rw [camelCase]
    · cases before with
      | nil =>
        cases whole
        exact (plain c after rfl rfl).elim
      | cons x before =>
        obtain ⟨_, later⟩ := List.cons.inj whole
        obtain ⟨capital, among, upper⟩ := ih later
        exact ⟨capital, List.mem_cons_of_mem d among, upper⟩
    · exact plain
  | case4 => exact absurd whole (by simp)

theorem camelCase_of_isSnakeCase {word : Text} (snake : isSnakeCase word = true) :
    ∃ capital ∈ camelCase word, capital.isUpper = true := by
  obtain ⟨before, c, after, rfl, lower⟩ := exists_of_isSnakeCase snake
  exact camelCase_isUpper lower

/-- What is spelled is never snake case. -/
theorem isSnakeCase_spelling (word : Text) : isSnakeCase (spelling word) = false := by
  rw [Bool.eq_false_iff]
  unfold spelling
  split
  · rename_i snake
    obtain ⟨capital, among, upper⟩ := camelCase_of_isSnakeCase snake
    exact fun snake' => not_isLower_of_isUpper upper (mem_of_isSnakeCase snake' capital among)
  · assumption

theorem spelling_keepsOperators : KeepsOperators spelling where
  isName word named := by
    unfold spelling
    split
    · rename_i snake
      obtain ⟨capital, among, _⟩ := camelCase_of_isSnakeCase snake
      exact ⟨List.ne_nil_of_mem among, camelCase_isWord named.2⟩
    · exact named
  operator word := by
    unfold spelling
    split
    · rename_i snake
      have plain : ∀ word ∈ operatorWords, isSnakeCase word = false := by decide
      have small : ∀ word ∈ operatorWords, word.all Char.isLower = true := by decide
      obtain ⟨capital, among, upper⟩ := camelCase_of_isSnakeCase snake
      constructor
      · intro operator
        have lower := List.all_eq_true.mp (small _ operator) capital among
        exact absurd (.inr lower) (not_isLower_of_isUpper upper)
      · intro operator
        rw [plain word operator] at snake
        cases snake
    · rfl

/-- A condition as a directive states it has the names of its expression, each in its spelling. -/
theorem identifiers_toCondition (expression : Text) :
    identifiers (toCondition expression) = (identifiers expression).map spelling := by
  calc identifiers (toCondition expression)
      = (identifiers (replaceParenthesizedNot
          (replaceLeadingNot (toScript expression)))).map spelling :=
        identifiers_mapWords spelling_keepsOperators _
    _ = (identifiers (replaceLeadingNot (toScript expression))).map spelling :=
        congrArg _ (identifiers_replaceParenthesizedNot [] _)
    _ = (identifiers expression).map spelling := by
        rw [identifiers_replaceLeadingNot, identifiers_toScript]

/-- A name of an expression is one in the directive as well unless it is snake case. -/
theorem mem_identifiers_toCondition {name expression : Text}
    (among : name ∈ identifiers expression) :
    name ∈ identifiers (toCondition expression) ↔ isSnakeCase name = false := by
  rw [identifiers_toCondition, List.mem_map]
  constructor
  · rintro ⟨other, _, rfl⟩
    exact isSnakeCase_spelling other
  · intro plain
    exact ⟨name, among, by simp [spelling, plain]⟩

end Vue

end AppDescription
