import AppDescription.Proofs.OperatorChains
import AppDescription.Proofs.UntouchedText

namespace AppDescription

namespace Vue

/-- Names with dots between them. -/
structure DottedPath where
  names : List Text
  nonempty : names ≠ []
  named : ∀ name ∈ names, name.IsName

/-- Text in quotes, on one line and without anything that is escaped. -/
structure StringLiteral where
  quote : Char
  isQuote : quote ∈ "\"'\x60".toList
  content : Text
  closed : quote ∉ content
  oneLine : '\n' ∉ content
  plain : '\\' ∉ content

def DottedPath.text (path : DottedPath) : Text :=
  Text.join ['.'] path.names

def StringLiteral.text (literal : StringLiteral) : Text :=
  literal.quote :: (literal.content ++ [literal.quote])

/-- A quote is none of the characters that the passes look for. -/
theorem quote_apart {quote : Char} (isQuote : quote ∈ "\"'\x60".toList) :
    isBlank quote = false ∧ isWord quote = false ∧ quote ≠ '(' ∧
      ∀ operator ∈ wordOperators, operator.1.head? ≠ some quote := by
  have marks : quote = '"' ∨ quote = '\'' ∨ quote = Char.ofNat 0x60 := by simpa using isQuote
  rcases marks with rfl | rfl | rfl <;> decide +kernel

theorem DottedPath.mem_text (path : DottedPath) {c : Char} (member : c ∈ path.text) :
    c = '.' ∨ isWord c = true := by
  rcases Text.mem_join member with dot | ⟨name, among, inside⟩
  · exact .inl (List.mem_singleton.mp dot)
  · exact .inr ((path.named name among).2 c inside)

theorem DottedPath.isToken (path : DottedPath) : path.text.IsToken := by
  refine ⟨?_, fun c member => ?_⟩
  · obtain ⟨name, names, whole⟩ := List.exists_cons_of_ne_nil path.nonempty
    have filled := (path.named name (whole ▸ List.mem_cons_self)).1
    rw [text, whole]
    cases names <;> simp [Text.join, filled]
  · rcases path.mem_text member with rfl | word
    · decide
    · exact isBlank_eq_false_of_isWord word

section

variable {token : Text}

theorem toScript_solid (solid : token.IsSolid) (rest : Text) :
    toScript (token ++ rest) = token ++ toScript rest := by
  simp only [toScript, wordOperators, List.foldl_cons, List.foldl_nil, replaceSpacedWord_solid solid]

theorem toScript_nil : toScript [] = [] := by
  simp only [toScript, wordOperators, List.foldl_cons, List.foldl_nil, replaceSpacedWord]

theorem toScript_of_isSolid (solid : token.IsSolid) : toScript token = token := by
  have whole := toScript_solid solid []
  rwa [List.append_nil, toScript_nil, List.append_nil] at whole

end

theorem StringLiteral.isToken_quote (literal : StringLiteral) : Text.IsToken [literal.quote] := by
  refine ⟨by simp, ?_⟩
  simpa [Text.IsSolid] using (quote_apart literal.isQuote).1

section

variable (literal : StringLiteral) {word symbol : Text} (rest : Text)

/-- An operator that does not start like the token is not found from there to the literal. -/
theorem replaceSpacedWord_compared (among : (word, symbol) ∈ wordOperators) {token : Text}
    (isToken : token.IsToken) (apart : word.head? ≠ token.head?) :
    replaceSpacedWord word symbol ([' '] ++ (token ++ ([' '] ++ ([literal.quote] ++ rest)))) =
      [' '] ++ (token ++ ([' '] ++ ([literal.quote] ++ replaceSpacedWord word symbol rest))) := by
  have nonempty := (isRespelling_of_mem among).starts.1
  have quoteApart := (quote_apart literal.isQuote).2.2.2 (word, symbol) among
  rw [replaceSpacedWord_past .space isToken nonempty apart,
    replaceSpacedWord_past .space literal.isToken_quote nonempty quoteApart]

theorem replaceSpacedWord_equals :
    replaceSpacedWord "equals" " === " (" equals " ++ ([literal.quote] ++ rest)) =
      " === " ++ ([literal.quote] ++ replaceSpacedWord "equals" " === " rest) := by
  have found := replaceSpacedWord_gap " === " .space (isToken_equals.stops _)
    (afterSpacedWord?_append .space (literal.isToken_quote.stops rest))
  rw [replaceSpacedWord_solid literal.isToken_quote.solid] at found
  exact found

end

/-- A comparison gets its symbol whatever the literal is. -/
theorem toScript_equals (literal : StringLiteral) :
    toScript (" equals " ++ literal.text) = " === " ++ toScript literal.text := by
  have first (rest : Text) :
      replaceSpacedWord "not equals" " !== " (" equals " ++ ([literal.quote] ++ rest)) =
        " equals " ++ ([literal.quote] ++ replaceSpacedWord "not equals" " !== " rest) :=
    replaceSpacedWord_compared literal rest (by decide) (show Text.IsToken "equals" by decide)
      (by decide)
  have later (word symbol rest : Text) (among : (word, symbol) ∈ wordOperators)
      (apart : word.head? ≠ some '=') :
      replaceSpacedWord word symbol (" === " ++ ([literal.quote] ++ rest)) =
        " === " ++ ([literal.quote] ++ replaceSpacedWord word symbol rest) :=
    replaceSpacedWord_compared literal rest among (show Text.IsToken "===" by decide) apart
  have whole : literal.text = [literal.quote] ++ (literal.content ++ [literal.quote]) := rfl
  rw [whole, toScript_solid literal.isToken_quote.solid]
  simp only [toScript, wordOperators, List.foldl_cons, List.foldl_nil]
  rw [first, replaceSpacedWord_equals, later "and" " && " _ (by decide) (by decide),
    later "or" " || " _ (by decide) (by decide), later "not" " !" _ (by decide) (by decide)]

theorem toScript_comparison (path : DottedPath) (literal : StringLiteral) :
    toScript (path.text ++ (" equals " ++ literal.text)) =
      path.text ++ (" === " ++ toScript literal.text) := by
  rw [toScript_solid path.isToken.solid, toScript_equals]

namespace DottedPath

variable (path : DottedPath)

theorem free : '(' ∉ path.text := by
  have mark : isWord '(' = false := by decide +kernel
  intro member
  rcases path.mem_text member with dot | word
  · exact absurd dot (by decide)
  · rw [mark] at word
    cases word

theorem afterSpacedWord?_not : afterSpacedWord? "not" path.text = none := by
  rw [Option.eq_none_iff_forall_not_mem]
  intro more found
  obtain ⟨_, gap, isGap, whole⟩ := afterSpacedWord?_eq_some_iff.mp found
  obtain ⟨c, gap, rfl⟩ := List.exists_cons_of_ne_nil isGap.nonempty
  exact isGap.notMem (path.isToken.solid c (by simp [whole])) List.mem_cons_self

theorem toCondition_eq : toCondition path.text = mapWords spelling path.text := by
  have alone := replaceParenthesizedNot_append path.free []
  rw [List.append_nil, replaceParenthesizedNot, List.append_nil] at alone
  rw [Vue.toCondition_eq, toScript_of_isSolid path.isToken.solid, replaceLeadingNot,
    path.afterSpacedWord?_not, alone]

end DottedPath

/-- What a directive has for a comparison, unless the path is taken for an operator. -/
theorem toCondition_comparison {path : DottedPath} (other : path.text ≠ "not")
    (literal : StringLiteral) :
    toCondition (path.text ++ (" equals " ++ literal.text)) = toCondition path.text ++
      (" === " ++ mapWords spelling (replaceParenthesizedNot (toScript literal.text))) := by
  have marks : " === ".toList.all (fun c => !isWord c) = true := by decide +kernel
  have breaks : Text.Breaks (" === " ++ toScript literal.text) := Text.IsGap.space.breaks _
  have missing : afterSpacedWord? "not" (path.text ++ (" === " ++ toScript literal.text)) = none :=
    afterSpacedWord?_of_ne path.isToken breaks (by decide) other
  have stops (rest : Text) : Stops isWord (" === " ++ rest) := Text.IsGap.space.stops_word _
  have free : '(' ∉ path.text ++ " === " := by
    rw [List.mem_append, not_or]
    exact ⟨path.free, by decide⟩
  have passed := replaceParenthesizedNot_append free (toScript literal.text)
  rw [List.append_assoc, List.append_assoc] at passed
  rw [toCondition_eq, toScript_comparison, replaceLeadingNot, missing]
  dsimp only
  rw [passed, mapWords_append path.text (stops _),
    mapWords_gap fun c member => by simpa using List.all_eq_true.mp marks c member,
    path.toCondition_eq]

/-- At the start of a text `not` is an operator, also where a name is meant. -/
theorem toCondition_not {path : DottedPath} (operator : path.text = "not") (literal : StringLiteral) :
    toCondition (path.text ++ (" equals " ++ literal.text)) ≠
      toCondition path.text ++ (" === " ++ literal.text) := by
  have isSymbol : Text.IsToken "===" := by decide
  have found : afterSpacedWord? "not" ("not" ++ ([' '] ++ ("===" ++ (" " ++ toScript literal.text)))) =
      some ("===" ++ (" " ++ toScript literal.text)) :=
    afterSpacedWord?_append .space (isSymbol.stops _)
  have mark : isWord '!' = false := by decide +kernel
  have negated : (toCondition (path.text ++ (" equals " ++ literal.text))).head? = some '!' := by
    have leading : replaceLeadingNot ("not" ++ (" === " ++ toScript literal.text)) =
        '!' :: ("===" ++ (" " ++ toScript literal.text)) := by
      rw [replaceLeadingNot, show " === ".toList = [' '] ++ ("===" ++ " ") by decide,
        List.append_assoc, List.append_assoc, found]
    rw [toCondition_eq, toScript_comparison, operator, leading, replaceParenthesizedNot,
      if_neg (by decide), mapWords, if_neg (by simp [mark]), List.head?_cons]
  have named : mapWords spelling "not" = "not" := by
    have isName : Text.IsName "not" := by decide
    have word := mapWords_word (f := spelling) isName .nil
    rwa [List.append_nil, mapWords, show spelling "not" = "not" by decide] at word
  intro same
  rw [same, path.toCondition_eq, operator, named] at negated
  exact absurd negated (by simp)

theorem waning_literal : WaningPass
    (fun text => ((∃ operator ∈ wordOperators, Spaced operator.1 text) ∨ NegatedGroup text) ∨
      SnakeCaseWithin text)
    (fun text => mapWords spelling (replaceParenthesizedNot (toScript text))) :=
  (waning_toScript.followedBy waning_replaceParenthesizedNot).followedBy waning_mapWords

/-- A literal that a name is compared with stays as it is exactly if no pass finds anything in it. None
of them knows of quotes. -/
theorem literal_untouched (path : DottedPath) (literal : StringLiteral) :
    let source := path.text ++ (" equals " ++ literal.text)
    (toScript source = toScript path.text ++ (" === " ++ literal.text) ↔
      ∀ operator ∈ wordOperators, ¬Spaced operator.1 literal.text) ∧
    (toCondition source = toCondition path.text ++ (" === " ++ literal.text) ↔
      path.text ≠ "not" ∧ (∀ operator ∈ wordOperators, ¬Spaced operator.1 literal.text) ∧
        ¬NegatedGroup literal.text ∧ ¬SnakeCaseWithin literal.text) := by
  constructor
  · rw [toScript_comparison, toScript_of_isSolid path.isToken.solid, List.append_cancel_left_eq,
      List.append_cancel_left_eq, (waning_toScript literal.text).eq_iff]
    simp only [not_exists, not_and]
  · by_cases other : path.text = "not"
    · exact iff_of_false (toCondition_not other literal) (fun all => all.1 other)
    · rw [toCondition_comparison other, List.append_cancel_left_eq, List.append_cancel_left_eq,
        (waning_literal literal.text).eq_iff]
      simp only [not_or, not_exists, not_and, and_assoc]
      exact (and_iff_right other).symm

theorem literal_respelled :
    let path : DottedPath := ⟨["status"], by decide, by decide +kernel⟩
    let progress : StringLiteral := ⟨'"', by decide, "in_progress", by decide, by decide, by decide⟩
    let table : StringLiteral := ⟨'"', by decide, "salt and pepper", by decide, by decide, by decide⟩
    toCondition (path.text ++ (" equals " ++ progress.text)) = "status === \"inProgress\"" ∧
      toCondition path.text ++ (" === " ++ progress.text) = "status === \"in_progress\"" ∧
      toScript (path.text ++ (" equals " ++ table.text)) = "status === \"salt && pepper\"" ∧
      toScript path.text ++ (" === " ++ table.text) = "status === \"salt and pepper\"" := by
  decide +kernel

end Vue

end AppDescription
