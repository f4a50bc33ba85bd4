import AppDescription.Proofs.PhraseSpacing

namespace AppDescription

namespace Vue

open Text (collapse StartsBlank EndsBlank)

section

variable {word symbol before rest token gap : Text}

theorem head?_eq_of_append {onto more : Text} (isToken : token.IsToken) (nonempty : onto ≠ [])
    (split : token ++ rest = onto ++ more) : onto.head? = token.head? := by
  have heads := congrArg List.head? split
  rwa [List.head?_append_of_ne_nil _ isToken.nonempty, List.head?_append_of_ne_nil _ nonempty,
    eq_comm] at heads

/-- A pass goes separately over what stands before and after a token with a start of its own. -/
theorem replaceSpacedWord_break {c : Char} (isToken : token.IsToken) (first : token.head? = some c)
    (other : c ∉ word) (before rest : Text) : replaceSpacedWord word symbol (before ++ (token ++ rest)) =
      replaceSpacedWord word symbol before ++ (token ++ replaceSpacedWord word symbol rest) := by
  rw [replaceSpacedWord_append (isToken.stops rest), replaceSpacedWord_solid isToken.solid]
  intro piece onto more gap _ nonempty split isGap same
  have heads := head?_eq_of_append isToken nonempty split
  have inOnto : c ∈ onto := List.mem_of_head? (heads.trans first)
  have inBoth : c ∈ word ++ gap := same ▸ List.mem_append_right piece inOnto
  rcases List.mem_append.mp inBoth with inWord | inGap
  · exact other inWord
  · exact isGap.notMem (isToken.solid c (List.mem_of_head? first)) inGap

/-- A piece with white space at its end has a whole word in it or none of it. -/
theorem apart_of_endsBlank {piece onto more gap : Text} (ends : EndsBlank piece) (isWord : word.IsToken)
    (isToken : token.IsToken) (nonempty : onto ≠ []) (split : token ++ rest = onto ++ more)
    (isGap : gap.IsGap) : piece ++ onto ≠ word ++ gap := by
  intro same
  have heads := head?_eq_of_append isToken nonempty split
  rcases List.append_eq_append_iff.mp same with ⟨inner, rfl, _⟩ | ⟨inner, rfl, rfl⟩
  · obtain ⟨c, last, blank⟩ := ends
    have solid := isWord.solid c (List.mem_append_left inner (List.mem_of_getLast? last))
    rw [blank] at solid
    cases solid
  · obtain ⟨c, token, rfl⟩ := List.exists_cons_of_ne_nil isToken.nonempty
    exact isGap.notMem (isToken.solid c List.mem_cons_self)
      (List.mem_append_right inner (List.mem_of_head? heads))

/-- So it does after white space, where the next token does not start like the word. -/
theorem replaceSpacedWord_append_of_endsBlank (ends : EndsBlank before) (isWord : word.IsToken)
    (isToken : token.IsToken) (other : word.head? ≠ token.head?) (rest : Text) :
    replaceSpacedWord word symbol (before ++ (token ++ rest)) =
      replaceSpacedWord word symbol before ++ (token ++ replaceSpacedWord word symbol rest) := by
  rw [replaceSpacedWord_append (isToken.stops rest), replaceSpacedWord_solid isToken.solid]
  intro piece onto more gap suffix nonempty split isGap same
  by_cases nothing : piece = []
  · subst nothing
    have heads := head?_eq_of_append isToken nonempty split
    rw [List.nil_append] at same
    rw [same, List.head?_append_of_ne_nil _ isWord.nonempty] at heads
    exact other heads
  · exact apart_of_endsBlank (ends.of_suffix suffix nothing) isWord isToken nonempty split isGap same

theorem endsBlank_replaceSpacedWord (marked : EndsBlank symbol) (ends : EndsBlank before) :
    EndsBlank (replaceSpacedWord word symbol before) := by
  have within {c : Char} {rest : Text} (ends : EndsBlank (c :: rest))
      (ih : EndsBlank rest → EndsBlank (replaceSpacedWord word symbol rest)) :
      EndsBlank (c :: replaceSpacedWord word symbol rest) := by
    by_cases nothing : rest = []
    · subst nothing
      rwa [replaceSpacedWord]
    · exact .append [c] (ih (ends.of_suffix (List.suffix_cons c rest) nothing))
  induction before using replaceSpacedWord.induct word with
  | case1 => exact absurd rfl ends.nonempty
  | case2 c rest blank more found ih =>
    rw [replaceSpacedWord_found blank found]
    by_cases nothing : more = []
    · rw [nothing, replaceSpacedWord, List.append_nil]
      exact marked
    · have suffix := (suffix_of_afterSpacedWord? found).trans (List.suffix_cons c rest)
      exact .append symbol (ih (ends.of_suffix suffix nothing))
  | case3 c rest blank none ih =>
    rw [replaceSpacedWord_missing none]
    exact within ends ih
  | case4 c rest solid ih =>
    rw [replaceSpacedWord, if_neg solid]
    exact within ends ih

end

/-- What the pass for `not` has made of a text, and of the same with one more `not`. That stays, or it
becomes a sign in place of the white space before it. -/
def NotAdded (run run' : Text) : Prop :=
  run' = run ++ "not " ∨ ∃ front gap : Text, gap.IsGap ∧ run = front ++ gap ∧ run' = front ++ " !"

theorem NotAdded.append {run run' : Text} (added : NotAdded run run') (left : Text) :
    NotAdded (left ++ run) (left ++ run') := by
  rcases added with rfl | ⟨front, gap, isGap, rfl, rfl⟩
  · exact .inl (List.append_assoc left run "not ").symm
  · exact .inr ⟨left ++ front, gap, isGap, (List.append_assoc _ _ _).symm,
      (List.append_assoc _ _ _).symm⟩

theorem notAdded {text : Text} (ends : text = [] ∨ EndsBlank text) :
    NotAdded (replaceSpacedWord "not" " !" text) (replaceSpacedWord "not" " !" (text ++ "not ")) := by
  have stops : Stops isBlank "not ".toList := isToken_not.stops " "
  have trimmed (rest : Text) :
      Text.trimStart (rest ++ "not ") = Text.trimStart rest ++ "not " := stops.dropWhile_left
  have within {c : Char} {rest more : Text} (ends : c :: rest = [] ∨ EndsBlank (c :: rest))
      (suffix : more <:+ c :: rest) : more = [] ∨ EndsBlank more := by
    rw [or_iff_not_imp_left] at ends ⊢
    exact (ends (by simp)).of_suffix suffix
  induction text using replaceSpacedWord.induct "not" with
  | case1 =>
    have alone : replaceSpacedWord "not" " !" "not " = replaceSpacedWord "not" " !" [] ++ "not " := by
      decide +kernel
    exact .inl alone
  | case2 c rest blank more found ih =>
    have suffix := (suffix_of_afterSpacedWord? found).trans (List.suffix_cons c rest)
    have found' : afterSpacedWord? "not" (Text.trimStart (rest ++ "not ")) = some (more ++ "not ") := by
      obtain ⟨stops', gap, isGap, whole⟩ := afterSpacedWord?_eq_some_iff.mp found
      refine afterSpacedWord?_eq_some_iff.mpr ⟨?_, gap, isGap, ?_⟩
      · cases more with
        | nil => exact stops
        | cons d more => simpa using stops'
      · rw [trimmed, whole, List.append_assoc, List.append_assoc]
    rw [List.cons_append, replaceSpacedWord_found blank found', replaceSpacedWord_found blank found]
    exact (ih (within ends suffix)).append " !"
  | case3 c rest blank missing ih =>
    by_cases blanks : Text.trimStart rest = []
    · -- Nothing but white space is left before the word, so this is where it is found.
      have isGap : Text.IsGap (c :: rest) :=
        ⟨by simp, List.forall_mem_cons.mpr ⟨blank, List.dropWhile_eq_nil_iff.mp blanks⟩⟩
      have alone := replaceSpacedWord_gap_missing " !" isGap .nil
        (show afterSpacedWord? "not" [] = none by rfl)
      have found : afterSpacedWord? "not" "not " = some [] := afterSpacedWord?_append .space .nil
      rw [List.append_nil, replaceSpacedWord.eq_1, List.append_nil] at alone
      rw [replaceSpacedWord_gap " !" isGap stops found, alone, replaceSpacedWord]
      exact .inr ⟨[], c :: rest, isGap, rfl, rfl⟩
    · have suffix : Text.trimStart rest <:+ c :: rest :=
        (List.dropWhile_suffix _).trans (List.suffix_cons c rest)
      have ends' := (within ends suffix).resolve_left blanks
      have missing' := afterSpacedWord?_append_of_apart stops
        fun onto more gap nonempty split isGap =>
          apart_of_endsBlank ends' isToken_not isToken_not nonempty
            (show "not" ++ [' '] = onto ++ more from split) isGap
      rw [missing, Option.map_none, ← trimmed] at missing'
      rw [List.cons_append, replaceSpacedWord_missing missing', replaceSpacedWord_missing missing]
      exact (ih (within ends (List.suffix_cons c rest))).append [c]
  | case4 c rest solid ih =>
    rw [List.cons_append, replaceSpacedWord, if_neg solid, replaceSpacedWord.eq_2, if_neg solid]
    exact (ih (within ends (List.suffix_cons c rest))).append [c]

section

variable {before rest gap after : Text}

theorem wordPasses_symbol (before rest : Text) :
    wordPasses (before ++ ("!==" ++ rest)) = wordPasses before ++ ("!==" ++ wordPasses rest) := by
  have isSymbol : Text.IsToken "!==" := by decide
  have split (word symbol before rest : Text) (other : '!' ∉ word) :
      replaceSpacedWord word symbol (before ++ ("!==" ++ rest)) =
        replaceSpacedWord word symbol before ++ ("!==" ++ replaceSpacedWord word symbol rest) :=
    replaceSpacedWord_break isSymbol rfl other before rest
  simp only [wordPasses, wordOperators, List.tail_cons, List.foldl_cons, List.foldl_nil]
  rw [split _ _ _ _ (by decide), split _ _ _ _ (by decide), split _ _ _ _ (by decide),
    split _ _ _ _ (by decide)]

theorem startsBlank_wordPasses (starts : StartsBlank rest) : StartsBlank (wordPasses rest) := by
  have pass (word : Text) {text symbol : Text} (starts : StartsBlank text) :
      StartsBlank (replaceSpacedWord word (' ' :: symbol) text) :=
    startsBlank_replaceSpacedWord ⟨' ', symbol, by decide, rfl⟩ starts
  exact pass "not" (pass "or" (pass "and" (pass "equals" starts)))

/-- The passes before the last. -/
def middlePasses (text : Text) : Text :=
  replaceSpacedWord "or" " || " (replaceSpacedWord "and" " && " (replaceSpacedWord "equals" " === " text))

theorem wordPasses_eq (text : Text) :
    wordPasses text = replaceSpacedWord "not" " !" (middlePasses text) := by
  rfl

theorem endsBlank_equalsPass (ends : EndsBlank before) :
    EndsBlank (replaceSpacedWord "equals" " === " before) :=
  endsBlank_replaceSpacedWord ⟨' ', rfl, by decide⟩ ends

theorem endsBlank_andPass (ends : EndsBlank before) :
    EndsBlank (replaceSpacedWord "and" " && " before) :=
  endsBlank_replaceSpacedWord ⟨' ', rfl, by decide⟩ ends

theorem endsBlank_middlePasses (ends : EndsBlank before) : EndsBlank (middlePasses before) :=
  endsBlank_replaceSpacedWord ⟨' ', rfl, by decide⟩ (endsBlank_andPass (endsBlank_equalsPass ends))

/-- The first pass that goes on with the words of a phrase makes a symbol of the second. -/
theorem middlePasses_phrase (ends : EndsBlank before) (isGap : gap.IsGap) (isGap' : after.IsGap)
    (stops : Stops isBlank rest) : ∃ more,
      middlePasses (before ++ ("not" ++ (gap ++ ("equals" ++ (after ++ rest))))) =
        middlePasses before ++ ("not" ++ ([' '] ++ ("===" ++ more))) := by
  have isSymbol : Text.IsToken "===" := by decide
  have found : replaceSpacedWord "equals" " === " (gap ++ ("equals" ++ (after ++ rest))) =
      " === " ++ replaceSpacedWord "equals" " === " rest :=
    replaceSpacedWord_gap _ isGap (isToken_equals.stops _) (afterSpacedWord?_append isGap' stops)
  have first : replaceSpacedWord "equals" " === "
      (before ++ ("not" ++ (gap ++ ("equals" ++ (after ++ rest))))) =
        replaceSpacedWord "equals" " === " before ++
          ("not" ++ ([' '] ++ ("===" ++ (' ' :: replaceSpacedWord "equals" " === " rest)))) := by
    rw [replaceSpacedWord_break isToken_not rfl (by decide), found]
    rfl
  have later {before word : Text} (symbol more : Text) (ends : EndsBlank before)
      (isWord : word.IsToken) (other : word.head? ≠ some 'n') (other' : word.head? ≠ some '=') :
      replaceSpacedWord word symbol (before ++ ("not" ++ ([' '] ++ ("===" ++ more)))) =
        replaceSpacedWord word symbol before ++
          ("not" ++ ([' '] ++ ("===" ++ replaceSpacedWord word symbol more))) := by
    rw [replaceSpacedWord_append_of_endsBlank ends isWord isToken_not other,
      replaceSpacedWord_past .space isSymbol isWord.nonempty other']
  have ends' := endsBlank_equalsPass ends
  refine ⟨replaceSpacedWord "or" " || " (replaceSpacedWord "and" " && "
    (' ' :: replaceSpacedWord "equals" " === " rest)), ?_⟩
  rw [middlePasses, first, later " && " _ ends' (by decide) (by decide) (by decide),
    later " || " _ (endsBlank_andPass ends') (by decide) (by decide) (by decide), middlePasses]

end

/-- After alike beginnings equal results go on alike. -/
theorem eq_of_collapse_append_eq {left left' rest rest' token token' : Text}
    (alike : collapse left = collapse left') (isToken : token.IsToken) (isToken' : token'.IsToken)
    (same : collapse (left ++ (token ++ rest)) = collapse (left' ++ (token' ++ rest'))) :
    token ++ collapse rest = token' ++ collapse rest' := by
  rw [Text.collapse_append_of_stops left (isToken.stops rest), Text.collapse_solid isToken.solid,
    Text.collapse_append_of_stops left' (isToken'.stops rest'), Text.collapse_solid isToken'.solid,
    alike] at same
  exact List.append_cancel_left same

/-- Where the first pass finds the phrase in one text only, the results differ in more than spacing. -/
theorem Diverges.collapse_ne {text text' : Text} (diverges : Diverges text text') :
    collapse (toScript text) ≠ collapse (toScript text') := by
  obtain ⟨done, rest, done', gap, after, rest', out, out', isGap, isAfter, stops, ends, alike⟩ :=
    diverges.result
  have isSign : Text.IsToken "!==" := by decide
  have isSymbol : Text.IsToken "===" := by decide
  have whole : toScript text = wordPasses (done ++ " ") ++ ("!==" ++ wordPasses (' ' :: rest)) := by
    have split : done ++ (" !== " ++ rest) = (done ++ " ") ++ ("!==" ++ (' ' :: rest)) := by simp
    rw [toScript_eq_passes, out, split, wordPasses_symbol]
  obtain ⟨more, middle⟩ := middlePasses_phrase ends isGap isAfter stops
  have whole' : toScript text' = replaceSpacedWord "not" " !" (middlePasses done' ++ "not ") ++
      ("===" ++ replaceSpacedWord "not" " !" more) := by
    have split : middlePasses done' ++ ("not" ++ ([' '] ++ ("===" ++ more))) =
        (middlePasses done' ++ "not ") ++ ("===" ++ more) := by simp
    rw [toScript_eq_passes, out', wordPasses_eq, middle, split,
      replaceSpacedWord_break isSymbol rfl (by decide)]
  have runs := ignoresSpacing_wordPasses.congr alike
  have added := notAdded (.inr (endsBlank_middlePasses ends))
  rw [← wordPasses_eq] at added
  rw [whole, whole']
  intro same
  -- What stands before the sign collapses alike, so the results differ in the sign or right after it.
  rcases added with kept | ⟨front, inner, isInner, run, run'⟩
  · rw [kept, List.append_assoc] at same
    have next := eq_of_collapse_append_eq runs isSign isToken_not same
    have first : some '!' = some 'n' := congrArg List.head? next
    exact absurd first (by decide)
  · have isSigns : Text.IsToken "!===" := by decide
    have spaced (more : Text) : collapse (front ++ (" !" ++ ("===" ++ more))) =
        collapse (wordPasses done' ++ ("!===" ++ more)) := by
      have gaps : collapse ([' '] ++ ("!===" ++ more)) = collapse (inner ++ ("!===" ++ more)) :=
        Text.collapse_append (Text.IsGap.space.collapse_congr isInner) rfl
      rw [run, List.append_assoc]
      exact Text.collapse_append_right front gaps
    rw [run', List.append_assoc, spaced] at same
    have next := eq_of_collapse_append_eq runs isSign isSigns same
    obtain ⟨c, below, blank, opens⟩ := startsBlank_wordPasses ⟨' ', rest, by decide, rfl⟩
    rw [opens, collapse, if_pos blank] at next
    have fourth : some ' ' = some '=' := congrArg (fun text : Text => text[3]?) next
    exact absurd fourth (by decide)

theorem PhrasesAgree.symm {text text' : Text} (agree : PhrasesAgree text text') :
    PhrasesAgree text' text :=
  fun before gap after before' gap' after' found found' alike =>
    (agree before' gap' after' before gap after found' found alike.symm).symm

theorem Diverges.not_phrasesAgree {text text' : Text} (diverges : Diverges text text') :
    ¬PhrasesAgree text text' := by
  obtain ⟨before, after, before', gap', after', found, found', alike, other⟩ := diverges.place
  intro agree
  exact other ((agree before [' '] after before' gap' after' found found' alike).mp rfl)

/-- Spacing makes a difference in the result exactly if it makes one for the first pass, the only one for an
operator of two words. It makes none where those words have a single space between them in both texts or
in neither. -/
theorem toScript_respaced {text text' : Text} (respaced : Text.Respaced text text') :
    (collapse (toScript text) = collapse (toScript text') ↔
      collapse (phrasePass text) = collapse (phrasePass text')) ∧
    (PhrasesAgree text text' → collapse (toScript text) = collapse (toScript text')) := by
  have forward (same : collapse (phrasePass text) = collapse (phrasePass text')) :
      collapse (toScript text) = collapse (toScript text') := by
    rw [toScript_eq_passes, toScript_eq_passes]
    exact ignoresSpacing_wordPasses.congr same
  rcases outcome_of_same (Text.respaced_iff.mp respaced) with same | diverges | diverges
  · exact ⟨iff_of_true (forward same) same, fun _ => forward same⟩
  · exact ⟨iff_of_false diverges.collapse_ne (mt forward diverges.collapse_ne),
      fun agree => absurd agree diverges.not_phrasesAgree⟩
  · exact ⟨iff_of_false diverges.collapse_ne.symm (mt forward diverges.collapse_ne.symm),
      fun agree => absurd agree.symm diverges.not_phrasesAgree⟩

theorem toScript_respaced_phrase :
    Text.Respaced "a not equals b" "a\tnot equals  b" ∧
      collapse (toScript "a not equals b") = collapse (toScript "a\tnot equals  b") := by
  have respaced : Text.Respaced "a not equals b" "a\tnot equals  b" :=
    Text.respaced_iff.mpr (by decide)
  exact ⟨respaced, (toScript_respaced respaced).1.mpr (by decide +kernel)⟩

theorem toScript_phrase_split :
    Text.Respaced "a not equals b" "a not  equals b" ∧ toScript "a not equals b" = "a !== b" ∧
      toScript "a not  equals b" = "a !=== b" := by
  exact ⟨Text.respaced_iff.mpr (by decide), by decide +kernel, by decide +kernel⟩

end Vue

end AppDescription
