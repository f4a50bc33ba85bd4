import AppDescription.Proofs.Respacing

namespace AppDescription

namespace Vue

open Text (collapse StartsBlank EndsBlank)

/-- The first pass, for the one operator of two words. -/
def phrasePass (text : Text) : Text :=
  replaceSpacedWord "not equals" " !== " text

/-- The passes after the first. -/
def wordPasses (text : Text) : Text :=
  wordOperators.tail.foldl (fun text operator => replaceSpacedWord operator.1 operator.2 text) text

theorem toScript_eq_passes (text : Text) : toScript text = wordPasses (phrasePass text) := by
  rfl

theorem ignoresSpacing_wordPasses : IgnoresSpacing wordPasses := by
  have solid : ∀ operator ∈ wordOperators.tail, operator.1.IsSolid := by decide
  exact .foldl fun operator among => ignoresSpacing_replaceSpacedWord (solid operator among)

/-- A place where a text has `not` and `equals` with nothing but a gap between them. -/
structure PhraseAt (text before gap after : Text) : Prop where
  isGap : gap.IsGap
  whole : text = before ++ ("not" ++ (gap ++ ("equals" ++ after)))

/-- Where both texts have the phrase, it has a single space in it in both or in neither. -/
def PhrasesAgree (text text' : Text) : Prop :=
  ∀ before gap after before' gap' after', PhraseAt text before gap after →
    PhraseAt text' before' gap' after' → collapse before = collapse before' →
      (gap = [' '] ↔ gap' = [' '])

/-- Where one text has the phrase with a single space and the other with some other gap, so that the first
pass is done with as much of both and goes on with the one and not with the other. -/
structure Diverges (text text' : Text) : Prop where
  place : ∃ before after before' gap' after', PhraseAt text before [' '] after ∧
    PhraseAt text' before' gap' after' ∧ collapse before = collapse before' ∧ gap' ≠ [' ']
  result : ∃ done rest done' gap' after' rest' : Text, phrasePass text = done ++ (" !== " ++ rest) ∧
    phrasePass text' = done' ++ ("not" ++ (gap' ++ ("equals" ++ (after' ++ rest')))) ∧
    gap'.IsGap ∧ after'.IsGap ∧ Stops isBlank rest' ∧ EndsBlank done' ∧
    collapse (done ++ " ") = collapse done'

/-- How the first pass goes on two texts that differ in spacing. -/
def Outcome (text text' : Text) : Prop :=
  collapse (phrasePass text) = collapse (phrasePass text') ∨ Diverges text text' ∨ Diverges text' text

variable {text text' left left' done done' rest rest' gap gap' more : Text}

theorem PhraseAt.append {before after : Text} (found : PhraseAt text before gap after) (left : Text) :
    PhraseAt (left ++ text) (left ++ before) gap after :=
  ⟨found.isGap, by rw [found.whole, List.append_assoc]⟩

section

variable (same : collapse left = collapse left') (same' : collapse done = collapse done')
  (run : phrasePass (left ++ text) = done ++ phrasePass text)
  (run' : phrasePass (left' ++ text') = done' ++ phrasePass text')

include same same' run run'

theorem Diverges.append (diverges : Diverges text text') : Diverges (left ++ text) (left' ++ text') where
  place := by
    obtain ⟨before, after, before', gap', after', found, found', alike, other⟩ := diverges.place
    exact ⟨left ++ before, after, left' ++ before', gap', after', found.append left,
      found'.append left', Text.collapse_append same alike, other⟩
  result := by
    obtain ⟨first, rest, first', gap', after', rest', out, out', isGap, isGap', stops, ends, alike⟩ :=
      diverges.result
    refine ⟨done ++ first, rest, done' ++ first', gap', after', rest', ?_, ?_, isGap, isGap', stops,
      ends.append done', ?_⟩
    · rw [run, out, List.append_assoc]
    · rw [run', out', List.append_assoc]
    · rw [List.append_assoc]
      exact Text.collapse_append same' alike

theorem Outcome.append (outcome : Outcome text text') : Outcome (left ++ text) (left' ++ text') := by
  rcases outcome with agree | diverges | diverges
  · left
    rw [run, run']
    exact Text.collapse_append same' agree
  · exact .inr (.inl (diverges.append same same' run run'))
  · exact .inr (.inr (diverges.append same.symm same'.symm run' run))

end

theorem phrase_eq : "not equals".toList = "not" ++ ([' '] ++ "equals") := by decide

theorem exists_phrase (found : afterSpacedWord? "not equals" rest = some more)
    (same : collapse rest = collapse rest') : ∃ gap after more' : Text, gap.IsGap ∧ after.IsGap ∧
      Stops isBlank more' ∧ rest' = "not" ++ (gap ++ ("equals" ++ (after ++ more'))) ∧
      collapse more' = collapse more := by
  obtain ⟨stops, after, isGap, rfl⟩ := afterSpacedWord?_eq_some_iff.mp found
  rw [phrase_eq, List.append_assoc, List.append_assoc, Text.collapse_solid isToken_not.solid,
    Text.collapse_gap .space (isToken_equals.stops _), Text.collapse_solid isToken_equals.solid,
    Text.collapse_gap isGap stops, ← List.singleton_append, ← List.singleton_append] at same
  obtain ⟨gap, below, isGap', _, rfl, second⟩ :=
    Text.exists_of_collapse_eq_word isToken_not.solid .space (isToken_equals.stops _) same.symm
  obtain ⟨gap', more', isGap'', stops', rfl, last⟩ :=
    Text.exists_of_collapse_eq_word isToken_equals.solid .space (Text.stops_collapse stops) second
  exact ⟨gap, gap', more', isGap', isGap'', stops', rfl, last⟩

/-- The phrase is found exactly with a single space in it. -/
theorem afterSpacedWord?_phrase {after : Text} (isGap : gap.IsGap) (isGap' : after.IsGap)
    (stops : Stops isBlank more) :
    afterSpacedWord? "not equals" ("not" ++ (gap ++ ("equals" ++ (after ++ more)))) =
      if gap = [' '] then some more else none := by
  split
  · rename_i single
    subst single
    have found : afterSpacedWord? "not equals" ("not equals" ++ (after ++ more)) = some more :=
      afterSpacedWord?_append isGap' stops
    exact found
  · rename_i other
    rw [Option.eq_none_iff_forall_not_mem]
    intro last found
    obtain ⟨_, _, gap', _, whole⟩ := afterSpacedWord?_pair isToken_not isToken_not (isGap.breaks _) found
    exact other (isGap.append_inj (isToken_equals.stops _) .space (isToken_equals.stops _) whole).1

/-- White space at the start is kept, at least some of it. -/
theorem startsBlank_replaceSpacedWord {word symbol : Text} (marked : StartsBlank symbol)
    (starts : StartsBlank text) : StartsBlank (replaceSpacedWord word symbol text) := by
  obtain ⟨c, rest, blank, rfl⟩ := starts
  cases found : afterSpacedWord? word (Text.trimStart rest) with
  | none =>
    rw [replaceSpacedWord_missing found]
    exact ⟨c, _, blank, rfl⟩
  | some more =>
    obtain ⟨d, symbol, blank', rfl⟩ := marked
    rw [replaceSpacedWord_found blank found]
    exact ⟨d, _, blank', rfl⟩

/-- Without white space before it the phrase is passed over. -/
theorem phrasePass_missing {after : Text} (isGap : gap.IsGap) (isGap' : after.IsGap) (more : Text) :
    phrasePass ("not" ++ (gap ++ ("equals" ++ (after ++ more)))) =
      "not" ++ (gap ++ ("equals" ++ phrasePass (after ++ more))) := by
  have missing : afterSpacedWord? "not equals" ("equals" ++ (after ++ more)) = none := by
    rw [Option.eq_none_iff_forall_not_mem]
    intro last found
    have apart := (afterSpacedWord?_pair isToken_not isToken_equals (isGap'.breaks more) found).1
    exact absurd apart (by decide)
  simp only [phrasePass]
  rw [replaceSpacedWord_solid isToken_not.solid,
    replaceSpacedWord_gap_missing _ isGap (isToken_equals.stops _) missing,
    replaceSpacedWord_solid isToken_equals.solid]

theorem diverges_of_found (isGap : gap.IsGap) (stops : Stops isBlank rest) (isGap' : gap'.IsGap)
    (stops' : Stops isBlank rest') (same : collapse rest = collapse rest')
    (found : afterSpacedWord? "not equals" rest = some more)
    (missing : afterSpacedWord? "not equals" rest' = none) :
    Diverges (gap ++ rest) (gap' ++ rest') := by
  obtain ⟨inner, after', more', isInner, isAfter', stopsMore', rfl, _⟩ := exists_phrase found same
  have other : inner ≠ [' '] := by
    intro single
    rw [afterSpacedWord?_phrase isInner isAfter' stopsMore', if_pos single] at missing
    cases missing
  constructor
  · obtain ⟨_, after, _, rfl⟩ := afterSpacedWord?_eq_some_iff.mp found
    exact ⟨gap, after ++ more, gap', inner, after' ++ more', ⟨.space, rfl⟩, ⟨isInner, rfl⟩,
      isGap.collapse_congr isGap', other⟩
  · have starts : StartsBlank (phrasePass (after' ++ more')) :=
      startsBlank_replaceSpacedWord ⟨' ', _, by decide, rfl⟩ (isAfter'.startsBlank more')
    obtain ⟨c, below, blank, split⟩ := starts
    obtain ⟨last, rest', isLast, stopsRest', whole⟩ := Text.exists_gap blank below
    refine ⟨[], phrasePass more, gap', inner, last, rest',
      replaceSpacedWord_gap _ isGap stops found, ?_, isInner, isLast, stopsRest', isGap'.endsBlank,
      Text.IsGap.space.collapse_congr isGap'⟩
    have passed : phrasePass (gap' ++ _) = gap' ++ phrasePass _ :=
      replaceSpacedWord_gap_missing _ isGap' stops' missing
    rw [passed, phrasePass_missing isInner isAfter', split, whole]

theorem collapse_eq_of_found {more' : Text} (found : afterSpacedWord? "not equals" rest = some more)
    (found' : afterSpacedWord? "not equals" rest' = some more') (same : collapse rest = collapse rest') :
    collapse more = collapse more' := by
  obtain ⟨inner, after, last, isInner, isAfter, stops, rfl, alike⟩ := exists_phrase found same
  rw [afterSpacedWord?_phrase isInner isAfter stops] at found'
  split at found'
  · rw [← Option.some.inj found', alike]
  · cases found'

theorem Outcome.of_found {more' : Text} (outcome : Outcome more more') (isGap : gap.IsGap)
    (stops : Stops isBlank rest) (found : afterSpacedWord? "not equals" rest = some more)
    (isGap' : gap'.IsGap) (stops' : Stops isBlank rest')
    (found' : afterSpacedWord? "not equals" rest' = some more') :
    Outcome (gap ++ rest) (gap' ++ rest') := by
  have run := replaceSpacedWord_gap " !== " isGap stops found
  have run' := replaceSpacedWord_gap " !== " isGap' stops' found'
  obtain ⟨_, after, isAfter, rfl⟩ := afterSpacedWord?_eq_some_iff.mp found
  obtain ⟨_, after', isAfter', rfl⟩ := afterSpacedWord?_eq_some_iff.mp found'
  have split (gap after more : Text) : gap ++ ("not equals" ++ (after ++ more)) =
      (gap ++ ("not equals" ++ after)) ++ more := by simp
  have passed := Text.collapse_append (isGap.collapse_congr isGap')
    (Text.collapse_append_right "not equals" (isAfter.collapse_congr isAfter'))
  rw [split] at run run' ⊢
  rw [split]
  exact outcome.append passed rfl run run'

/-- Two texts with different spacing come out of the first pass alike, or there is a place where one has
the phrase with a single space and the other does not. -/
theorem outcome_of_same (same : collapse text = collapse text') : Outcome text text' := by
  induction text using Text.byGaps generalizing text' with
  | nil =>
    rw [Text.collapse_eq_nil same.symm]
    exact .inl rfl
  | solid c rest solid ih =>
    rw [Text.collapse_cons_solid solid] at same
    have alone : Text.IsSolid [c] := List.forall_mem_singleton.mpr solid
    obtain ⟨rest', rfl, same'⟩ := Text.exists_of_collapse_eq_append alone same.symm
    exact (ih same'.symm).append rfl rfl (replaceSpacedWord_solid alone rest)
      (replaceSpacedWord_solid alone rest')
  | gap gap rest isGap stops ih =>
    rw [Text.collapse_gap isGap stops, ← List.singleton_append] at same
    obtain ⟨gap', rest', isGap', stops', rfl, same'⟩ :=
      Text.exists_of_collapse_eq_gap .space (Text.stops_collapse stops) same.symm
    have gaps := isGap.collapse_congr isGap'
    cases found : afterSpacedWord? "not equals" rest with
    | none =>
      cases found' : afterSpacedWord? "not equals" rest' with
      | none =>
        exact (ih rest le_rfl same'.symm).append gaps gaps
          (replaceSpacedWord_gap_missing _ isGap stops found)
          (replaceSpacedWord_gap_missing _ isGap' stops' found')
      | some more' =>
        exact .inr (.inr (diverges_of_found isGap' stops' isGap stops same' found' found))
    | some more =>
      cases found' : afterSpacedWord? "not equals" rest' with
      | none => exact .inr (.inl (diverges_of_found isGap stops isGap' stops' same'.symm found found'))
      | some more' =>
        have alike := collapse_eq_of_found found found' same'.symm
        exact (ih more (afterSpacedWord?_length_le found) alike).of_found isGap stops found isGap' stops'
          found'

end Vue

end AppDescription
