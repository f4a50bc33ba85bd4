import AppDescription.Proofs.ExpressionPasses

namespace AppDescription

namespace Text

variable {text text' token gap rest rest' left left' right right' : Text} {c : Char}

/-- The text with one space for each run of white space. -/
def collapse : Text → Text
  | [] => []
  | c :: rest =>
    if AppDescription.isBlank c then ' ' :: trimStart (collapse rest) else c :: collapse rest

/-- Two texts that differ in nothing but the white space between what is there. -/
inductive Respaced : Text → Text → Prop where
  | nil : Respaced [] []
  | solid {c : Char} {rest rest' : Text} (isSolid : AppDescription.isBlank c = false)
      (respaced : Respaced rest rest') : Respaced (c :: rest) (c :: rest')
  | gap {gap gap' rest rest' : Text} (isGap : gap.IsGap) (isGap' : gap'.IsGap)
      (stops : Stops AppDescription.isBlank rest) (stops' : Stops AppDescription.isBlank rest')
      (respaced : Respaced rest rest') : Respaced (gap ++ rest) (gap' ++ rest')

theorem collapse_cons_solid (solid : AppDescription.isBlank c = false) :
    collapse (c :: rest) = c :: collapse rest := by
  rw [collapse, if_neg (by simp [solid])]

theorem collapse_solid (solid : token.IsSolid) (rest : Text) :
    collapse (token ++ rest) = token ++ collapse rest := by
  induction token with
  | nil => rfl
  | cons c token ih =>
    obtain ⟨first, later⟩ := List.forall_mem_cons.mp solid
    rw [List.cons_append, collapse_cons_solid first, ih later, List.cons_append]

theorem trimStart_cons (blank : AppDescription.isBlank c = true) :
    trimStart (c :: rest) = trimStart rest := by
  rw [trimStart, List.dropWhile_cons_of_pos blank, trimStart]

theorem isBlank_space : AppDescription.isBlank ' ' = true := by decide

theorem trimStart_trimStart_append (left right : Text) :
    trimStart (trimStart left ++ right) = trimStart (left ++ right) := by
  induction left with
  | nil => rfl
  | cons c left ih =>
    unfold trimStart at ih ⊢
    cases blank : AppDescription.isBlank c <;> simp [blank, ih]

theorem trimStart_collapse (text : Text) : trimStart (collapse text) = collapse (trimStart text) := by
  induction text with
  | nil => rfl
  | cons c rest ih =>
    cases blank : AppDescription.isBlank c with
    | true =>
      have again := trimStart_trimStart_append (collapse rest) []
      rw [List.append_nil, List.append_nil] at again
      rw [collapse, if_pos blank, trimStart_cons isBlank_space, again, ih, trimStart_cons blank]
    | false => simp [collapse, trimStart, blank]

theorem stops_collapse (stops : Stops AppDescription.isBlank text) :
    Stops AppDescription.isBlank (collapse text) := by
  have same := trimStart_collapse text
  rw [trimStart, trimStart, stops.dropWhile_eq] at same
  rw [← same]
  exact .of_dropWhile _ _

theorem collapse_gap (isGap : gap.IsGap) (stops : Stops AppDescription.isBlank rest) :
    collapse (gap ++ rest) = ' ' :: collapse rest := by
  obtain ⟨c, gap, rfl⟩ := List.exists_cons_of_ne_nil isGap.nonempty
  obtain ⟨first, later⟩ := List.forall_mem_cons.mp isGap.blank
  rw [List.cons_append, collapse, if_pos first, trimStart_collapse, trimStart,
    stops.dropWhile_append later]

theorem IsGap.collapse_eq (isGap : gap.IsGap) : collapse gap = [' '] := by
  have alone := collapse_gap isGap .nil
  rwa [List.append_nil] at alone

theorem IsGap.collapse_congr {gap' : Text} (isGap : gap.IsGap) (isGap' : gap'.IsGap) :
    collapse gap = collapse gap' := by
  rw [isGap.collapse_eq, isGap'.collapse_eq]

theorem collapse_append_right (left : Text) (same : collapse right = collapse right') :
    collapse (left ++ right) = collapse (left ++ right') := by
  induction left with
  | nil => exact same
  | cons c left ih => rw [List.cons_append, List.cons_append, collapse, collapse, ih]

theorem collapse_collapse_append (left right : Text) :
    collapse (collapse left ++ right) = collapse (left ++ right) := by
  induction left with
  | nil => rfl
  | cons c left ih =>
    cases blank : AppDescription.isBlank c with
    | true =>
      rw [collapse, if_pos blank, List.cons_append, List.cons_append, collapse, if_pos isBlank_space,
        collapse, if_pos blank, trimStart_collapse, trimStart_trimStart_append, ← trimStart_collapse, ih]
    | false =>
      rw [collapse_cons_solid blank, List.cons_append, List.cons_append, collapse_cons_solid blank,
        collapse_cons_solid blank, ih]

theorem collapse_collapse (text : Text) : collapse (collapse text) = collapse text := by
  have alone := collapse_collapse_append text []
  rwa [List.append_nil, List.append_nil] at alone

theorem collapse_append (same : collapse left = collapse left')
    (same' : collapse right = collapse right') :
    collapse (left ++ right) = collapse (left' ++ right') := by
  rw [← collapse_collapse_append, same, collapse_collapse_append, collapse_append_right left' same']

/-- Where no white space is cut in two, the parts collapse on their own. -/
theorem collapse_append_of_stops (left : Text) (stops : Stops AppDescription.isBlank right) :
    collapse (left ++ right) = collapse left ++ collapse right := by
  induction left with
  | nil => rfl
  | cons c left ih =>
    cases blank : AppDescription.isBlank c with
    | true =>
      have cut : trimStart (collapse left ++ collapse right) =
          trimStart (collapse left) ++ collapse right := (stops_collapse stops).dropWhile_left
      rw [List.cons_append, collapse, if_pos blank, ih, cut, collapse.eq_2, if_pos blank,
        List.cons_append]
    | false => rw [List.cons_append, collapse_cons_solid blank, ih, collapse_cons_solid blank,
        List.cons_append]

theorem collapse_eq_nil (same : collapse text = []) : text = [] := by
  cases text with
  | nil => rfl
  | cons c rest =>
    rw [collapse] at same
    split at same <;> cases same

/-- What is there besides white space is there before white space is collapsed. -/
theorem exists_of_collapse_eq_append (solid : token.IsSolid) (same : collapse text = token ++ rest) :
    ∃ more, text = token ++ more ∧ collapse more = rest := by
  induction token generalizing text with
  | nil => exact ⟨text, rfl, same⟩
  | cons c token ih =>
    obtain ⟨first, later⟩ := List.forall_mem_cons.mp solid
    cases text with
    | nil => cases same
    | cons d text =>
      cases blank : AppDescription.isBlank d with
      | true =>
        rw [collapse, if_pos blank, List.cons_append] at same
        rw [← (List.cons.inj same).1, isBlank_space] at first
        cases first
      | false =>
        rw [collapse_cons_solid blank, List.cons_append] at same
        obtain ⟨rfl, below⟩ := List.cons.inj same
        obtain ⟨more, rfl, found⟩ := ih later below
        exact ⟨more, rfl, found⟩

theorem exists_of_collapse_eq_gap (isGap : gap.IsGap) (stops : Stops AppDescription.isBlank rest)
    (same : collapse text = gap ++ rest) : ∃ gap more : Text,
    gap.IsGap ∧ Stops AppDescription.isBlank more ∧ text = gap ++ more ∧ collapse more = rest := by
  cases text with
  | nil => exact absurd (List.append_eq_nil_iff.mp same.symm).1 isGap.nonempty
  | cons c text =>
    cases blank : AppDescription.isBlank c with
    | true =>
      obtain ⟨gap', more, isGap', stops', whole⟩ := exists_gap blank text
      rw [whole, collapse_gap isGap' stops', ← List.singleton_append] at same
      obtain ⟨_, same⟩ := IsGap.space.append_inj (stops_collapse stops') isGap stops same
      exact ⟨gap', more, isGap', stops', whole, same⟩
    | false =>
      obtain ⟨d, gap, rfl⟩ := List.exists_cons_of_ne_nil isGap.nonempty
      rw [collapse_cons_solid blank] at same
      rw [(List.cons.inj same).1, isGap.blank d List.mem_cons_self] at blank
      cases blank

theorem exists_of_collapse_eq_word (solid : token.IsSolid) (isGap : gap.IsGap)
    (stops : Stops AppDescription.isBlank rest) (same : collapse text = token ++ (gap ++ rest)) :
    ∃ gap more : Text, gap.IsGap ∧ Stops AppDescription.isBlank more ∧
      text = token ++ (gap ++ more) ∧ collapse more = rest := by
  obtain ⟨after, rfl, later⟩ := exists_of_collapse_eq_append solid same
  obtain ⟨gap', more, isGap', stops', rfl, last⟩ := exists_of_collapse_eq_gap isGap stops later
  exact ⟨gap', more, isGap', stops', rfl, last⟩

/-- A text is read a character or a run of white space at a time. -/
theorem byGaps {motive : Text → Prop} (nil : motive [])
    (solid : ∀ c rest, AppDescription.isBlank c = false → motive rest → motive (c :: rest))
    (gap : ∀ gap rest : Text, gap.IsGap → Stops AppDescription.isBlank rest →
      (∀ more : Text, more.length ≤ rest.length → motive more) → motive (gap ++ rest))
    (text : Text) : motive text := by
  induction size : text.length using Nat.strong_induction_on generalizing text with
  | _ size ih =>
    cases text with
    | nil => exact nil
    | cons c rest =>
      rw [List.length_cons] at size
      cases blank : AppDescription.isBlank c with
      | false => exact solid c rest blank (ih rest.length (by omega) rest rfl)
      | true =>
        obtain ⟨first, more, isGap, stops, whole⟩ := exists_gap blank rest
        have total := congrArg List.length whole
        rw [List.length_cons, List.length_append] at total
        have nonempty := List.length_pos_iff.mpr isGap.nonempty
        rw [whole]
        exact gap first more isGap stops fun shorter le => ih shorter.length (by omega) shorter rfl

/-- Such texts are the ones that collapse to the same. -/
theorem respaced_iff : Respaced text text' ↔ collapse text = collapse text' := by
  constructor
  · intro respaced
    induction respaced with
    | nil => rfl
    | solid isSolid _ ih => rw [collapse_cons_solid isSolid, collapse_cons_solid isSolid, ih]
    | gap isGap isGap' stops stops' _ ih => rw [collapse_gap isGap stops, collapse_gap isGap' stops', ih]
  · intro same
    induction text using byGaps generalizing text' with
    | nil =>
      rw [collapse_eq_nil same.symm]
      exact .nil
    | solid c rest solid ih =>
      rw [collapse_cons_solid solid] at same
      have alone : IsSolid [c] := List.forall_mem_singleton.mpr solid
      obtain ⟨rest', rfl, same'⟩ := exists_of_collapse_eq_append alone same.symm
      exact .solid solid (ih same'.symm)
    | gap gap rest isGap stops ih =>
      rw [collapse_gap isGap stops, ← List.singleton_append] at same
      obtain ⟨gap', rest', isGap', stops', rfl, same'⟩ :=
        exists_of_collapse_eq_gap .space (stops_collapse stops) same.symm
      exact .gap isGap isGap' stops stops' (ih rest le_rfl same'.symm)

end Text

namespace Vue

open Text (collapse)

variable {word symbol text text' rest rest' more gap gap' : Text}

theorem afterSpacedWord?_collapse (solid : word.IsSolid) (text : Text) :
    afterSpacedWord? word (collapse text) = (afterSpacedWord? word text).map collapse := by
  ext more
  rw [Option.map_eq_some_iff, afterSpacedWord?_eq_some_iff]
  constructor
  · rintro ⟨stops, gap, isGap, same⟩
    obtain ⟨gap', after, isGap', stops', rfl, last⟩ :=
      Text.exists_of_collapse_eq_word solid isGap stops same
    exact ⟨after, afterSpacedWord?_append isGap' stops', last⟩
  · rintro ⟨after, found, rfl⟩
    obtain ⟨stops, gap, isGap, rfl⟩ := afterSpacedWord?_eq_some_iff.mp found
    refine ⟨Text.stops_collapse stops, [' '], .space, ?_⟩
    rw [Text.collapse_solid solid, Text.collapse_gap isGap stops, List.singleton_append]

/-- A pass that finds the same with any white space. -/
def IgnoresSpacing (pass : Text → Text) : Prop :=
  ∀ text, collapse (pass (collapse text)) = collapse (pass text)

theorem IgnoresSpacing.congr {pass : Text → Text} (ignores : IgnoresSpacing pass)
    (same : collapse text = collapse text') : collapse (pass text) = collapse (pass text') := by
  rw [← ignores text, same, ignores text']

theorem IgnoresSpacing.foldl {pass : α → Text → Text} {operators : List α}
    (each : ∀ operator ∈ operators, IgnoresSpacing (pass operator)) :
    IgnoresSpacing fun text => operators.foldl (fun text operator => pass operator text) text := by
  intro text
  induction operators generalizing text with
  | nil => exact Text.collapse_collapse text
  | cons operator operators ih =>
    obtain ⟨ignores, later⟩ := List.forall_mem_cons.mp each
    have first := ih later (pass operator (collapse text))
    dsimp only [List.foldl_cons] at first ⊢
    rw [← first, ignores text, ih later (pass operator text)]

theorem ignoresSpacing_replaceSpacedWord (solid : word.IsSolid) :
    IgnoresSpacing (replaceSpacedWord word symbol) := by
  intro text
  induction text using Text.byGaps with
  | nil => rfl
  | solid c rest solid' ih =>
    have alone : Text.IsSolid [c] := List.forall_mem_singleton.mpr solid'
    rw [← List.singleton_append, Text.collapse_solid alone, replaceSpacedWord_solid alone,
      replaceSpacedWord_solid alone, Text.collapse_solid alone, Text.collapse_solid alone, ih]
  | gap gap rest isGap stops ih =>
    have space := Text.IsGap.space
    have stops' := Text.stops_collapse stops
    have found := afterSpacedWord?_collapse solid rest
    rw [Text.collapse_gap isGap stops, ← List.singleton_append]
    cases after : afterSpacedWord? word rest with
    | none =>
      rw [after, Option.map_none] at found
      rw [replaceSpacedWord_gap_missing symbol space stops' found,
        replaceSpacedWord_gap_missing symbol isGap stops after]
      exact Text.collapse_append (space.collapse_congr isGap) (ih rest le_rfl)
    | some more =>
      rw [after, Option.map_some] at found
      rw [replaceSpacedWord_gap symbol space stops' found,
        replaceSpacedWord_gap symbol isGap stops after]
      exact Text.collapse_append_right symbol (ih more (afterSpacedWord?_length_le after))

end Vue

end AppDescription
