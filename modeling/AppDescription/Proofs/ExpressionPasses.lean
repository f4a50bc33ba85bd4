import AppDescription.Proofs.Gaps
import AppDescription.Proofs.Identifiers

namespace AppDescription

/-- Where what is in a class stops, there is one way to cut it off. -/
theorem Stops.append_inj {p : α → Bool} {left right left' right' : List α}
    (all : ∀ x ∈ left, p x = true) (stops : Stops p right) (all' : ∀ x ∈ left', p x = true)
    (stops' : Stops p right') (same : left ++ right = left' ++ right') :
    left = left' ∧ right = right' := by
  constructor
  · rw [← stops.takeWhile_append all, same, stops'.takeWhile_append all']
  · rw [← stops.dropWhile_append all, same, stops'.dropWhile_append all']

namespace Text

theorem IsGap.breaks {gap : Text} (isGap : gap.IsGap) (rest : Text) : Breaks (gap ++ rest) := by
  obtain ⟨c, more, rfl⟩ := List.exists_cons_of_ne_nil isGap.nonempty
  simpa [Breaks] using isGap.blank c List.mem_cons_self

theorem IsToken.stops {token : Text} (isToken : token.IsToken) (rest : Text) :
    Stops AppDescription.isBlank (token ++ rest) := by
  obtain ⟨c, more, rfl⟩ := List.exists_cons_of_ne_nil isToken.nonempty
  exact Stops.cons_iff.mpr (isToken.solid c List.mem_cons_self)

/-- The first token of a text is determined. -/
theorem IsToken.append_inj {token token' rest rest' : Text} (isToken : token.IsToken)
    (breaks : Breaks rest) (isToken' : token'.IsToken) (breaks' : Breaks rest')
    (same : token ++ rest = token' ++ rest') : token = token' ∧ rest = rest' :=
  Stops.append_inj (fun c member => by simp [isToken.solid c member]) breaks
    (fun c member => by simp [isToken'.solid c member]) breaks' same

/-- So is the gap a text starts with. -/
theorem IsGap.append_inj {gap gap' rest rest' : Text} (isGap : gap.IsGap)
    (stops : Stops AppDescription.isBlank rest) (isGap' : gap'.IsGap)
    (stops' : Stops AppDescription.isBlank rest') (same : gap ++ rest = gap' ++ rest') :
    gap = gap' ∧ rest = rest' :=
  Stops.append_inj isGap.blank stops isGap'.blank stops' same

end Text

namespace Vue

variable {word symbol token gap rest more : Text}

theorem isToken_not : Text.IsToken "not" := by decide

theorem isToken_equals : Text.IsToken "equals" := by decide

theorem afterSpacedWord?_append (isGap : gap.IsGap) (stops : Stops isBlank rest) :
    afterSpacedWord? word (word ++ (gap ++ rest)) = some rest := by
  have blanks := Text.blanks?_append isGap.nonempty isGap.blank stops
  obtain ⟨c, gap, rfl⟩ := List.exists_cons_of_ne_nil isGap.nonempty
  simp only [afterSpacedWord?, Text.dropPrefix?_append, bind, Option.bind]
  exact blanks

/-- A word is found where it is the first token, or the first ones. -/
theorem afterSpacedWord?_eq_some_iff : afterSpacedWord? word rest = some more ↔
    Stops isBlank more ∧ ∃ gap : Text, gap.IsGap ∧ rest = word ++ (gap ++ more) := by
  constructor
  · intro found
    obtain ⟨c, after, rfl, blank, rfl⟩ := afterSpacedWord?_eq_some found
    refine ⟨Stops.of_dropWhile isBlank after, c :: after.takeWhile isBlank, ⟨by simp, ?_⟩, ?_⟩
    · exact List.forall_mem_cons.mpr ⟨blank, fun x member => List.mem_takeWhile_imp member⟩
    · rw [Text.trimStart, List.cons_append, List.takeWhile_append_dropWhile]
  · rintro ⟨stops, gap, isGap, rfl⟩
    exact afterSpacedWord?_append isGap stops

/-- Another token than the word is not the word. -/
theorem afterSpacedWord?_of_ne (isToken : token.IsToken) (breaks : Text.Breaks rest)
    (isWord : word.IsToken) (other : token ≠ word) :
    afterSpacedWord? word (token ++ rest) = none := by
  rw [Option.eq_none_iff_forall_not_mem]
  intro more found
  obtain ⟨_, gap, isGap, same⟩ := afterSpacedWord?_eq_some_iff.mp found
  exact other (isToken.append_inj breaks isWord (isGap.breaks more) same).1

/-- Two words in a row are found where they are the first two tokens, with one space between. -/
theorem afterSpacedWord?_pair {first second : Text} (isFirst : first.IsToken)
    (isToken : token.IsToken) (breaks : Text.Breaks rest)
    (found : afterSpacedWord? (first ++ ' ' :: second) (token ++ rest) = some more) :
    token = first ∧ Stops isBlank more ∧
      ∃ gap : Text, gap.IsGap ∧ rest = [' '] ++ (second ++ (gap ++ more)) := by
  obtain ⟨stops, gap, isGap, same⟩ := afterSpacedWord?_eq_some_iff.mp found
  rw [List.append_assoc, List.cons_append] at same
  have spaced := Text.IsGap.space.breaks (second ++ (gap ++ more))
  obtain ⟨rfl, rfl⟩ := isToken.append_inj breaks isFirst spaced same
  exact ⟨rfl, stops, gap, isGap, rfl⟩

theorem replaceSpacedWord_solid (solid : token.IsSolid) (rest : Text) :
    replaceSpacedWord word symbol (token ++ rest) = token ++ replaceSpacedWord word symbol rest := by
  induction token with
  | nil => rfl
  | cons c token ih =>
    obtain ⟨first, later⟩ := List.forall_mem_cons.mp solid
    rw [List.cons_append, replaceSpacedWord, if_neg (by simp [first]), ih later, List.cons_append]

theorem replaceSpacedWord_gap (symbol : Text) (isGap : gap.IsGap) (stops : Stops isBlank rest)
    (found : afterSpacedWord? word rest = some more) :
    replaceSpacedWord word symbol (gap ++ rest) =
      symbol ++ replaceSpacedWord word symbol more := by
  obtain ⟨c, gap, rfl⟩ := List.exists_cons_of_ne_nil isGap.nonempty
  obtain ⟨first, later⟩ := List.forall_mem_cons.mp isGap.blank
  have trimmed : Text.trimStart (gap ++ rest) = rest := stops.dropWhile_append later
  rw [List.cons_append, replaceSpacedWord_found first (trimmed.symm ▸ found)]

theorem replaceSpacedWord_gap_missing (symbol : Text) (isGap : gap.IsGap) (stops : Stops isBlank rest)
    (none : afterSpacedWord? word rest = none) :
    replaceSpacedWord word symbol (gap ++ rest) = gap ++ replaceSpacedWord word symbol rest := by
  have blank := isGap.blank
  clear isGap
  induction gap with
  | nil => rfl
  | cons c gap ih =>
    obtain ⟨_, later⟩ := List.forall_mem_cons.mp blank
    have trimmed : Text.trimStart (gap ++ rest) = rest := stops.dropWhile_append later
    rw [List.cons_append, replaceSpacedWord_missing (trimmed.symm ▸ none), ih later, List.cons_append]

/-- An operator is not found at a token that starts with another character. -/
theorem replaceSpacedWord_past (isGap : gap.IsGap) (isToken : token.IsToken) (nonempty : word ≠ [])
    (apart : word.head? ≠ token.head?) (rest : Text) :
    replaceSpacedWord word symbol (gap ++ (token ++ rest)) =
      gap ++ (token ++ replaceSpacedWord word symbol rest) := by
  have none : afterSpacedWord? word (token ++ rest) = none := by
    rw [Option.eq_none_iff_forall_not_mem]
    intro more found
    obtain ⟨_, after, _, whole⟩ := afterSpacedWord?_eq_some_iff.mp found
    have heads := congrArg List.head? whole
    rw [List.head?_append_of_ne_nil _ isToken.nonempty, List.head?_append_of_ne_nil _ nonempty] at heads
    exact apart heads.symm
  rw [replaceSpacedWord_gap_missing symbol isGap (isToken.stops rest) none,
    replaceSpacedWord_solid isToken.solid]

/-- A word that does not reach into what follows is found in a piece of text alike with it and without
it. -/
theorem afterSpacedWord?_append_of_apart (stops : Stops isBlank rest)
    (apart : ∀ onto more gap : Text, onto ≠ [] → rest = onto ++ more → gap.IsGap →
      token ++ onto ≠ word ++ gap) :
    afterSpacedWord? word (token ++ rest) = (afterSpacedWord? word token).map (· ++ rest) := by
  ext more
  rw [Option.map_eq_some_iff, afterSpacedWord?_eq_some_iff]
  constructor
  · rintro ⟨stops', gap, isGap, same⟩
    rw [← List.append_assoc] at same
    rcases List.append_eq_append_iff.mp same with ⟨onto, whole, split⟩ | ⟨after, split, rfl⟩
    · have none : onto = [] := by
        by_contra some
        exact apart onto more gap some split isGap whole.symm
      subst none
      refine ⟨[], afterSpacedWord?_eq_some_iff.mpr ⟨.nil, gap, isGap, ?_⟩, split⟩
      simpa using whole.symm
    · refine ⟨after, afterSpacedWord?_eq_some_iff.mpr ⟨?_, gap, isGap, ?_⟩, rfl⟩
      · cases after with
        | nil => exact .nil
        | cons c after => simpa using stops'
      · rw [split, List.append_assoc]
  · rintro ⟨after, found, rfl⟩
    obtain ⟨stops', gap, isGap, rfl⟩ := afterSpacedWord?_eq_some_iff.mp found
    refine ⟨?_, gap, isGap, by simp⟩
    cases after with
    | nil => exact stops
    | cons c after => simpa using stops'

theorem suffix_of_afterSpacedWord? (found : afterSpacedWord? word (Text.trimStart rest) = some more) :
    more <:+ rest := by
  obtain ⟨_, gap, _, same⟩ := afterSpacedWord?_eq_some_iff.mp found
  have trimmed : Text.trimStart rest <:+ rest := List.dropWhile_suffix _
  rw [same] at trimmed
  exact ((List.suffix_append gap more).trans (List.suffix_append word _)).trans trimmed

/-- A pass goes separately over what stands before and after a place that no match reaches over. -/
theorem replaceSpacedWord_append {before : Text} (stops : Stops isBlank rest)
    (apart : ∀ piece onto more gap : Text, piece <:+ before → onto ≠ [] → rest = onto ++ more →
      gap.IsGap → piece ++ onto ≠ word ++ gap) : replaceSpacedWord word symbol (before ++ rest) =
    replaceSpacedWord word symbol before ++ replaceSpacedWord word symbol rest := by
  induction before using replaceSpacedWord.induct word with
  | case1 => rw [List.nil_append, replaceSpacedWord.eq_1, List.nil_append]
  | case2 c below blank more found ih =>
    have cut : Text.trimStart (below ++ rest) = Text.trimStart below ++ rest := stops.dropWhile_left
    have within : Text.trimStart below <:+ c :: below :=
      (List.dropWhile_suffix _).trans (List.suffix_cons c below)
    have split := afterSpacedWord?_append_of_apart stops
      (apart (Text.trimStart below) · · · within)
    rw [found, Option.map_some, ← cut] at split
    have suffix := (suffix_of_afterSpacedWord? found).trans (List.suffix_cons c below)
    rw [List.cons_append, replaceSpacedWord_found blank split, replaceSpacedWord_found blank found,
      ih (fun piece onto after gap inside =>
        apart piece onto after gap (inside.trans suffix)), List.append_assoc]
  | case3 c below blank none ih =>
    have cut : Text.trimStart (below ++ rest) = Text.trimStart below ++ rest := stops.dropWhile_left
    have within : Text.trimStart below <:+ c :: below :=
      (List.dropWhile_suffix _).trans (List.suffix_cons c below)
    have split := afterSpacedWord?_append_of_apart stops
      (apart (Text.trimStart below) · · · within)
    rw [none, Option.map_none, ← cut] at split
    have suffix := List.suffix_cons c below
    rw [List.cons_append, replaceSpacedWord_missing split, replaceSpacedWord_missing none,
      ih (fun piece onto after gap inside =>
        apart piece onto after gap (inside.trans suffix)), List.cons_append]
  | case4 c below solid ih =>
    have suffix := List.suffix_cons c below
    rw [List.cons_append, replaceSpacedWord, if_neg solid, replaceSpacedWord.eq_2, if_neg solid,
      ih (fun piece onto after gap inside =>
        apart piece onto after gap (inside.trans suffix)), List.cons_append]

theorem toCondition_eq (expression : Text) : toCondition expression =
    mapWords spelling (replaceParenthesizedNot (replaceLeadingNot (toScript expression))) := by
  rfl

/-- What has no parenthesis is left alone. -/
theorem replaceParenthesizedNot_append {left : Text} (free : '(' ∉ left) (right : Text) :
    replaceParenthesizedNot (left ++ right) = left ++ replaceParenthesizedNot right := by
  induction left with
  | nil => rfl
  | cons c left ih =>
    rw [List.mem_cons, not_or] at free
    rw [List.cons_append, replaceParenthesizedNot, if_neg (Ne.symm free.1), ih free.2,
      List.cons_append]

theorem mapWords_gap {f : Text → Text} {marks : Text} (all : ∀ c ∈ marks, isWord c = false)
    (rest : Text) : mapWords f (marks ++ rest) = marks ++ mapWords f rest := by
  induction marks with
  | nil => rfl
  | cons c marks ih =>
    obtain ⟨first, later⟩ := List.forall_mem_cons.mp all
    rw [List.cons_append, mapWords, if_neg (by simp [first]), ih later, List.cons_append]

/-- Words are changed separately before and after the end of a word. -/
theorem mapWords_append {f : Text → Text} (text : Text) {rest : Text} (stops : Stops isWord rest) :
    mapWords f (text ++ rest) = mapWords f text ++ mapWords f rest := by
  induction text using byWords with
  | nil => rw [List.nil_append, mapWords, List.nil_append]
  | gap c text other ih =>
    rw [List.cons_append, mapWords, if_neg (by simp [other]), ih, mapWords.eq_2,
      if_neg (by simp [other]), List.cons_append]
  | word word after named stops' ih =>
    have cuts : Stops isWord (after ++ rest) := by
      cases after with
      | nil => exact stops
      | cons c after => simpa using stops'
    rw [List.append_assoc, mapWords_word named cuts, ih, mapWords_word named stops',
      List.append_assoc]

theorem isWord_dot : isWord '.' = false := by decide +kernel

/-- What stands between dots is changed piece by piece. -/
theorem mapWords_dotted {f : Text → Text} (empty : f [] = []) {pieces : List Text}
    (all : ∀ piece ∈ pieces, ∀ c ∈ piece, isWord c = true) {rest : Text}
    (stops : Stops isWord rest) :
    mapWords f (Text.join ['.'] pieces ++ rest) =
      Text.join ['.'] (pieces.map f) ++ mapWords f rest := by
  have alone {piece after : Text} (isWords : ∀ c ∈ piece, isWord c = true)
      (stops : Stops isWord after) : mapWords f (piece ++ after) = f piece ++ mapWords f after := by
    by_cases nothing : piece = []
    · rw [nothing, empty]
      rfl
    · exact mapWords_word ⟨nothing, isWords⟩ stops
  induction pieces with
  | nil => rfl
  | cons piece pieces ih =>
    obtain ⟨first, later⟩ := List.forall_mem_cons.mp all
    cases pieces with
    | nil => exact alone first stops
    | cons next pieces =>
      have dot : Stops isWord ('.' :: (Text.join ['.'] (next :: pieces) ++ rest)) :=
        Stops.cons_iff.mpr isWord_dot
      have whole : Text.join ['.'] (piece :: next :: pieces) ++ rest =
          piece ++ '.' :: (Text.join ['.'] (next :: pieces) ++ rest) := by simp [Text.join]
      rw [whole, alone first dot, mapWords, if_neg (by simp [isWord_dot]), ih later]
      simp [Text.join]

end Vue

end AppDescription
