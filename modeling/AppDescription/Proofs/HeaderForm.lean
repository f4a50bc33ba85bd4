import AppDescription.Proofs.TextForm

namespace AppDescription

namespace Header

/-- The form `keyword name:`, with anything after the colon. White space separates the two words
and may stand before the colon. -/
def Named (keyword name more text : Text) : Prop :=
  name ≠ [] ∧ (∀ c ∈ name, isWord c = true) ∧ ∃ gap space : Text,
    gap ≠ [] ∧ (∀ c ∈ gap, isBlank c = true) ∧ (∀ c ∈ space, isBlank c = true) ∧
      text = keyword ++ (gap ++ (name ++ (space ++ ':' :: more)))

/-- The form `keyword:` with nothing after the colon. White space may stand before it. -/
def Bare (keyword text : Text) : Prop :=
  ∃ space : Text, (∀ c ∈ space, isBlank c = true) ∧ text = keyword ++ (space ++ [':'])

theorem stops_word_colon {space : Text} (all : ∀ c ∈ space, isBlank c = true) (more : Text) :
    Stops isWord (space ++ ':' :: more) := by
  cases space with
  | nil => simp [isWord_colon]
  | cons c space => simpa using isWord_eq_false_of_isBlank (all c List.mem_cons_self)

theorem stops_blank_word {name : Text} (nonempty : name ≠ []) (all : ∀ c ∈ name, isWord c = true)
    (more : Text) : Stops isBlank (name ++ more) := by
  cases name with
  | nil => exact absurd rfl nonempty
  | cons c name => simpa using isBlank_eq_false_of_isWord (all c List.mem_cons_self)

/-- The reader of named headers accepts just their form. -/
theorem named?_eq_some_iff {keyword name more text : Text} :
    named? keyword text = some (name, more) ↔ Named keyword name more text := by
  constructor
  · intro found
    simp only [named?, bind, Option.bind_eq_some_iff] at found
    obtain ⟨afterKeyword, start, afterGap, blanks, ⟨word, afterName⟩, named, rest, colon, same⟩ :=
      found
    simp only [Option.some.injEq, Prod.mk.injEq] at same
    obtain ⟨rfl, rfl⟩ := same
    obtain ⟨_, gap, gapNonempty, gapBlank, rfl⟩ := Text.blanks?_eq_some blanks
    obtain ⟨nonempty, all, _, rfl⟩ := Text.word?_eq_some named
    obtain ⟨space, spaceBlank, rfl⟩ := Text.colon?_eq_some colon
    exact ⟨nonempty, all, gap, space, gapNonempty, gapBlank, spaceBlank,
      Text.dropPrefix?_eq_some start⟩
  · rintro ⟨nonempty, all, gap, space, gapNonempty, gapBlank, spaceBlank, rfl⟩
    simp only [named?, Text.dropPrefix?_append, bind, Option.bind,
      Text.blanks?_append gapNonempty gapBlank (stops_blank_word nonempty all _),
      Text.word?_append nonempty all (stops_word_colon spaceBlank more),
      Text.colon?_append spaceBlank more]

/-- A header with any keyword is read like one with the keyword it starts with. -/
theorem anyNamed?_eq {keyword text : Text} (run : Text.wordRun text = keyword)
    (nonempty : keyword ≠ []) : anyNamed? text = (named? keyword text).map Prod.fst := by
  have start : Text.dropPrefix? keyword text = some (Text.afterWord text) := by
    have whole := Text.wordRun_append_afterWord text
    rw [run] at whole
    conv => lhs; rw [← whole]
    exact Text.dropPrefix?_append _ _
  simp only [anyNamed?, named?, Text.word?_of_wordRun run nonempty, start, bind, Option.bind]
  cases Text.blanks? (Text.afterWord text) with
  | none => rfl
  | some rest =>
    dsimp only
    cases Text.word? rest with
    | none => rfl
    | some parts =>
      dsimp only
      cases Text.colon? parts.2 <;> rfl

/-- The reader of unnamed headers accepts just their form, as a trimmed text has it. -/
theorem isUnnamed_iff {keyword text : Text} (run : Text.wordRun text = keyword)
    (nonempty : keyword ≠ []) (trimmed : ∀ c, text.getLast? = some c → isBlank c = false) :
    isUnnamed text = true ↔ Bare keyword text := by
  have whole := Text.wordRun_append_afterWord text
  rw [run] at whole
  simp only [isUnnamed, Text.word?_of_wordRun run nonempty, Option.any_eq_true]
  constructor
  · rintro ⟨more, colon, all⟩
    obtain ⟨space, spaceBlank, after⟩ := Text.colon?_eq_some colon
    rw [List.all_eq_true] at all
    have ended : more = [] := by
      rcases List.eq_nil_or_concat more with rfl | ⟨front, last, rfl⟩
      · rfl
      · have shape : text = (keyword ++ (space ++ ':' :: front)) ++ [last] := by
          rw [← whole, after]
          simp
        have atEnd : text.getLast? = some last := by rw [shape, List.getLast?_concat]
        have blank := all last (by simp)
        rw [trimmed last atEnd] at blank
        exact absurd blank Bool.false_ne_true
    subst ended
    exact ⟨space, spaceBlank, by rw [← whole, after]⟩
  · rintro ⟨space, spaceBlank, same⟩
    have after : Text.afterWord text = space ++ [':'] := List.append_cancel_left (whole.trans same)
    exact ⟨[], by rw [after]; exact Text.colon?_append spaceBlank [], rfl⟩

/-- A named form has one name. -/
theorem Named.unique {keyword text name name' more more' : Text}
    (first : Named keyword name more text) (second : Named keyword name' more' text) :
    name = name' := by
  have same := (named?_eq_some_iff.mpr first).symm.trans (named?_eq_some_iff.mpr second)
  simp only [Option.some.injEq, Prod.mk.injEq] at same
  exact same.1

section

variable {text word rest : Text}

/-- A colon right after the first word makes no event handler. -/
theorem not_isEventHandler (found : Text.word? text = some (word, ':' :: rest)) :
    isEventHandler text = false := by
  rw [← Bool.not_eq_true]
  intro handler
  obtain ⟨⟨name, more⟩, named⟩ := Option.isSome_iff_exists.mp handler
  obtain ⟨_, _, gap, space, gapNonempty, gapBlank, _, rfl⟩ := named?_eq_some_iff.mp named
  obtain ⟨c, gap, rfl⟩ := List.exists_cons_of_ne_nil gapNonempty
  have blank := gapBlank c List.mem_cons_self
  have stops : Stops isWord (c :: (gap ++ (name ++ (space ++ ':' :: more)))) :=
    Stops.cons_iff.mpr (isWord_eq_false_of_isBlank blank)
  have known : Text.word? ("on".toList ++ c :: (gap ++ (name ++ (space ++ ':' :: more)))) =
      some ("on".toList, c :: (gap ++ (name ++ (space ++ ':' :: more)))) :=
    Text.word?_append (by decide) (List.all_eq_true.mp (by decide +kernel)) stops
  rw [List.cons_append, known] at found
  cases found
  revert blank
  decide

/-- An `else` has that for its first word, and nothing but a colon after it. -/
theorem word_of_isElse (found : Text.word? text = some (word, rest)) (spelled : isElse text) :
    word = "else".toList ∧ Text.trimStart rest = [':'] := by
  unfold isElse at spelled
  split at spelled
  · cases spelled
  · rename_i more start
    have colon : Text.trimStart more = [':'] := by simpa using spelled
    have shape : Text.colon? more = some [] := by simp only [Text.colon?, colon]
    obtain ⟨space, blank, rfl⟩ := Text.colon?_eq_some shape
    have known : Text.word? ("else".toList ++ (space ++ [':'])) =
        some ("else".toList, space ++ [':']) :=
      Text.word?_append (by decide) (List.all_eq_true.mp (by decide +kernel))
        (stops_word_colon blank [])
    rw [Text.dropPrefix?_eq_some start, known, Option.some.injEq, Prod.mk.injEq] at found
    exact ⟨found.1.symm, found.2 ▸ colon⟩

end

end Header

end AppDescription
