import AppDescription.Proofs.FieldDefinitions
import AppDescription.Proofs.FieldLines
import AppDescription.Outline

namespace AppDescription

/-- What a reader may come to that goes by positions and by what a line is said to hold, and that does
not ask first whether there is anything. -/
inductive Mishap where
  /-- The fault of a source, which is told to the user. -/
  | malformed (fault : Fault)
  /-- There is no word at an index. -/
  | pastEnd (index : Nat)
  /-- A line whose value is kept has no key. -/
  | keyless (line : Line)
  deriving DecidableEq

/-- The word at an index. -/
def wordAt (words : List Text) (index : Nat) : Except Mishap Text :=
  match words[index]? with
  | some word => .ok word
  | none => .error (.pastEnd index)

theorem wordAt_of_le {words : List Text} {index : Nat} (past : words.length ≤ index) :
    wordAt words index = .error (.pastEnd index) := by
  rw [wordAt, List.getElem?_eq_none past]

/-- At an index in range there is a word, and what is left starts with it. -/
theorem exists_wordAt {words : List Text} {index : Nat} (inside : index < words.length) :
    ∃ word, wordAt words index = .ok word ∧ words.drop index = word :: words.drop (index + 1) := by
  refine ⟨words[index], ?_, List.drop_eq_getElem_cons inside⟩
  rw [wordAt, List.getElem?_eq_getElem inside]

namespace FieldType

/-- Reads the type that starts at an index, and gives the index after it. -/
def readAt (words : List Text) (index : Nat) : Except Mishap (FieldType × Nat) := do
  let word ← wordAt words index
  if _inside : word = "list".toList ∧ index + 2 < words.length then
    let next ← wordAt words (index + 1)
    if next = "of".toList then
      let (item, after) ← readAt words (index + 2)
      return (list item, after)
    else return (ofWords?.ofWord word, index + 1)
  else return (ofWords?.ofWord word, index + 1)
termination_by words.length - index

/-- At an index in range a type is read from words in range only, and the index grows. -/
theorem readAt_eq {words : List Text} {index : Nat} (inside : index < words.length) :
    ∃ type next, readAt words index = .ok (type, next) ∧ index < next ∧ next ≤ words.length ∧
      ofWords? (words.drop index) = some (type, words.drop next) := by
  induction size : words.length - index using Nat.strong_induction_on generalizing index with
  | _ size ih =>
    obtain ⟨word, found, left⟩ := exists_wordAt inside
    have single (plain : ¬(word = "list".toList ∧
        ∃ next more, words.drop (index + 1) = "of".toList :: next :: more)) :
        ofWords? (words.drop index) = some (ofWords?.ofWord word, words.drop (index + 1)) := by
      rw [left, ofWords?_cons plain]
    rw [readAt, found]
    simp only [bind, Except.bind]
    split
    · rename_i opens
      obtain ⟨next, foundNext, leftNext⟩ := exists_wordAt (show index + 1 < words.length by omega)
      obtain ⟨item, _, leftItem⟩ := exists_wordAt opens.2
      rw [foundNext]
      dsimp only
      split
      · rename_i isOf
        obtain ⟨type, after, reads, grows, ends, same⟩ := ih _ (by omega) opens.2 rfl
        rw [reads]
        refine ⟨_, _, rfl, by omega, ends, ?_⟩
        rw [left, leftNext, leftItem, ofWords?, if_pos ⟨opens.1, isOf⟩, ← leftItem, same]
        rfl
      · rename_i notOf
        refine ⟨_, _, rfl, by omega, by omega, single ?_⟩
        rintro ⟨_, _, _, same⟩
        exact notOf (List.cons.inj (leftNext.symm.trans same)).1
    · rename_i opens
      refine ⟨_, _, rfl, by omega, by omega, single ?_⟩
      rintro ⟨isList, _, _, same⟩
      have length := congrArg List.length same
      simp only [List.length_drop, List.length_cons] at length
      exact opens ⟨isList, by omega⟩

end FieldType

namespace Modifier

/-- One turn at the word at an index: the modifier found, if any, and the index to go on at. -/
def turn (words : List Text) (index : Nat) : Except Mishap (Option Modifier × Nat) := do
  let word ← wordAt words index
  match Flag.ofName? word with
  | some f => return (some (.flag f), index + 1)
  | none =>
    match Text.dropPrefix? "default:" word with
    | none => return (none, index + 1)
    | some [] =>
      if index + 1 < words.length then
        let value ← wordAt words (index + 1)
        return (some (.default value), index + 2)
      else return (none, index + 1)
    | some value => return (some (.default value), index + 1)

/-- At an index in range a turn reads words in range only, and the index grows. -/
theorem turn_eq {words : List Text} {index : Nat} (inside : index < words.length) :
    ∃ found next, turn words index = .ok (found, next) ∧ index < next ∧ next ≤ words.length ∧
      ofWords (words.drop index) = found.toList ++ ofWords (words.drop next) := by
  obtain ⟨word, found, left⟩ := exists_wordAt inside
  rw [left, ofWords.eq_def, turn, found]
  simp only [bind, Except.bind]
  cases flag : Flag.ofName? word with
  | some f => exact ⟨_, _, rfl, by omega, by omega, rfl⟩
  | none =>
    cases start : Text.dropPrefix? "default:" word with
    | none => exact ⟨_, _, rfl, by omega, by omega, rfl⟩
    | some value =>
      cases value with
      | cons c value => exact ⟨_, _, rfl, by omega, by omega, rfl⟩
      | nil =>
        dsimp only
        split
        · rename_i more
          obtain ⟨value, foundValue, leftValue⟩ := exists_wordAt more
          rw [foundValue, leftValue]
          exact ⟨_, _, rfl, by omega, by omega, rfl⟩
        · rename_i last
          have none : words.drop (index + 1) = [] := List.drop_eq_nil_iff.mpr (by omega)
          exact ⟨_, _, rfl, by omega, by omega, by simp [none, ofWords]⟩

theorem turn_grows {words : List Text} {index next : Nat} {found : Option Modifier}
    (inside : index < words.length) (turned : turn words index = .ok (found, next)) :
    index < next := by
  obtain ⟨_, _, same, grows, _⟩ := turn_eq inside
  cases same.symm.trans turned
  exact grows

/-- Takes one turn after another until there are no words left. -/
def readFrom (words : List Text) (index : Nat) : Except Mishap (List Modifier) :=
  if _inside : index < words.length then
    match _turned : turn words index with
    | .error mishap => .error mishap
    | .ok (found, next) => (readFrom words next).map (found.toList ++ ·)
  else .ok []
termination_by words.length - index
decreasing_by
  have := turn_grows _inside _turned
  omega

theorem readFrom_eq (words : List Text) (index : Nat) :
    readFrom words index = .ok (ofWords (words.drop index)) := by
  fun_induction readFrom words index with
  | case1 index inside mishap turned =>
    obtain ⟨_, _, same, _⟩ := turn_eq inside
    cases same.symm.trans turned
  | case2 index inside found next turned ih =>
    obtain ⟨_, _, same, _, _, reads⟩ := turn_eq inside
    cases same.symm.trans turned
    rw [ih, reads]
    rfl
  | case3 index past => rw [List.drop_eq_nil_iff.mpr (by omega), ofWords]

end Modifier

/-- Reads a definition word by word. -/
def Field.readWords (name definition : Text) : Except Mishap Field := do
  let (type, index) ← FieldType.readAt (Text.words definition) 0
  let modifiers ← Modifier.readFrom (Text.words definition) index
  return ⟨name, type, modifiers⟩

/-- A definition without words is read past its end. No other one is. -/
theorem Field.readWords_eq (name definition : Text) :
    readWords name definition =
      match ofDefinition? name definition with
      | some field => .ok field
      | none => .error (.pastEnd 0) := by
  unfold readWords ofDefinition?
  cases Nat.eq_zero_or_pos (Text.words definition).length with
  | inl none =>
    rw [List.eq_nil_of_length_eq_zero none, FieldType.readAt, wordAt_of_le (by simp)]
    rfl
  | inr inside =>
    obtain ⟨type, next, reads, _, _, same⟩ := FieldType.readAt_eq inside
    rw [List.drop_zero] at same
    rw [same, reads]
    simp only [bind, Except.bind, Modifier.readFrom_eq]
    rfl

/-- The reader of definitions relies on its caller: from white space alone it takes a word that is not
there. -/
theorem Field.readWords_blank (name : Text) {definition : Text}
    (blank : ∀ c ∈ definition, isBlank c = true) :
    readWords name definition = .error (.pastEnd 0) := by
  rw [readWords_eq, ofDefinition?, Text.words_eq_nil_iff.mpr blank]
  rfl

/-- A text matches `name:`, white space and a definition, wherever the white space is taken to end. -/
def Header.Splits (name definition text : Text) : Prop :=
  name.IsName ∧ definition ≠ [] ∧ ∃ gap : Text,
    gap ≠ [] ∧ (∀ c ∈ gap, isBlank c = true) ∧ text = name ++ ':' :: (gap ++ definition)

theorem Header.IsField.splits {name definition text : Text} (form : IsField name definition text) :
    Splits name definition text :=
  ⟨form.1, form.2.1, form.2.2.2⟩

/-- However the text of a line is split, there is a word in the definition: its last character is not
white space. -/
theorem Header.Splits.words_ne_nil {line : Line} {name definition : Text}
    (splits : Header.Splits name definition line.text) : Text.words definition ≠ [] := by
  obtain ⟨_, filled, gap, _, _, same⟩ := splits
  intro none
  have last : line.text.getLast? = some (definition.getLast filled) := by
    rw [same, List.getLast?_append, List.getLast?_cons, List.getLast?_append,
      List.getLast?_eq_getLast_of_ne_nil filled]
    rfl
  have solid : isBlank (definition.getLast filled) = false := Text.getLast?_trim last
  rw [Text.words_eq_nil_iff.mp none _ (List.getLast_mem filled)] at solid
  cases solid

theorem Field.readWords_of_line {line : Line} {name definition : Text}
    (found : Header.field? line.text = some (name, definition)) :
    ∃ field, Field.ofDefinition? name definition = some field ∧
      Field.readWords name definition = .ok field := by
  obtain ⟨field, read⟩ := Option.isSome_iff_exists.mp
    (Field.ofDefinition?_isSome (Header.field?_eq_some_iff.mp found))
  exact ⟨field, read, by rw [Field.readWords_eq, read]⟩

end AppDescription
