import AppDescription.Proofs.HeaderForm
import AppDescription.Proofs.WordList

namespace AppDescription

namespace Header

/-- The form `name: definition`. There is white space after the colon, and the definition is what
follows it. -/
def IsField (name definition text : Text) : Prop :=
  name.IsName ∧ definition ≠ [] ∧ Stops isBlank definition ∧ ∃ gap : Text,
    gap ≠ [] ∧ (∀ c ∈ gap, isBlank c = true) ∧ text = name ++ ':' :: (gap ++ definition)

/-- The reader of field lines accepts just their form. -/
theorem field?_eq_some_iff {name definition text : Text} :
    field? text = some (name, definition) ↔ IsField name definition text := by
  constructor
  · intro found
    simp only [field?, bind, Option.bind_eq_some_iff] at found
    obtain ⟨⟨word, after⟩, named, rest⟩ := found
    obtain ⟨nonempty, all, _, rfl⟩ := Text.word?_eq_some named
    split at rest
    · rename_i more same
      subst same
      obtain ⟨left, blanks, given⟩ := Option.bind_eq_some_iff.mp rest
      obtain ⟨stops, gap, gapNonempty, gapBlank, rfl⟩ := Text.blanks?_eq_some blanks
      split at given
      · cases given
      · rename_i filled
        simp only [Option.some.injEq, Prod.mk.injEq] at given
        obtain ⟨rfl, rfl⟩ := given
        exact ⟨⟨nonempty, all⟩, by simpa using filled, stops, gap, gapNonempty, gapBlank, rfl⟩
    · cases rest
  · rintro ⟨⟨nonempty, all⟩, filled, stops, gap, gapNonempty, gapBlank, rfl⟩
    have colon : Stops isWord (':' :: (gap ++ definition)) := Stops.cons_iff.mpr isWord_colon
    have filled' : ¬definition.isEmpty := by simpa using filled
    simp only [field?, bind, Option.bind, Text.word?_append nonempty all colon,
      Text.blanks?_append gapNonempty gapBlank stops, if_neg filled']

end Header

/-- A line that defines a field under a name. -/
def Line.IsFieldLine (line : Line) : Prop :=
  ∃ name definition, Header.IsField name definition line.text

theorem Line.isFieldLine_iff {line : Line} :
    line.IsFieldLine ↔ (Header.field? line.text).isSome := by
  rw [Option.isSome_iff_exists, Prod.exists]
  exact exists₂_congr fun _ _ => Header.field?_eq_some_iff.symm

instance Line.decidableIsFieldLine (line : Line) : Decidable line.IsFieldLine :=
  decidable_of_iff _ isFieldLine_iff.symm

/-- A text that starts with something other than white space has a word in it. -/
theorem Text.words_ne_nil {text : Text} (filled : text ≠ []) (stops : Stops isBlank text) :
    words text ≠ [] := by
  obtain ⟨c, rest, rfl⟩ := List.exists_cons_of_ne_nil filled
  intro none
  have blank := words_eq_nil_iff.mp none c List.mem_cons_self
  rw [Stops.cons_iff.mp stops] at blank
  cases blank

/-- Some word is enough for a type. -/
theorem FieldType.ofWords?_isSome {words : List Text} (nonempty : words ≠ []) :
    (ofWords? words).isSome := by
  fun_induction ofWords? words with
  | case1 => exact absurd rfl nonempty
  | case2 | case3 => rfl
  | case4 _ _ _ _ _ ih => simpa using ih
  | case5 => rfl

/-- What is defined on a field line can be read. -/
theorem Field.ofDefinition?_isSome {name definition text : Text}
    (form : Header.IsField name definition text) : (ofDefinition? name definition).isSome := by
  obtain ⟨_, filled, stops, _⟩ := form
  rw [ofDefinition?, Option.isSome_map]
  exact FieldType.ofWords?_isSome (Text.words_ne_nil filled stops)

/-- The field that a line defines. -/
def Line.Gives (line : Line) (field : Field) : Prop :=
  ∃ name definition, Header.IsField name definition line.text ∧
    Field.ofDefinition? name definition = some field

theorem DataEntry.field?_eq_some_iff {line : Line} {field : Field} :
    field? line = some field ↔ line.Gives field := by
  rw [field?, Option.bind_eq_some_iff, Prod.exists]
  exact exists₂_congr fun _ _ => and_congr_left fun _ => Header.field?_eq_some_iff

/-- A line gives a field if it has the form of one, and not otherwise. -/
theorem DataEntry.field?_isSome_iff {line : Line} : (field? line).isSome ↔ line.IsFieldLine := by
  constructor
  · intro found
    obtain ⟨field, found⟩ := Option.isSome_iff_exists.mp found
    obtain ⟨name, definition, form, _⟩ := field?_eq_some_iff.mp found
    exact ⟨name, definition, form⟩
  · rintro ⟨name, definition, form⟩
    obtain ⟨field, read⟩ := Option.isSome_iff_exists.mp (Field.ofDefinition?_isSome form)
    rw [field?_eq_some_iff.mpr ⟨name, definition, form, read⟩]
    rfl

end AppDescription
