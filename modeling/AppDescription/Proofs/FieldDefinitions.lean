import AppDescription.Proofs.WordList

namespace AppDescription

namespace FieldType

/-- The words that a type is written with. -/
def words : FieldType → List Text
  | primitive p => [p.name]
  | list item => "list".toList :: "of".toList :: item.words
  | model name => [name]

/-- A type that can be written: the model at its bottom, if there is one, has a single word for a
name, and none that is taken by a primitive. -/
def IsWritable (type : FieldType) : Prop :=
  ∀ name ∈ type.reference?, name.IsToken ∧ ∀ p : Primitive, p.name ≠ name

/-- A type is taken for a list when the model at its bottom is called `list` and more than one word
follows, the first of which is `of`. -/
def TakenForList (type : FieldType) (after : List Text) : Prop :=
  type.reference? = some "list".toList ∧ ∃ next more, after = "of".toList :: next :: more

end FieldType

/-- What may follow the type in the definition of a field. -/
inductive FieldItem where
  | flag (flag : Flag)
  /-- The form `default: value`, in two words. -/
  | spacedDefault (value : Text) (isToken : value.IsToken)
  /-- The form `default:value`, in one word. -/
  | joinedDefault (value : Text) (isToken : value.IsToken)
  | unknown (word : Text) (isToken : word.IsToken) (noFlag : ∀ flag : Flag, flag.name ≠ word)
      (noDefault : ¬"default:".toList <+: word)

namespace FieldItem

def words : FieldItem → List Text
  | flag f => [f.name]
  | spacedDefault value _ => ["default:", value]
  | joinedDefault value _ => ["default:" ++ value]
  | unknown word _ _ _ => [word]

/-- The modifier that an item stands for. An unknown word stands for none. -/
def modifier? : FieldItem → Option Modifier
  | flag f => some (.flag f)
  | spacedDefault value _ | joinedDefault value _ => some (.default value)
  | unknown .. => none

def default? : FieldItem → Option Text
  | spacedDefault value _ | joinedDefault value _ => some value
  | _ => none

/-- The same item, or the same default in the other form. -/
inductive Respelled : FieldItem → FieldItem → Prop
  | same (item : FieldItem) : Respelled item item
  | joined (value : Text) (isToken : value.IsToken) :
      Respelled (spacedDefault value isToken) (joinedDefault value isToken)
  | spaced (value : Text) (isToken : value.IsToken) :
      Respelled (joinedDefault value isToken) (spacedDefault value isToken)

end FieldItem

/-- A form in which the member of its kind is filled in, and no other, at every depth. -/
inductive TypeForm.IsExact : TypeForm → Prop
  | primitive (p : Primitive) : IsExact (.mk .primitive (some p) none none)
  | list {item : TypeForm} : item.IsExact → IsExact (.mk .list none (some item) none)
  | model (name : Text) : IsExact (.mk .model none none (some name))

theorem FieldType.form_isExact (type : FieldType) : type.form.IsExact := by
  induction type with
  | primitive p => exact .primitive p
  | list item ih => exact .list ih
  | model name => exact .model name

namespace Primitive

theorem name_isToken (p : Primitive) : p.name.IsToken := by
  cases p <;> decide

theorem ofName?_eq_some_iff {name : Text} {p : Primitive} : ofName? name = some p ↔ p.name = name := by
  constructor
  · intro found
    have same := List.find?_some found
    exact of_decide_eq_true same
  · rintro rfl
    cases p <;> decide

theorem ofName?_eq_none {name : Text} (other : ∀ p : Primitive, p.name ≠ name) :
    ofName? name = none :=
  Option.eq_none_iff_forall_ne_some.mpr fun p found => other p (ofName?_eq_some_iff.mp found)

end Primitive

namespace Flag

theorem ofName?_eq_some_iff {name : Text} {flag : Flag} :
    ofName? name = some flag ↔ flag.name = name := by
  constructor
  · intro found
    have same := List.find?_some found
    exact of_decide_eq_true same
  · rintro rfl
    cases flag <;> decide

theorem ofName?_eq_none {name : Text} (other : ∀ flag : Flag, flag.name ≠ name) :
    ofName? name = none :=
  Option.eq_none_iff_forall_ne_some.mpr fun flag found => other flag (ofName?_eq_some_iff.mp found)

end Flag

namespace Modifier

variable {word : Text} (rest : List Text)

theorem ofWords_flag {flag : Flag} (found : Flag.ofName? word = some flag) :
    ofWords (word :: rest) = .flag flag :: ofWords rest := by
  rw [ofWords.eq_def]
  simp only [found]

/-- A `default:` on its own takes the next word, whatever that is. -/
theorem ofWords_spaced (value : Text) :
    ofWords ("default:".toList :: value :: rest) = .default value :: ofWords rest := by
  have noFlag : Flag.ofName? "default:" = none := by decide
  have start : Text.dropPrefix? "default:" "default:" = some [] := by decide
  rw [ofWords.eq_def]
  simp only [noFlag, start]

theorem ofWords_joined {value : Text} (nonempty : value ≠ []) :
    ofWords (("default:".toList ++ value) :: rest) = .default value :: ofWords rest := by
  have start := Text.dropPrefix?_append "default:" value
  have noFlag : Flag.ofName? ("default:".toList ++ value) = none := by
    refine Flag.ofName?_eq_none fun flag same => ?_
    have starts : "default:".toList <+: flag.name := ⟨value, same.symm⟩
    revert starts
    cases flag <;> decide
  obtain ⟨c, more, rfl⟩ := List.exists_cons_of_ne_nil nonempty
  rw [ofWords.eq_def]
  simp only [noFlag, start]

theorem ofWords_unknown (noFlag : ∀ flag : Flag, flag.name ≠ word)
    (noDefault : ¬"default:".toList <+: word) : ofWords (word :: rest) = ofWords rest := by
  have start : Text.dropPrefix? "default:" word = none := by
    rw [Text.dropPrefix?, if_neg (by simpa using noDefault)]
  rw [ofWords.eq_def]
  simp only [Flag.ofName?_eq_none noFlag, start]

end Modifier

namespace FieldType

theorem words_ne_nil (type : FieldType) : type.words ≠ [] := by
  cases type <;> simp [words]

theorem ofWord_primitive (p : Primitive) : ofWords?.ofWord p.name = primitive p := by
  rw [ofWords?.ofWord, Primitive.ofName?_eq_some_iff.mpr rfl]

theorem ofWord_model {name : Text} (other : ∀ p : Primitive, p.name ≠ name) :
    ofWords?.ofWord name = model name := by
  rw [ofWords?.ofWord, Primitive.ofName?_eq_none other]

/-- A word that opens no list is a type of its own. -/
theorem ofWords?_cons {word : Text} {rest : List Text}
    (plain : ¬(word = "list".toList ∧ ∃ next more, rest = "of".toList :: next :: more)) :
    ofWords? (word :: rest) = some (ofWords?.ofWord word, rest) := by
  match rest with
  | [] => rfl
  | [_] => rfl
  | next :: item :: more =>
    have notList : ¬(word = "list".toList ∧ next = "of".toList) := by
      rintro ⟨opens, rfl⟩
      exact plain ⟨opens, item, more, rfl⟩
    rw [ofWords?, if_neg notList]

/-- A written type is read back, and what follows it is left. -/
theorem ofWords?_append {type : FieldType} {after : List Text} (writable : type.IsWritable)
    (clear : ¬type.TakenForList after) : ofWords? (type.words ++ after) = some (type, after) := by
  induction type with
  | primitive p =>
    have other : p.name ≠ "list".toList := by cases p <;> decide
    rw [words, List.singleton_append, ofWords?_cons (fun opens => other opens.1), ofWord_primitive]
  | list item ih =>
    obtain ⟨first, more, same⟩ := List.exists_cons_of_ne_nil item.words_ne_nil
    have inner := ih writable clear
    rw [same, List.cons_append] at inner
    rw [words, same, List.cons_append, List.cons_append, List.cons_append, ofWords?,
      if_pos ⟨rfl, rfl⟩, inner]
    rfl
  | model name =>
    have plain : ¬(name = "list".toList ∧ ∃ next more, after = "of".toList :: next :: more) :=
      fun opens => clear ⟨congrArg some opens.1, opens.2⟩
    rw [words, List.singleton_append, ofWords?_cons plain, ofWord_model (writable name rfl).2]

theorem text_list (item : FieldType) :
    (list item).text = "list".toList ++ ' ' :: ("of".toList ++ ' ' :: item.text) := by
  have step : (list item).text = "list of ".toList ++ item.text := rfl
  have opener : "list of ".toList = "list".toList ++ ' ' :: ("of".toList ++ [' ']) := rfl
  rw [step, opener]
  simp only [List.append_assoc, List.cons_append, List.nil_append]

theorem text_spells {type : FieldType} (writable : type.IsWritable) : type.text.Spells type.words := by
  induction type with
  | primitive p => exact p.name_isToken.spells
  | list item ih =>
    have inner : item.text.Spells item.words := ih writable
    have ofToken : Text.IsToken "of" := by decide
    have listToken : Text.IsToken "list" := by decide
    rw [text_list]
    exact (inner.cons_space ofToken).cons_space listToken
  | model name => exact (writable name rfl).1.spells

end FieldType

namespace FieldItem

theorem default?_eq (item : FieldItem) : item.default? = item.modifier?.bind Modifier.default? := by
  cases item <;> rfl

/-- Written items are read back in order, without the unknown words. -/
theorem ofWords_words (items : List FieldItem) :
    Modifier.ofWords (items.flatMap words) = items.filterMap modifier? := by
  induction items with
  | nil => rfl
  | cons item items ih =>
    rw [List.flatMap_cons, List.filterMap_cons, ← ih]
    cases item with
    | flag f => exact Modifier.ofWords_flag _ (Flag.ofName?_eq_some_iff.mpr rfl)
    | spacedDefault value isToken => exact Modifier.ofWords_spaced _ value
    | joinedDefault value isToken => exact Modifier.ofWords_joined _ isToken.nonempty
    | unknown word isToken noFlag noDefault => exact Modifier.ofWords_unknown _ noFlag noDefault

theorem words_ne_nil (item : FieldItem) : item.words ≠ [] := by
  cases item <;> simp [words]

namespace Respelled

theorem modifier?_eq {item item' : FieldItem} (respelled : item.Respelled item') :
    item.modifier? = item'.modifier? := by
  cases respelled <;> rfl

/-- Only an unknown word is spelled `of`, and it has no other spelling. -/
theorem words_of {item item' : FieldItem} {more : List Text} (respelled : item.Respelled item')
    (starts : item'.words = "of".toList :: more) : item = item' := by
  cases respelled with
  | same item => rfl
  | joined value isToken | spaced value isToken =>
    have first := congrArg List.head? starts
    simp [words] at first

variable {items items' : List FieldItem} (respelled : List.Forall₂ Respelled items items')

include respelled

theorem modifiers_eq : items.filterMap modifier? = items'.filterMap modifier? := by
  induction respelled with
  | nil => rfl
  | cons first _ ih => rw [List.filterMap_cons, List.filterMap_cons, first.modifier?_eq, ih]

theorem flatMap_words_eq_nil (none : items.flatMap words = []) : items'.flatMap words = [] := by
  have empty : items = [] := List.eq_nil_iff_forall_not_mem.mpr fun item mem =>
    item.words_ne_nil (List.flatMap_eq_nil_iff.mp none item mem)
  subst empty
  rw [List.forall₂_nil_left_iff.mp respelled, List.flatMap_nil]

/-- Respelling does not make the words after a type look like those of a list. -/
theorem not_takenForList {type : FieldType} (clear : ¬type.TakenForList (items.flatMap words)) :
    ¬type.TakenForList (items'.flatMap words) := by
  rintro ⟨reference, next, more, starts⟩
  cases respelled with
  | nil => simp at starts
  | cons first others =>
    rename_i item item' rest rest'
    obtain ⟨word, tail, spelled⟩ := List.exists_cons_of_ne_nil item'.words_ne_nil
    rw [List.flatMap_cons, spelled, List.cons_append, List.cons.injEq] at starts
    obtain ⟨rfl, left⟩ := starts
    obtain rfl := first.words_of spelled
    -- Something follows `of` here, so something follows it there.
    cases others' : tail ++ rest.flatMap words with
    | nil =>
      obtain ⟨rfl, empty⟩ := List.append_eq_nil_iff.mp others'
      rw [flatMap_words_eq_nil others empty] at left
      simp at left
    | cons next' more' =>
      refine clear ⟨reference, next', more', ?_⟩
      rw [List.flatMap_cons, spelled, List.cons_append, others']

end Respelled

end FieldItem

namespace Field

open FieldItem

theorem ofDefinition?_words {type : FieldType} {items : List FieldItem} {text : Text}
    (writable : type.IsWritable) (clear : ¬type.TakenForList (items.flatMap words)) (name : Text)
    (spells : text.Spells (type.words ++ items.flatMap words)) :
    ofDefinition? name text = some ⟨name, type, items.filterMap modifier?⟩ := by
  rw [ofDefinition?, spells.words_eq, FieldType.ofWords?_append writable clear, Option.map_some,
    ofWords_words]

/-- A definition written as a type and items after it is read back, in whatever way white space is
put between its words: the type, with the member of its kind filled in and no other, the modifiers in
order, and the last default. Each default may as well be written in its other form. -/
theorem ofDefinition?_spelled {type : FieldType} {items : List FieldItem}
    (writable : type.IsWritable) (clear : ¬type.TakenForList (items.flatMap words)) (name : Text) :
    (∀ tail : Text, tail.Spells (items.flatMap words) → tail.Breaks →
      Text.Spells (type.text ++ tail) (type.words ++ items.flatMap words)) ∧
    ∀ text : Text, text.Spells (type.words ++ items.flatMap words) →
      ∃ field, ofDefinition? name text = some field ∧ field.name = name ∧ field.type = type ∧
        field.type.form.IsExact ∧ field.modifiers = items.filterMap modifier? ∧
        field.default? = (items.filterMap FieldItem.default?).getLast? ∧
        ∀ (items' : List FieldItem) (text' : Text), List.Forall₂ Respelled items items' →
          text'.Spells (type.words ++ items'.flatMap words) →
            ofDefinition? name text' = some field := by
  refine ⟨fun tail spells apart => (type.text_spells writable).append spells apart,
    fun text spells => ⟨_, ofDefinition?_words writable clear name spells, rfl, rfl,
      type.form_isExact, rfl, ?_, ?_⟩⟩
  · have defaults : (items.filterMap modifier?).filterMap Modifier.default? =
        items.filterMap FieldItem.default? := by
      rw [List.filterMap_filterMap]
      exact congrArg (items.filterMap ·) (funext fun item => item.default?_eq.symm)
    exact congrArg List.getLast? defaults
  · intro items' text' respelled spells'
    rw [Respelled.modifiers_eq respelled]
    exact ofDefinition?_words writable (Respelled.not_takenForList respelled clear) name spells'

/-- A list of lists of a model called `list`, with a default that looks like a flag, one that looks
like the start of another, and a word that says nothing. -/
theorem ofDefinition?_spelled_nested :
    (FieldType.list (.list (.model "list"))).IsWritable ∧
      ofDefinition? "tags" "list of list\tof list  required default: optional default:default: of auto" =
        some ⟨"tags", .list (.list (.model "list")),
          [.flag .required, .default "optional", .default "default:", .flag .auto]⟩ := by
  have writable : (FieldType.list (.list (.model "list"))).IsWritable := by
    intro name named
    obtain rfl := Option.some.inj named
    exact ⟨by decide, fun p => by cases p <;> decide⟩
  let items : List FieldItem :=
    [.flag .required, .spacedDefault "optional" (by decide), .joinedDefault "default:" (by decide),
      .unknown "of" (by decide) (fun flag => by cases flag <;> decide) (by decide), .flag .auto]
  have clear : ¬(FieldType.list (.list (.model "list"))).TakenForList (items.flatMap words) := by
    rintro ⟨-, next, more, starts⟩
    exact absurd (List.cons.inj starts).1 (by decide)
  obtain ⟨⟨name, type, modifiers⟩, read, rfl, rfl, -, rfl, -⟩ :=
    (ofDefinition?_spelled writable clear "tags").2
      "list of list\tof list  required default: optional default:default: of auto" (by decide +kernel)
  exact ⟨writable, read⟩

end Field

end AppDescription
