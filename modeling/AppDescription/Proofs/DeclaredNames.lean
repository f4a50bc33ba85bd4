import AppDescription.Proofs.TopScan
import AppDescription.Vue.Models

namespace AppDescription

/-- A text that can stand as a name: some word characters and nothing else. -/
def Text.IsName (text : Text) : Prop :=
  text ≠ [] ∧ ∀ c ∈ text, isWord c = true

instance Text.decidableIsName (text : Text) : Decidable text.IsName :=
  decidable_of_iff (text ≠ [] ∧ text.all isWord = true) (by simp only [IsName, List.all_eq_true])

theorem DeclarationKind.keyword_isName (kind : DeclarationKind) : kind.keyword.IsName := by
  cases kind <;> decide +kernel

theorem Header.Named.isName {keyword name more text : Text} (form : Named keyword name more text) :
    name.IsName :=
  ⟨form.1, form.2.1⟩

theorem DeclarationKind.Headed.isName {kind : DeclarationKind} {name text : Text}
    (headed : kind.Headed name text) : name.IsName := by
  cases kind with
  | integrations | deploy =>
    obtain ⟨rfl, _⟩ := headed
    exact keyword_isName _
  | _ =>
    obtain ⟨_, named⟩ := headed
    exact named.isName

/-- Every declaration of an outline was read below a header. -/
theorem Outline.mem_declarations {lines : List Line} {declaration : Declaration}
    (member : declaration ∈ (read lines).declarations) :
    ∃ kind header below rest, Declaration.read kind header below = .ok (declaration, rest) := by
  induction size : lines.length using Nat.strong_induction_on generalizing lines with
  | _ size ih =>
    cases lines with
    | nil => simp [declarations] at member
    | cons line rest =>
      simp only [List.length_cons] at size
      by_cases significant : line.isSignificant
      · cases declares : line.declarationKind? with
        | none =>
          rw [read_unknown significant declares] at member
          have shorter := afterBlock_length_le line.inner rest
          exact ih (afterBlock line.inner rest).length (by omega) member rfl
        | some kind =>
          cases reading : Declaration.read kind line rest with
          | error cause =>
            rw [read_malformed significant declares reading] at member
            simp [declarations] at member
          | ok parts =>
            obtain ⟨first, below⟩ := parts
            rw [read_declared significant declares reading] at member
            rcases List.mem_cons.mp member with rfl | later
            · exact ⟨kind, line, rest, below, reading⟩
            · have shorter := Declaration.read_shrinks _ _ _ _ _ reading
              exact ih below.length (by omega) later rfl
      · rw [read_insignificant significant] at member
        exact ih rest.length (by omega) member rfl

/-- A text without white space, as a single word of a definition is. -/
def Text.IsSolid (text : Text) : Prop :=
  ∀ c ∈ text, isBlank c = false

instance Text.decidableIsSolid (text : Text) : Decidable text.IsSolid :=
  decidable_of_iff ((text.all fun c => !isBlank c) = true)
    (by simp only [IsSolid, List.all_eq_true, Bool.not_eq_true'])

/-- A piece of text without white space. -/
structure Text.IsToken (token : Text) : Prop where
  nonempty : token ≠ []
  solid : token.IsSolid

instance Text.decidableIsToken (token : Text) : Decidable token.IsToken :=
  decidable_of_iff (token ≠ [] ∧ token.IsSolid)
    ⟨fun both => ⟨both.1, both.2⟩, fun isToken => ⟨isToken.nonempty, isToken.solid⟩⟩

theorem Text.words_solid (text : Text) : ∀ word ∈ words text, word.IsSolid := by
  induction text with
  | nil =>
    intro word member
    cases member
  | cons c rest ih =>
    intro word member
    have alone (solid : ¬isBlank c) : IsSolid [c] := by simpa [IsSolid] using solid
    rw [words.eq_def] at member
    dsimp only at member
    split at member
    · exact ih word member
    · rename_i solid
      split at member
      · rw [List.mem_singleton.mp member]
        exact alone solid
      · split at member
        · rcases List.mem_cons.mp member with rfl | later
          · exact alone solid
          · exact ih word later
        · split at member
          · rw [List.mem_singleton.mp member]
            exact alone solid
          · rename_i first more found
            rw [found] at ih
            rcases List.mem_cons.mp member with rfl | later
            · exact List.forall_mem_cons.mpr ⟨by simpa using solid, ih first List.mem_cons_self⟩
            · exact ih word (List.mem_cons_of_mem first later)

namespace FieldType

theorem scriptType_solid_of_model {name : Text} (solid : name.IsSolid) :
    (model name).scriptType.IsSolid := by
  cases name with
  | nil => decide
  | cons c name => exact solid

theorem ofWord_solid {word : Text} (solid : word.IsSolid) :
    (ofWords?.ofWord word).scriptType.IsSolid := by
  unfold ofWords?.ofWord
  split
  · rename_i primitive _
    cases primitive <;> decide
  · exact scriptType_solid_of_model solid

/-- The script type of a field is one word, as its definition is made of words. -/
theorem ofWords?_solid {words rest : List Text} {type : FieldType}
    (found : ofWords? words = some (type, rest)) (solid : ∀ word ∈ words, word.IsSolid) :
    type.scriptType.IsSolid := by
  induction words using ofWords?.induct generalizing type rest with
  | case1 => simp [ofWords?] at found
  | case2 word =>
    simp only [ofWords?, Option.some.injEq, Prod.mk.injEq] at found
    rw [← found.1]
    exact ofWord_solid (solid word List.mem_cons_self)
  | case3 word next =>
    simp only [ofWords?, Option.some.injEq, Prod.mk.injEq] at found
    rw [← found.1]
    exact ofWord_solid (solid word List.mem_cons_self)
  | case4 word next item more wraps ih =>
    rw [ofWords?, if_pos wraps] at found
    obtain ⟨⟨inner, left⟩, reads, same⟩ := Option.map_eq_some_iff.mp found
    cases same
    have below := ih reads fun other member =>
      solid other (List.mem_cons_of_mem word (List.mem_cons_of_mem next member))
    intro c member
    rcases List.mem_append.mp member with inItem | inBrackets
    · exact below c inItem
    · have brackets : Text.IsSolid "[]" := by decide
      exact brackets c inBrackets
  | case5 word next item more plain =>
    rw [ofWords?, if_neg plain] at found
    simp only [Option.some.injEq, Prod.mk.injEq] at found
    rw [← found.1]
    exact ofWord_solid (solid word List.mem_cons_self)

end FieldType

/-- A field under a name, with a script type that is one word. -/
structure Field.IsNamed (field : Field) : Prop where
  name : field.name.IsName
  type : field.type.scriptType.IsSolid

theorem DataEntry.field?_isNamed {line : Line} {field : Field} (found : field? line = some field) :
    field.IsNamed := by
  obtain ⟨⟨name, definition⟩, header, defined⟩ := Option.bind_eq_some_iff.mp found
  obtain ⟨⟨type, rest⟩, reads, rfl⟩ := Option.map_eq_some_iff.mp defined
  refine ⟨?_, FieldType.ofWords?_solid reads (Text.words_solid definition)⟩
  simp only [Header.field?, bind, Option.bind_eq_some_iff] at header
  obtain ⟨⟨word, after⟩, named, rest⟩ := header
  obtain ⟨nonempty, all, _⟩ := Text.word?_eq_some named
  have same : word = name := by
    split at rest
    · obtain ⟨text, _, given⟩ := Option.bind_eq_some_iff.mp rest
      split at given
      · cases given
      · cases given
        rfl
    · cases rest
  exact same ▸ ⟨nonempty, all⟩

theorem DataEntry.fields_isNamed (lines : List Line) :
    ∀ field ∈ fields (read lines), field.IsNamed := by
  induction lines using read.induct with
  | case1 => simp [read, fields]
  | case2 line rest significant heads ih =>
    have none : fields ((significantTexts (block line.inner rest)).map relationship) = [] := by
      simp [fields, List.filterMap_map]
    rw [read, if_pos significant, if_pos heads]
    unfold fields at ih none ⊢
    rw [List.filterMap_append, none, List.nil_append]
    exact ih
  | case3 line rest significant plain field found ih =>
    rw [read, if_pos significant, if_neg plain, found]
    exact List.forall_mem_cons.mpr ⟨field?_isNamed found, ih⟩
  | case4 line rest significant plain missing ih =>
    rw [read, if_pos significant, if_neg plain, missing]
    exact ih
  | case5 line rest hidden ih =>
    rw [read, if_neg hidden]
    exact ih

/-- A document whose constructs all stand under names. -/
structure Document.IsNamed (document : Document) : Prop where
  interfaces : ∀ interface ∈ document.interfaces, interface.name.IsName
  models : ∀ model ∈ document.data, model.name.IsName
  fields : ∀ model ∈ document.data, ∀ field ∈ model.fields, field.IsNamed
  computed : ∀ value ∈ document.computed, value.name.IsName

namespace Document

variable {source : Text} {document : Document}

/-- Whatever a source declares, it declares under a name. -/
theorem order_isName (parsed : parse source = .ok document) :
    ∀ entry ∈ document.order, entry.2.IsName := by
  obtain ⟨faultless, rfl⟩ := parse_eq_ok.mp parsed
  have announced := (Outline.read_covers (Line.ofSource source)).announced faultless
  intro entry member
  obtain ⟨index, inside, rfl⟩ := List.getElem_of_mem member
  have shorter : index < ((Line.ofSource source).filter Line.declares).length := by
    rw [announced.length_eq]
    exact inside
  exact (announced.get shorter inside).2.isName

/-- A section that agrees with the order has names only. -/
theorem section_isName {items : List α} {name : α → Text} {kind : DeclarationKind}
    (parsed : parse source = .ok document) (agrees : items.map name = document.names kind) :
    ∀ item ∈ items, (name item).IsName := by
  intro item member
  have listed : name item ∈ document.names kind := by
    rw [← agrees]
    exact List.mem_map_of_mem member
  obtain ⟨entry, among, same⟩ := List.mem_map.mp listed
  rw [← same]
  exact order_isName parsed entry (List.mem_of_mem_filter among)

theorem agrees_of_parse (parsed : parse source = .ok document) : document.Agrees := by
  obtain ⟨_, rfl⟩ := parse_eq_ok.mp parsed
  exact ofDeclarations_agrees _

theorem fields_isNamed (parsed : parse source = .ok document) :
    ∀ model ∈ document.data, ∀ field ∈ model.fields, field.IsNamed := by
  obtain ⟨_, rfl⟩ := parse_eq_ok.mp parsed
  intro model member
  obtain ⟨declaration, among, taken⟩ := List.mem_filterMap.mp member
  obtain ⟨kind, header, below, rest, reading⟩ := Outline.mem_declarations among
  cases declaration with
  | data block =>
    cases taken
    have owner : readData header below = .ok (block, rest) := by
      cases kind <;> obtain ⟨⟨found, left⟩, same, made⟩ := Except.map_eq_ok_iff.mp reading <;>
        cases made
      exact same
    rw [readData, readOwner_eq] at owner
    obtain ⟨name, more, _, same⟩ := readHeaded_eq_ok.mp owner
    cases same
    exact DataEntry.fields_isNamed _
  | _ => cases taken

/-- Whatever is read from a source stands under names. -/
theorem isNamed_of_parse (parsed : parse source = .ok document) : document.IsNamed where
  interfaces := section_isName parsed (agrees_of_parse parsed).interfaces
  models := section_isName parsed (agrees_of_parse parsed).data
  fields := fields_isNamed parsed
  computed := section_isName parsed (agrees_of_parse parsed).computed

end Document

end AppDescription
