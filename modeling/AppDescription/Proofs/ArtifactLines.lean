import AppDescription.Proofs.ArtifactPlace

namespace AppDescription

namespace Text

/-- What lies between separators is cut by itself. -/
theorem splitOn_join_eq (separator : Char) {pieces : List Text} (nonempty : pieces ≠ []) :
    splitOn separator (join [separator] pieces) = pieces.flatMap (splitOn separator) := by
  induction pieces with
  | nil => exact absurd rfl nonempty
  | cons piece pieces ih =>
    cases pieces with
    | nil => simp [join]
    | cons next pieces =>
      rw [join, List.append_assoc, List.singleton_append, splitOn_append, ih (by simp)]
      rfl

theorem flatMap_splitOn {separator : Char} {pieces : List Text}
    (free : ∀ piece ∈ pieces, separator ∉ piece) : pieces.flatMap (splitOn separator) = pieces := by
  induction pieces with
  | nil => rfl
  | cons piece pieces ih =>
    rw [List.flatMap_cons, splitOn_eq (free piece List.mem_cons_self),
      ih fun other member => free other (List.mem_cons_of_mem piece member), List.singleton_append]

theorem not_mem_of_lt {text : Text} {floor : Nat} {c : Char} (below : c.toNat < floor)
    (all : ∀ x ∈ text, floor ≤ x.toNat) : c ∉ text :=
  fun member => absurd (all c member) (by omega)

/-- No name holds a line break or a quote, as they come before all word characters. -/
theorem IsName.free {name : Text} (named : name.IsName) {c : Char} (early : c.toNat < 48) :
    c ∉ name :=
  not_mem_of_lt early fun x member => le_toNat_of_isWord (named.2 x member)

/-- Every line of an indented text is empty or indented. -/
theorem mem_splitOn_indentBy {count : Nat} {text line : Text}
    (among : line ∈ splitOn '\n' (indentBy count text)) :
    line = [] ∨ List.replicate count ' ' <+: line := by
  rw [indentBy, splitOn_join (by simp [splitOn_ne_nil])] at among
  · obtain ⟨written, _, rfl⟩ := List.mem_map.mp among
    split
    · exact .inl rfl
    · exact .inr (List.prefix_append _ _)
  · intro piece member
    obtain ⟨written, inText, rfl⟩ := List.mem_map.mp member
    split
    · simp
    · have unbroken := not_mem_of_mem_splitOn inText
      exact List.not_mem_append (by simp) unbroken

theorem IsSolid.unbroken {text : Text} (solid : text.IsSolid) : '\n' ∉ text :=
  fun member => absurd (solid '\n' member) (by decide)

end Text

theorem Artifact.mem_lines {path line : Text} {lines : List Text} (among : line ∈ lines)
    (unbroken : '\n' ∉ line) : line ∈ Text.splitOn '\n' (ofLines path lines).content := by
  rw [ofLines, Text.splitOn_join_eq '\n' (List.ne_nil_of_mem among)]
  exact List.mem_flatMap.mpr ⟨line, among, by rw [Text.splitOn_eq unbroken, List.mem_singleton]⟩

namespace Vue

/-- No name in kebab case holds a line break or a quote, as they come before the hyphen. -/
theorem kebabCase_free {name : Text} (named : name.IsName) {c : Char} (early : c.toNat < 45) :
    c ∉ kebabCase name := by
  have high : ∀ x ∈ name, 45 ≤ x.toNat := fun x member =>
    le_trans (by decide) (le_toNat_of_isWord (named.2 x member))
  exact Text.not_mem_of_lt early (kebabCase_ge le_rfl high)

theorem collectionName_free {name : Text} (named : name.IsName) {c : Char} (early : c.toNat < 48) :
    c ∉ collectionName name := by
  have lowered : c ∉ lowerFirst name := by
    have high : ∀ x ∈ name, 48 ≤ x.toNat := fun x member => le_toNat_of_isWord (named.2 x member)
    cases name with
    | nil => simp [lowerFirst]
    | cons first rest =>
      obtain ⟨head, later⟩ := List.forall_mem_cons.mp high
      refine List.not_mem_append ?_ (Text.not_mem_of_lt early later)
      exact Text.not_mem_of_lt early
        (Text.lowerAfter_ge (by decide) [] (List.forall_mem_singleton.mpr head))
  have plural : c ∉ ['s'] := Text.not_mem_of_lt early (List.forall_mem_singleton.mpr (by decide))
  unfold collectionName
  dsimp only
  split
  · exact lowered
  · exact List.not_mem_append lowered plural

theorem collectionLine_unbroken {model : DataModel} (named : model.name.IsName) :
    '\n' ∉ collectionLine model := by
  have collection : '\n' ∉ collectionName model.name := collectionName_free named (by decide)
  have type : '\n' ∉ model.name := named.free (by decide)
  exact List.not_mem_append (List.not_mem_append (List.not_mem_append
    (List.not_mem_append (by decide) collection) (by decide)) type) (by decide)

theorem memberLine_unbroken {field : Field} (named : field.IsNamed) : '\n' ∉ memberLine field := by
  have optional : '\n' ∉ (if field.isOptional then "?" else "").toList := by split <;> decide
  simp only [memberLine, List.append_assoc]
  exact List.not_mem_append (by decide) (List.not_mem_append (named.name.free (by decide))
    (List.not_mem_append optional (List.not_mem_append (by decide)
      (List.not_mem_append named.type.unbroken (by decide)))))

theorem exportLine_unbroken {name : Text} (unbroken : '\n' ∉ name) : '\n' ∉ exportLine name :=
  List.not_mem_append (List.not_mem_append (by decide) unbroken) (by decide)

/-- No name that a store gives out holds a character from before the digits. -/
theorem storeNames_free {document : Document} (named : document.IsNamed) {c : Char}
    (early : c.toNat < 48) : ∀ name ∈ storeNames document.data document.computed, c ∉ name := by
  intro name among
  rcases List.mem_append.mp among with collection | value
  · obtain ⟨model, member, rfl⟩ := List.mem_map.mp collection
    exact collectionName_free (named.models model member) early
  · obtain ⟨computed, member, rfl⟩ := List.mem_map.mp value
    exact (named.computed computed member).free early

variable {document : Document}

/-- A model is declared with each of its fields on a line of its own. -/
theorem declares_field (named : document.IsNamed) {model : DataModel}
    (member : model ∈ document.data) {field : Field} (among : field ∈ model.fields) :
    ∃ models ∈ artifacts document, models.path = modelsPath ∧
      memberLine field ∈ Text.splitOn '\n' models.content := by
  have found := modelsArtifact?_eq_some.mpr ⟨List.ne_nil_of_mem member, rfl⟩
  refine ⟨_, mem_artifacts.mpr (.inl found), rfl, ?_⟩
  refine Artifact.mem_lines ?_ (memberLine_unbroken (named.fields model member field among))
  refine List.mem_append_right _ (List.mem_flatMap.mpr ⟨model, member, ?_⟩)
  exact List.mem_cons_of_mem _ (List.mem_append_left _ (List.mem_map_of_mem among))

/-- The store gives out each computed value on a line of its own. -/
theorem returns_computed (named : document.IsNamed) {value : ComputedValue}
    (member : value ∈ document.computed) :
    ∃ store ∈ artifacts document, store.path = storePath ∧
      exportLine value.name ∈ Text.splitOn '\n' store.content := by
  have stocked : document.data ≠ [] ∨ document.computed ≠ [] :=
    .inr (List.ne_nil_of_mem member)
  have found := storeArtifact?_eq_some.mpr ⟨stocked, rfl⟩
  refine ⟨_, mem_artifacts.mpr (.inr (.inl found)), rfl, ?_⟩
  have among : value.name ∈ storeNames document.data document.computed :=
    List.mem_append_right _ (List.mem_map_of_mem member)
  refine Artifact.mem_lines ?_ (exportLine_unbroken (storeNames_free named (by decide) _ among))
  exact List.mem_append_left _ (List.mem_append_right _ (List.mem_map_of_mem among))

end Vue

end AppDescription
