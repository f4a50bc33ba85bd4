import AppDescription.Proofs.CorrespondingOutlines
import AppDescription.Proofs.ModelTypes
import AppDescription.Proofs.Pairing

namespace AppDescription

/-- The same model but for the order of its fields. -/
structure DataModel.Rearranged (model other : DataModel) : Prop where
  name : model.name = other.name
  fields : model.fields.Perm other.fields

namespace DataModel.Rearranged

variable {model other : DataModel} {names names' : List Text}

theorem lintErrors (same : model.Rearranged other) : model.lintErrors.Perm other.lintErrors := by
  rw [DataModel.lintErrors, DataModel.lintErrors, same.name]
  exact (duplicates_perm (same.fields.map Field.name)).map _

theorem lintWarnings (same : model.Rearranged other) (rearranged : names.Perm names') :
    (model.lintWarnings names).Perm (other.lintWarnings names') := by
  have known (name : Text) : names.contains name = names'.contains name := by
    rw [Bool.eq_iff_iff, List.contains_iff_mem, List.contains_iff_mem, rearranged.mem_iff]
  have alike : Field.lintWarnings names = Field.lintWarnings names' := by
    funext owner field
    simp only [Field.lintWarnings, known]
  rw [DataModel.lintWarnings, DataModel.lintWarnings, same.name, alike, same.fields.isEmpty_eq]
  exact (same.fields.flatMap_right _).append_left _

end DataModel.Rearranged

theorem flatMap_perm {same : α → α → Prop} {f g : α → List β} {xs ys : List α}
    (paired : List.Forall₂ same xs ys) (alike : ∀ x y, same x y → (f x).Perm (g y)) :
    (xs.flatMap f).Perm (ys.flatMap g) := by
  induction paired with
  | nil => exact .nil
  | cons first _ ih =>
    rw [List.flatMap_cons, List.flatMap_cons]
    exact (alike _ _ first).append ih

namespace Document

/-- The same document but for the order of its models and their fields, its interfaces, computed
values and logic sections, and accordingly of its declarations. -/
structure Rearranged (document other : Document) : Prop where
  data : ∃ models, List.Forall₂ DataModel.Rearranged document.data models ∧
    models.Perm other.data
  interfaces : document.interfaces.Perm other.interfaces
  computed : document.computed.Perm other.computed
  logic : document.logic.Perm other.logic
  order : document.order.Perm other.order

namespace Rearranged

variable {document other : Document}

theorem names (same : document.Rearranged other) :
    (document.data.map DataModel.name).Perm (other.data.map DataModel.name) := by
  obtain ⟨models, paired, rearranged⟩ := same.data
  rw [map_eq_of_forall₂ paired fun _ _ alike => alike.name]
  exact rearranged.map DataModel.name

theorem lintErrors (same : document.Rearranged other) :
    document.lintErrors.Perm other.lintErrors := by
  obtain ⟨models, paired, rearranged⟩ := same.data
  have fields := (flatMap_perm paired fun _ _ alike => alike.lintErrors).trans
    (rearranged.flatMap_right DataModel.lintErrors)
  have listed {names names' : List Text} (label : Text) (rearranged : names.Perm names') :
      ((duplicates names).map (LintError.duplicate label)).Perm
        ((duplicates names').map (LintError.duplicate label)) :=
    (duplicates_perm rearranged).map _
  exact ((((listed _ same.names).append (listed _ (same.interfaces.map _))).append
    (listed _ (same.computed.map _))).append (listed _ same.logic)).append fields

theorem lintWarnings (same : document.Rearranged other) :
    document.lintWarnings.Perm other.lintWarnings := by
  obtain ⟨models, paired, rearranged⟩ := same.data
  have models := (flatMap_perm paired fun _ _ alike => alike.lintWarnings same.names).trans
    (rearranged.flatMap_right _)
  have values := (same.computed.filter ComputedValue.lacksSource).map fun value =>
    LintWarning.missingExpression value.name
  have empty : document.isEmpty = other.isEmpty := same.order.isEmpty_eq
  rw [Document.lintWarnings, Document.lintWarnings, empty]
  exact (models.append_left _).append values

end Rearranged

/-- Declarations that follow a document take none of its errors away. -/
theorem lintErrors_followedBy (document more : Document) :
    document.lintErrors.Subperm (document.followedBy more).lintErrors := by
  have listed (label : Text) (names later : List Text) :
      ((duplicates names).map (LintError.duplicate label)).Subperm
        ((duplicates (names ++ later)).map (LintError.duplicate label)) :=
    (duplicates_subperm (List.sublist_append_left names later)).map
      fun _ _ same => (LintError.duplicate.inj same).2
  simp only [lintErrors, followedBy, List.map_append, List.flatMap_append]
  exact ((((listed _ _ _).append (listed _ _ _)).append (listed _ _ _)).append
    (listed _ _ _)).append (List.sublist_append_left _ _).subperm

/-- The one file of a document that is named for the models declares them. -/
theorem mem_artifacts_models {document : Document} {artifact : Artifact} :
    artifact ∈ Vue.artifacts document ∧ artifact.path = Vue.modelsPath ↔
      Vue.modelsArtifact? document.data = some artifact := by
  constructor
  · rintro ⟨generated, path⟩
    rcases Vue.mem_artifacts.mp generated with models | store | ⟨interface, _, rfl⟩
    · exact models
    · rw [Vue.storeArtifact?_path store] at path
      exact absurd path (by decide)
    · exact absurd path (Vue.componentPath_ne (by decide) interface)
  · intro models
    exact ⟨Vue.mem_artifacts.mpr (.inl models), Vue.modelsArtifact?_path models⟩

/-- A document has no errors exactly if no name is repeated in a list; each repeated name is reported
once for each list that repeats it; and each field that refers to no model is warned of. So a document
without errors and warnings has models whose types are all known. The order of the declarations
changes only the order of what is reported, and further declarations take no error away. -/
theorem lint_reports (document : Document) :
    (document.lintErrors = [] ↔
      (document.data.map DataModel.name).Nodup ∧ (document.interfaces.map Interface.name).Nodup ∧
      (document.computed.map ComputedValue.name).Nodup ∧ document.logic.Nodup ∧
      ∀ model ∈ document.data, (model.fields.map Field.name).Nodup) ∧
    (∀ listed ∈ document.sections, ∀ name,
      (document.lintErrors.map LintError.message).count
        (LintError.duplicate listed.1 name).message = if 2 ≤ listed.2.count name then 1 else 0) ∧
    (∀ model field reference,
      document.lintWarnings.count (.unknownModel model field reference) =
        document.fieldPlaces.countP fun place => place.1.name = model ∧ place.2.name = field ∧
          place.2.type.reference? = some reference ∧
          reference ∉ document.data.map DataModel.name) ∧
    (∀ (type : FieldType) reference, type.reference? = some reference ↔
      ∃ depth, type = FieldType.list^[depth] (.model reference)) ∧
    (document.lintErrors = [] → document.lintWarnings = [] → document.data ≠ [] →
      ∃ artifact ∈ Vue.artifacts document, artifact.path = Vue.modelsPath ∧
        artifact.content =
          Text.join ['\n'] ((Vue.modelsEntries document.data).map Vue.ModelsEntry.line) ∧
        ∀ type ∈ (Vue.modelsEntries document.data).filterMap Vue.ModelsEntry.typeName?,
          type ∈ builtinTypes ∨ .model type ∈ Vue.modelsEntries document.data) ∧
    (∀ other, document.Rearranged other →
      document.lintErrors.Perm other.lintErrors ∧ document.lintWarnings.Perm other.lintWarnings) ∧
    ∀ more, document.lintErrors.Subperm (document.followedBy more).lintErrors := by
  refine ⟨?_, fun listed among name => count_messages among name,
    fun _ _ _ => document.count_unknownModel, fun _ _ => FieldType.reference?_eq_some, ?_,
    fun _ same => ⟨same.lintErrors, same.lintWarnings⟩, document.lintErrors_followedBy⟩
  · rw [lintErrors_eq_nil]
    simp only [sections, List.forall_mem_cons, List.not_mem_nil, false_implies, implies_true,
      and_true, and_assoc]
  · intro _ calm models
    obtain ⟨artifact, found⟩ : ∃ artifact, Vue.modelsArtifact? document.data = some artifact :=
      ⟨_, Vue.modelsArtifact?_eq_some.mpr ⟨models, rfl⟩⟩
    obtain ⟨generated, path⟩ := mem_artifacts_models.mpr found
    exact ⟨artifact, generated, path, Vue.modelsArtifact?_content found,
      Vue.modelsEntries_resolved calm⟩

/-- A list of lists of a model that is declared further down, and a model that is declared twice. -/
theorem lint_reports_nested :
    (∃ document, parse "data Post:\n  tags: list of list of Tag\ndata Tag:\n  name: text\n" =
        .ok document ∧ document.lintErrors = [] ∧ document.lintWarnings = [] ∧
      document.data ≠ [] ∧ ∃ artifact ∈ Vue.artifacts document, artifact.path = Vue.modelsPath ∧
        artifact.content =
          Text.join ['\n'] ((Vue.modelsEntries document.data).map Vue.ModelsEntry.line) ∧
        "Tag".toList ∈ (Vue.modelsEntries document.data).filterMap Vue.ModelsEntry.typeName? ∧
        .model "Tag" ∈ Vue.modelsEntries document.data) ∧
    ∃ document, parse "data A:\n  b: list of B\ndata A:\n  a: text\n" = .ok document ∧
      ("data model".toList, document.data.map DataModel.name) ∈ document.sections ∧
      (document.lintErrors.map LintError.message).count
        (LintError.duplicate "data model" "A").message = 1 ∧
      let other := { document with data := document.data.reverse }
      document.Rearranged other ∧ document.lintErrors.Perm other.lintErrors ∧
        document.lintWarnings.Perm other.lintWarnings := by
  constructor
  · let document := ofDeclarations (Outline.ofSource
      "data Post:\n  tags: list of list of Tag\ndata Tag:\n  name: text\n").declarations
    have valid : document.lintErrors = [] := by decide +kernel
    have calm : document.lintWarnings = [] := by decide +kernel
    have models : document.data ≠ [] := by decide +kernel
    obtain ⟨artifact, generated, path, content, known⟩ :=
      (lint_reports document).2.2.2.2.1 valid calm models
    have named : "Tag".toList ∈
        (Vue.modelsEntries document.data).filterMap Vue.ModelsEntry.typeName? := by decide +kernel
    have declared := (known _ named).resolve_left (by decide)
    exact ⟨document, parse_eq_ok.mpr ⟨by decide +kernel, rfl⟩, valid, calm, models, artifact,
      generated, path, content, named, declared⟩
  · let document := ofDeclarations (Outline.ofSource
      "data A:\n  b: list of B\ndata A:\n  a: text\n").declarations
    have listed : ("data model".toList, document.data.map DataModel.name) ∈ document.sections :=
      List.mem_cons_self
    have same : document.Rearranged { document with data := document.data.reverse } :=
      { data := ⟨document.data, List.forall₂_same.mpr fun _ _ => ⟨rfl, .rfl⟩,
          (List.reverse_perm _).symm⟩
        interfaces := .rfl
        computed := .rfl
        logic := .rfl
        order := .rfl }
    obtain ⟨_, once, _, _, _, rearranged, _⟩ := lint_reports document
    have twice : 2 ≤ (document.data.map DataModel.name).count "A".toList := by decide +kernel
    exact ⟨document, parse_eq_ok.mpr ⟨by decide +kernel, rfl⟩, listed,
      (once _ listed "A").trans (if_pos twice), same, rearranged _ same⟩

end Document

end AppDescription
