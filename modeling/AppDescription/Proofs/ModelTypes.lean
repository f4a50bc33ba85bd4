import AppDescription.Proofs.LintErrors

namespace AppDescription

namespace FieldType

/-- A type refers to the model that its lists, however deep, are lists of. -/
theorem reference?_eq_some {type : FieldType} {reference : Text} :
    type.reference? = some reference ↔ ∃ depth, type = list^[depth] (model reference) := by
  constructor
  · intro found
    induction type with
    | primitive p => cases found
    | list item ih =>
      obtain ⟨depth, rfl⟩ := ih found
      exact ⟨depth + 1, (Function.iterate_succ_apply' list depth _).symm⟩
    | model name =>
      obtain rfl := Option.some.inj found
      exact ⟨0, rfl⟩
  · rintro ⟨depth, rfl⟩
    induction depth with
    | zero => rfl
    | succ depth ih =>
      rw [Function.iterate_succ_apply']
      exact ih

/-- The script type at the bottom of any number of lists. -/
def typeName : FieldType → Text
  | primitive p => p.scriptType
  | list item => item.typeName
  | model name => if name.isEmpty then "any" else name

/-- The number of lists around what a type is at its bottom. -/
def depth : FieldType → Nat
  | list item => item.depth + 1
  | primitive _ | model _ => 0

theorem scriptType_eq (type : FieldType) :
    type.scriptType = type.typeName ++ (List.replicate type.depth "[]".toList).flatten := by
  induction type with
  | primitive p => exact (List.append_nil _).symm
  | list item ih =>
    rw [scriptType, ih, typeName, depth, List.replicate_succ', List.flatten_append,
      List.flatten_singleton, List.append_assoc]
  | model name => exact (List.append_nil _).symm

end FieldType

/-- The types that every script knows. -/
def builtinTypes : List Text :=
  ["string", "number", "boolean", "Date", "any"]

theorem Primitive.scriptType_builtin (p : Primitive) : p.scriptType ∈ builtinTypes := by
  cases p <;> decide

/-- The type at the bottom is built in, or it is the model that the type refers to. -/
theorem FieldType.typeName_cases (type : FieldType) :
    type.typeName ∈ builtinTypes ∨ type.reference? = some type.typeName := by
  induction type with
  | primitive p => exact .inl p.scriptType_builtin
  | list item ih => exact ih
  | model name =>
    rw [typeName]
    split
    · exact .inl (by decide)
    · exact .inr rfl

/-- Every field that a document declares, with its model. -/
def Document.fieldPlaces (document : Document) : List (DataModel × Field) :=
  document.data.flatMap fun model => model.fields.map (model, ·)

section

variable {models : List Text} {model field reference : Text}

theorem Field.count_unknownModel (owner : Text) (self : Field) :
    (self.lintWarnings models owner).count (.unknownModel model field reference) =
      if owner = model ∧ self.name = field ∧ self.type.reference? = some reference ∧
        reference ∉ models then 1 else 0 := by
  have flags : (if self.isRequired && self.isOptional then
      [LintWarning.contradictoryFlags owner self.name] else []).count
        (.unknownModel model field reference) = 0 := by
    split <;> simp
  rw [lintWarnings, List.count_append, flags, Nat.add_zero]
  cases self.type.reference? with
  | none => simp
  | some found =>
    dsimp only
    by_cases same : found = reference
    · subst same
      by_cases known : found ∈ models
      · simp [known]
      · simp [known, List.count_singleton]
    · by_cases known : found ∈ models <;> simp [known, same]

theorem DataModel.count_unknownModel (self : DataModel) :
    (self.lintWarnings models).count (.unknownModel model field reference) =
      (self.fields.map (self, ·)).countP fun place => place.1.name = model ∧
        place.2.name = field ∧ place.2.type.reference? = some reference ∧ reference ∉ models := by
  have vacant : (if self.fields.isEmpty then [LintWarning.emptyModel self.name] else []).count
      (.unknownModel model field reference) = 0 := by
    split <;> simp
  rw [lintWarnings, List.count_append, vacant, Nat.zero_add]
  induction self.fields with
  | nil => rfl
  | cons first rest ih =>
    rw [List.flatMap_cons, List.count_append, ih, Field.count_unknownModel, List.map_cons,
      List.countP_cons, Nat.add_comm]
    simp

/-- A document warns of an unknown model once for each field that refers to one. -/
theorem Document.count_unknownModel (document : Document) :
    document.lintWarnings.count (.unknownModel model field reference) =
      document.fieldPlaces.countP fun place => place.1.name = model ∧ place.2.name = field ∧
        place.2.type.reference? = some reference ∧
        reference ∉ document.data.map DataModel.name := by
  have vacant : (if document.isEmpty then [LintWarning.emptyDocument] else []).count
      (.unknownModel model field reference) = 0 := by
    split <;> simp
  have values : ((document.computed.filter ComputedValue.lacksSource).map fun value =>
      LintWarning.missingExpression value.name).count (.unknownModel model field reference) = 0 := by
    simp [List.count_eq_zero]
  rw [lintWarnings, List.count_append, List.count_append, vacant, values, Nat.zero_add,
    Nat.add_zero, fieldPlaces, List.count_flatMap, List.countP_flatMap]
  exact congrArg List.sum (List.map_congr_left fun owner _ => owner.count_unknownModel)

end

namespace Vue

/-- A line of the file that declares the models, for what it is. -/
inductive ModelsEntry where
  | plain (line : Text)
  /-- The line that opens the declaration of a model. -/
  | model (name : Text)
  /-- A member of a model, with the type at the bottom of its lists. -/
  | member (name : Text) (isOptional : Bool) (type : Text) (lists : Nat)
  deriving DecidableEq

namespace ModelsEntry

def line : ModelsEntry → Text
  | plain line => line
  | model name => "export interface " ++ name ++ [' ', '{']
  | member name isOptional type lists =>
    "  " ++ name ++ (if isOptional then "?" else "") ++ ": " ++
      (type ++ (List.replicate lists "[]".toList).flatten) ++ ";"

/-- The type that the line names, if it is the line of a member. -/
def typeName? : ModelsEntry → Option Text
  | member _ _ type _ => some type
  | plain _ | model _ => none

def ofField (field : Field) : ModelsEntry :=
  member field.name field.isOptional field.type.typeName field.type.depth

theorem ofField_line (field : Field) : (ofField field).line = memberLine field := by
  rw [memberLine, FieldType.scriptType_eq]
  rfl

end ModelsEntry

/-- The file that declares the models, entry by entry. -/
def modelsEntries (models : List DataModel) : List ModelsEntry :=
  modelsHeader.map .plain ++ models.flatMap fun model =>
    .model model.name :: model.fields.map .ofField ++ closingLines.map .plain

theorem modelsEntries_line (models : List DataModel) :
    (modelsEntries models).map ModelsEntry.line = modelsHeader ++ models.flatMap modelLines := by
  have plain (lines : List Text) : (lines.map ModelsEntry.plain).map ModelsEntry.line = lines := by
    rw [List.map_map]
    exact List.map_id lines
  have members (fields : List Field) :
      (fields.map ModelsEntry.ofField).map ModelsEntry.line = fields.map memberLine := by
    rw [List.map_map]
    exact List.map_congr_left fun field _ => ModelsEntry.ofField_line field
  rw [modelsEntries, List.map_append, plain, List.map_flatMap]
  congr 1
  refine List.flatMap_congr fun model _ => ?_
  rw [List.map_append, List.map_cons, members, plain, modelLines]
  rfl

/-- The entries name the types of all fields, in order. -/
theorem modelsEntries_typeNames (models : List DataModel) :
    (modelsEntries models).filterMap ModelsEntry.typeName? =
      models.flatMap fun model => model.fields.map fun field => field.type.typeName := by
  have plain (lines : List Text) :
      (lines.map ModelsEntry.plain).filterMap ModelsEntry.typeName? = [] := by
    simp [List.filterMap_map, Function.comp_def, ModelsEntry.typeName?]
  have members (fields : List Field) :
      (fields.map ModelsEntry.ofField).filterMap ModelsEntry.typeName? =
        fields.map fun field => field.type.typeName := by
    rw [List.filterMap_map, ← List.filterMap_eq_map]
    rfl
  rw [modelsEntries, List.filterMap_append, plain, List.nil_append, List.filterMap_flatMap]
  refine List.flatMap_congr fun model _ => ?_
  rw [List.filterMap_append, plain, List.append_nil, List.filterMap_cons_none rfl, members]

/-- The file that declares the models is written entry by entry. -/
theorem modelsArtifact?_content {models : List DataModel} {artifact : Artifact}
    (found : modelsArtifact? models = some artifact) :
    artifact.content = Text.join ['\n'] ((modelsEntries models).map ModelsEntry.line) := by
  obtain ⟨_, rfl⟩ := modelsArtifact?_eq_some.mp found
  rw [modelsEntries_line]
  rfl

/-- The file that declares the models of a document without warnings names no type that is neither
built in nor declared there. -/
theorem modelsEntries_resolved {document : Document} (calm : document.lintWarnings = []) :
    ∀ type ∈ (modelsEntries document.data).filterMap ModelsEntry.typeName?,
      type ∈ builtinTypes ∨ .model type ∈ modelsEntries document.data := by
  intro type named
  rw [modelsEntries_typeNames, List.mem_flatMap] at named
  obtain ⟨model, member, inModel⟩ := named
  obtain ⟨field, among, rfl⟩ := List.mem_map.mp inModel
  refine field.type.typeName_cases.imp_right fun refers => ?_
  have silent : document.lintWarnings.count
      (.unknownModel model.name field.name field.type.typeName) = 0 := by
    rw [calm]
    rfl
  rw [document.count_unknownModel, List.countP_eq_zero] at silent
  have place : (model, field) ∈ document.fieldPlaces :=
    List.mem_flatMap.mpr ⟨model, member, List.mem_map_of_mem among⟩
  have known : field.type.typeName ∈ document.data.map DataModel.name := by
    simpa [refers] using silent _ place
  obtain ⟨declared, inData, same⟩ := List.mem_map.mp known
  refine List.mem_append_right _ (List.mem_flatMap.mpr ⟨declared, inData, ?_⟩)
  rw [← same]
  exact List.mem_append_left _ List.mem_cons_self

end Vue

end AppDescription
