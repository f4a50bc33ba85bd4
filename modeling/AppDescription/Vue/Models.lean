import AppDescription.Artifact
import AppDescription.Document

namespace AppDescription

namespace Primitive

/-- The script type of a primitive value. -/
def scriptType : Primitive → Text
  | text | email | url | uniqueId => "string"
  | number | money | percentage => "number"
  | boolean => "boolean"
  | date | timestamp => "Date"

end Primitive

namespace TypeForm

/-- The script type of a form. A form that lacks the member of its kind falls back on its primitive
member and then on `any`. -/
def scriptType : TypeForm → Text
  | mk kind primitive item model =>
    match kind, item, model with
    | .list, some item, _ => item.scriptType ++ "[]"
    | .model, _, some (c :: name) => c :: name
    | _, _, _ => (primitive.map Primitive.scriptType).getD "any"

end TypeForm

namespace FieldType

/-- The script type of a field type. A model is known there by its own name. -/
def scriptType : FieldType → Text
  | primitive p => p.scriptType
  | list item => item.scriptType ++ "[]"
  | model name => if name.isEmpty then "any" else name

theorem form_scriptType (type : FieldType) : type.form.scriptType = type.scriptType := by
  induction type with
  | primitive p => rfl
  | list item ih =>
    have step : (list item).form.scriptType = item.form.scriptType ++ "[]".toList := rfl
    rw [step, ih]
    rfl
  | model name => cases name <;> rfl

end FieldType

namespace Vue

/-- The file that declares the models. -/
def modelsPath : Text :=
  "src/types/models.ts"

/-- One member of a model declaration. -/
def memberLine (field : Field) : Text :=
  "  " ++ field.name ++ (if field.isOptional then "?" else "") ++ ": " ++
    field.type.scriptType ++ ";"

def closingLines : List Text :=
  [['}'], ""]

def modelLines (model : DataModel) : List Text :=
  ("export interface " ++ model.name ++ [' ', '{']) :: model.fields.map memberLine ++ closingLines

def modelsHeader : List Text :=
  ["/**",
    " * Generated TypeScript types from APML data models",
    " * DO NOT EDIT - This file is auto-generated",
    " */",
    ""]

/-- The model declarations, when there are models. -/
def modelsArtifact? (models : List DataModel) : Option Artifact :=
  if models.isEmpty then none
  else some (.ofLines modelsPath (modelsHeader ++ models.flatMap modelLines))

end Vue

end AppDescription
