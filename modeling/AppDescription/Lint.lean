import AppDescription.Document
import AppDescription.Failure

namespace AppDescription

/-- A finding that makes a document invalid. -/
inductive LintError where
  | duplicate (list name : Text)
  | duplicateField (model field : Text)
  deriving Repr, DecidableEq

namespace LintError

def message : LintError → Text
  | duplicate list name => "Duplicate " ++ list ++ " '" ++ name ++ "'"
  | duplicateField model field =>
    "Data model '" ++ model ++ "' declares field '" ++ field ++ "' more than once"

end LintError

/-- A finding that leaves a document valid. -/
inductive LintWarning where
  | emptyDocument
  | emptyModel (model : Text)
  | unknownModel (model field reference : Text)
  | contradictoryFlags (model field : Text)
  | missingExpression (computed : Text)
  deriving Repr, DecidableEq

namespace LintWarning

def message : LintWarning → Text
  | emptyDocument => "Document declares nothing."
  | emptyModel model => "Data model '" ++ model ++ "' has no fields"
  | unknownModel model field reference =>
    "Field '" ++ model ++ "." ++ field ++ "' references unknown model '" ++ reference ++ "'"
  | contradictoryFlags model field =>
    "Field '" ++ model ++ "." ++ field ++ "' is marked both required and optional"
  | missingExpression computed => "Computed value '" ++ computed ++ "' has no expression"

end LintWarning

/-- The names that occur more than once, each once and in order of code points. -/
def duplicates (names : List Text) : List Text :=
  Text.sort (names.filter fun name => 1 < names.count name).eraseDups

namespace DataModel

def lintErrors (model : DataModel) : List LintError :=
  (duplicates (model.fields.map Field.name)).map (.duplicateField model.name)

end DataModel

namespace Field

/-- The findings about one field of a model, given the names of all models. -/
def lintWarnings (models : List Text) (model : Text) (field : Field) : List LintWarning :=
  (match field.type.reference? with
    | some reference =>
      if models.contains reference then [] else [.unknownModel model field.name reference]
    | none => []) ++
  if field.isRequired && field.isOptional then [.contradictoryFlags model field.name] else []

end Field

namespace DataModel

def lintWarnings (models : List Text) (model : DataModel) : List LintWarning :=
  (if model.fields.isEmpty then [.emptyModel model.name] else []) ++
    model.fields.flatMap (Field.lintWarnings models model.name)

end DataModel

namespace Document

/-- Names declared more than once in one list, list by list, and then repeated fields. -/
def lintErrors (document : Document) : List LintError :=
  (duplicates (document.data.map DataModel.name)).map (.duplicate "data model") ++
  (duplicates (document.interfaces.map Interface.name)).map (.duplicate "interface") ++
  (duplicates (document.computed.map ComputedValue.name)).map (.duplicate "computed value") ++
  (duplicates document.logic).map (.duplicate "logic section") ++
  document.data.flatMap DataModel.lintErrors

def lintWarnings (document : Document) : List LintWarning :=
  (if document.isEmpty then [.emptyDocument] else []) ++
  document.data.flatMap (DataModel.lintWarnings (document.data.map DataModel.name)) ++
  (document.computed.filter ComputedValue.lacksSource).map fun value =>
    .missingExpression value.name

/-- The warnings of a valid document, or one failure that lists all its errors. -/
def validate (document : Document) (file : Option Path) : Except Failure (List LintWarning) :=
  if document.lintErrors.isEmpty then .ok document.lintWarnings
  else .error (.validation (Text.join "; " (document.lintErrors.map LintError.message)) file)

end Document

end AppDescription
