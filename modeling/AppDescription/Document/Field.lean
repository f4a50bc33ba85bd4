import AppDescription.Text.Basic

namespace AppDescription

/-- The built-in field types. -/
inductive Primitive where
  | text | number | boolean | date | timestamp | email | url | uniqueId | money | percentage
  deriving Repr, DecidableEq

namespace Primitive

def all : List Primitive :=
  [text, number, boolean, date, timestamp, email, url, uniqueId, money, percentage]

def name : Primitive → Text
  | text => "text"
  | number => "number"
  | boolean => "boolean"
  | date => "date"
  | timestamp => "timestamp"
  | email => "email"
  | url => "url"
  | uniqueId => "unique_id"
  | money => "money"
  | percentage => "percentage"

def ofName? (name : Text) : Option Primitive :=
  all.find? fun primitive => primitive.name = name

end Primitive

/-- A field holds a primitive value, a list, or a reference to a data model by name. -/
inductive FieldType where
  | primitive (primitive : Primitive)
  | list (item : FieldType)
  | model (name : Text)
  deriving Repr, DecidableEq

namespace FieldType

/-- The type as it is written in a data block. -/
def text : FieldType → Text
  | primitive p => p.name
  | list item => "list of " ++ item.text
  | model name => name

/-- The data model at the bottom of any number of list wrappers. -/
def reference? : FieldType → Option Text
  | primitive _ => none
  | list item => item.reference?
  | model name => some name

/-- Reads a type off the front of a definition. `list` needs an `of` and one word after that to
wrap an item; any other word that names no primitive names a model. -/
def ofWords? : List Text → Option (FieldType × List Text)
  | [] => none
  | word :: [] => some (ofWord word, [])
  | word :: next :: [] => some (ofWord word, [next])
  | word :: next :: item :: rest =>
    if word = "list".toList ∧ next = "of".toList then
      (ofWords? (item :: rest)).map fun found => (list found.1, found.2)
    else some (ofWord word, next :: item :: rest)
where
  ofWord (word : Text) : FieldType :=
    match Primitive.ofName? word with
    | some p => .primitive p
    | none => .model word

end FieldType

inductive TypeKind where
  | primitive | list | model
  deriving Repr, DecidableEq

/-- A field type written out member by member, where a member may be missing or unused. -/
inductive TypeForm where
  | mk (kind : TypeKind) (primitive : Option Primitive) (item : Option TypeForm)
      (model : Option Text)

namespace TypeForm

/-- The text of a form. A missing inner value shows as `None`. -/
def text : TypeForm → Text
  | mk kind primitive item model =>
    match kind, item with
    | .list, some item => "list of " ++ item.text
    | .list, none => "list of None"
    | .model, _ => model.getD "None"
    | .primitive, _ => (primitive.map Primitive.name).getD "None"

def reference? : TypeForm → Option Text
  | mk kind _ item model =>
    match kind, item with
    | .list, some item => item.reference?
    | _, _ => model

end TypeForm

namespace FieldType

/-- A field type with exactly the member of its kind filled in. -/
def form : FieldType → TypeForm
  | primitive p => .mk .primitive (some p) none none
  | list item => .mk .list none (some item.form) none
  | model name => .mk .model none none (some name)

theorem form_text (type : FieldType) : type.form.text = type.text := by
  induction type with
  | primitive p => rfl
  | list item ih =>
    have step : (list item).form.text = "list of ".toList ++ item.form.text := rfl
    rw [step, ih]
    rfl
  | model name => rfl

theorem form_reference? (type : FieldType) : type.form.reference? = type.reference? := by
  induction type with
  | primitive p => rfl
  | list item ih => simpa [form, TypeForm.reference?, reference?] using ih
  | model name => rfl

end FieldType

/-- The modifiers that are a single word. -/
inductive Flag where
  | required | optional | unique | auto
  deriving Repr, DecidableEq

namespace Flag

def all : List Flag :=
  [required, optional, unique, auto]

def name : Flag → Text
  | required => "required"
  | optional => "optional"
  | unique => "unique"
  | auto => "auto"

def ofName? (name : Text) : Option Flag :=
  all.find? fun flag => flag.name = name

end Flag

inductive Modifier where
  | flag (flag : Flag)
  | default (value : Text)
  deriving Repr, DecidableEq

namespace Modifier

def flag? : Modifier → Option Flag
  | flag f => some f
  | default _ => none

def default? : Modifier → Option Text
  | flag _ => none
  | default value => some value

/-- Reads the modifiers of a definition. A default is written `default: value` or `default:value`,
a `default:` at the end says nothing, and other words are skipped. -/
def ofWords : List Text → List Modifier
  | [] => []
  | word :: rest =>
    match Flag.ofName? word with
    | some f => .flag f :: ofWords rest
    | none =>
      match Text.dropPrefix? "default:" word with
      | none => ofWords rest
      | some [] =>
        match rest with
        | [] => []
        | value :: more => .default value :: ofWords more
      | some value => .default value :: ofWords rest

end Modifier

structure Field where
  name : Text
  type : FieldType
  /-- In the order they were written. -/
  modifiers : List Modifier
  deriving Repr, DecidableEq

namespace Field

/-- The last default that was given. -/
def default? (field : Field) : Option Text :=
  (field.modifiers.filterMap Modifier.default?).getLast?

def flags (field : Field) : List Flag :=
  field.modifiers.filterMap Modifier.flag?

def isRequired (field : Field) : Bool :=
  field.flags.contains .required

def isOptional (field : Field) : Bool :=
  field.flags.contains .optional

/-- Reads the definition after `name:`. It needs at least one word. -/
def ofDefinition? (name definition : Text) : Option Field :=
  (FieldType.ofWords? (Text.words definition)).map fun found =>
    ⟨name, found.1, Modifier.ofWords found.2⟩

end Field

structure DataModel where
  name : Text
  fields : List Field
  /-- The lines of the relationship sections, as written. -/
  relationships : List Text
  deriving Repr, DecidableEq

namespace DataModel

/-- The first field of that name. -/
def field? (model : DataModel) (name : Text) : Option Field :=
  model.fields.find? fun field => field.name = name

end DataModel

end AppDescription
