import AppDescription.Document
import AppDescription.JsonValue

namespace AppDescription

open JsonValue

/-- An object whose members are all texts or missing. -/
def textMembers (members : List (String × Option Text)) : List (Text × JsonValue) :=
  members.map fun member => (member.1.toList, ofOption .text member.2)

def namedJson (name : Text) : JsonValue :=
  object [("name", .text name)]

def App.json (app : App) : JsonValue :=
  object (textMembers [("name", some app.name), ("title", app.title),
    ("description", app.description), ("version", app.version),
    ("apml_version", app.languageVersion)])

def FieldType.json : FieldType → JsonValue
  | .primitive p => object [("kind", .text "primitive"), ("primitive", .text p.name),
      ("item", null), ("model", null)]
  | .list item => object [("kind", .text "list"), ("primitive", null), ("item", item.json),
      ("model", null)]
  | .model name => object [("kind", .text "model"), ("primitive", null), ("item", null),
      ("model", .text name)]

def Modifier.json : Modifier → JsonValue
  | .flag f => .text f.name
  | .default value => object [("value", .text value)]

def Field.json (field : Field) : JsonValue :=
  object [("name", .text field.name), ("type", field.type.json),
    ("modifiers", ofList Modifier.json field.modifiers),
    ("default_value", ofOption .text field.default?)]

def DataModel.json (model : DataModel) : JsonValue :=
  object [("name", .text model.name), ("fields", ofList Field.json model.fields),
    ("relationships", ofList .text model.relationships)]

def Properties.json (properties : Properties) : JsonValue :=
  object (properties.map fun entry => (entry.1, .text entry.2))

mutual

def Element.json : Element → JsonValue
  | .display kind name properties children =>
    object [("type", .text "show"), ("element_name", .text kind), ("name", .text name),
      ("properties", Properties.json properties), ("children", array (forestJson children))]
  | .conditional word condition body none =>
    object [("type", .text word.text), ("condition", .text condition),
      ("then", array (forestJson body)), ("else", null)]
  | .conditional word condition body (some otherwise) =>
    object [("type", .text word.text), ("condition", .text condition),
      ("then", array (forestJson body)), ("else", array (forestJson otherwise))]
  | .iteration item collection body =>
    object [("type", .text "for_each"), ("item_name", .text item), ("collection", .text collection),
      ("body", array (forestJson body))]

def forestJson : List Element → List JsonValue
  | [] => []
  | element :: rest => element.json :: forestJson rest

end

def Interface.json (interface : Interface) : JsonValue :=
  object [("name", .text interface.name), ("elements", array (forestJson interface.elements))]

/-- A logic section. Its parts are not read. -/
def logicJson (name : Text) : JsonValue :=
  object [("name", .text name), ("processes", array []), ("calculations", array []),
    ("validations", array [])]

def ComputedValue.json (value : ComputedValue) : JsonValue :=
  object [("name", .text value.name), ("expression", ofOption .text value.expression),
    ("value", ofOption .text value.value),
    ("format", ofOption (fun format => .text format.name) value.format),
    ("cache", ofOption boolean value.cache)]

def integrationsJson (sections : List Text) : JsonValue :=
  object [("sections", ofList .text sections)]

def DeployConfig.json (config : DeployConfig) : JsonValue :=
  object [("platform", ofOption .text config.platform),
    ("environments", ofList .text config.environments)]

def Document.json (document : Document) : JsonValue :=
  object [("app", ofOption App.json document.app),
    ("data", ofList DataModel.json document.data),
    ("interfaces", ofList Interface.json document.interfaces),
    ("logic", ofList logicJson document.logic),
    ("computed", ofList ComputedValue.json document.computed),
    ("state_machines", ofList namedJson document.stateMachines),
    ("realtime", ofList namedJson document.realtime),
    ("external", ofList namedJson document.external),
    ("integrations", ofOption integrationsJson document.integrations),
    ("deploy", ofOption DeployConfig.json document.deploy),
    ("declaration_order", ofList (fun entry => array [.text entry.1.keyword, .text entry.2])
      document.order)]

end AppDescription
