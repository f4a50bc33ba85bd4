import AppDescription.Document

namespace AppDescription

def Modifier.text : Modifier → Text
  | .flag f => f.name
  | .default value => "default: " ++ value

/-- The line that lists an element. -/
def Element.label : Element → Text
  | .display kind name _ _ => "show " ++ kind ++ if name = kind then [] else ' ' :: name
  | .conditional word condition _ _ => word.text ++ " " ++ condition
  | .iteration item collection _ => "for_each " ++ item ++ " in " ++ collection

/-- A line of an element list, two columns further in for each level. -/
def listLine (depth : Nat) (label : Text) : Text :=
  List.replicate (5 + 2 * depth) ' ' ++ "- " ++ label

mutual

/-- An element and all below it, each on a line. An `else` has a line too, even when it is empty. -/
def Element.listLines (depth : Nat) : Element → List Text
  | element@(.display _ _ _ children) =>
    listLine depth element.label :: forestListLines (depth + 1) children
  | element@(.conditional _ _ body none) =>
    listLine depth element.label :: forestListLines (depth + 1) body
  | element@(.conditional _ _ body (some otherwise)) =>
    listLine depth element.label :: forestListLines (depth + 1) body ++
      listLine depth "else" :: forestListLines (depth + 1) otherwise
  | element@(.iteration _ _ body) =>
    listLine depth element.label :: forestListLines (depth + 1) body

def forestListLines (depth : Nat) : List Element → List Text
  | [] => []
  | element :: rest => element.listLines depth ++ forestListLines depth rest

end

def Field.listLine (field : Field) : Text :=
  Text.trimEnd ("     - " ++ field.name ++ ": " ++ field.type.text ++ " " ++
    Text.join [' '] (field.modifiers.map Modifier.text))

def DataModel.listLines (model : DataModel) : List Text :=
  ("   • " ++ model.name ++ " (" ++ Text.ofNat model.fields.length ++ " fields)") ::
    model.fields.map Field.listLine

def Interface.listLines (interface : Interface) : List Text :=
  ("   • " ++ interface.name ++ " (" ++ Text.ofNat interface.walk.length ++ " elements)") ::
    forestListLines 0 interface.elements

def ComputedValue.listLine (value : ComputedValue) : Text :=
  "   • " ++ value.name ++
    match value.format with
    | some format => " [" ++ format.name ++ "]"
    | none => []

def DeclarationKind.hasOwnList : DeclarationKind → Bool
  | .app | .data | .interface | .computed => true
  | _ => false

/-- A part of the overview, which is left out when it lists nothing. -/
def overviewPart (title : Text) (lines : List Text) : List Text :=
  if lines.isEmpty then [] else [] :: title :: lines

/-- The head of an overview: the name of the app, or else another title, and the title of the
app. -/
def Document.overviewHead (document : Document) (title : Text) : List Text :=
  [] :: ("📦 " ++ (document.app.map App.name).getD title) ::
    match document.app.bind App.title with
    | none | some [] => []
    | some appTitle => ["   " ++ appTitle]

/-- An overview of a document, part by part. -/
def Document.overview (document : Document) (title : Text) : List Text :=
  document.overviewHead title ++
  overviewPart "📊 Data models:" (document.data.flatMap DataModel.listLines) ++
  overviewPart "🖥  Interfaces:" (document.interfaces.flatMap Interface.listLines) ++
  overviewPart "🧮 Computed:" (document.computed.map ComputedValue.listLine) ++
  overviewPart "📋 Other declarations:"
    ((document.order.filter fun entry => !entry.1.hasOwnList).map fun entry =>
      "   • " ++ entry.1.keyword ++ " " ++ entry.2)

end AppDescription
