import AppDescription.Document.Computed
import AppDescription.Document.Element
import AppDescription.Document.Field

namespace AppDescription

/-- The constructs a source may declare at its left margin. -/
inductive DeclarationKind where
  | app | data | interface | computed | logic | stateMachine | realtime | external
  | integrations | deploy
  deriving Repr, DecidableEq

namespace DeclarationKind

def all : List DeclarationKind :=
  [app, data, interface, computed, logic, stateMachine, realtime, external, integrations, deploy]

def keyword : DeclarationKind → Text
  | app => "app"
  | data => "data"
  | interface => "interface"
  | computed => "computed"
  | logic => "logic"
  | stateMachine => "state_machine"
  | realtime => "realtime"
  | external => "external"
  | integrations => "integrations"
  | deploy => "deploy"

def ofKeyword? (keyword : Text) : Option DeclarationKind :=
  all.find? fun kind => kind.keyword = keyword

end DeclarationKind

structure App where
  name : Text
  title : Option Text
  description : Option Text
  version : Option Text
  languageVersion : Option Text
  deriving Repr, DecidableEq

structure DeployConfig where
  platform : Option Text
  environments : List Text
  deriving Repr, DecidableEq

/-- What a source declares. Sections keep the order of the source; names may repeat and references
are not resolved. Logic, state machines, realtime connections and external integrations are known
by name only. -/
structure Document where
  app : Option App
  data : List DataModel
  interfaces : List Interface
  logic : List Text
  computed : List ComputedValue
  stateMachines : List Text
  realtime : List Text
  external : List Text
  /-- The names of the integration sections, when the source has them. -/
  integrations : Option (List Text)
  deploy : Option DeployConfig
  /-- Every declaration in source order. -/
  order : List (DeclarationKind × Text)
  deriving Repr

namespace Document

/-- The first data model of that name. -/
def dataModel? (document : Document) (name : Text) : Option DataModel :=
  document.data.find? fun model => model.name = name

def isEmpty (document : Document) : Bool :=
  document.order.isEmpty

end Document

end AppDescription
