import AppDescription.Backend
import AppDescription.Failure
import AppDescription.Text.Quoted
import AppDescription.Vue

namespace AppDescription

/-- What may be offered to a registry: a backend, or a class that is none. -/
inductive Candidate where
  | backend (backend : Backend)
  | other (className : Text)

namespace Candidate

def className : Candidate → Text
  | backend b => b.className
  | other name => name

end Candidate

/-- The reasons for a registry to refuse. -/
inductive RegistryFault where
  | nameTaken (name className : Text)
  | notBackend (className : Text)
  | unknownName (name : Text) (available : List Text)
  deriving Repr, DecidableEq

namespace RegistryFault

def message : RegistryFault → Text
  | nameTaken name className =>
    "Backend '" ++ name ++ "' is already registered. Cannot register " ++ className ++ "."
  | notBackend className => "Backend class " ++ className ++ " must extend Backend"
  | unknownName name available =>
    "Backend '" ++ name ++ "' not found. Available backends: " ++ Text.quotedList available

def failure (fault : RegistryFault) : Failure :=
  ⟨.backend, fault.message, none⟩

end RegistryFault

/-- Backends under names, in the order they were registered. -/
abbrev Registry := List (Text × Backend)

namespace Registry

def find? (registry : Registry) (name : Text) : Option Backend :=
  List.lookup name registry

def names (registry : Registry) : List Text :=
  Text.sort (registry.map Prod.fst)

/-- Binds a name. A name is bound once, and to a backend only; a taken name is reported first. -/
def register (registry : Registry) (name : Text) (candidate : Candidate) :
    Except RegistryFault Registry :=
  match registry.find? name, candidate with
  | some _, candidate => .error (.nameTaken name candidate.className)
  | none, .other className => .error (.notBackend className)
  | none, .backend backend => .ok (registry ++ [(name, backend)])

def get (registry : Registry) (name : Text) : Except RegistryFault Backend :=
  match registry.find? name with
  | some backend => .ok backend
  | none => .error (.unknownName name registry.names)

/-- The backends that come with the program. -/
def builtins : List (Text × Backend) :=
  [("vue", Vue.backend)]

/-- Adds the built-in backends whose names are free. -/
def loadBuiltins (registry : Registry) : Registry :=
  builtins.foldl (fun registry entry =>
    match registry.find? entry.1 with
    | some _ => registry
    | none => registry ++ [entry]) registry

/-- The registry a program starts with. -/
def standard : Registry :=
  loadBuiltins []

end Registry

end AppDescription
