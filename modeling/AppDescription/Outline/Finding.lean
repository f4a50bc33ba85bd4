import AppDescription.Failure
import AppDescription.Header

namespace AppDescription

/-- Something a reader passes over without failing. -/
inductive Note where
  | unknownLine (number : Nat) (text : Text)
  | looseElse (number : Nat)
  | ignoredFieldLine (model text : Text)
  | unknownFormat (name format : Text)
  deriving Repr, DecidableEq

/-- A malformed header and the line it stands on. -/
structure Fault where
  line : Line
  cause : HeaderFault
  deriving Repr, DecidableEq

namespace Fault

/-- A fault is placed at the first character of its line that is not white space. -/
def failure (fault : Fault) (file : Option Path) : Failure :=
  ⟨.parse, fault.cause.message,
    some ⟨file, fault.line.number, fault.line.indent + 1, some fault.line.raw⟩⟩

end Fault

/-- What is worth telling about a source, in reading order. -/
inductive Finding where
  | note (note : Note)
  | fault (fault : Fault)
  deriving Repr, DecidableEq

namespace Finding

def fault? : Finding → Option Fault
  | note _ => none
  | fault f => some f

def note? : Finding → Option Note
  | note n => some n
  | fault _ => none

/-- The first fault, which is where reading stops. -/
def firstFault? (findings : List Finding) : Option Fault :=
  findings.findSome? fault?

/-- The notes made before reading stops. -/
def notes (findings : List Finding) : List Note :=
  (findings.takeWhile fun finding => finding.fault?.isNone).filterMap note?

end Finding

end AppDescription
