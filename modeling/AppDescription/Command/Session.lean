import AppDescription.Project.Fault
import AppDescription.Text.Styling

namespace AppDescription

/-- The files a command works on, and the lines it has printed. -/
structure Session where
  files : FileTree
  output : List Text
  diagnostics : List Text
  deriving Repr, DecidableEq

/-- The text that printed lines make up. -/
def Session.printed (lines : List Text) : Text :=
  lines.flatMap fun line => line ++ ['\n']

/-- How a command can end before its last step. -/
inductive Ending where
  | exit (code : Nat)
  /-- The arguments make no sense, or ask how the program is called. -/
  | usage
  /-- Something has a form that no message is meant for. -/
  | crash (fault : ProjectFault)
  deriving Repr, DecidableEq

/-- A step of a command. What was printed and written before an early end stays. -/
abbrev Interaction := ExceptT Ending (StateM Session)

/-- Where a command runs, and whether it tells everything that is logged. -/
structure Setting where
  directory : Location
  isVerbose : Bool
  deriving Repr, DecidableEq

namespace Interaction

/-- Prints a line. Terminal styling is left out, since nothing that reads it is a terminal. -/
def print (line : Text) : Interaction Unit :=
  modify fun session => { session with output := session.output ++ [line.withoutStyling] }

def printError (line : Text) : Interaction Unit :=
  modify fun session =>
    { session with diagnostics := session.diagnostics ++ [line.withoutStyling] }

/-- Prints log records as they are. -/
def printLog (log : List LogRecord) : Interaction Unit :=
  modify fun session =>
    { session with diagnostics := session.diagnostics ++ log.map LogRecord.text }

def files : Interaction FileTree := do
  return (← get).files

/-- The log records that are printed. -/
def shown (setting : Setting) (log : List LogRecord) : List LogRecord :=
  log.filter fun record => setting.isVerbose || record.level = .warning

/-- Does work on the project and prints what it logs. -/
def attempt {α : Type} (setting : Setting) (work : Work α) :
    Interaction (Except ProjectFault α) := do
  let (result, progress) := (ExceptT.run work).run ⟨← files, []⟩
  modify fun session => { session with files := progress.files }
  printLog (shown setting progress.log)
  return result

/-- Ends a command because of a fault. -/
def reject {α : Type} (fault : ProjectFault) : Interaction α := do
  match fault, fault.text? with
  | _, none => throw (.crash fault)
  | .rejected ⟨.parse, _, _⟩, some text => printError ("Parse error: " ++ text)
  | _, some text => printError ("Error: " ++ text)
  throw (.exit 1)

/-- Does work on the project, and ends the command where it fails. -/
def require {α : Type} (setting : Setting) (work : Work α) : Interaction α := do
  match ← attempt setting work with
  | .ok value => return value
  | .error fault => reject fault

end Interaction

end AppDescription
