import AppDescription.Failure
import AppDescription.FileTree
import AppDescription.LogRecord
import AppDescription.Toml

namespace AppDescription

/-- The ways work on a project can go wrong. -/
inductive ProjectFault where
  | system (fault : SystemFault)
  | encoding (fault : Utf8Fault)
  | toml (fault : Toml.Fault) (document : Text)
  | rejected (failure : Failure)
  /-- A section of the manifest is no table. -/
  | sectionForm
  /-- A value of the manifest is no text, or no list of texts, where one is needed. -/
  | valueForm
  /-- A path holds the character zero. -/
  | pathForm
  /-- An integer has more digits than can be read or shown. -/
  | integerSize
  deriving Repr, DecidableEq

namespace ProjectFault

/-- The message for a fault of the input. What has the wrong form has none. -/
def text? : ProjectFault → Option Text
  | system fault => some fault.text
  | encoding fault => some fault.text
  | toml fault document => some (fault.text document)
  | rejected failure => some failure.text
  | sectionForm | valueForm | pathForm | integerSize => none

end ProjectFault

/-- What has changed so far, and what was logged on the way. -/
structure Progress where
  files : FileTree
  log : List LogRecord
  deriving Repr, DecidableEq

/-- Work on a project. What was done before a fault stays done. -/
abbrev Work := ExceptT ProjectFault (StateM Progress)

namespace Work

def log (records : List LogRecord) : Work Unit :=
  modify fun progress => { progress with log := progress.log ++ records }

def files : Work FileTree := do
  return (← get).files

/-- Goes on if a path can be used at all. -/
def checkPath (path : Path) : Work Unit :=
  if path.isMalformed then throw .pathForm else return

/-- Goes on if a value can be shown. -/
def checkShowable (value : TomlValue) : Work Unit :=
  if value.isShowable then return else throw .integerSize

def ofExcept {ε α : Type} (fault : ε → ProjectFault) : Except ε α → Work α
  | .ok value => pure value
  | .error error => throw (fault error)

end Work

end AppDescription
