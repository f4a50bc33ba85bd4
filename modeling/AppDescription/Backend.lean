import AppDescription.Artifact
import AppDescription.Document
import AppDescription.LogRecord

namespace AppDescription

/-- What a backend says about itself. -/
structure Capabilities where
  name : Text
  description : Text
  formats : List Text
  deriving Repr, DecidableEq

namespace Capabilities

/-- What is said about a backend that says nothing. -/
def unstated (name : Text) : Capabilities :=
  ⟨name, "No description provided", ["unknown"]⟩

end Capabilities

/-- The artifacts of a run, and what was logged on the way. -/
structure Generation where
  artifacts : List Artifact
  log : List LogRecord
  deriving Repr, DecidableEq

/-- Turns a document into artifacts. -/
structure Backend where
  className : Text
  capabilities : Capabilities
  generate : Document → Generation

end AppDescription
