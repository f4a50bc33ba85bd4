import AppDescription.Text.Basic

namespace AppDescription

/-- A generated file, its path relative to the output directory. -/
structure Artifact where
  path : Text
  content : Text
  deriving Repr, DecidableEq

namespace Artifact

def ofLines (path : Text) (lines : List Text) : Artifact :=
  ⟨path, Text.join ['\n'] lines⟩

end Artifact

end AppDescription
