import AppDescription.Backend.Registry
import AppDescription.Project.Manifest
import AppDescription.Project.Output

namespace AppDescription

namespace Registry

/-- The backend of a given name. A value that is no text names none. -/
def select (registry : Registry) (stack : TomlValue) : Work Backend := do
  match stack with
  | .text name => Work.ofExcept (.rejected ·.failure) (registry.get name)
  | .array _ | .table _ => throw .valueForm
  | value =>
    Work.checkShowable value
    throw (.rejected (RegistryFault.unknownName value.display registry.names).failure)

end Registry

namespace Backend

/-- Generates the artifacts of a document. -/
def run (backend : Backend) (document : Document) : Work (List Artifact) := do
  let generation := backend.generate document
  Work.log generation.log
  return generation.artifacts

end Backend

/-- Compiles one source into an output directory. -/
def compileFile (directory : Location) (input output : Path) (stack : Text) :
    Work (List Location) := do
  let document ← parseFile directory input
  let backend ← Registry.standard.select (.text stack)
  let artifacts ← backend.run document
  Work.log [⟨.info, "apml.core.build",
    "Writing " ++ Text.ofNat artifacts.length ++ " files to " ++ output.text⟩]
  writeArtifacts directory output artifacts

/-- The output directory of one of several sources. A source on its own needs none of its own. -/
def targetDirectory (output : Path) (sources : List Location) (source : Location) : Path :=
  if sources.length = 1 then output
  else output.append (.ofText (Path.ofLocation source).stem)

end AppDescription
