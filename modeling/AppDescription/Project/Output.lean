import AppDescription.Artifact
import AppDescription.Project.Fault

namespace AppDescription

namespace Artifact

/-- Where an artifact belongs under an output directory. -/
def target (artifact : Artifact) (root : Location) : Location :=
  (Path.ofText artifact.path).resolve root

/-- An artifact that would lie outside the output directory. -/
def escape (artifact : Artifact) : Failure :=
  ⟨.backend, "Artifact path escapes output directory: " ++ artifact.path, none⟩

end Artifact

/-- How far a list of artifacts was written. -/
structure Writing where
  files : FileTree
  /-- Where artifacts were written, in their order. -/
  targets : List Location
  fault? : Option ProjectFault
  deriving Repr, DecidableEq

namespace FileTree

/-- Writes one artifact under an output directory, with the folders it needs. -/
def writeArtifact (root : Location) (artifact : Artifact) (tree : FileTree) : Writing :=
  let target := artifact.target root
  if (Path.ofText artifact.path).isMalformed then ⟨tree, [], some .pathForm⟩
  else if target.isAtOrBelow root then
    match tree.makeFolders target.dropLast with
    | ⟨tree, some fault⟩ => ⟨tree, [], some (.system fault)⟩
    | ⟨tree, none⟩ =>
      match tree.write target (Utf8.encode artifact.content) with
      | .error fault => ⟨tree, [], some (.system fault)⟩
      | .ok tree => ⟨tree, [target], none⟩
  else ⟨tree, [], some (.rejected artifact.escape)⟩

/-- Writes artifacts in order, up to the first that cannot be written. -/
def writeArtifacts (root : Location) : List Artifact → FileTree → Writing
  | [], tree => ⟨tree, [], none⟩
  | artifact :: rest, tree =>
    match tree.writeArtifact root artifact with
    | ⟨tree, targets, some fault⟩ => ⟨tree, targets, some fault⟩
    | ⟨tree, targets, none⟩ =>
      let writing := writeArtifacts root rest tree
      { writing with targets := targets ++ writing.targets }

end FileTree

/-- Writes artifacts under an output directory and gives their locations. -/
def writeArtifacts (directory : Location) (output : Path) (artifacts : List Artifact) :
    Work (List Location) := do
  Work.checkPath output
  let writing := (← Work.files).writeArtifacts (output.resolve directory) artifacts
  modify fun progress => { progress with files := writing.files }
  Work.log (writing.targets.map fun target =>
    ⟨.info, "apml.core.build", "Wrote " ++ target.text⟩)
  match writing.fault? with
  | some fault => throw fault
  | none => return writing.targets

end AppDescription
