import AppDescription.Project.Source

namespace AppDescription

/-- What a project says about itself. The values are as they were written, of whatever form. -/
structure Manifest where
  name : TomlValue
  version : TomlValue
  /-- The files to build and the folders to look for them. -/
  sources : TomlValue
  stack : TomlValue
  output : TomlValue
  deriving Repr

namespace Manifest

/-- A section of a manifest. A missing one is empty. -/
def sectionOf (table : TomlTable) (name : Text) : Except ProjectFault TomlTable :=
  match table.get? name with
  | none => .ok []
  | some (.table entries) => .ok entries
  | some _ => .error .sectionForm

/-- Reads a manifest. A project without a name is named like its folder. -/
def ofTable (folder : Text) (table : TomlTable) : Except ProjectFault Manifest := do
  let project ← sectionOf table "project"
  let sources ← sectionOf table "sources"
  let build ← sectionOf table "build"
  return {
    name := (project.get? "name").getD (.text folder)
    version := (project.get? "version").getD (.text "0.1.0")
    sources := (sources.get? "paths").getD (.array [.text "."])
    stack := (build.get? "stack").getD (.text "vue")
    output := (build.get? "output").getD (.text "build") }

/-- The source entries of a manifest. A text gives its characters and a table gives its keys. -/
def entries? (manifest : Manifest) : Option (List TomlValue) :=
  match manifest.sources with
  | .array items => some items
  | .text value => some (value.map fun c => .text [c])
  | .table entries => some (entries.map fun entry => .text entry.1)
  | _ => none

/-- Reads the manifest at a path. -/
def load (directory : Location) (path : Path) : Work Manifest := do
  let document ← readText directory path
  let table ← Work.ofExcept (fun fault =>
    if fault.cause = .digits then .integerSize else .toml fault document) (Toml.ofText document)
  Work.ofExcept id (ofTable path.parent.name table)

end Manifest

/-- The ending that a source file has in a folder that is searched. -/
def sourceEnding : Text :=
  ".apml"

namespace FileTree

/-- The sources at a location: everything with the right ending below a folder, or one file. -/
def sourcesAt (tree : FileTree) (location : Location) : Except ProjectFault (List Location) :=
  match tree.look location with
  | .error fault => .error (.system fault)
  | .ok none => .ok []
  | .ok (some .folder) => .ok (tree.below location sourceEnding)
  | .ok (some (.file _)) => .ok [location]

end FileTree

namespace Manifest

/-- The sources that one entry gives, which has to be a text. -/
def sourcesOf (tree : FileTree) (directory : Location) (root : Path) :
    TomlValue → Except ProjectFault (List Location)
  | .text entry =>
    let path := root.append (Path.ofText entry)
    if path.isMalformed then .error .pathForm else tree.sourcesAt (path.resolve directory)
  | _ => .error .valueForm

/-- The sources of a project, entry by entry. -/
def discover (manifest : Manifest) (directory : Location) (root : Path) : Work (List Location) := do
  match manifest.entries? with
  | none => throw .valueForm
  | some entries =>
    let tree ← Work.files
    return (← Work.ofExcept id (entries.mapM (sourcesOf tree directory root))).flatten

end Manifest

end AppDescription
