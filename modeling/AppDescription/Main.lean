import AppDescription.Command

namespace AppDescription

namespace Command

/-- The paths a command is given to read. -/
def inputs : Command → List Path
  | version | listStacks => []
  | compile input _ _ | inspect input _ | validate (some input) _ => [.ofText input]
  | validate none manifest | build manifest _ _ => [.ofText manifest]

/-- The manifest a command is given. -/
def manifest? : Command → Option Path
  | validate none manifest | build manifest _ _ => some (.ofText manifest)
  | _ => none

end Command

/-- The locations a path leads through. -/
def Path.passed (path : Path) (directory : Location) : List Location :=
  (List.range (path.parts.length + 1)).flatMap fun count =>
    FileTree.wayDown (Path.resolve ⟨path.root, path.parts.take count⟩ directory)

/-- The locations that a manifest names as sources. -/
def Manifest.sourceLocations (directory : Location) (path : Path) (files : FileTree) :
    List Location :=
  let location := path.resolve directory
  match (ExceptT.run (Manifest.load directory (.ofLocation location))).run ⟨files, []⟩ with
  | (.ok manifest, _) =>
    (manifest.entries?.getD []).filterMap fun
      | .text entry => some ((Path.ofText entry).resolve location.dropLast)
      | _ => none
  | (.error _, _) => []

/-- Adds what the disk has at a location, unless that is known already. -/
def loadNode (files : FileTree) (location : Location) : IO FileTree := do
  if (files.node? location).isSome then return files
  let here := (← IO.currentDir) / String.ofList location.text
  if ← here.isDir then return files.put location .folder
  if ← here.pathExists then
    return files.put location (.file (← IO.FS.readBinFile here).toList)
  return files

/-- Adds what the disk has at a location and below it. -/
partial def loadBelow (files : FileTree) (location : Location) : IO FileTree := do
  let files ← loadNode files location
  if !files.isFolder location then return files
  let entries ← ((← IO.currentDir) / String.ofList location.text).readDir
  entries.foldlM (fun files entry => loadBelow files (location ++ [entry.fileName.toList])) files

/-- Adds what a command reads. -/
def loadInputs (directory : Location) (command : Command) : IO FileTree := do
  let files ← (command.inputs.flatMap (Path.passed · directory)).foldlM loadNode []
  match command.manifest? with
  | none => return files
  | some path =>
    let sources := Manifest.sourceLocations directory path files
    let files ← (sources.flatMap FileTree.wayDown).foldlM loadNode files
    sources.foldlM loadBelow files

/-- Brings the disk to what the files have become. -/
def saveChanges (before after : FileTree) : IO Unit := do
  for (location, node) in after do
    if before.node? location ≠ some node then
      let here := (← IO.currentDir) / String.ofList location.text
      match node with
      | .folder => IO.FS.createDirAll here
      | .file octets => IO.FS.writeBinFile here ⟨octets.toArray⟩

/-- What is said about a fault, also about one that has no message. -/
def ProjectFault.summary (fault : ProjectFault) : Text :=
  match fault with
  | sectionForm | valueForm => "the manifest has the wrong form"
  | pathForm => "a path holds a character that no path may hold"
  | integerSize => "an integer has too many digits"
  | system _ | encoding _ | toml _ _ | rejected _ => fault.text?.getD []

/-- Runs the program on the disk. What it would write to is looked up first. -/
def runOnDisk (directory : Location) (arguments : List Text) : IO (Ending × Session) := do
  let files ← match Invocation.ofArguments? arguments with
    | some invocation => loadInputs directory invocation.command
    | none => pure []
  let (_, trial) := runProgram directory arguments files
  let files ← (trial.files.map Prod.fst).foldlM loadNode files
  let (ending, session) := runProgram directory arguments files
  saveChanges files session.files
  return (ending, session)

end AppDescription

open AppDescription in
def main (arguments : List String) : IO UInt32 := do
  let directory := (Path.ofText (← IO.currentDir).toString.toList).parts
  let (ending, session) ← runOnDisk directory (arguments.map String.toList)
  IO.print (String.ofList (Session.printed session.output))
  IO.eprint (String.ofList (Session.printed session.diagnostics))
  match ending with
  | .exit code => return code.toUInt32
  | .usage =>
    IO.eprintln "Usage: apml [OPTIONS] COMMAND [ARGS]..."
    return 2
  | .crash fault =>
    IO.eprintln (String.ofList ("Error: ".toList ++ fault.summary))
    return 1
