import AppDescription.Command.Invocation
import AppDescription.Command.Session
import AppDescription.Document.Json
import AppDescription.Document.Tree
import AppDescription.Lint
import AppDescription.Project.Build
import AppDescription.Table

namespace AppDescription

namespace Interaction

/-- The path that an argument of a command writes. -/
def argumentPath (argument : Text) : Interaction Path :=
  let path := Path.ofText argument
  if path.isMalformed then throw .usage else return path

/-- The path of an input file, which has to exist. -/
def inputFile (setting : Setting) (argument : Text) : Interaction Path := do
  let path ← argumentPath argument
  let files ← files
  match files.locate setting.directory path with
  | .error _ => throw .usage
  | .ok location =>
    if files.isFile location then return path
    throw .usage

/-- The manifest at a path with the sources that it gives, of which there has to be one. -/
def manifestSources (setting : Setting) (argument : Text) :
    Interaction (Path × Manifest × List Location) := do
  if (Path.ofText argument).isMalformed then throw (.crash .pathForm)
  let location := (Path.ofText argument).resolve setting.directory
  let path := Path.ofLocation location
  match (← files).look location with
  | .error fault => throw (.crash (.system fault))
  | .ok (some _) => pure ()
  | .ok none =>
    printError ("Manifest not found: " ++ path.text)
    throw (.exit 1)
  let (manifest, sources) ← require setting do
    let manifest ← Manifest.load setting.directory path
    return (manifest, ← manifest.discover setting.directory path.parent)
  if sources.isEmpty then
    require setting (Work.checkShowable manifest.name)
    printError ("No .apml files found for project '" ++ manifest.name.display ++ "'")
    throw (.exit 1)
  return (path, manifest, sources)

end Interaction

open Interaction

/-- A location below a root as a path from there. -/
def Location.relativeText (location root : Location) : Text :=
  (Path.mk [] (location.drop root.length)).text

def compileCommand (setting : Setting) (input output stack : Text) : Interaction Unit := do
  let input ← inputFile setting input
  let output ← argumentPath output
  let targets ← require setting (compileFile setting.directory input output stack)
  targets.forM fun target =>
    print ("  ✓ " ++ target.relativeText (output.resolve setting.directory))
  print ("Wrote " ++ Text.ofNat targets.length ++ " files to " ++ output.text)

/-- The errors and warnings of several sources. Each is marked with its file where there are more
sources than one. -/
def lintSources (setting : Setting) (sources : List Path) :
    Interaction (List Text × List Text) := do
  let mark (source : Path) (message : Text) : Text :=
    if 1 < sources.length then source.name ++ ": " ++ message else message
  let findings ← sources.mapM fun source => do
    let document ← require setting (parseFile setting.directory source)
    return (document.lintErrors.map fun error => mark source error.message,
      document.lintWarnings.map fun warning => mark source warning.message)
  return (findings.flatMap Prod.fst, findings.flatMap Prod.snd)

def validateCommand (setting : Setting) (input? : Option Text) (manifest : Text) :
    Interaction Unit := do
  let sources ← match input? with
    | some input => pure [← inputFile setting input]
    | none =>
      let (_, _, sources) ← manifestSources setting manifest
      pure (sources.map Path.ofLocation)
  let (errors, warnings) ← lintSources setting sources
  if !errors.isEmpty then
    printError "Validation failed:\n"
    errors.forM fun error => printError ("ERROR: " ++ error)
  if !warnings.isEmpty then
    print "Validation warnings:\n"
    warnings.forM fun warning => print ("WARNING: " ++ warning)
  if errors.isEmpty && warnings.isEmpty then
    print "OK: document is valid."
  if !errors.isEmpty then
    throw (.exit 1)

def inspectCommand (setting : Setting) (input format : Text) : Interaction Unit := do
  let input ← inputFile setting input
  if format ≠ "tree".toList && format ≠ "json".toList then
    printError ("Unknown format '" ++ format ++ "'. Use one of: tree, json")
    throw (.exit 1)
  let document ← require setting (parseFile setting.directory input)
  if format = "json".toList then print (document.json.render 0)
  else (document.overview input.stem).forM print

/-- Builds sources one after the other and counts the files that are written. -/
def buildSources (setting : Setting) (backend : Backend) (target : Location → Path) :
    List Location → Interaction Nat
  | [] => return 0
  | source :: rest => do
    let path := Path.ofLocation source
    let written ← require setting do
      let document ← parseFile setting.directory path
      writeArtifacts setting.directory (target source) (← backend.run document)
    print ("  ✓ " ++ path.name ++ " -> " ++ Text.ofNat written.length ++ " files")
    return written.length + (← buildSources setting backend target rest)

/-- The value of an option that is given and not empty, or else a value from the manifest. -/
def optionOr (given? : Option Text) (value : TomlValue) : TomlValue :=
  match given? with
  | none | some [] => value
  | some given => .text given

def buildCommand (setting : Setting) (manifest : Text) (stack? output? : Option Text) :
    Interaction Unit := do
  let (path, manifest, sources) ← manifestSources setting manifest
  let stack := optionOr stack? manifest.stack
  match optionOr output? manifest.output with
  | .text name =>
    let output := path.parent.append (.ofText name)
    let backend ← require setting (Registry.standard.select stack)
    let total ← buildSources setting backend (targetDirectory output sources) sources
    require setting do
      Work.checkShowable manifest.name
      Work.checkShowable manifest.version
    print ("Built " ++ manifest.name.display ++ " " ++ manifest.version.display ++
      " with stack '" ++ stack.display ++ "': " ++ Text.ofNat total ++ " files in " ++ output.text)
  | _ => throw (.crash .valueForm)

def stackRow (entry : Text × Backend) : List Text :=
  [entry.1, entry.2.capabilities.description, Text.join ", " entry.2.capabilities.formats]

/-- The table of all stacks, in order of their names. -/
def stackTable (registry : Registry) : Table where
  title := "Stacks"
  header := ["Name", "Description", "Formats"]
  rows := registry.names.filterMap fun name =>
    (registry.find? name).map fun backend => stackRow (name, backend)

def programVersion : Text :=
  "0.3.0"

namespace Command

/-- Runs a command to its end. -/
def action (setting : Setting) : Command → Interaction Unit
  | version => do
    print ("APML " ++ programVersion)
    print ("Stacks: " ++ Text.join ", " Registry.standard.names)
  | compile input output stack => compileCommand setting input output stack
  | validate input? manifest => validateCommand setting input? manifest
  | inspect input format => inspectCommand setting input format
  | build manifest stack? output? => buildCommand setting manifest stack? output?
  | listStacks => ((stackTable Registry.standard).lines 80).forM print

end Command

/-- Runs the program on its arguments in a working directory. -/
def runProgram (directory : Location) (arguments : List Text) (files : FileTree) :
    Ending × Session :=
  let session : Session := ⟨files, [], []⟩
  match Invocation.ofArguments? arguments with
  | none => (.usage, session)
  | some invocation =>
    let setting : Setting := ⟨directory, invocation.isVerbose⟩
    match (ExceptT.run (invocation.command.action setting)).run session with
    | (.ok (), session) => (.exit 0, session)
    | (.error ending, session) => (ending, session)

end AppDescription
