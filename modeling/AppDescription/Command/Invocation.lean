import AppDescription.Command.Arguments

namespace AppDescription

/-- What a user can ask for. -/
inductive Command where
  | version
  | compile (input output stack : Text)
  /-- Checks one source, or else all sources of a manifest. -/
  | validate (input? : Option Text) (manifest : Text)
  | inspect (input format : Text)
  /-- Builds all sources of a manifest, which names the stack and the output unless they are
  given. -/
  | build (manifest : Text) (stack? output? : Option Text)
  | listStacks
  deriving Repr, DecidableEq

structure Invocation where
  isVerbose : Bool
  command : Command
  deriving Repr, DecidableEq

/-- The commands as they are called. -/
inductive CommandName where
  | compile | validate | inspect | build | listStacks
  deriving Repr, DecidableEq

namespace CommandName

def all : List CommandName :=
  [compile, validate, inspect, build, listStacks]

def text : CommandName → Text
  | compile => "compile"
  | validate => "validate"
  | inspect => "inspect"
  | build => "build"
  | listStacks => "stacks"

def ofText? (text : Text) : Option CommandName :=
  all.find? fun name => name.text = text

def stackOption : OptionForm := ⟨"stack", some 's', true⟩
def manifestOption : OptionForm := ⟨"manifest", some 'm', true⟩
def formatOption : OptionForm := ⟨"format", some 'f', true⟩
def outputOption : OptionForm := ⟨"output", some 'o', true⟩

/-- The options a command has. -/
def options : CommandName → List OptionForm
  | compile => [stackOption]
  | validate => [manifestOption]
  | inspect => [formatOption]
  | build => [manifestOption, stackOption, outputOption]
  | listStacks => []

end CommandName

namespace Command

def manifestName (arguments : Arguments) : Text :=
  (arguments.value? "manifest").getD "apml.toml"

/-- The command that a name and what was given to it make up. -/
def ofGiven? (name : CommandName) (given : Arguments) : Option Command :=
  match name, given.others with
  | .compile, [input, output] =>
    some (.compile input output ((given.value? "stack").getD "vue"))
  | .validate, [] => some (.validate none (manifestName given))
  | .validate, [input] => some (.validate (some input) (manifestName given))
  | .inspect, [input] => some (.inspect input ((given.value? "format").getD "tree"))
  | .build, [] => some (.build (manifestName given) (given.value? "stack") (given.value? "output"))
  | .listStacks, [] => some .listStacks
  | _, _ => none

/-- The command with a name and arguments. -/
def ofArguments? (name : CommandName) (arguments : List Text) : Option Command := do
  let given ← OptionForm.readArguments name.options true arguments
  ofGiven? name given

end Command

namespace Invocation

def versionOption : OptionForm := ⟨"version", none, false⟩
def verboseOption : OptionForm := ⟨"verbose", some 'v', false⟩

/-- The options that ask a question instead of a command: for the version, for how the program is
called, and for how a shell can complete its arguments. -/
def questionOptions : List OptionForm :=
  [versionOption, ⟨"help", none, false⟩, ⟨"install-completion", none, false⟩,
    ⟨"show-completion", none, false⟩]

/-- Reads the options of the program, which come before the command. -/
def readOptions (arguments : List Text) : Option Arguments :=
  OptionForm.readArguments (verboseOption :: questionOptions) false arguments

/-- The first question that is asked. The others do not matter then. -/
def question? (given : Arguments) : Option Text :=
  (given.options.map Prod.fst).find? fun name => questionOptions.any (·.name = name)

/-- Reads the arguments of the program. A question for the version is answered whatever command
follows. When there is no such command, the options are looked for once more in its place, where
they can only stand after `--`, and the version is all they can ask for. The other questions are
about the call itself, so nothing is to be done for them. -/
def ofArguments? (arguments : List Text) : Option Invocation := do
  let found ← readOptions arguments
  let isVerbose := found.has "verbose"
  match question? found, found.others with
  | some question, _ =>
    if question = versionOption.name then some ⟨isVerbose, .version⟩ else none
  | none, [] => none
  | none, name :: rest =>
    match CommandName.ofText? name with
    | some name => (Command.ofArguments? name rest).map fun command => ⟨isVerbose, command⟩
    | none =>
      let misplaced ← readOptions found.others
      if question? misplaced = some versionOption.name then some ⟨isVerbose, .version⟩ else none

end Invocation

end AppDescription
