import AppDescription.Text.Basic

namespace AppDescription

/-- An option as it may be written: `--name`, and perhaps a letter after a single hyphen. -/
structure OptionForm where
  name : Text
  letter? : Option Char
  takesValue : Bool
  deriving Repr, DecidableEq

/-- The options that were given, in order and with their values, and the other arguments. -/
structure Arguments where
  options : List (Text × Text)
  others : List Text
  deriving Repr, DecidableEq

namespace Arguments

def withOther (other : Text) (arguments : Arguments) : Arguments :=
  { arguments with others := other :: arguments.others }

/-- The last value of an option. -/
def value? (arguments : Arguments) (name : Text) : Option Text :=
  (arguments.options.reverse.find? fun entry => entry.1 = name).map Prod.snd

def has (arguments : Arguments) (name : Text) : Bool :=
  (arguments.value? name).isSome

end Arguments

/-- What one argument says about options: complete ones, and perhaps one whose value comes next. -/
structure OptionReading where
  complete : List (Text × Text)
  awaiting? : Option Text
  deriving Repr, DecidableEq

namespace OptionForm

/-- Reads letters after a single hyphen. The rest after a letter that takes a value is its value. -/
def readLetters (forms : List OptionForm) : Text → Option OptionReading
  | [] => some ⟨[], none⟩
  | letter :: rest =>
    match forms.find? fun form => form.letter? = some letter with
    | none => none
    | some form =>
      if form.takesValue then
        if rest.isEmpty then some ⟨[], some form.name⟩ else some ⟨[(form.name, rest)], none⟩
      else
        (readLetters forms rest).map fun reading =>
          { reading with complete := (form.name, []) :: reading.complete }

/-- Reads an argument that starts with a hyphen. A value may follow a name after `=`. -/
def readArgument (forms : List OptionForm) (argument : Text) : Option OptionReading :=
  let written := argument.takeWhile (· ≠ '=')
  let value? := (argument.drop written.length).tail?
  match forms.find? fun form => "--" ++ form.name = written, value? with
  | some form, some value => if form.takesValue then some ⟨[(form.name, value)], none⟩ else none
  | some form, none =>
    if form.takesValue then some ⟨[], some form.name⟩ else some ⟨[(form.name, [])], none⟩
  | none, _ =>
    match argument with
    | '-' :: '-' :: _ => none
    | _ => readLetters forms (argument.drop 1)

/-- Reads arguments. Everything after `--` is no option, and neither is anything after the first
other argument unless options may come later too. -/
def readArguments (forms : List OptionForm) (mixed : Bool) : List Text → Option Arguments
  | [] => some ⟨[], []⟩
  | argument :: rest =>
    if argument = "--".toList then some ⟨[], rest⟩
    else if argument.head? = some '-' && 1 < argument.length then
      match readArgument forms argument, rest with
      | none, _ => none
      | some ⟨_, some _⟩, [] => none
      | some ⟨complete, some name⟩, value :: rest =>
        (readArguments forms mixed rest).map fun arguments =>
          { arguments with options := complete ++ (name, value) :: arguments.options }
      | some ⟨complete, none⟩, rest =>
        (readArguments forms mixed rest).map fun arguments =>
          { arguments with options := complete ++ arguments.options }
    else if mixed then (readArguments forms mixed rest).map (Arguments.withOther argument)
    else some ⟨[], argument :: rest⟩

end OptionForm

end AppDescription
