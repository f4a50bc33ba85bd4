import AppDescription.Document.Element
import AppDescription.Line

namespace AppDescription

namespace Text

/-- Drops the white space a text starts with, of which there must be some. -/
def blanks? : Text → Option Text
  | [] => none
  | c :: rest => if isBlank c then some (trimStart rest) else none

/-- What follows a colon, before which white space may stand. -/
def colon? (text : Text) : Option Text :=
  match trimStart text with
  | ':' :: rest => some rest
  | _ => none

end Text

/-- A header that starts with a construct's keyword but lacks the rest of its form. -/
inductive HeaderFault where
  | declaration (keyword : Option Text) (text : Text)
  | statement (keyword : Text) (text : Text)
  deriving Repr, DecidableEq

namespace HeaderFault

def message : HeaderFault → Text
  | declaration keyword text =>
    "Invalid " ++ keyword.getD "None" ++ " declaration: '" ++ text ++ "'"
  | statement keyword text => "Invalid " ++ keyword ++ " statement: '" ++ text ++ "'"

end HeaderFault

namespace Header

/-- Reads `keyword name:`, giving the name and what follows the colon. -/
def named? (keyword text : Text) : Option (Text × Text) := do
  let rest ← Text.dropPrefix? keyword text
  let rest ← Text.blanks? rest
  let (name, rest) ← Text.word? rest
  let rest ← Text.colon? rest
  some (name, rest)

/-- A keyword and a name before a colon, giving the name. -/
def anyNamed? (text : Text) : Option Text := do
  let (_, rest) ← Text.word? text
  let rest ← Text.blanks? rest
  let (name, rest) ← Text.word? rest
  let _ ← Text.colon? rest
  some name

/-- One word and a colon with nothing after it. -/
def isUnnamed (text : Text) : Bool :=
  match Text.word? text with
  | none => false
  | some (_, rest) => (Text.colon? rest).any fun rest => rest.all isBlank

/-- Reads `name: definition`, with white space after the colon. -/
def field? (text : Text) : Option (Text × Text) := do
  let (name, rest) ← Text.word? text
  match rest with
  | ':' :: rest =>
    let definition ← Text.blanks? rest
    if definition.isEmpty then none else some (name, definition)
  | _ => none

def isElse (text : Text) : Bool :=
  match Text.dropPrefix? "else" text with
  | none => false
  | some rest => Text.trimStart rest = [':']

/-- Tells whether a text is `on event:`, with anything after the colon. -/
def isEventHandler (text : Text) : Bool :=
  (named? "on" text).isSome

/-- Reads `show kind:` or `show kind name:`, with text after the colon or not. -/
def display? (text : Text) : Option (Text × Option Text × Text) := do
  let rest ← Text.dropPrefix? "show" text
  let rest ← Text.blanks? rest
  let (kind, rest) ← Text.word? rest
  match Text.word? (Text.trimStart rest) with
  | none =>
    let content ← Text.colon? rest
    some (kind, none, Text.trim content)
  | some (name, rest) =>
    let content ← Text.colon? rest
    some (kind, some name, Text.trim content)

/-- Reads `when condition:` or `if condition:`. The condition may not be white space only. -/
def condition? (word : ConditionWord) (text : Text) : Option Text := do
  let rest ← Text.dropPrefix? word.text text
  let rest ← Text.blanks? rest
  if rest.getLast? = some ':' then
    let condition := Text.trim rest.dropLast
    if condition.isEmpty then none else some condition
  else none

/-- Reads `for_each item in collection:`. The collection is empty when two or more white space
characters stand in its place. -/
def iteration? (text : Text) : Option (Text × Text) := do
  let rest ← Text.dropPrefix? "for_each" text
  let rest ← Text.blanks? rest
  let (item, rest) ← Text.word? rest
  let rest ← Text.blanks? rest
  let gap ← Text.dropPrefix? "in" rest
  let rest ← Text.blanks? gap
  if rest = [':'] then
    if 3 ≤ gap.length then some (item, []) else none
  else if rest.getLast? = some ':' then some (item, Text.trimEnd rest.dropLast)
  else none

end Header

/-- The header of an interface element. -/
inductive ElementHeader where
  | display (kind : Text) (name : Option Text) (content : Text)
  | conditional (word : ConditionWord) (condition : Text)
  | iteration (item collection : Text)
  deriving Repr, DecidableEq

namespace ElementHeader

/-- The reading of a line that starts with one of the element keywords. -/
def read? (keyword text : Text) : Option (Except HeaderFault ElementHeader) :=
  if keyword = "show".toList then
    some (match Header.display? text with
      | some (kind, name, content) => .ok (.display kind name content)
      | none => .error (.statement keyword text))
  else if keyword = "for_each".toList then
    some (match Header.iteration? text with
      | some (item, collection) => .ok (.iteration item collection)
      | none => .error (.statement keyword text))
  else if keyword = "when".toList then some (conditional? .whenWord)
  else if keyword = "if".toList then some (conditional? .ifWord)
  else none
where
  conditional? (word : ConditionWord) : Except HeaderFault ElementHeader :=
    match Header.condition? word text with
    | some condition => .ok (.conditional word condition)
    | none => .error (.statement keyword text)

end ElementHeader

end AppDescription
