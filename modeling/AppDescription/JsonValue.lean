import AppDescription.Text.Quoted

namespace AppDescription

/-- A JSON value without numbers. Members keep their order. -/
inductive JsonValue where
  | null
  | boolean (value : Bool)
  | text (value : Text)
  | array (items : List JsonValue)
  | object (members : List (Text × JsonValue))
  deriving Repr

namespace JsonValue

/-- A missing value shows as `null`. -/
def ofOption {α : Type} (f : α → JsonValue) : Option α → JsonValue
  | none => null
  | some value => f value

def ofList {α : Type} (f : α → JsonValue) (values : List α) : JsonValue :=
  array (values.map f)

/-- A character above ASCII is one escape of four digits, or two when it has no such code. -/
def unitEscapes (c : Char) : Text :=
  let n := c.toNat
  if n < 0x10000 then "\\u" ++ hexDigits 4 n
  else
    "\\u" ++ hexDigits 4 (0xD800 + (n - 0x10000) / 0x400) ++
    "\\u" ++ hexDigits 4 (0xDC00 + (n - 0x10000) % 0x400)

def escapedChar (c : Char) : Text :=
  if c = '"' || c = '\\' then ['\\', c]
  else if c = '\n' then "\\n"
  else if c = '\r' then "\\r"
  else if c = '\t' then "\\t"
  else if c = '\x08' then "\\b"
  else if c = '\x0c' then "\\f"
  else if 32 ≤ c.toNat && c.toNat < 127 then [c]
  else unitEscapes c

/-- A text between double quotes, in printable ASCII. -/
def quotedText (value : Text) : Text :=
  '"' :: value.flatMap escapedChar ++ ['"']

/-- The start of a line at a nesting level of two columns each. -/
def lineStart (level : Nat) : Text :=
  '\n' :: List.replicate (2 * level) ' '

mutual

/-- A value with each item and each member on a line of its own. -/
def render (level : Nat) : JsonValue → Text
  | null => "null"
  | boolean value => if value then "true" else "false"
  | text value => quotedText value
  | array [] => "[]"
  | array (item :: items) =>
    "[" ++ lineStart (level + 1) ++ item.render (level + 1) ++ renderItems (level + 1) items ++
      lineStart level ++ "]"
  | object [] => "{}"
  | object ((key, value) :: members) =>
    Text.braced (lineStart (level + 1) ++ quotedText key ++ ": " ++ value.render (level + 1) ++
      renderMembers (level + 1) members ++ lineStart level)

/-- The items after the first one. -/
def renderItems (level : Nat) : List JsonValue → Text
  | [] => []
  | item :: items => "," ++ lineStart level ++ item.render level ++ renderItems level items

/-- The members after the first one. -/
def renderMembers (level : Nat) : List (Text × JsonValue) → Text
  | [] => []
  | (key, value) :: members =>
    "," ++ lineStart level ++ quotedText key ++ ": " ++ value.render level ++
      renderMembers level members

end

end JsonValue

end AppDescription
