import AppDescription.Text.Quoted

namespace AppDescription.Toml

/-- What can be wrong with a TOML document. -/
inductive Cause where
  | statement
  | trailing
  | equalsSign
  | keyStart
  | tableEnd
  | arrayTableEnd
  | repeatedTable (key : List Text)
  | frozen (key : List Text)
  | redefined (key : List Text)
  | overwritten
  | arrayEnd
  | inlineTableEnd
  | repeatedKey (key : Text)
  | escape
  | hexadecimal
  | scalar
  | unterminated
  | control (c : Char)
  | invalidCharacter (c : Char)
  | expected (text : Text)
  | value
  | date
  /-- An integer with more digits than can be handled. -/
  | digits
  deriving Repr, DecidableEq

/-- A key path: quoted names between parentheses, with a comma after a single one. -/
def keyText : List Text → Text
  | [name] => "(" ++ Text.quoted name ++ ",)"
  | names => "(" ++ Text.join ", " (names.map Text.quoted) ++ ")"

namespace Cause

def message : Cause → Text
  | statement => "Invalid statement"
  | trailing => "Expected newline or end of document after a statement"
  | equalsSign => "Expected '=' after a key in a key/value pair"
  | keyStart => "Invalid initial character for a key part"
  | tableEnd => "Expected ']' at the end of a table declaration"
  | arrayTableEnd => "Expected ']]' at the end of an array declaration"
  | repeatedTable key => "Cannot declare " ++ keyText key ++ " twice"
  | frozen key => "Cannot mutate immutable namespace " ++ keyText key
  | redefined key => "Cannot redefine namespace " ++ keyText key
  | overwritten => "Cannot overwrite a value"
  | arrayEnd => "Unclosed array"
  | inlineTableEnd => "Unclosed inline table"
  | repeatedKey key => "Duplicate inline table key " ++ Text.quoted key
  | escape => "Unescaped '\\' in a string"
  | hexadecimal => "Invalid hex value"
  | scalar => "Escaped character is not a Unicode scalar value"
  | unterminated => "Unterminated string"
  | control c => "Illegal character " ++ Text.quoted [c]
  | invalidCharacter c => "Found invalid character " ++ Text.quoted [c]
  | expected text => "Expected " ++ Text.quoted text
  | value => "Invalid value"
  | date => "Invalid date or datetime"
  | digits => "Too many digits in an integer"

end Cause

/-- A cause, and how many characters of the document were still unread. -/
structure Fault where
  cause : Cause
  remaining : Nat
  deriving Repr, DecidableEq

namespace Fault

/-- The message with the line and column it is about, both counted from one. -/
def text (fault : Fault) (document : Text) : Text :=
  let before := document.take (document.length - fault.remaining)
  let place : Text :=
    if fault.remaining = 0 then "end of document"
    else "line " ++ Text.ofNat (before.count '\n' + 1) ++ ", column " ++
      Text.ofNat ((before.reverse.takeWhile (· ≠ '\n')).length + 1)
  fault.cause.message ++ " (at " ++ place ++ ")"

end Fault

end AppDescription.Toml
