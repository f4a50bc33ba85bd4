import AppDescription.Text.Basic
import AppDescription.Text.PrintableRuns

namespace AppDescription

def isPrintable (c : Char) : Bool :=
  (32 ≤ c.toNat && c.toNat < 127) || inRuns printableRuns c.toNat

/-- The lowest `width` hexadecimal digits of a number. -/
def hexDigits : Nat → Nat → Text
  | 0, _ => []
  | width + 1, n => hexDigits width (n / 16) ++ [Nat.digitChar (n % 16)]

/-- One character inside quotes. -/
def quotedChar (quote c : Char) : Text :=
  if c = quote || c = '\\' then ['\\', c]
  else if c = '\n' then "\\n"
  else if c = '\r' then "\\r"
  else if c = '\t' then "\\t"
  else if isPrintable c then [c]
  else if c.toNat < 0x100 then "\\x" ++ hexDigits 2 c.toNat
  else if c.toNat < 0x10000 then "\\u" ++ hexDigits 4 c.toNat
  else "\\U" ++ hexDigits 8 c.toNat

namespace Text

/-- A text in quotes, with escapes for what does not print. Single quotes are used unless the text
holds a single quote and no double quote. -/
def quoted (text : Text) : Text :=
  let quote := if text.contains '\'' && !text.contains '"' then '"' else '\''
  quote :: text.flatMap (quotedChar quote) ++ [quote]

/-- Quoted texts between brackets. -/
def quotedList (texts : List Text) : Text :=
  "[" ++ join ", " (texts.map quoted) ++ "]"

end Text

end AppDescription
