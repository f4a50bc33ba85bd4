import AppDescription.Toml.Scan

namespace AppDescription.Toml

/-- The character a backslash and a letter stand for. -/
def escaped? : Char → Option Char
  | 'b' => some '\x08'
  | 't' => some '\t'
  | 'n' => some '\n'
  | 'f' => some '\x0c'
  | 'r' => some '\r'
  | '"' => some '"'
  | '\\' => some '\\'
  | _ => none

def hexDigit? (c : Char) : Option Nat :=
  if '0' ≤ c ∧ c ≤ '9' then some (c.toNat - 48)
  else if 'a' ≤ c ∧ c ≤ 'f' then some (c.toNat - 87)
  else if 'A' ≤ c ∧ c ≤ 'F' then some (c.toNat - 55)
  else none

/-- Reads a code point of exactly `width` hexadecimal digits. -/
def Scan.codePoint (width : Nat) : Scan Char := fun rest =>
  let digits := (rest.take width).filterMap hexDigit?
  let value := digits.foldl (fun n digit => n * 16 + digit) 0
  if digits.length ≠ width then .error ⟨.hexadecimal, rest.length⟩
  else if value.isValidChar then .ok (.ofNat value, rest.drop width)
  else .error ⟨.scalar, rest.length - width⟩

/-- Reads what follows a backslash. In a text over several lines, white space that starts before
the end of the line stands for nothing, along with all white space after it. -/
def Scan.escape (multiline : Bool) : Scan Text := do
  match ← take 1 with
  | ['u'] => return [← codePoint 4]
  | ['U'] => return [← codePoint 8]
  | [c] =>
    match escaped? c with
    | some value => return [value]
    | none =>
      if multiline && isSpaceOrNewline c then
        if c ≠ '\n' then
          skipWhile isSpace
          if (← peek).any (· ≠ '\n') then fail .escape
        skipWhile isSpaceOrNewline
        return []
      else fail .escape
  | _ => fail .escape

/-- Reads the inside of a text in double quotes and past its end. Each step reads a character, so
`steps` need not be more than the characters that are left. -/
def Scan.basic (multiline : Bool) : Nat → Scan Text
  | 0 => fail .unterminated
  | steps + 1 => do
    let ending : Text := if multiline then "\"\"\"" else "\""
    if ← accept ending then return []
    match ← take 1 with
    | ['\\'] =>
      let value ← escape multiline
      return value ++ (← basic multiline steps)
    | [c] =>
      if isControl c && !(multiline && c = '\n') then
        fun rest => .error ⟨.control c, rest.length + 1⟩
      else return c :: (← basic multiline steps)
    | _ => fail .unterminated

/-- A text over several lines may end in one or two quotes in front of its delimiter. -/
def Scan.moreQuotes (quote : Text) : Scan Text := do
  if ← accept quote then
    if ← accept quote then return quote ++ quote
    return quote
  return []

def Scan.remaining : Scan Nat := fun rest =>
  .ok (rest.length, rest)

/-- Reads a text in double quotes on one line, after the opening quote. -/
def Scan.basicLine : Scan Text := do
  basic false (← remaining)

/-- Reads a text in single quotes on one line, after the opening quote. -/
def Scan.literalLine : Scan Text :=
  takeUntil "'" isControl

/-- Reads a text over several lines, after the opening quotes. A line end right there is dropped. -/
def Scan.basicLines : Scan Text := do
  let _ ← accept "\n"
  let value ← basic true (← remaining)
  return value ++ (← moreQuotes "\"")

def Scan.literalLines : Scan Text := do
  let _ ← accept "\n"
  let value ← takeUntil "'''" fun c => isControl c && c ≠ '\n'
  return value ++ (← moreQuotes "'")

end AppDescription.Toml
