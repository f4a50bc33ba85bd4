import AppDescription.Toml.Quoted
import AppDescription.Toml.Value

namespace AppDescription.Toml

def isDigit (c : Char) : Bool :=
  '0' ≤ c && c ≤ '9'

/-- The run of digits at the start, where a single underscore may stand between two digits. -/
def digitRun (isDigit : Char → Bool) : Text → Text
  | [] => []
  | [c] => if isDigit c then [c] else []
  | c :: next :: rest =>
    if isDigit c then
      match next, rest with
      | '_', after :: _ =>
        if isDigit after then c :: '_' :: digitRun isDigit rest else [c]
      | _, _ => c :: digitRun isDigit (next :: rest)
    else []

/-- The number a run of digits writes in a base. -/
def digitsValue (base : Nat) (digits : Text) : Nat :=
  (digits.filterMap hexDigit?).foldl (fun n digit => n * base + digit) 0

/-- A number, or why there can be none, and what follows it. -/
abbrev NumberReading := Except Cause TomlValue × Text

/-- A number with a base in front, such as `0x1F`. -/
def basedNumber? (text : Text) : Option NumberReading := do
  let (base, rest) ← match text with
    | '0' :: 'x' :: rest => some (16, rest)
    | '0' :: 'b' :: rest => some (2, rest)
    | '0' :: 'o' :: rest => some (8, rest)
    | _ => none
  let run := digitRun (fun c => (hexDigit? c).any (· < base)) rest
  if run.isEmpty then none
  else some (.ok (.integer (digitsValue base run)), rest.drop run.length)

/-- The whole part of a decimal number has no zero in front of other digits. -/
def wholePart (text : Text) : Text :=
  match text with
  | '0' :: _ => ['0']
  | _ => digitRun isDigit text

def fractionPart (text : Text) : Text :=
  match text with
  | '.' :: rest =>
    let run := digitRun isDigit rest
    if run.isEmpty then [] else '.' :: run
  | _ => []

def signPart (text : Text) : Text :=
  (text.take 1).filter fun c => c = '+' || c = '-'

def exponentPart (text : Text) : Text :=
  match text with
  | c :: rest =>
    if c = 'e' || c = 'E' then
      let sign := signPart rest
      let run := digitRun isDigit (rest.drop sign.length)
      if run.isEmpty then [] else c :: sign ++ run
    else []
  | [] => []

/-- A whole number written in digits with a sign. -/
def signedValue (sign digits : Text) : Int :=
  if sign = ['-'] then -digitsValue 10 digits else digitsValue 10 digits

/-- The number written by a sign, a whole part, a fraction and an exponent. -/
def decimalValue (sign whole fraction exponent : Text) : Binary64 :=
  let written := exponent.drop 1
  let exponentSign := signPart written
  Binary64.ofDecimal (sign = ['-']) (digitsValue 10 (whole ++ fraction))
    (signedValue exponentSign (written.drop exponentSign.length) - (fraction.filter isDigit).length)

/-- A decimal number, with or without a fraction and an exponent. -/
def decimalNumber? (text : Text) : Option NumberReading :=
  let sign := signPart text
  let text := text.drop sign.length
  let whole := wholePart text
  let text := text.drop whole.length
  let fraction := fractionPart text
  let text := text.drop fraction.length
  let exponent := exponentPart text
  if whole.isEmpty then none
  else if !fraction.isEmpty || !exponent.isEmpty then
    some (.ok (.decimal (decimalValue sign whole fraction exponent)), text.drop exponent.length)
  else if TomlValue.digitLimit < (whole.filter isDigit).length then some (.error .digits, text)
  else some (.ok (.integer (signedValue sign whole)), text)

/-- The spellings of infinity and of what is no number. -/
def specialNumbers : List (Text × Binary64) :=
  [("inf", .infinite false), ("nan", .notANumber), ("-inf", .infinite true),
    ("+inf", .infinite false), ("-nan", .notANumber), ("+nan", .notANumber)]

def specialNumber? (text : Text) : Option NumberReading :=
  (specialNumbers.find? (·.1.isPrefixOf text)).map fun entry =>
    (.ok (.decimal entry.2), text.drop entry.1.length)

/-- A number in any of its forms. -/
def number? (text : Text) : Option NumberReading :=
  ((basedNumber? text).or (decimalNumber? text)).or (specialNumber? text)

end AppDescription.Toml
