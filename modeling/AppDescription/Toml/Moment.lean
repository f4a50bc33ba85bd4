import AppDescription.Moment
import AppDescription.Toml.Number

namespace AppDescription.Toml

/-- Two digits whose number lies between two bounds. -/
def twoDigits? (least most : Nat) : Text → Option (Nat × Text)
  | a :: b :: rest =>
    let value := digitsValue 10 [a, b]
    if isDigit a && isDigit b && least ≤ value && value ≤ most then some (value, rest) else none
  | _ => none

/-- What follows a character that has to come next. -/
def after? (c : Char) : Text → Option Text
  | d :: rest => if d = c then some rest else none
  | [] => none

/-- Fractions of a second, of which six digits count. -/
def microseconds (text : Text) : Nat × Text :=
  match text with
  | '.' :: rest =>
    let digits := rest.takeWhile isDigit
    if digits.isEmpty then (0, text)
    else (digitsValue 10 (digits.take 6) * Nat.pow 10 (6 - digits.length), rest.drop digits.length)
  | _ => (0, text)

/-- A time of day and what follows it. -/
def timeOfDay? (text : Text) : Option (TimeOfDay × Text) := do
  let (hour, rest) ← twoDigits? 0 23 text
  let rest ← after? ':' rest
  let (minute, rest) ← twoDigits? 0 59 rest
  let rest ← after? ':' rest
  let (second, rest) ← twoDigits? 0 59 rest
  let (microsecond, rest) := microseconds rest
  some (⟨hour, minute, second, microsecond⟩, rest)

/-- An offset from universal time in minutes, which may be missing, and what follows it. -/
def offset (text : Text) : Option Int × Text :=
  match text with
  | c :: rest =>
    if c = 'Z' || c = 'z' then (some 0, rest)
    else if c = '+' || c = '-' then
      let found := do
        let (hours, rest) ← twoDigits? 0 23 rest
        let rest ← after? ':' rest
        let (minutes, rest) ← twoDigits? 0 59 rest
        let size : Int := 60 * hours + minutes
        some (some (if c = '-' then -size else size), rest)
      found.getD (none, text)
    else (none, text)
  | [] => (none, [])

/-- A date written in digits and what follows it. The calendar may not have that day. -/
def date? (text : Text) : Option (Date × Text) := do
  let (century, rest) ← twoDigits? 0 99 text
  let (decade, rest) ← twoDigits? 0 99 rest
  let rest ← after? '-' rest
  let (month, rest) ← twoDigits? 1 12 rest
  let rest ← after? '-' rest
  let (day, rest) ← twoDigits? 1 31 rest
  some (⟨century * 100 + decade, month, day⟩, rest)

/-- A date and the time of day that may come with it. -/
def dateTime? (text : Text) : Option (Moment × Text) := do
  let (date, rest) ← date? text
  let withTime := do
    let time ← match rest with
      | c :: time => if c = 'T' || c = 't' || c = ' ' then some time else none
      | [] => none
    let (time, rest) ← timeOfDay? time
    let (offset, rest) := offset rest
    some (Moment.dateTime date time offset, rest)
  some (withTime.getD (Moment.date date, rest))

/-- A date, a time of day, or both. -/
def moment? (text : Text) : Option (Moment × Text) :=
  (dateTime? text).or ((timeOfDay? text).map fun found => (.time found.1, found.2))

end AppDescription.Toml
