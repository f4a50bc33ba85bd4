import AppDescription.Text.Basic

namespace AppDescription

/-- A day of the calendar, where months and days count from one. -/
structure Date where
  year : Nat
  month : Nat
  day : Nat
  deriving Repr, DecidableEq

structure TimeOfDay where
  hour : Nat
  minute : Nat
  second : Nat
  microsecond : Nat
  deriving Repr, DecidableEq

/-- A date, a time of day, or both together with an offset from universal time in minutes. -/
inductive Moment where
  | date (date : Date)
  | time (time : TimeOfDay)
  | dateTime (date : Date) (time : TimeOfDay) (offset? : Option Int)
  deriving Repr, DecidableEq

/-- A number with zeros in front up to a width. -/
def Text.ofNatPadded (width n : Nat) : Text :=
  List.replicate (width - (Text.ofNat n).length) '0' ++ Text.ofNat n

namespace Date

/-- The days of a month. -/
def daysOf (year month : Nat) : Nat :=
  if month = 2 then
    if year % 4 = 0 && (year % 100 ≠ 0 || year % 400 = 0) then 29 else 28
  else if month = 4 || month = 6 || month = 9 || month = 11 then 30
  else 31

/-- Whether the calendar has the day. It starts with the year one. -/
def isReal (date : Date) : Bool :=
  1 ≤ date.year && date.day ≤ daysOf date.year date.month

def text (date : Date) : Text :=
  Text.ofNatPadded 4 date.year ++ "-" ++ Text.ofNatPadded 2 date.month ++ "-" ++
    Text.ofNatPadded 2 date.day

def parts (date : Date) : List Nat :=
  [date.year, date.month, date.day]

end Date

namespace TimeOfDay

def text (time : TimeOfDay) : Text :=
  Text.ofNatPadded 2 time.hour ++ ":" ++ Text.ofNatPadded 2 time.minute ++ ":" ++
    Text.ofNatPadded 2 time.second ++
    if time.microsecond = 0 then [] else '.' :: Text.ofNatPadded 6 time.microsecond

/-- The numbers of a time. Seconds and microseconds are left out when nothing follows them. -/
def parts (time : TimeOfDay) : List Nat :=
  [time.hour, time.minute] ++
    if time.microsecond ≠ 0 then [time.second, time.microsecond]
    else if time.second ≠ 0 then [time.second]
    else []

end TimeOfDay

/-- An offset from universal time, as in `+05:30`. -/
def offsetText (offset : Int) : Text :=
  (if offset < 0 then '-' else '+') :: Text.ofNatPadded 2 (offset.natAbs / 60) ++ ":" ++
    Text.ofNatPadded 2 (offset.natAbs % 60)

/-- The construction of a time zone. A negative offset is a day less and some seconds more. -/
def zoneConstruction (offset : Int) : Text :=
  if offset = 0 then "datetime.timezone.utc"
  else "datetime.timezone(datetime.timedelta(" ++
    (if offset < 0 then "days=-1, " else "") ++ "seconds=" ++
    Text.ofInt (if offset < 0 then 86400 + 60 * offset else 60 * offset) ++ "))"

namespace Moment

def isReal : Moment → Bool
  | date day | dateTime day _ _ => day.isReal
  | time _ => true

def text : Moment → Text
  | date day => day.text
  | time clock => clock.text
  | dateTime day clock offset? =>
    day.text ++ " " ++ clock.text ++ (offset?.map offsetText).getD []

/-- The construction of a moment from its parts. -/
def construction : Moment → Text
  | date day => "datetime.date(" ++ arguments day.parts ++ ")"
  | time clock => "datetime.time(" ++ arguments clock.parts ++ ")"
  | dateTime day clock offset? =>
    "datetime.datetime(" ++ arguments (day.parts ++ clock.parts) ++
      (offset?.map fun offset => ", tzinfo=" ++ zoneConstruction offset).getD [] ++ ")"
where
  arguments (parts : List Nat) : Text :=
    Text.join ", " (parts.map Text.ofNat)

end Moment

end AppDescription
