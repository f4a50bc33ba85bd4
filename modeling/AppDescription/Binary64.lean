import AppDescription.Text.Basic

namespace AppDescription

/-- A quotient of two whole numbers, not reduced. -/
structure Ratio where
  numerator : Nat
  denominator : Nat
  deriving Repr, DecidableEq

namespace Ratio

def ofNat (n : Nat) : Ratio :=
  ⟨n, 1⟩

/-- A ratio times a power of a base. -/
def scale (ratio : Ratio) (base : Nat) (exponent : Int) : Ratio :=
  ⟨ratio.numerator * Nat.pow base exponent.toNat,
    ratio.denominator * Nat.pow base (-exponent).toNat⟩

def isLess (left right : Ratio) : Bool :=
  left.numerator * right.denominator < right.numerator * left.denominator

/-- The largest whole number that is not above a ratio. -/
def floor (ratio : Ratio) : Nat :=
  ratio.numerator / ratio.denominator

/-- The nearest whole number. A half goes to the even neighbour. -/
def round (ratio : Ratio) : Nat :=
  let twice := 2 * (ratio.numerator % ratio.denominator)
  if ratio.denominator < twice || (twice = ratio.denominator && ratio.floor % 2 = 1) then
    ratio.floor + 1
  else ratio.floor

/-- The exponent of the largest power of two that is not above a positive ratio. -/
def binaryOrder (ratio : Ratio) : Int :=
  let order : Int := (Nat.log2 ratio.numerator : Int) - Nat.log2 ratio.denominator
  if ratio.isLess ((ofNat 1).scale 2 order) then order - 1 else order

/-- The exponent of the largest power of ten that is not above a ratio, which must not be below
`10 ^ (-400)`. -/
def decimalOrder (ratio : Ratio) : Int :=
  ((Nat.toDigits 10 (ratio.scale 10 400).floor).length : Int) - 401

end Ratio

/-- A floating-point number of 64 bits. A finite one is a whole number below `2 ^ 53` times a power
of two. -/
inductive Binary64 where
  | finite (isNegative : Bool) (significand : Nat) (exponent : Int)
  | infinite (isNegative : Bool)
  | notANumber
  deriving Repr, DecidableEq

namespace Binary64

def leastExponent : Int :=
  -1074

def greatestExponent : Int :=
  971

def zero (isNegative : Bool) : Binary64 :=
  .finite isNegative 0 leastExponent

/-- The number nearest to a positive ratio, or to its negative. -/
def ofRatio (isNegative : Bool) (ratio : Ratio) : Binary64 :=
  let exponent := max (ratio.binaryOrder - 52) leastExponent
  let significand := (ratio.scale 2 (-exponent)).round
  let isFull := significand = Nat.pow 2 53
  let exponent := if isFull then exponent + 1 else exponent
  if greatestExponent < exponent then .infinite isNegative
  else .finite isNegative (if isFull then Nat.pow 2 52 else significand) exponent

/-- The number nearest to decimal digits times a power of ten. What is far out of range is decided
by its size alone. -/
def ofDecimal (isNegative : Bool) (digits : Nat) (exponent : Int) : Binary64 :=
  let size : Int := (Nat.toDigits 10 digits).length + exponent
  if digits = 0 || size < -330 then zero isNegative
  else if 310 < size then .infinite isNegative
  else ofRatio isNegative ((Ratio.ofNat digits).scale 10 exponent)

end Binary64

end AppDescription
