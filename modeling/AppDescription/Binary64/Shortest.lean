import AppDescription.Binary64

namespace AppDescription

/-- Decimal digits times a power of ten. -/
structure Decimal where
  digits : Nat
  exponent : Int
  deriving Repr, DecidableEq

namespace Decimal

def ratio (decimal : Decimal) : Ratio :=
  (Ratio.ofNat decimal.digits).scale 10 decimal.exponent

/-- Digits with a point after the first `point` of them, and a digit at least on both sides. -/
def plainText (digits : Text) (point : Int) : Text :=
  let fraction := List.replicate (-point).toNat '0' ++ digits.drop point.toNat
  let whole := digits.take point.toNat
  (if whole.isEmpty && point ≤ 0 then ['0']
    else whole ++ List.replicate (point.toNat - whole.length) '0') ++
    '.' :: if fraction.isEmpty then ['0'] else fraction

/-- One digit before the point, and the exponent with a sign and two digits at least. -/
def scientificText (digits : Text) (exponent : Int) : Text :=
  let rest := digits.drop 1
  let size := Text.ofNat exponent.natAbs
  digits.take 1 ++ (if rest.isEmpty then [] else '.' :: rest) ++
    'e' :: (if exponent < 0 then '-' else '+') :: List.replicate (2 - size.length) '0' ++ size

/-- The text of a decimal without zeros at its end. It has an exponent from `10 ^ 16` on and below
`10 ^ (-4)`. -/
def text (decimal : Decimal) : Text :=
  let digits := Text.ofNat decimal.digits
  let point : Int := digits.length + decimal.exponent
  let digits := (digits.reverse.dropWhile (· = '0')).reverse
  if -4 < point && point ≤ 16 then plainText digits point else scientificText digits (point - 1)

end Decimal

namespace Binary64

/-- A multiple of a quarter of the last place of a significand with an exponent. -/
def quarters (count : Nat) (exponent : Int) : Ratio :=
  (Ratio.ofNat count).scale 2 (exponent - 2)

/-- Whether a decimal lies among the values that are rounded to a finite number. They reach halfway
to its neighbours, and the ends belong to an even significand. Below a power of two the neighbour
is half as far away. -/
def isRoundedFrom (significand : Nat) (exponent : Int) (decimal : Decimal) : Bool :=
  let below := if significand = Nat.pow 2 52 ∧ leastExponent < exponent then 1 else 2
  let low := quarters (4 * significand - below) exponent
  let high := quarters (4 * significand + 2) exponent
  if significand % 2 = 0 then !decimal.ratio.isLess low && !high.isLess decimal.ratio
  else low.isLess decimal.ratio && decimal.ratio.isLess high

/-- The decimal nearest to a ratio among those that have their last digit at an exponent and are
rounded to the number. Only the two neighbours of the ratio can be. -/
def decimalAt? (significand : Nat) (exponent place : Int) : Option Decimal :=
  let scaled := (quarters (4 * significand) exponent).scale 10 (-place)
  let below : Decimal := ⟨scaled.floor, place⟩
  let above : Decimal := ⟨scaled.floor + 1, place⟩
  match isRoundedFrom significand exponent below, isRoundedFrom significand exponent above with
  | true, true => some ⟨scaled.round, place⟩
  | true, false => some below
  | false, true => some above
  | false, false => none

/-- The decimal that is exactly a significand times a power of two. -/
def exactDecimal (significand : Nat) (exponent : Int) : Decimal :=
  ⟨significand * Nat.pow 2 exponent.toNat * Nat.pow 5 (-exponent).toNat, min exponent 0⟩

/-- The decimal with the fewest digits that is rounded to a positive finite number, and of those
the nearest. Seventeen digits are enough. -/
def shortestDecimal (significand : Nat) (exponent : Int) : Decimal :=
  let order := (quarters (4 * significand) exponent).decimalOrder
  let nearest (more : Nat) := decimalAt? significand exponent (order - more)
  ((List.range 17).findSome? nearest).getD (exactDecimal significand exponent)

/-- The shortest text that reads back as a number. -/
def text : Binary64 → Text
  | finite isNegative significand exponent =>
    let decimal := if significand = 0 then ⟨0, 0⟩ else shortestDecimal significand exponent
    (if isNegative then ['-'] else []) ++ decimal.text
  | infinite isNegative => if isNegative then "-inf" else "inf"
  | notANumber => "nan"

end Binary64

end AppDescription
