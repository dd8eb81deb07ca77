/-!
# Decimals

What a numeral denotes that is written in decimal, and how a double is written with the fewest
digits.
-/

namespace Dataflow.Decimal

/-!
## Decimal numerals

A numeral as it is written: sign, digits, and an exponent. It denotes an integer when it has neither
fraction nor exponent, and every numeral in range denotes a double. The double is computed in
floating-point arithmetic from the leading digits that fit a word of 64 bits, so that it may differ
from the nearest double in its last place.
-/

/-- The power of ten written at the end of a numeral. -/
structure Exponent where
  negative : Bool
  digits : List Nat
deriving DecidableEq

/-- A decimal numeral. Without a decimal point there are no digits in `fraction`. -/
structure Numeral where
  negative : Bool
  whole : List Nat
  fraction : List Nat
  exponent : Option Exponent
deriving DecidableEq

/-- The number that a row of digits denotes. -/
def ofDigits (digits : List Nat) : Nat :=
  digits.foldl (fun number digit => number * 10 + digit) 0

/-- The digits of a number that are kept, and the power of ten that they are counted in. -/
structure Significand where
  kept : Nat
  power : Int

namespace Significand

/-- Whether one more digit fits a word. -/
def admits (kept digit : Nat) : Bool :=
  kept * 10 + digit < UInt64.size

/-- The leading digits of a whole number that fit a word. All later ones only count. -/
def ofWhole (digits : List Nat) : Significand :=
  digits.foldl (fun taken digit =>
    if taken.power = 0 ∧ admits taken.kept digit then ⟨taken.kept * 10 + digit, 0⟩
    else ⟨taken.kept, taken.power + 1⟩) ⟨0, 0⟩

/-- The significand extended by the digits of a fraction, up to the first one that does not fit. -/
def extend : Significand → List Nat → Significand
  | taken, [] => taken
  | taken, digit :: digits =>
      if admits taken.kept digit then
        extend ⟨taken.kept * 10 + digit, taken.power - 1⟩ digits
      else taken

end Significand

/-- Ten to a power, rounded to the nearest double. -/
def powerOfTen (exponent : Nat) : Float :=
  Float.ofScientific 1 false exponent

/-- The greatest power of ten that is a double. -/
def greatestPower : Nat := 308

/-- Division by ten to the power `exponent`, in steps that stay within the range of doubles. -/
def scaleDown (number : Float) (exponent : Nat) : Float :=
  if exponent ≤ greatestPower then number / powerOfTen exponent
  else if number == 0 then number
  else scaleDown (number / powerOfTen greatestPower) (exponent - greatestPower)
termination_by exponent
decreasing_by simp only [greatestPower] at *; omega

/-- Multiplication by ten to the power `exponent`, unless the product is out of range. -/
def scaleUp (number : Float) (exponent : Nat) : Option Float :=
  if exponent ≤ greatestPower then
    let product := number * powerOfTen exponent
    if product.isInf then none else some product
  else if number == 0 then some number
  else none

/-- Multiplication by a power of ten of either sign. -/
def scale (number : Float) (exponent : Int) : Option Float :=
  if exponent < 0 then some (scaleDown number (-exponent).toNat)
  else scaleUp number exponent.toNat

/-- The greatest exponent that is taken at face value: above it a number is out of range or zero. -/
def greatestExponent : Nat := 0x7fffffff

namespace Numeral

/-- The integer that a numeral denotes. Minus zero is not an integer. -/
def integer? (numeral : Numeral) : Option Int :=
  match numeral.fraction, numeral.exponent, numeral.negative, ofDigits numeral.whole with
  | [], none, false, number => some number
  | [], none, true, number => if number = 0 then none else some (-number)
  | _, _, _, _ => none

/-- The magnitude of the double that a numeral denotes. -/
def magnitude? (numeral : Numeral) : Option Float :=
  let taken := (Significand.ofWhole numeral.whole).extend numeral.fraction
  let leading := taken.kept.toUInt64.toFloat
  match numeral.exponent with
  | none => scale leading taken.power
  | some exponent =>
      let shift := ofDigits exponent.digits
      if greatestExponent < shift then
        if taken.kept = 0 ∨ exponent.negative then some 0 else none
      else
        scale leading (if exponent.negative then taken.power - shift else taken.power + shift)

/-- The double that a numeral denotes, unless it is out of range. -/
def double? (numeral : Numeral) : Option Float :=
  numeral.magnitude?.map fun magnitude => if numeral.negative then -magnitude else magnitude

end Numeral

/-!
## Shortest decimals

The decimal with the fewest digits among those that read back as a given double, and the nearest of
these to the double. All arithmetic is exact: a double is a natural number times a power of two, and
the decimals that read back as it fill an interval whose ends are halfway to its neighbours.
-/

/-- The numbers that round to one positive double, all in units of a power of two. -/
structure RoundingInterval where
  /-- The unit is two to this power. -/
  scale : Int
  /-- Halfway to the double below. -/
  low : Nat
  /-- The double itself. -/
  value : Nat
  /-- Halfway to the double above. -/
  high : Nat
  /-- Whether the ends round to the double as well. -/
  closed : Bool

/-- A positive decimal: `digits` times ten to the power `exponent`. -/
structure Scaled where
  digits : Nat
  exponent : Int
deriving DecidableEq

/-- Two to the number of stored significand bits of a double. -/
def fractionSize : Nat := 0x10000000000000

/-- The bit of the sign. -/
def signBit : Nat := 0x8000000000000000

/-- The exponent field of the infinities and of every NaN. -/
def specialField : Nat := 2047

/-- The stored significand bits. -/
def fraction (bits : Nat) : Nat := bits % fractionSize

/-- The stored exponent. -/
def exponentField (bits : Nat) : Nat := bits / fractionSize % 2048

namespace RoundingInterval

/-- The interval of the double with the given bits. The double below a power of two is only half as
far away as the one above. -/
def ofBits (bits : Nat) : RoundingInterval :=
  let field := exponentField bits
  let significand := fraction bits + (if field = 0 then 0 else fractionSize)
  { scale := ((max field 1 : Nat) : Int) - 1077
    low := 4 * significand - (if fraction bits = 0 ∧ 1 < field then 1 else 2)
    value := 4 * significand
    high := 4 * significand + 2
    closed := significand % 2 = 0 }

/-- Whether `left` over `right` lies in the interval. -/
def contains (interval : RoundingInterval) (left right : Nat) : Bool :=
  if interval.closed then interval.low * right ≤ left ∧ left ≤ interval.high * right
  else interval.low * right < left ∧ left < interval.high * right

/-- The multiple of ten to the power `exponent` that reads back as the double: the nearer one of the
two around it, and the larger one of two equally near. -/
def onGrid (interval : RoundingInterval) (exponent : Int) : Option Nat :=
  let unit := Nat.pow 2 interval.scale.toNat * Nat.pow 10 (-exponent).toNat
  let step := Nat.pow 2 (-interval.scale).toNat * Nat.pow 10 exponent.toNat
  let below := interval.value * unit / step
  let above := below + 1
  match interval.contains (below * step) unit, interval.contains (above * step) unit with
  | true, true =>
      if interval.value * unit - below * step < above * step - interval.value * unit then below
      else above
  | true, false => below
  | false, true => above
  | false, false => none

/-- A power of ten above the interval. -/
def topExponent (interval : RoundingInterval) : Int :=
  (interval.high.log2 + 1 + interval.scale) * 30103 / 100000 + 2

/-- All digits of the double. -/
def exact (interval : RoundingInterval) : Scaled :=
  { digits :=
      interval.value * Nat.pow 2 interval.scale.toNat * Nat.pow 5 (-interval.scale).toNat
    exponent := min interval.scale 0 }

/-- The shortest decimal that reads back as the double: the coarsest grid with a hit decides. Grids
with up to seventeen digits suffice. -/
def shortest (interval : RoundingInterval) : Scaled :=
  let candidate (drop : Nat) : Option Scaled :=
    let exponent := interval.topExponent - drop
    (interval.onGrid exponent).map (⟨·, exponent⟩)
  ((List.range 24).findSome? candidate).getD interval.exact

end RoundingInterval

/-!
## The text of a double

Doubles are written with the fewest digits that read back, positionally from `0.0001` up to but
excluding ten to the sixteenth, and with an exponent outside of that range.
-/

/-- How decimals are laid out. -/
structure Layout where
  /-- The least power of ten of a leading digit that is written positionally. -/
  lowest : Int
  /-- The greatest such power. -/
  highest : Int
  /-- What follows a whole number. -/
  wholeEnding : String
  /-- What stands before an exponent. -/
  exponentMark : String

/-- The layout of values. -/
def Layout.standard : Layout where
  lowest := -4
  highest := 15
  wholeEnding := ".0"
  exponentMark := "e"

/-- A positive decimal in the given layout. -/
def Scaled.text (decimal : Scaled) (layout : Layout) : String :=
  let digits := toString decimal.digits
  let leading := decimal.exponent + digits.length - 1
  if layout.lowest ≤ leading ∧ leading ≤ layout.highest then
    if 0 ≤ decimal.exponent then
      digits ++ String.ofList (List.replicate decimal.exponent.toNat '0') ++ layout.wholeEnding
    else if leading < 0 then
      "0." ++ String.ofList (List.replicate (-leading - 1).toNat '0') ++ digits
    else
      let (whole, rest) := digits.toList.splitAt (leading + 1).toNat
      String.ofList whole ++ "." ++ String.ofList rest
  else
    match digits.toList with
    | [] => ""
    | [digit] => String.ofList [digit] ++ layout.exponentMark ++ toString leading
    | first :: rest =>
        String.ofList (first :: '.' :: rest) ++ layout.exponentMark ++ toString leading

/-- The text of the double with the given bits, sign apart. -/
def magnitudeText (bits : Nat) : String :=
  if exponentField bits = specialField then "inf"
  else if exponentField bits = 0 ∧ fraction bits = 0 then "0" ++ Layout.standard.wholeEnding
  else (RoundingInterval.ofBits bits).shortest.text .standard

/-- The text of a double. A NaN has no sign. -/
def text (number : Float) : String :=
  let bits := number.toBits.toNat
  if exponentField bits = specialField ∧ fraction bits ≠ 0 then "NaN"
  else (if signBit ≤ bits then "-" else "") ++ magnitudeText bits

end Dataflow.Decimal
