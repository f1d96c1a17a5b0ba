import AffectedNodes.Json.Double

/-!
# Shortest decimal numerals of doubles

The numeral written for a double has the fewest significant digits that read back as the same
double, and is the nearest of those.  `Double.shortest` searches the grids of one to seventeen
digits; on each it tests the two neighbours of the exact value against the interval of reals that
round to the double.  `Double.numeral` then chooses between positional and exponent notation.
-/
namespace AffectedNodes.Double

structure Decimal where
  digits : Nat
  power : Int
  deriving DecidableEq, Repr, Inhabited

def decimalLength (n : Nat) : Nat := (Nat.toDigits 10 n).length

def leadingPower (num den : Nat) : Int :=
  if den ≤ num then (decimalLength (num / den) : Int) - 1
  else -(decimalLength ((den + num - 1) / num - 1) : Int)

structure RoundingInterval where
  low : Nat
  value : Nat
  high : Nat
  endsIncluded : Bool

/-- The interval of a nonzero double in quarters of its last place.  Below a power of two the
neighbour is only half as far away. -/
def quarters (x : Double) : RoundingInterval :=
  let halved := x.significand = Nat.pow 2 52 ∧ leastExponent < x.exponent
  { low := 4 * x.significand - (if halved then 1 else 2)
    value := 4 * x.significand
    high := 4 * x.significand + 2
    endsIncluded := x.significand % 2 = 0 }

def powerRatio (base : Nat) (power : Int) : Nat × Nat :=
  if 0 ≤ power then (base.pow power.toNat, 1) else (1, base.pow (-power).toNat)

/-- Whether `candidate`, counted in steps of `step`, lies in the interval counted in steps of
`unit`. -/
def RoundingInterval.holds (interval : RoundingInterval) (unit step candidate : Nat) : Bool :=
  if interval.endsIncluded then
    interval.low * unit ≤ candidate * step && candidate * step ≤ interval.high * unit
  else interval.low * unit < candidate * step && candidate * step < interval.high * unit

/-- The nearer neighbour of the value on the grid of multiples of `10 ^ power` that lies in the
interval, the even one when both are as near. -/
def onGrid? (x : Double) (power : Int) : Option Decimal :=
  let interval := x.quarters
  let grid := powerRatio 10 power
  let place := powerRatio 2 (x.exponent - 2)
  let unit := place.1 * grid.2
  let step := grid.1 * place.2
  let below := interval.value * unit / step
  let above := below + 1
  let belowHolds := interval.holds unit step below
  let aboveHolds := interval.holds unit step above
  let down := interval.value * unit - below * step
  let up := above * step - interval.value * unit
  match belowHolds, aboveHolds with
  | false, false => none
  | true, false => some ⟨below, power⟩
  | false, true => some ⟨above, power⟩
  | true, true =>
      if down < up then some ⟨below, power⟩
      else if up < down then some ⟨above, power⟩
      else if below % 2 = 0 then some ⟨below, power⟩ else some ⟨above, power⟩

/-- The shortest decimal that reads back as the nonzero double `x`, the nearest among those. -/
def shortest (x : Double) : Decimal :=
  let leading := leadingPower x.ratio.1 x.ratio.2
  ((List.range 17).findSome? fun (extra : Nat) => x.onGrid? (leading - extra)).getD ⟨0, 0⟩

def leastPositional : Int := -5

def greatestPositional : Int := 15

/-- A decimal written out: positionally, with a point and at least one digit after it, when the
leading digit's power is moderate, and otherwise as one digit, the further digits after a point,
and a signed exponent.  Zeros at the end of the digits are not written. -/
def Decimal.numeral (decimal : Decimal) : String :=
  let written := Nat.toDigits 10 decimal.digits
  let leading : Int := decimal.power + written.length - 1
  let digits := (written.reverse.dropWhile (· == '0')).reverse
  if leading < leastPositional ∨ greatestPositional < leading then
    let fraction := digits.drop 1
    let mantissa := if fraction.isEmpty then digits else digits.take 1 ++ '.' :: fraction
    let sign := if leading < 0 then '-' else '+'
    String.ofList (mantissa ++ 'e' :: sign :: Nat.toDigits 10 leading.natAbs)
  else if leading < 0 then
    String.ofList ('0' :: '.' :: List.replicate (leading.natAbs - 1) '0' ++ digits)
  else
    let whole := leading.toNat + 1
    let padded := digits ++ List.replicate (whole + 1 - digits.length) '0'
    String.ofList (padded.take whole ++ '.' :: padded.drop whole)

def numeral (x : Double) : String :=
  let sign := if x.negative then "-" else ""
  if x.isZero then sign ++ "0.0" else sign ++ x.shortest.numeral

end AffectedNodes.Double
