/-!
# Exact doubles

A JSON number with a fraction or an exponent, or one too large for a word, is an IEEE double.  It
is held here by its sign, significand and power of two, so that rounding, printing and comparison
are arithmetic on integers and can be reasoned about.

`Double.ofRatio?` rounds a quotient to the nearest double, ties to the even significand.  Every
other construction is made from it.
-/
namespace AffectedNodes

/-- A finite double: `significand · 2 ^ exponent`, negated when `negative` holds.

Values made by `Double.ofRatio?` have a significand below `2 ^ 53`, an exponent of at least
`-1074`, and a significand of at least `2 ^ 52` unless the exponent is `-1074`, so each number has
one form; only zero has two, by its sign. -/
structure Double where
  negative : Bool
  significand : Nat
  exponent : Int
  deriving DecidableEq, Repr, Inhabited

namespace Double

def leastExponent : Int := -1074

def greatestExponent : Int := 971

def isZero (x : Double) : Bool := x.significand == 0

def sameNumber (x y : Double) : Bool := (x.isZero && y.isZero) || x == y

def roundHalfEven (num den : Nat) : Nat :=
  let floor := num / den
  let twice := 2 * (num % den)
  if twice < den then floor
  else if den < twice then floor + 1
  else if floor % 2 = 0 then floor else floor + 1

def shifted (num den : Nat) (exponent : Int) : Nat × Nat :=
  if 0 ≤ exponent then (num, den * Nat.pow 2 exponent.toNat)
  else (num * Nat.pow 2 (-exponent).toNat, den)

/-- The exponent at which `num / den` has a significand of 53 binary digits, or the least one. -/
def exponentOf (num den : Nat) : Int :=
  let estimate : Int := (num.log2 : Int) - (den.log2 : Int) - 53
  let (scaledNum, scaledDen) := shifted num den estimate
  let exact := if scaledNum / scaledDen < Nat.pow 2 53 then estimate else estimate + 1
  max exact leastExponent

/-- The double nearest to `num / den`, or nothing when that is beyond the largest double. -/
def ofRatio? (negative : Bool) (num den : Nat) : Option Double :=
  if num = 0 then some ⟨negative, 0, leastExponent⟩
  else
    let exponent := exponentOf num den
    let (scaledNum, scaledDen) := shifted num den exponent
    let rounded := roundHalfEven scaledNum scaledDen
    let result : Double :=
      if rounded = Nat.pow 2 53 then ⟨negative, Nat.pow 2 52, exponent + 1⟩
      else ⟨negative, rounded, exponent⟩
    if result.exponent ≤ greatestExponent then some result else none

def ratio (x : Double) : Nat × Nat :=
  if 0 ≤ x.exponent then (x.significand * Nat.pow 2 x.exponent.toNat, 1)
  else (x.significand, Nat.pow 2 (-x.exponent).toNat)

def mul? (x y : Double) : Option Double :=
  ofRatio? (x.negative != y.negative) (x.ratio.1 * y.ratio.1) (x.ratio.2 * y.ratio.2)

def div? (x y : Double) : Option Double :=
  ofRatio? (x.negative != y.negative) (x.ratio.1 * y.ratio.2) (x.ratio.2 * y.ratio.1)

def powerOfTen? (power : Nat) : Option Double := ofRatio? false (Nat.pow 10 power) 1

def greatestPower : Nat := 308

def divideByGreatest? : Nat → Double → Option Double
  | 0, x => some x
  | count + 1, x =>
      if x.isZero then some x
      else (powerOfTen? greatestPower).bind fun divisor =>
        (x.div? divisor).bind (divideByGreatest? count)

/-- `x · 10 ^ power`, rounded at each step: one multiplication or one division by a double that is
nearest to a power of ten, after as many divisions by the greatest such power as the exponent
asks for.  Nothing when the result is beyond the largest double. -/
def scale? (x : Double) : Int → Option Double
  | .ofNat power =>
      if power ≤ greatestPower then (powerOfTen? power).bind x.mul?
      else if x.isZero then some x else none
  | .negSucc below =>
      (divideByGreatest? (below / greatestPower) x).bind fun smaller =>
        (powerOfTen? (below % greatestPower + 1)).bind smaller.div?

/-- The double read from a decimal numeral: the significand is rounded first, then scaled. -/
def ofDecimal? (negative : Bool) (significand : Nat) (power : Int) : Option Double := do
  let magnitude ← ofRatio? false significand 1
  let scaled ← magnitude.scale? power
  return { scaled with negative }

end Double

end AffectedNodes
