import Stackscript.Decimal.Basic

set_option autoImplicit false

/- Rounding of exact ratios to the nearest decimal; of two equally near ones the even one is
taken. -/
namespace Stackscript.Decimal

/-- The whole number nearest to a ratio, a half going to the even neighbour. -/
def roundDiv (num den : Nat) : Nat :=
  let quotient := num / den
  let twice := 2 * (num % den)
  if den < twice ∨ (twice = den ∧ quotient % 2 = 1) then quotient + 1 else quotient

/-- The decimal nearest to a ratio with a positive denominator. A magnitude past the largest finite
one is infinite, and the carry of a significand that rounds up runs into the exponent. -/
def ofRatio (negative : Bool) (num den : Nat) : Decimal :=
  let exact := num <<< 1074
  let scale := (exact / den).log2 - 52
  let magnitude := scale * hiddenBit + roundDiv exact (den <<< scale)
  ofMagnitude negative (min magnitude infinityBits)

def ofScientific (negative : Bool) (n : Nat) (exponent : Int) : Decimal :=
  if exponent < 0 then ofRatio negative n (Nat.pow 10 exponent.natAbs)
  else ofRatio negative (n * Nat.pow 10 exponent.natAbs) 1

def ofInt (n : Int) : Decimal :=
  ofRatio (n < 0) n.natAbs 1

/-- The integer part, toward zero; infinities and what is no number have none. -/
def truncate? (d : Decimal) : Option Int :=
  if d.isFinite then
    let whole : Int := d.units >>> 1074
    some (if d.isNegative then -whole else whole)
  else none

end Stackscript.Decimal
