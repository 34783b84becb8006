import Stackscript.Decimal.Rounding
import Stackscript.Text.Digits

set_option autoImplicit false

/- Decimals as text, never with an exponent. The fixed form has a given number of places, a half
going to the even neighbour; the shortest form has the fewest digits that round back to the same
bits. -/
namespace Stackscript.Decimal

/-- A minus sign for numbers with the sign bit. -/
def signText (d : Decimal) : Text :=
  if d.isNegative then ['-'] else []

/-- Names of what has no digits, and the form of a finite number after its sign. -/
def renderWith (finite : Decimal → Text) (d : Decimal) : Text :=
  if d.isNaN then ['N', 'a', 'N']
  else if d.isInfinite then signText d ++ ['i', 'n', 'f']
  else signText d ++ finite d

/-- A whole number of the given decimal places, with a point in front of them. -/
def placed (places n : Nat) : Text :=
  let one := Nat.pow 10 places
  Text.ofNat (n / one) ++ '.' :: Text.padStart places '0' (Text.ofNat (n % one))

/-- Text with exactly the given number of decimal places. -/
def fixed (places : Nat) (d : Decimal) : Text :=
  renderWith (fun d => placed places (roundDiv (d.units * Nat.pow 10 places) unitsPerOne)) d

/-- The real numbers that round to a decimal, with the decimal itself. All three are multiples of
a quarter of a unit. -/
structure Interval where
  low : Nat
  value : Nat
  high : Nat
  closed : Bool

namespace Interval

/-- Half the distance to either neighbour; the ends belong to it when the significand is even. The
neighbour below a power of two is only half as far. -/
def of (d : Decimal) : Interval :=
  let gap := 1 <<< d.scale
  let narrow := d.significand == hiddenBit && d.scale != 0
  { low := 4 * d.units - (if narrow then gap else 2 * gap)
    value := 4 * d.units
    high := 4 * d.units + 2 * gap
    closed := d.significand % 2 == 0 }

/-- Whether a point, given on the same grid, rounds to the decimal. -/
def contains (i : Interval) (point : Nat) : Bool :=
  if i.closed then i.low ≤ point && point ≤ i.high else i.low < point && point < i.high

def refine (i : Interval) (factor : Nat) : Interval :=
  { i with low := i.low * factor, value := i.value * factor, high := i.high * factor }

/-- The multiple of `step` beside the value that rounds to the decimal: of two the nearer, and of
two equally near ones the upper. -/
def nearest? (i : Interval) (step : Nat) : Option Nat :=
  let below := i.value / step
  let above := below + 1
  let nearer := if i.value - below * step < above * step - i.value then below else above
  match i.contains (below * step), i.contains (above * step) with
  | true, true => some nearer
  | true, false => some below
  | false, true => some above
  | false, false => none

end Interval

/-- Places after the point at which every decimal can be told apart from its neighbours. -/
def finest : Nat := 350

/-- A whole number times ten to the power of `exponent - finest`, written in full. -/
def positional (n exponent : Nat) : Text :=
  if finest ≤ exponent then Text.ofNat n ++ List.replicate (exponent - finest) '0'
  else placed (finest - exponent) n

/-- Goes through ever finer powers of ten until one has a multiple that rounds to the decimal. -/
def shortestFrom (i : Interval) : Nat → Text
  | 0 => positional (i.value / (4 * unitsPerOne)) 0
  | exponent + 1 =>
    match i.nearest? (Nat.pow 10 (exponent + 1) * (4 * unitsPerOne)) with
    | some n => positional n (exponent + 1)
    | none => shortestFrom i exponent

/-- Digits of a finite number without its sign: the search starts at the first power of ten above
the number. -/
def shortestDigits (d : Decimal) : Text :=
  if d.isZero then ['0']
  else
    let scaled := d.units * Nat.pow 10 finest
    shortestFrom ((Interval.of d).refine (Nat.pow 10 finest))
      (Nat.toDigits 10 (scaled / unitsPerOne)).length

/-- Text with the fewest digits that round back to the same decimal, with no point after a whole
number. -/
def shortest (d : Decimal) : Text :=
  renderWith shortestDigits d

end Stackscript.Decimal
