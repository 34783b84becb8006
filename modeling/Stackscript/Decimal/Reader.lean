import Stackscript.Decimal.Rounding
import Stackscript.Text.Digits

set_option autoImplicit false

/- Decimals as they are written in text: an optional sign, then a name for infinity or for what is
no number, or digits with an optional point and an optional power of ten. -/
namespace Stackscript.Decimal

/-- Digits that can decide how a number is rounded: the point halfway between two neighbours has
fewer. -/
def decisive : Nat := 800

/-- The decisive digits of a run, and a one after them if any other digit is not zero, which keeps
the number on its side of every halfway point. -/
def condense (digits : Text) : Text :=
  digits.take decisive ++ if (digits.drop decisive).all (· == '0') then [] else ['1']

/-- The decimal nearest to a run of digits times a power of ten. Numbers past either end of the
range are settled by the place of their first digit, before any power is computed. -/
def ofDigits (negative : Bool) (digits : Text) (exponent : Int) : Decimal :=
  let significant := digits.dropWhile (· == '0')
  let top : Int := exponent + significant.length
  if significant.isEmpty ∨ top < -330 then ofMagnitude negative 0
  else if 310 < top then infinity negative
  else
    let condensed := condense significant
    ofScientific negative (Text.digitsValue condensed) (top - condensed.length)

/-- Exponents grow no further once they have reached this bound. -/
def exponentBound : Nat := 0x10000

/-- The value of the digits of an exponent; those after the bound was reached are passed over. -/
def exponentValue (digits : Text) : Nat :=
  digits.foldl
    (fun n d => if n < exponentBound then n * 10 + (d.toNat - '0'.toNat) else n) 0

/-- A power of ten after its marker: an optional sign and at least one digit, and nothing else. -/
def readExponent? : Text → Option Int
  | [] => some 0
  | marker :: rest =>
    let (negative, digits) := Text.splitSign rest
    if (marker ≠ 'e' ∧ marker ≠ 'E') ∨ digits.isEmpty ∨ !digits.all Char.isDigit then none
    else if negative then some (-(exponentValue digits : Int))
    else some (exponentValue digits)

/-- Digits with an optional point, at least one digit on either side of it, and an optional power
of ten. -/
def readNumber? (negative : Bool) (t : Text) : Option Decimal :=
  let whole := t.takeWhile Char.isDigit
  let rest := t.dropWhile Char.isDigit
  let (fraction, rest) := match rest with
    | '.' :: tail => (tail.takeWhile Char.isDigit, tail.dropWhile Char.isDigit)
    | _ => ([], rest)
  let digits := whole ++ fraction
  if digits.isEmpty then none
  else (readExponent? rest).map fun exponent =>
    ofDigits negative digits (exponent - fraction.length)

/-- Names of what has no digits, in any case. -/
def readName? (negative : Bool) (t : Text) : Option Decimal :=
  let name := t.map Char.toLower
  if name = ['i', 'n', 'f'] ∨ name = ['i', 'n', 'f', 'i', 'n', 'i', 't', 'y'] then
    some (infinity negative)
  else if name = ['n', 'a', 'n'] then some nan
  else none

def read? (t : Text) : Option Decimal :=
  let (negative, body) := Text.splitSign t
  (readNumber? negative body).orElse fun _ => readName? negative body

end Stackscript.Decimal
