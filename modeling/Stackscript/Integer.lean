import Stackscript.Text.Digits

set_option autoImplicit false

/- Sixty-four-bit integers with checked arithmetic: an operation computes the exact result and
fails when it lies outside the range. -/
namespace Stackscript.Integer

def least : Int := -0x8000000000000000

def greatest : Int := 0x7FFFFFFFFFFFFFFF

/-- The integer as a word, if it lies in the range. -/
def fit? (n : Int) : Option Int64 :=
  if least ≤ n ∧ n ≤ greatest then some (Int64.ofInt n) else none

/-- The integer as a word, at the nearer end of the range if it lies outside. -/
def clamp (n : Int) : Int64 :=
  Int64.ofInt (max least (min greatest n))

/-- Reads an optional sign and digits that denote a number in the range; with more than nineteen
digits after the leading zeros it is not in it. -/
def read? (t : Text) : Option Int64 :=
  if 19 < ((Text.splitSign t).2.dropWhile (· == '0')).length then none
  else (Text.toInt? t).bind fit?

def render (n : Int64) : Text :=
  Text.ofInt n.toInt

def add? (x y : Int64) : Option Int64 :=
  fit? (x.toInt + y.toInt)

def sub? (x y : Int64) : Option Int64 :=
  fit? (x.toInt - y.toInt)

def mul? (x y : Int64) : Option Int64 :=
  fit? (x.toInt * y.toInt)

/-- Checked quotient toward zero; the divisor is not zero. -/
def div? (x y : Int64) : Option Int64 :=
  fit? (x.toInt.tdiv y.toInt)

/-- Checked remainder with the sign of the dividend; like the quotient, it is refused when the
quotient leaves the range. -/
def mod? (x y : Int64) : Option Int64 :=
  (div? x y).bind fun _ => fit? (x.toInt.tmod y.toInt)

/-- Checked power. A base of magnitude at most one never leaves the range, and any other base has
left it at exponent sixty-four. -/
def pow? (x : Int64) (exponent : Nat) : Option Int64 :=
  if x.toInt.natAbs ≤ 1 then
    if x.toInt = -1 ∧ exponent % 2 = 0 then some 1
    else if exponent = 0 then some 1
    else some x
  else if 64 ≤ exponent then none
  else fit? (x.toInt.pow exponent)

end Stackscript.Integer
