import Stackscript.Text.Basic

set_option autoImplicit false

/- Whole numbers as text: base-ten digits, with an optional sign when they are read. -/
namespace Stackscript.Text

/-- Base-ten digits of a natural number, without leading zeros. -/
def ofNat (n : Nat) : Text :=
  Nat.toDigits 10 n

/-- Base-ten digits of an integer, after a minus sign if it is negative. -/
def ofInt (n : Int) : Text :=
  if n < 0 then '-' :: ofNat n.natAbs else ofNat n.natAbs

/-- The natural number that a run of base-ten digits denotes. -/
def digitsValue (digits : Text) : Nat :=
  digits.foldl (fun n d => n * 10 + (d.toNat - '0'.toNat)) 0

/-- Splits off one leading sign; the flag tells whether it was a minus. -/
def splitSign : Text → Bool × Text
  | '-' :: rest => (true, rest)
  | '+' :: rest => (false, rest)
  | rest => (false, rest)

/-- Reads an optional sign and at least one digit, and nothing else. -/
def toInt? (t : Text) : Option Int :=
  let (negative, digits) := splitSign t
  if digits.isEmpty || !digits.all Char.isDigit then none
  else if negative then some (-(digitsValue digits : Int))
  else some (digitsValue digits)

end Stackscript.Text
