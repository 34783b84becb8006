set_option autoImplicit false

/- Decimals are binary floating-point numbers of double precision, kept as their sixty-four bits: a
sign, eleven bits of exponent and fifty-two of fraction. A finite magnitude is a whole number of
units, the unit being two to the power of -1074. -/
namespace Stackscript

/-- A floating-point number, by its bits. -/
structure Decimal where
  bits : UInt64
  deriving DecidableEq, Repr

namespace Decimal

/-- The bits of positive infinity; larger magnitudes are not numbers. -/
def infinityBits : Nat := 0x7FF0000000000000

def signBit : Nat := 0x8000000000000000

/-- The weight of the exponent's lowest bit. -/
def hiddenBit : Nat := 0x10000000000000

/-- A number from its sign and the bits below it. -/
def ofMagnitude (negative : Bool) (magnitude : Nat) : Decimal :=
  ⟨UInt64.ofNat (if negative then signBit + magnitude else magnitude)⟩

def isNegative (d : Decimal) : Bool :=
  signBit ≤ d.bits.toNat

/-- All bits but the sign. -/
def magnitude (d : Decimal) : Nat :=
  d.bits.toNat % signBit

def isNaN (d : Decimal) : Bool :=
  infinityBits < d.magnitude

def isInfinite (d : Decimal) : Bool :=
  d.magnitude == infinityBits

def isFinite (d : Decimal) : Bool :=
  d.magnitude < infinityBits

/-- Whether the number is zero, of either sign. -/
def isZero (d : Decimal) : Bool :=
  d.magnitude == 0

def nan : Decimal := ofMagnitude false 0x7FF8000000000000

def infinity (negative : Bool) : Decimal := ofMagnitude negative infinityBits

/-- The power of two, counted in units, that the significand is multiplied by. -/
def scale (d : Decimal) : Nat :=
  d.magnitude / hiddenBit - 1

/-- The significand of a finite number, with its leading one restored. -/
def significand (d : Decimal) : Nat :=
  if d.magnitude < hiddenBit then d.magnitude
  else hiddenBit + d.magnitude % hiddenBit

def units (d : Decimal) : Nat :=
  d.significand <<< d.scale

def unitsPerOne : Nat := 1 <<< 1074

/-- Sort key: the magnitude with its sign, so that both zeros are equal, and above every number a
single key for what is no number. -/
def key (d : Decimal) : Int :=
  if d.isNaN then infinityBits + 1
  else if d.isNegative then -(d.magnitude : Int)
  else d.magnitude

def compare (a b : Decimal) : Ordering :=
  Ord.compare a.key b.key

/-- Same key: both zeros are the same, and so is all that is no number. -/
def same (a b : Decimal) : Bool :=
  a.key == b.key

end Decimal

end Stackscript
