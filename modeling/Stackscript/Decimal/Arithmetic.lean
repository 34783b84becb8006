import Stackscript.Decimal.Rounding

set_option autoImplicit false

/- Arithmetic on decimals. The remainder is exact; the other operations are those of the machine's
floating point, applied to the bits. -/
namespace Stackscript.Decimal

def lift (operation : Float → Float → Float) (a b : Decimal) : Decimal :=
  ⟨(operation (Float.ofBits a.bits) (Float.ofBits b.bits)).toBits⟩

/-- Sum, rounded to nearest. -/
def add : Decimal → Decimal → Decimal := lift (· + ·)

def sub : Decimal → Decimal → Decimal := lift (· - ·)

def mul : Decimal → Decimal → Decimal := lift (· * ·)

def div : Decimal → Decimal → Decimal := lift (· / ·)

def pow : Decimal → Decimal → Decimal := lift Float.pow

/-- What is left of the first operand after taking whole multiples of the second toward zero, with
the sign of the first. It is exact, because it is a whole number of units below the divisor. -/
def rem (a b : Decimal) : Decimal :=
  if a.isNaN || b.isNaN || a.isInfinite || b.isZero then nan
  else if b.isInfinite then a
  else ofRatio a.isNegative (a.units % b.units) unitsPerOne

end Stackscript.Decimal
