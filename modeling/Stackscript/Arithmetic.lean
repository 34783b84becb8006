import Stackscript.Decimal.Arithmetic
import Stackscript.Sequence.Basic

set_option autoImplicit false

/- Arithmetic, comparison and logic. Operands are promoted first; characters are computed with by
their code points, and the operators that sequences share hand them over before promotion. -/
namespace Stackscript.Arithmetic

/-- A checked result, or an overflow of the operator. -/
def checked (op : Operator) : Option Int64 → Except Fault Int64
  | some n => .ok n
  | none => .error (.overflow op)

/-- Applies the integer form to integers and to code points, and the decimal form, if there is one,
to decimals. -/
def numeric (op : Operator) (onIntegers : Int64 → Int64 → Except Fault Int64)
    (onDecimals : Option (Decimal → Decimal → Decimal)) (a b : Value) : Except Fault Value := do
  match ← Value.promote a b with
  | .integers x y => return .integer (← onIntegers x y)
  | .characters x y =>
    let code ← onIntegers (Value.code x) (Value.code y)
    return .character (← Value.ofCode code.toInt)
  | .decimals x y =>
    match onDecimals with
    | some f => return .decimal (f x y)
    | none => throw (.undefinedFor op .decimal)
  | other => throw (.undefinedFor op other.type)

/-- Sum, or concatenation when a sequence takes part. -/
def add (a b : Value) : Except Fault Value :=
  if a.isSequence || b.isSequence then Sequence.concat a b
  else numeric .add (fun x y => checked .add (Integer.add? x y)) (some Decimal.add) a b

def subtract (a b : Value) : Except Fault Value :=
  numeric .subtract (fun x y => checked .subtract (Integer.sub? x y)) (some Decimal.sub) a b

/-- The sequence and the count of a repetition, on either side. -/
def repetition? : Value → Value → Option (Value × Int64)
  | .string t, .integer n => some (.string t, n)
  | .array xs, .integer n => some (.array xs, n)
  | .integer n, .string t => some (.string t, n)
  | .integer n, .array xs => some (.array xs, n)
  | _, _ => none

/-- Product, or repetition of a sequence. -/
def multiply (a b : Value) : Except Fault Value :=
  match repetition? a b with
  | some (seq, count) => Sequence.replicate seq count
  | none =>
    numeric .multiply (fun x y => checked .multiply (Integer.mul? x y)) (some Decimal.mul) a b

/-- Quotient toward zero, or the pieces of a sequence. -/
def divide (a b : Value) : Except Fault Value :=
  if a.isSequence || b.isSequence then Sequence.split a b
  else
    numeric .divide
      (fun x y => if y = 0 then .error .zeroDivisor else checked .divide (Integer.div? x y))
      (some Decimal.div) a b

/-- Remainder with the sign of the dividend. -/
def remainder (a b : Value) : Except Fault Value :=
  numeric .remainder
    (fun x y => if y = 0 then .error .zeroDivisor else checked .remainder (Integer.mod? x y))
    (some Decimal.rem) a b

/-- Exponents from here on are not computed exactly. -/
def exponentLimit : Int := 0x100000000

/-- Decimals from here on are even. -/
def parityLimit : Nat := 0x20000000000000

/-- Integer power. Below the limit it is exact. Any other exponent gives the integer part of the
real power of the nearest decimals: a negative one is a reciprocal, and what would be infinite is
refused like a division by zero. -/
def integerPower (x y : Int64) : Except Fault Int64 :=
  if 0 ≤ y.toInt ∧ y.toInt < exponentLimit then
    checked .power (Integer.pow? x y.toInt.toNat)
  else if x = 0 then
    if y.toInt < 0 then .error .zeroDivisor else .ok 0
  else if x = 1 then .ok 1
  else if x = -1 then
    .ok (if y.toInt % 2 = 1 ∧ y.toInt.natAbs < parityLimit then -1 else 1)
  else if y.toInt < 0 then .ok 0
  else .error .zeroDivisor

/-- Power, or the index of one sequence in another. -/
def power (a b : Value) : Except Fault Value :=
  if a.isSequence || b.isSequence then Sequence.indexOf a b
  else numeric .power integerPower (some Decimal.pow) a b

def bitAnd : Value → Value → Except Fault Value :=
  numeric .bitAnd (fun x y => .ok (x &&& y)) none

def bitOr : Value → Value → Except Fault Value :=
  numeric .bitOr (fun x y => .ok (x ||| y)) none

def bitXor : Value → Value → Except Fault Value :=
  numeric .bitXor (fun x y => .ok (x ^^^ y)) none

def complement : Value → Except Fault Value
  | .integer n => .ok (.integer (~~~n))
  | .string _ => .error .textAsBlock
  | other => .error (.undefinedFor .expand other.type)

/-- Moves a number or a code point by a distance, and keeps its type. -/
def step (value : Value) (distance : Int64) : Except Fault Value := do
  match value with
  | .character c => return .character (← Value.ofCode (c.toNat + distance.toInt))
  | .integer n =>
    let op : Operator := if 0 < distance.toInt then .last else .first
    return .integer (← checked op (Integer.add? n distance))
  | .decimal d => return .decimal (d.add (Decimal.ofInt distance.toInt))
  | other => throw (.cannotStep other.type)

/-- The element at an index of a sequence, or whether two values are equal. -/
def equal (a b : Value) : Except Fault Value :=
  match a.isSequence, b with
  | true, .integer n => Sequence.elementAt a n
  | _, _ => return .ofBool ((← Value.compare a b) == .eq)

/-- The first elements of a sequence, or whether one value is less than another. -/
def less (a b : Value) : Except Fault Value :=
  match a.isSequence, b with
  | true, .integer n => Sequence.take a n
  | _, _ => return .ofBool ((← Value.compare a b) == .lt)

/-- The later elements of a sequence, or whether one value is greater than another. -/
def greater (a b : Value) : Except Fault Value :=
  match a.isSequence, b with
  | true, .integer n => Sequence.drop a n
  | _, _ => return .ofBool ((← Value.compare a b) == .gt)

/-- One for what counts as false, zero for what counts as true. -/
def negation (value : Value) : Value :=
  .ofBool (!value.isTruthy)

/-- The second value if the first counts as true, and else the first. -/
def both (a b : Value) : Value :=
  if a.isTruthy then b else a

def either (a b : Value) : Value :=
  if a.isTruthy then a else b

/-- The lesser value, the first one of equals. -/
def minimum (a b : Value) : Except Fault Value := do
  match ← Value.compare a b with
  | .gt => return b
  | _ => return a

def maximum (a b : Value) : Except Fault Value := do
  match ← Value.compare a b with
  | .lt => return b
  | _ => return a

/-- The second or the third value, as the first counts as true or false. -/
def choose (condition yes no : Value) : Value :=
  if condition.isTruthy then yes else no

end Stackscript.Arithmetic
