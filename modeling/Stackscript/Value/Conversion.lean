import Stackscript.Decimal.Reader
import Stackscript.Value.Printer

set_option autoImplicit false

/- Conversions between types, and promotion: two values meet at the wider of their kinds. -/
namespace Stackscript.Value

def code (c : Char) : Int64 :=
  Int64.ofNat c.toNat

def ofCode (code : Int) : Except Fault Char :=
  if 0 ≤ code ∧ code.toNat.isValidChar then .ok (Char.ofNat code.toNat)
  else .error (.invalidCode code)

/-- The integer part of a decimal. One past the largest integer is taken for the largest, because
the range is checked on decimals and that is where its end lies among them. -/
def truncate (d : Decimal) : Except Fault Int64 :=
  match d.truncate? with
  | none => .error (.doesNotFit d)
  | some n =>
    if Integer.least ≤ n ∧ n ≤ Integer.greatest + 1 then .ok (Integer.clamp n)
    else .error (.doesNotFit d)

/-- Reads an integer between whitespace; what is not one may be a decimal with an integer part. -/
def readInteger (t : Text) : Except Fault Int64 :=
  match Integer.read? (Text.trim t) with
  | some n => .ok n
  | none =>
    match Decimal.read? (Text.trim t) with
    | some d => truncate d
    | none => .error (.notInteger t)

def readDecimal (t : Text) : Except Fault Decimal :=
  match Decimal.read? (Text.trim t) with
  | some d => .ok d
  | none => .error (.notDecimal t)

/-- A value as a character: by its code point, or the first of a string. -/
def toCharacter : Value → Except Fault Char
  | .character c => .ok c
  | .integer n => ofCode n.toInt
  | .decimal d => do ofCode (← truncate d).toInt
  | .string t => .ok (t.headD '\x00')
  | .array _ => .error (.arrayConversion .character)
  | .block _ => .error (.blockConversion .character)

def toInteger : Value → Except Fault Int64
  | .character c => .ok (code c)
  | .integer n => .ok n
  | .decimal d => truncate d
  | .string t => readInteger t
  | .array _ => .error (.arrayConversion .integer)
  | .block _ => .error (.blockConversion .integer)

def toDecimal : Value → Except Fault Decimal
  | .character c => .ok (Decimal.ofInt c.toNat)
  | .integer n => .ok (Decimal.ofInt n.toInt)
  | .decimal d => .ok d
  | .string t => readDecimal t
  | .array _ => .error (.arrayConversion .decimal)
  | .block _ => .error (.blockConversion .decimal)

def toText : Value → Except Fault Text
  | .block _ => .error (.blockConversion .string)
  | value => .ok value.render

/-- A value as an array: a string gives its characters, and a single value an array of one. -/
def toArray : Value → Except Fault (List Value)
  | .array elements => .ok elements
  | .string t => .ok (t.map .character)
  | .block _ => .error (.blockConversion .array)
  | value => .ok [value]

def convert (value : Value) : Kind → Except Fault Value
  | .character => .character <$> value.toCharacter
  | .integer => .integer <$> value.toInteger
  | .decimal => .decimal <$> value.toDecimal
  | .string => .string <$> value.toText
  | .array => .array <$> value.toArray

inductive Promoted where
  | characters (a b : Char)
  | integers (a b : Int64)
  | decimals (a b : Decimal)
  | strings (a b : Text)
  | arrays (a b : List Value)

namespace Promoted

def type : Promoted → ValueType
  | .characters .. => .character
  | .integers .. => .integer
  | .decimals .. => .decimal
  | .strings .. => .string
  | .arrays .. => .array

def values : Promoted → Value × Value
  | .characters a b => (.character a, .character b)
  | .integers a b => (.integer a, .integer b)
  | .decimals a b => (.decimal a, .decimal b)
  | .strings a b => (.string a, .string b)
  | .arrays a b => (.array a, .array b)

end Promoted

/-- Converts two values to the wider of their kinds. -/
def promote (a b : Value) : Except Fault Promoted := do
  match (← a.kind).wider (← b.kind) with
  | .character => return .characters (← a.toCharacter) (← b.toCharacter)
  | .integer => return .integers (← a.toInteger) (← b.toInteger)
  | .decimal => return .decimals (← a.toDecimal) (← b.toDecimal)
  | .string => return .strings (← a.toText) (← b.toText)
  | .array => return .arrays (← a.toArray) (← b.toArray)

end Stackscript.Value
