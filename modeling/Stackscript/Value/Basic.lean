import Stackscript.Fault
import Stackscript.Token.Lexer

set_option autoImplicit false

/- The values a program works on, their equality and their truth. -/
namespace Stackscript

/-- Program text that has not been run, and the place its first character was written at. -/
structure Block where
  source : Text
  position : Position

namespace Block

/-- The tokens of the text, or why it has none. -/
def code (block : Block) : Except LexError (List Token) :=
  tokenizeAt block.position block.source

/-- Whether the text is nothing but whitespace. -/
def isEmpty (block : Block) : Bool :=
  (Text.trim block.source).isEmpty

end Block

/-- Values. An array holds its elements from the first to the last. -/
inductive Value where
  | character (c : Char)
  | integer (n : Int64)
  | decimal (d : Decimal)
  | string (t : Text)
  | array (elements : List Value)
  | block (b : Block)

namespace Value

instance : Inhabited Value := ⟨.array []⟩

mutual

/-- Structural equality: values of different types differ, decimals are the same by their order,
and blocks are the same when their texts are, wherever they were written. -/
def same : Value → Value → Bool
  | .character a, .character b => a == b
  | .integer a, .integer b => a == b
  | .decimal a, .decimal b => a.same b
  | .string a, .string b => a == b
  | .array a, .array b => sameAll a b
  | .block a, .block b => a.source == b.source
  | _, _ => false

def sameAll : List Value → List Value → Bool
  | [], [] => true
  | a :: as, b :: bs => same a b && sameAll as bs
  | _, _ => false

end

instance : BEq Value := ⟨same⟩

def type : Value → ValueType
  | .character _ => .character
  | .integer _ => .integer
  | .decimal _ => .decimal
  | .string _ => .string
  | .array _ => .array
  | .block _ => .block

/-- The kind of a value; a block has none. -/
def kind : Value → Except Fault Kind
  | .character _ => .ok .character
  | .integer _ => .ok .integer
  | .decimal _ => .ok .decimal
  | .string _ => .ok .string
  | .array _ => .ok .array
  | .block _ => .error .blockInPromotion

def isSequence : Value → Bool
  | .string _ | .array _ => true
  | _ => false

/-- Whether a value counts as true: neither zero nor empty. -/
def isTruthy : Value → Bool
  | .character c => c != '\x00'
  | .integer n => n != 0
  | .decimal d => !d.isZero
  | .string t => !t.isEmpty
  | .array elements => !elements.isEmpty
  | .block b => !b.isEmpty

def ofBool (b : Bool) : Value :=
  .integer (if b then 1 else 0)

end Value

end Stackscript
