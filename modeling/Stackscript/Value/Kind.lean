set_option autoImplicit false

/- The types of values, and among them the kinds that can be promoted to one another. -/
namespace Stackscript

inductive ValueType where
  | character | integer | decimal | string | array | block
  deriving DecidableEq, Repr

def ValueType.name : ValueType → String
  | .character => "Character"
  | .integer => "Integer"
  | .decimal => "Decimal"
  | .string => "String"
  | .array => "Array"
  | .block => "Block"

/-- The types that take part in promotion, from the narrowest to the widest. -/
inductive Kind where
  | character | integer | decimal | string | array
  deriving DecidableEq, Repr

namespace Kind

def type : Kind → ValueType
  | .character => .character
  | .integer => .integer
  | .decimal => .decimal
  | .string => .string
  | .array => .array

/-- Place in the order of promotion. -/
def rank : Kind → Nat
  | .character => 0
  | .integer => 1
  | .decimal => 2
  | .string => 3
  | .array => 4

def wider (a b : Kind) : Kind :=
  if a.rank ≤ b.rank then b else a

def name (kind : Kind) : String :=
  kind.type.name

def all : List Kind := [.character, .integer, .decimal, .string, .array]

def ofName? (name : String) : Option Kind :=
  all.find? fun kind => kind.name == name

end Kind

end Stackscript
