import Stackscript.Value.Conversion

set_option autoImplicit false

/- The order of values: two values are promoted and compared at their common kind, arrays element by
element. Each step into arrays lowers the greater of the two depths, which bounds the recursion. -/
namespace Stackscript

namespace Text

/-- Order by code points, first difference first. -/
def compare : Text → Text → Ordering :=
  List.compareLex fun a b => Ord.compare a.toNat b.toNat

end Text

namespace Value

/-- Compares lists element by element; a list that ends first is less. -/
def lexicographic {α β ε : Type} (cmp : α → β → Except ε Ordering) :
    List α → List β → Except ε Ordering
  | [], [] => .ok .eq
  | [], _ :: _ => .ok .lt
  | _ :: _, [] => .ok .gt
  | a :: as, b :: bs => do
    match ← cmp a b with
    | .eq => lexicographic cmp as bs
    | order => return order

mutual

def depth : Value → Nat
  | .array elements => depthAll elements + 1
  | _ => 0

def depthAll : List Value → Nat
  | [] => 0
  | value :: values => max (depth value) (depthAll values)

end

/-- The order of two values down to a given depth; below it all are equal. -/
def compareWithin : Nat → Value → Value → Except Fault Ordering
  | 0, _, _ => .ok .eq
  | depth + 1, a, b => do
    match ← promote a b with
    | .characters a b => return Ord.compare a.toNat b.toNat
    | .integers a b => return Ord.compare a.toInt b.toInt
    | .decimals a b => return a.compare b
    | .strings a b => return Text.compare a b
    | .arrays as bs => lexicographic (compareWithin depth) as bs

/-- The order of two values; it fails where a block has to be compared. -/
def compare (a b : Value) : Except Fault Ordering :=
  compareWithin (max a.depth b.depth + 1) a b

def less (a b : Value) : Except Fault Bool :=
  return (← compare a b) == .lt

end Value

end Stackscript
