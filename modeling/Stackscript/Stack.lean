import Stackscript.Value.Basic

set_option autoImplicit false

/- Stacks of values. The list is kept from the top down; `toList` views it from the bottom up. -/
namespace Stackscript

structure Stack where
  values : List Value

namespace Stack

def empty : Stack := ⟨[]⟩

instance : Inhabited Stack := ⟨empty⟩

/-- The stack of the given values, the last one on top. -/
def ofList (values : List Value) : Stack := ⟨values.reverse⟩

/-- The values from the bottom up. -/
def toList (s : Stack) : List Value := s.values.reverse

@[simp] theorem toList_ofList (values : List Value) : (ofList values).toList = values := by
  simp [ofList, toList]

@[simp] theorem ofList_toList (s : Stack) : ofList s.toList = s := by
  simp [ofList, toList]

def size (s : Stack) : Nat := s.values.length

def isEmpty (s : Stack) : Bool := s.values.isEmpty

def same (s t : Stack) : Bool := Value.sameAll s.values t.values

def push (s : Stack) (value : Value) : Stack := ⟨value :: s.values⟩

@[simp] theorem toList_push (s : Stack) (value : Value) :
    (s.push value).toList = s.toList ++ [value] := by
  simp [push, toList]

def pop (s : Stack) : Except Fault (Value × Stack) :=
  match s.values with
  | [] => .error (.underflow 1 0)
  | value :: rest => .ok (value, ⟨rest⟩)

/-- Fails unless there are at least `depth` values; no more than that many are looked at. -/
def require (s : Stack) (depth : Nat) : Except Fault Unit :=
  if (s.values.take depth).length < depth then .error (.underflow depth s.size) else .ok ()

theorem require_eq (s : Stack) (depth : Nat) :
    s.require depth =
      if s.size < depth then .error (.underflow depth s.size) else .ok () := by
  have bound : (s.values.take depth).length < depth ↔ s.size < depth := by
    simp only [List.length_take, size]
    omega
  simp only [require, bound]

def top? (s : Stack) : Option Value := s.values.head?

/-- The value at a distance from the top. -/
def peek (s : Stack) (n : Nat) : Except Fault Value :=
  match s.values[n]? with
  | some value => .ok value
  | none => .error (.underflow (n + 1) s.size)

/-- The value at a distance from the bottom. -/
def get? (s : Stack) (index : Nat) : Option Value := s.toList[index]?

/-- Puts the values of another stack on top, in their order. -/
def merge (s upper : Stack) : Stack := ⟨upper.values ++ s.values⟩

@[simp] theorem toList_merge (s upper : Stack) :
    (s.merge upper).toList = s.toList ++ upper.toList := by
  simp [merge, toList]

/-- Takes off the top `n` values together; gives what is left and what was taken. -/
def split (s : Stack) (n : Nat) : Except Fault (Stack × Stack) := do
  s.require n
  return (⟨s.values.drop n⟩, ⟨s.values.take n⟩)

/-- Moves the top below the `n - 1` values under it. -/
def rotateTop (s : Stack) (n : Nat) : Except Fault Stack := do
  let (lower, group) ← s.split n
  match group.values with
  | [] => return lower
  | top :: rest => return ⟨rest ++ top :: lower.values⟩

def duplicate (s : Stack) : Except Fault Stack := do
  return s.push (← s.peek 0)

/-- Drops the top; an empty stack stays empty. -/
def eraseTop (s : Stack) : Stack := ⟨s.values.tail⟩

def popBottom? (s : Stack) : Option (Value × Stack) :=
  match s.toList with
  | [] => none
  | value :: rest => some (value, ofList rest)

def takeBottom (s : Stack) (n : Nat) : Stack := ofList (s.toList.take n)

def skipBottom (s : Stack) (n : Nat) : Stack := ofList (s.toList.drop n)

end Stack

end Stackscript
