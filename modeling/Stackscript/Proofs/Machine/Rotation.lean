import Mathlib.Data.List.Rotate
import Stackscript.Machine.Meaning

set_option autoImplicit false

/- Turning the top of the stack. Counted from the top, one turn rotates the list of the values in
the group and leaves the list of those below, so that turns add up like rotations and as many turns
as the group has values are none. -/
namespace Stackscript

namespace Stack

theorem size_append (upper lower : List Value) :
    size ⟨upper ++ lower⟩ = upper.length + lower.length :=
  List.length_append

theorem get?_append (upper lower : List Value) (index : Nat) :
    get? ⟨upper ++ lower⟩ index = (lower.reverse ++ upper.reverse)[index]? := by
  rw [get?, toList, List.reverse_append]

/-- The values of a stack that is deep enough are in two parts, the upper one of the given size. -/
theorem exists_append {s : Stack} {n : Nat} (enough : n ≤ s.size) :
    ∃ upper lower, s = ⟨upper ++ lower⟩ ∧ upper.length = n := by
  refine ⟨s.values.take n, s.values.drop n, ?_, List.length_take_of_le enough⟩
  rw [List.take_append_drop]

theorem split_append (upper lower : List Value) :
    split ⟨upper ++ lower⟩ upper.length = .ok (⟨lower⟩, ⟨upper⟩) := by
  have enough : ¬ size ⟨upper ++ lower⟩ < upper.length := by
    rw [size_append]
    omega
  unfold split
  rw [require_eq, if_neg enough, List.take_left, List.drop_left]
  rfl

theorem rotateTop_of_shallow {s : Stack} {n : Nat} (shallow : s.size < n) :
    s.rotateTop n = .error (.underflow n s.size) := by
  unfold rotateTop split
  rw [require_eq, if_pos shallow]
  rfl

theorem rotateTop_append (group lower : List Value) :
    rotateTop ⟨group ++ lower⟩ group.length = .ok ⟨group.rotate 1 ++ lower⟩ := by
  unfold rotateTop
  rw [split_append]
  cases group with
  | nil => rfl
  | cons top rest =>
    rw [List.rotate_cons_succ, List.rotate_zero, List.append_assoc]
    rfl

/-- The second stack is the first with its top `n` values turned by one place: the old top lies
below the others, which have each risen by one, and what lay below them lies where it did. -/
structure Turned (n : Nat) (s t : Stack) : Prop where
  sameSize : t.size = s.size
  below : ∀ i, i + n < s.size → t.get? i = s.get? i
  sunk : 0 < n → t.get? (s.size - n) = s.top?
  risen : ∀ i, s.size ≤ i + n → i + 1 < s.size → t.get? (i + 1) = s.get? i

theorem turned_append (group lower : List Value) :
    Turned group.length ⟨group ++ lower⟩ ⟨group.rotate 1 ++ lower⟩ := by
  -- From the bottom up, a group `rest.reverse ++ [top]` becomes `top :: rest.reverse`.
  have bottom : lower.reverse.length = lower.length := List.length_reverse
  constructor
  · rw [size_append, size_append, List.length_rotate]
  · intro i inside
    rw [size_append] at inside
    have low : i < lower.reverse.length := by omega
    rw [get?_append, get?_append, List.getElem?_append_left low, List.getElem?_append_left low]
  · intro filled
    obtain ⟨top, rest, rfl⟩ := List.exists_cons_of_length_pos filled
    have lowest : size ⟨top :: rest ++ lower⟩ - (top :: rest).length = lower.reverse.length := by
      rw [size_append]
      omega
    rw [lowest, get?_append, List.getElem?_append_right (Nat.le_refl _), Nat.sub_self,
      List.rotate_cons_succ, List.rotate_zero, List.reverse_concat]
    rfl
  · intro i high inside
    rw [size_append] at high inside
    have above : lower.reverse.length ≤ i := by omega
    have raised : lower.reverse.length ≤ i + 1 := by omega
    obtain ⟨top, rest, rfl⟩ := List.exists_cons_of_length_pos (l := group) (by omega)
    have inGroup : i - lower.reverse.length < rest.reverse.length := by
      rw [List.length_cons] at inside
      simp only [List.length_reverse]
      omega
    rw [get?_append, get?_append, List.rotate_cons_succ, List.rotate_zero, List.reverse_concat,
      List.getElem?_append_right raised, List.getElem?_append_right above, Nat.sub_add_comm above,
      List.getElem?_cons_succ, List.reverse_cons, List.getElem?_append_left inGroup]

end Stack

namespace Engine

variable {change : Stack → Except Fault Stack} {m : Machine}

theorem onLive_of_ok {t : Stack} (changed : change m.stack = .ok t) :
    onLive change m = .done () { m with stack := t } := by
  simp only [onLive, Run.stack, Run.bind_apply, changed]
  rfl

theorem onLive_of_error {fault : Fault} (refused : change m.stack = .error fault) :
    onLive change m = .failed (.ofFault fault) m := by
  simp only [onLive, Run.stack, Run.bind_apply, refused]
  rfl

end Engine

namespace Run

def rotateTop (n : Nat) : Run Unit :=
  Engine.onLive fun s => s.rotateTop n

theorem rotateTop_apply {m : Machine} {group lower : List Value}
    (held : m.stack = ⟨group ++ lower⟩) :
    rotateTop group.length m = .done () { m with stack := ⟨group.rotate 1 ++ lower⟩ } := by
  refine Engine.onLive_of_ok ?_
  rw [held]
  exact Stack.rotateTop_append group lower

/-- Any number of turns is one rotation by that number. -/
theorem times_rotateTop {m : Machine} {group lower : List Value}
    (held : m.stack = ⟨group ++ lower⟩) (count : Nat) :
    times (rotateTop group.length) count m =
      .done () { m with stack := ⟨group.rotate count ++ lower⟩ } := by
  induction count generalizing m group with
  | zero =>
    rw [List.rotate_zero, ← held]
    rfl
  | succ count ih =>
    -- The first turn leaves a group of the same size to the others.
    have others := ih (m := { m with stack := ⟨group.rotate 1 ++ lower⟩ }) rfl
    rw [List.length_rotate, List.rotate_rotate, Nat.add_comm] at others
    rw [times, bind_apply, rotateTop_apply held]
    exact others

end Run

/-- A turn of more values than there are fails and leaves the machine. Any other is a cyclic shift
of the top values, which comes round after as many turns as it shifts values; and as many values can
be split off, which make up the same stack when they are put on again. -/
theorem rotateTop_cyclic (m : Machine) (n : Nat) :
    (m.stack.size < n →
      Run.rotateTop n m = .failed (.ofFault (.underflow n m.stack.size)) m) ∧
    (n ≤ m.stack.size →
      (∃ t, Run.rotateTop n m = .done () { m with stack := t } ∧ m.stack.Turned n t) ∧
      Run.times (Run.rotateTop n) n m = .done () m ∧
      ∃ lower upper, m.stack.split n = .ok (lower, upper) ∧ upper.size = n ∧
        lower.merge upper = m.stack) := by
  constructor
  · intro shallow
    exact Engine.onLive_of_error (Stack.rotateTop_of_shallow shallow)
  · intro enough
    obtain ⟨group, lower, held, rfl⟩ := Stack.exists_append enough
    refine ⟨⟨_, Run.rotateTop_apply held, ?_⟩, ?_, ⟨lower⟩, ⟨group⟩, ?_, rfl, held.symm⟩
    · rw [held]
      exact Stack.turned_append group lower
    · rw [Run.times_rotateTop held, List.rotate_length, ← held]
    · rw [held]
      exact Stack.split_append group lower

/-- Of four values the top three are shifted, come round after three turns, and can be split off; a
fifth to turn is not there. -/
theorem rotateTop_cyclic_four :
    let shifted : Stack := .ofList [.integer 1, .integer 4, .integer 2, .integer 3]
    ∃ m : Machine, m.stack = .ofList [.integer 1, .integer 2, .integer 3, .integer 4] ∧
      m.stack.size < 5 ∧ Run.rotateTop 5 m = .failed (.ofFault (.underflow 5 4)) m ∧
      3 ≤ m.stack.size ∧ Run.rotateTop 3 m = .done () { m with stack := shifted } ∧
      m.stack.Turned 3 shifted ∧ Run.times (Run.rotateTop 3) 3 m = .done () m ∧
      ∃ lower upper, m.stack.split 3 = .ok (lower, upper) ∧ upper.size = 3 ∧
        lower.merge upper = m.stack := by
  intro shifted
  let m : Machine := { Machine.initial .empty {} with
    stack := .ofList [.integer 1, .integer 2, .integer 3, .integer 4] }
  have shallow : m.stack.size < 5 := by decide
  have enough : 3 ≤ m.stack.size := by decide
  have turn : Run.rotateTop 3 m = .done () { m with stack := shifted } := rfl
  obtain ⟨⟨t, turned, cyclic⟩, round, parts⟩ := (rotateTop_cyclic m 3).2 enough
  rw [turn] at turned
  cases turned
  exact ⟨m, rfl, shallow, (rotateTop_cyclic m 5).1 shallow, enough, turn, cyclic, round, parts⟩

end Stackscript
