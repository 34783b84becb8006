import Stackscript.Proofs.Value.Order
import Stackscript.Sequence.Basic

set_option autoImplicit false

/- Cutting a sequence at an index. A count below zero takes nothing and one past the end everything,
whereas an element has an index only from minus the length up to the length. The first and the last
element are split off as cutting there and looking the element up would do. -/
namespace Stackscript.Sequence

section

variable {q : Value}

/-- What is taken of a sequence is one of the same type. -/
theorem take_of_isSequence (sequence : q.isSequence = true) (n : Int64) :
    ∃ r, take q n = .ok r ∧ r.type = q.type ∧ r.items = q.items.take n.toInt.toNat := by
  cases q with
  | string t => exact ⟨_, rfl, rfl, List.map_take⟩
  | array elements => exact ⟨_, rfl, rfl, rfl⟩
  | _ => cases sequence

/-- What is left of a sequence is one of the same type. -/
theorem drop_of_isSequence (sequence : q.isSequence = true) (n : Int64) :
    ∃ r, drop q n = .ok r ∧ r.type = q.type ∧ r.items = q.items.drop n.toInt.toNat := by
  cases q with
  | string t => exact ⟨_, rfl, rfl, List.map_drop⟩
  | array elements => exact ⟨_, rfl, rfl, rfl⟩
  | _ => cases sequence

/-- What is taken and what is left are the whole. -/
theorem concat_take_drop (sequence : q.isSequence = true) (n : Int64) :
    (do concat (← take q n) (← drop q n)) = .ok q := by
  cases q with
  | string t =>
    change Except.ok (Value.string (t.take n.toInt.toNat ++ t.drop n.toInt.toNat)) = _
    rw [List.take_append_drop]
  | array elements =>
    change Except.ok (Value.array (elements.take n.toInt.toNat ++ elements.drop n.toInt.toNat)) = _
    rw [List.take_append_drop]
  | _ => cases sequence

/-- An element is found by its index, which may also be counted from the end. -/
theorem elementAt_of_index (sequence : q.isSequence = true) {n : Int64} {i : Nat}
    (inside : i < q.items.length)
    (index : n.toInt = i ∨ n.toInt = (i : Int) - q.items.length) :
    elementAt q n = .ok q.items[i] := by
  have offset : (if n.toInt < 0 then n.toInt + q.items.length else n.toInt) = (i : Int) := by
    split <;> omega
  have here : ¬ (i : Int) < 0 := by omega
  simp only [elementAt, Value.toArray_of_isSequence sequence, bind, Except.bind, offset,
    if_neg here, Int.toNat_natCast, List.getElem?_eq_getElem inside]
  rfl

/-- There are no elements at other indices. -/
theorem elementAt_of_outside (sequence : q.isSequence = true) {n : Int64}
    (outside : n.toInt < -(q.items.length : Int) ∨ (q.items.length : Int) ≤ n.toInt) :
    elementAt q n = .error (.outside n.toInt q.items.length) := by
  simp only [elementAt, Value.toArray_of_isSequence sequence, bind, Except.bind]
  generalize offset : (if n.toInt < 0 then n.toInt + (q.items.length : Int) else n.toInt) = o
  by_cases before : o < 0
  · rw [if_pos before]
    rfl
  · have past : q.items.length ≤ o.toNat := by
      split at offset <;> omega
    rw [if_neg before, List.getElem?_eq_none past]
    rfl

theorem exists_elementAt_iff (sequence : q.isSequence = true) (n : Int64) :
    (∃ x, elementAt q n = .ok x) ↔
      -(q.items.length : Int) ≤ n.toInt ∧ n.toInt < (q.items.length : Int) := by
  constructor
  · rintro ⟨x, found⟩
    refine Decidable.byContradiction fun beyond => ?_
    rw [elementAt_of_outside sequence (by omega)] at found
    cases found
  · rintro ⟨low, high⟩
    by_cases negative : n.toInt < 0
    · exact ⟨_, elementAt_of_index (i := (n.toInt + q.items.length).toNat) sequence (by omega)
        (.inr (by omega))⟩
    · exact ⟨_, elementAt_of_index (i := n.toInt.toNat) sequence (by omega) (.inl (by omega))⟩

theorem uncons_of_nonempty (sequence : q.isSequence = true) (nonempty : q.items ≠ []) :
    ∃ rest x, drop q 1 = .ok rest ∧ elementAt q 0 = .ok x ∧ uncons q = .ok (rest, x) := by
  have positive := List.length_pos_iff.2 nonempty
  have element := elementAt_of_index sequence (n := 0) positive (.inl rfl)
  cases q with
  | string t =>
    cases t with
    | nil => exact absurd rfl nonempty
    | cons c t => exact ⟨.string t, .character c, rfl, element, rfl⟩
  | array elements =>
    cases elements with
    | nil => exact absurd rfl nonempty
    | cons x elements => exact ⟨.array elements, x, rfl, element, rfl⟩
  | _ => cases sequence

theorem unsnoc_of_nonempty (sequence : q.isSequence = true) (nonempty : q.items ≠ []) {n : Int64}
    (last : n.toInt = (q.items.length : Int) - 1) :
    ∃ rest x, take q n = .ok rest ∧ elementAt q (-1) = .ok x ∧ unsnoc q = .ok (rest, x) := by
  have positive := List.length_pos_iff.2 nonempty
  have index : (-1 : Int64).toInt = ((q.items.length - 1 : Nat) : Int) - q.items.length := by
    rw [show (-1 : Int64).toInt = -1 from rfl]
    omega
  have element := elementAt_of_index sequence (Nat.sub_one_lt_of_lt positive) (.inr index)
  have count : n.toInt.toNat = q.items.length - 1 := by omega
  cases q with
  | string t =>
    obtain rfl | ⟨front, c, rfl⟩ := t.eq_nil_or_concat
    · exact absurd rfl nonempty
    · refine ⟨.string front, .character c, ?_, ?_, ?_⟩
      · simp [take, count, Value.items]
      · rw [element]
        simp [Value.items]
      · simp [unsnoc]
  | array elements =>
    obtain rfl | ⟨front, x, rfl⟩ := elements.eq_nil_or_concat
    · exact absurd rfl nonempty
    · refine ⟨.array front, x, ?_, ?_, ?_⟩
      · simp [take, count, Value.items]
      · rw [element]
        simp [Value.items]
      · simp [unsnoc]
  | _ => cases sequence

theorem endsOff_of_empty (sequence : q.isSequence = true) (empty : q.items = []) :
    uncons q = .error (.emptySequence .first) ∧ unsnoc q = .error (.emptySequence .last) := by
  cases q with
  | string t =>
    obtain rfl := List.map_eq_nil_iff.1 empty
    exact ⟨rfl, rfl⟩
  | array elements =>
    obtain rfl : elements = [] := empty
    exact ⟨rfl, rfl⟩
  | _ => cases sequence

end

def OutOfBounds {α : Type} (result : Except Fault α) : Prop :=
  ∃ fault, result = .error fault ∧ fault.kind = .indexOutOfBounds

/-- How the cuts of a sequence and its elements belong together. -/
structure SlicingLaws (q : Value) : Prop where
  /-- A cut parts the elements at the index, or at the nearer end. -/
  cut : ∀ n, ∃ front rest, take q n = .ok front ∧ drop q n = .ok rest ∧
    front.items = q.items.take n.toInt.toNat ∧ rest.items = q.items.drop n.toInt.toNat
  /-- The parts of a cut are the whole again. -/
  joined : ∀ n, (do concat (← take q n) (← drop q n)) = .ok q
  /-- The indices of elements reach from minus the length up to the length. -/
  succeeds : ∀ n, (∃ x, elementAt q n = .ok x) ↔
    -(q.items.length : Int) ≤ n.toInt ∧ n.toInt < (q.items.length : Int)
  /-- Each element has two indices. -/
  element : ∀ (n : Int64) (i : Nat) (_ : i < q.items.length),
    n.toInt = (i : Int) ∨ n.toInt = (i : Int) - q.items.length → elementAt q n = .ok q.items[i]
  /-- There is no element at any other index. -/
  outside : ∀ n, ¬(-(q.items.length : Int) ≤ n.toInt ∧ n.toInt < (q.items.length : Int)) →
    OutOfBounds (elementAt q n)
  /-- The first element is split off by a cut behind it. -/
  first : q.items ≠ [] → ∃ rest x,
    drop q 1 = .ok rest ∧ elementAt q 0 = .ok x ∧ uncons q = .ok (rest, x)
  /-- The last element is split off by a cut in front of it. -/
  last : q.items ≠ [] → ∀ n : Int64, n.toInt = (q.items.length : Int) - 1 → ∃ rest x,
    take q n = .ok rest ∧ elementAt q (-1) = .ok x ∧ unsnoc q = .ok (rest, x)
  /-- There is nothing to be split off an empty sequence. -/
  empty : q.items = [] → OutOfBounds (uncons q) ∧ OutOfBounds (unsnoc q)

/-- Strings and arrays are cut consistently, at every index. -/
theorem slicing_laws {q : Value} (sequence : q.isSequence = true) : SlicingLaws q where
  cut n := by
    obtain ⟨front, taken, -, items⟩ := take_of_isSequence sequence n
    obtain ⟨rest, dropped, -, items'⟩ := drop_of_isSequence sequence n
    exact ⟨front, rest, taken, dropped, items, items'⟩
  joined := concat_take_drop sequence
  succeeds := exists_elementAt_iff sequence
  element n i inside := elementAt_of_index sequence inside
  outside n beyond := ⟨_, elementAt_of_outside sequence (by omega), rfl⟩
  first := uncons_of_nonempty sequence
  last nonempty n := unsnoc_of_nonempty sequence nonempty
  empty nothing :=
    have ⟨first, last⟩ := endsOff_of_empty sequence nothing
    ⟨⟨_, first, rfl⟩, _, last, rfl⟩

/-- A string beyond ASCII, cut at the least and the greatest integer and behind its last character,
which is found from either end. -/
theorem slicing_laws_accent :
    let q : Value := .string ['a', 'é']
    q.isSequence = true ∧ SlicingLaws q ∧
      (do concat (← take q Int64.minValue) (← drop q Int64.minValue)) = .ok q ∧
      (do concat (← take q Int64.maxValue) (← drop q Int64.maxValue)) = .ok q ∧
      elementAt q (-1) = .ok (.character 'é') ∧ elementAt q 1 = .ok (.character 'é') ∧
      OutOfBounds (elementAt q Int64.minValue) ∧ OutOfBounds (elementAt q 2) ∧
      ∃ rest x, take q 1 = .ok rest ∧ elementAt q (-1) = .ok x ∧ unsnoc q = .ok (rest, x) := by
  intro q
  have sequence : q.isSequence = true := rfl
  have laws := slicing_laws sequence
  exact ⟨sequence, laws, laws.joined _, laws.joined _,
    laws.element (-1) 1 (by decide) (.inr (by decide)),
    laws.element 1 1 (by decide) (.inl (by decide)), laws.outside _ (by decide),
    laws.outside _ (by decide), laws.last (List.cons_ne_nil _ _) 1 (by decide)⟩

end Stackscript.Sequence
