import Stackscript.Proofs.Sequence.Characters
import Stackscript.Proofs.Sequence.Search
import Stackscript.Proofs.Sequence.Slicing

set_option autoImplicit false

/- Searching a sequence for another one. The index that is found is the least one behind which the
sequence goes on with the pattern, so that the pattern ends inside it; a pattern that is longer than
what is left stands nowhere. -/
namespace Stackscript.Sequence

/-- The first match ends inside the list. -/
theorem OccursAt.add_length_le {α : Type} [BEq α] {pattern items : List α} {i : Nat}
    (occurs : OccursAt pattern items i) (least : ∀ j < i, ¬ OccursAt pattern items j) :
    i + pattern.length ≤ items.length := by
  have fits := occurs.length_le
  by_cases inside : i ≤ items.length
  · omega
  · -- Past the end only the empty pattern stands, and that stands at the front before.
    have empty : pattern = [] := List.length_eq_zero_iff.1 (by omega)
    subst empty
    exact absurd (occursAt_nil items 0) (least 0 (by omega))

/-- The search in a list whose length is an integer finds the least index, or there is none. -/
theorem position_cases {α : Type} [BEq α] [PartialEquivBEq α] {items : List α}
    (pattern : List α) (short : items.length < 2 ^ 63) :
    (∃ i : Nat, (position items pattern).toInt = i ∧ i + pattern.length ≤ items.length ∧
        OccursAt pattern items i ∧ ∀ j < i, ¬ OccursAt pattern items j) ∨
      position items pattern = -1 ∧ ∀ i, ¬ OccursAt pattern items i := by
  unfold position
  cases found : indexOf? pattern items with
  | none => exact .inr ⟨rfl, indexOf?_eq_none_iff.1 found⟩
  | some i =>
    obtain ⟨occurs, least⟩ := indexOf?_eq_some_iff.1 found
    have inside := occurs.add_length_le least
    exact .inl ⟨i, Int64.toInt_ofNat_of_lt (by omega), inside, occurs, least⟩

/-- The sequence, from the index on, begins with the pattern. -/
def StandsAt (pattern q : Value) (k : Int64) : Prop :=
  ∃ rest, drop q k = .ok rest ∧
    (rest.items.take pattern.items.length == pattern.items) = true

theorem standsAt_iff {q : Value} (sequence : q.isSequence = true) (pattern : Value) (k : Int64) :
    StandsAt pattern q k ↔ OccursAt pattern.items q.items k.toInt.toNat := by
  obtain ⟨rest, dropped, -, items⟩ := drop_of_isSequence sequence k
  unfold StandsAt OccursAt
  rw [← items]
  constructor
  · rintro ⟨rest', dropped', same⟩
    rw [dropped] at dropped'
    cases dropped'
    exact same
  · intro same
    exact ⟨rest, dropped, same⟩

/-- Strings are searched as arrays of their characters would be. -/
theorem indexOf_eq {q pattern : Value} (sequence : q.isSequence = true)
    (sequence' : pattern.isSequence = true) :
    indexOf q pattern = .ok (.integer (position q.items pattern.items)) := by
  cases q with
  | string t =>
    cases pattern with
    | string p =>
      change Except.ok (Value.integer (position t p)) = _
      rw [← position_map Value.beq_character]
      rfl
    | array elements => rfl
    | _ => cases sequence'
  | array elements =>
    cases pattern with
    | string p => rfl
    | array elements => rfl
    | _ => cases sequence'
  | _ => cases sequence

/-- Searching a sequence for a pattern finds the least index from which on the sequence begins with
the pattern, and gives minus one exactly if there is none. What it finds lies inside the sequence,
whose length is an integer. -/
theorem indexOf_first {q pattern : Value} (sequence : q.isSequence = true)
    (sequence' : pattern.isSequence = true) (short : q.items.length < 2 ^ 63) :
    ∃ r : Int64, indexOf q pattern = .ok (.integer r) ∧
      (∀ k : Int64, 0 ≤ k → (r = k ↔
        StandsAt pattern q k ∧ ∀ j : Int64, 0 ≤ j → j < k → ¬ StandsAt pattern q j)) ∧
      (r = -1 ↔ ∀ k : Int64, 0 ≤ k → ¬ StandsAt pattern q k) ∧
      (r ≠ -1 → 0 ≤ r ∧ r.toInt + pattern.items.length ≤ q.items.length) := by
  refine ⟨_, indexOf_eq sequence sequence', ?_⟩
  have minusOne : (-1 : Int64).toInt = -1 := rfl
  have zero : (0 : Int64).toInt = 0 := rfl
  simp only [standsAt_iff sequence, Int64.le_iff_toInt_le, Int64.lt_iff_toInt_lt, zero]
  obtain ⟨i, value, inside, occurs, least⟩ | ⟨value, absent⟩ :=
    position_cases pattern.items short
  · generalize position q.items pattern.items = r at value
    have nonnegative : r ≠ -1 := by
      rintro rfl
      omega
    have here : OccursAt pattern.items q.items r.toInt.toNat := by
      rwa [value, Int.toNat_natCast]
    refine ⟨fun k positive => ⟨?_, ?_⟩, ?_, fun _ => ⟨by omega, by omega⟩⟩
    · rintro rfl
      exact ⟨here, fun j _ before => least _ (by omega)⟩
    · rintro ⟨stands, first⟩
      have behind : ¬ k.toInt.toNat < i := fun before => least _ before stands
      have front : ¬ r.toInt < k.toInt := fun before => first r (by omega) before here
      exact Int64.toInt_inj.1 (by omega)
    · exact iff_of_false nonnegative fun nowhere => nowhere r (by omega) here
  · rw [value]
    refine ⟨fun k positive => iff_of_false ?_ fun stands => absent _ stands.1,
      iff_of_true rfl fun k _ => absent _, fun other => absurd rfl other⟩
    rintro rfl
    omega

/-- The pattern begins twice before it stands, beyond a letter of two bytes, and ends the string;
the string with one letter more does not stand in it. -/
theorem indexOf_first_overlapping :
    let q : Value := .string ['é', 'a', 'a', 'a', 'b']
    let pattern : Value := .string ['a', 'a', 'b']
    let longer : Value := .string ['é', 'a', 'a', 'a', 'b', 'b']
    q.isSequence = true ∧ pattern.isSequence = true ∧ longer.isSequence = true ∧
      q.items.length < 2 ^ 63 ∧ indexOf q pattern = .ok (.integer 2) ∧ StandsAt pattern q 2 ∧
      (∀ j : Int64, 0 ≤ j → j < 2 → ¬ StandsAt pattern q j) ∧
      indexOf q longer = .ok (.integer (-1)) ∧ ∀ k : Int64, 0 ≤ k → ¬ StandsAt longer q k := by
  intro q pattern longer
  have sequence : pattern.isSequence = true := rfl
  have sequence' : longer.isSequence = true := rfl
  have short : q.items.length < 2 ^ 63 := by decide
  have found : indexOf q pattern = .ok (.integer 2) := by cbv
  have missed : indexOf q longer = .ok (.integer (-1)) := by cbv
  obtain ⟨r, result, first, -, -⟩ := indexOf_first rfl sequence short
  obtain ⟨r', result', -, nowhere, -⟩ := indexOf_first rfl sequence' short
  rw [found] at result
  rw [missed] at result'
  cases result
  cases result'
  have least := (first 2 (by decide)).1 rfl
  exact ⟨rfl, rfl, rfl, short, found, least.1, least.2, missed, nowhere.1 rfl⟩

end Stackscript.Sequence
