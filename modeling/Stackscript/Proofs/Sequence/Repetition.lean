import Stackscript.Arithmetic
import Stackscript.Proofs.Value.Order

set_option autoImplicit false

/- Repetition. What it makes of a sequence is determined by its elements, but whether it makes it is
not: the limit on the length of the result counts bytes if the sequence is a string, so that strings
beyond ASCII are refused before they have as many elements as an array may have. -/
namespace Stackscript

/-- No text has more characters than bytes. -/
theorem Text.length_le_byteLength (t : Text) : t.length ≤ byteLength t := by
  induction t with
  | nil => exact Nat.le_refl 0
  | cons c cs ih =>
    have positive := c.utf8Size_pos
    rw [List.length_cons, byteLength]
    omega

namespace Sequence

section

variable {α β : Type}

theorem repeated_eq (times : Nat) (items : List α) :
    repeated times items = (List.replicate times items).flatten := by
  unfold repeated
  split
  · rename_i nothing
    rw [List.isEmpty_iff.1 nothing, List.flatten_replicate_nil]
  · rfl

theorem map_repeated (f : α → β) (times : Nat) (items : List α) :
    (repeated times items).map f = repeated times (items.map f) := by
  rw [repeated_eq, repeated_eq, List.map_flatten, List.map_replicate]

theorem repeated_succ (times : Nat) (items : List α) :
    repeated (times + 1) items = items ++ repeated times items := by
  rw [repeated_eq, repeated_eq, List.replicate_succ, List.flatten_cons]

theorem length_repeated (times : Nat) (items : List α) :
    (repeated times items).length = items.length * times := by
  induction times with
  | zero => rw [repeated_eq]; rfl
  | succ times ih => rw [repeated_succ, List.length_append, ih, Nat.mul_succ, Nat.add_comm]

/-- The elements of a repetition go round and round. -/
theorem getElem?_repeated {times i : Nat} {items : List α} (inside : i < items.length * times) :
    (repeated times items)[i]? = items[i % items.length]? := by
  induction times generalizing i with
  | zero => exact absurd inside (Nat.not_lt_zero i)
  | succ times ih =>
    rw [repeated_succ]
    by_cases first : i < items.length
    · rw [List.getElem?_append_left first, Nat.mod_eq_of_lt first]
    · have later : i - items.length < items.length * times := by
        rw [Nat.mul_succ] at inside
        omega
      rw [List.getElem?_append_right (Nat.not_lt.1 first), ih later,
        ← Nat.mod_eq_sub_mod (Nat.not_lt.1 first)]

end

/-- What the limit on repetition counts of a sequence: the bytes of a string, or the elements of an
array. -/
def extent : Value → Nat
  | .string t => Text.byteLength t
  | value => value.items.length

theorem length_items_le_extent (q : Value) : q.items.length ≤ extent q := by
  cases q with
  | string t =>
    rw [Value.items, List.length_map]
    exact Text.length_le_byteLength t
  | _ => exact Nat.le_refl _

/-- A sequence of the same type that consists of the elements of `q`, round and round, the given
number of times. -/
structure Rounds (q : Value) (times : Nat) (r : Value) : Prop where
  type : r.type = q.type
  length : r.items.length = q.items.length * times
  element : ∀ i < q.items.length * times, r.items[i]? = q.items[i % q.items.length]?

theorem Rounds.of_repeated {q r : Value} {times : Nat} (type : r.type = q.type)
    (items : r.items = repeated times q.items) : Rounds q times r := by
  refine ⟨type, ?_, fun i inside => ?_⟩
  · rw [items, length_repeated]
  · rw [items, getElem?_repeated inside]

variable {q : Value} {count : Int64}

theorem replicate_of_le (sequence : q.isSequence = true)
    (within : extent q * count.toInt.toNat ≤ repeatLimit) :
    ∃ r, replicate q count = .ok r ∧ Rounds q count.toInt.toNat r := by
  cases q with
  | string t =>
    have allowed : checkLength (Text.byteLength t) count.toInt.toNat = .ok () := if_pos within
    refine ⟨.string (repeated count.toInt.toNat t), ?_, .of_repeated rfl ?_⟩
    · simp only [replicate, allowed]
      rfl
    · exact map_repeated Value.character _ t
  | array elements =>
    have allowed : checkLength elements.length count.toInt.toNat = .ok () := if_pos within
    refine ⟨.array (repeated count.toInt.toNat elements), ?_, .of_repeated rfl rfl⟩
    simp only [replicate, allowed]
    rfl
  | _ => cases sequence

theorem replicate_of_lt (sequence : q.isSequence = true)
    (beyond : repeatLimit < extent q * count.toInt.toNat) :
    replicate q count = .error (.tooLong (extent q) count.toInt.toNat) := by
  have refused : checkLength (extent q) count.toInt.toNat =
      .error (.tooLong (extent q) count.toInt.toNat) := if_neg (Nat.not_le.2 beyond)
  cases q with
  | string t =>
    simp only [extent] at refused
    simp only [replicate, refused]
    rfl
  | array elements =>
    simp only [extent, Value.items] at refused
    simp only [replicate, refused]
    rfl
  | _ => cases sequence

/-- Multiplying a sequence and an integer repeats the sequence, whichever stands first. -/
theorem multiply_integer (sequence : q.isSequence = true) (count : Int64) :
    Arithmetic.multiply q (.integer count) = replicate q count ∧
      Arithmetic.multiply (.integer count) q = replicate q count := by
  cases q with
  | string t => exact ⟨rfl, rfl⟩
  | array elements => exact ⟨rfl, rfl⟩
  | _ => cases sequence

/-- Repetition does as its elements tell: they go round and round where the limit admits as many,
and where it does not there is an overflow. -/
structure RepetitionExact (q : Value) (count : Int64) : Prop where
  within : q.items.length * count.toInt.toNat ≤ repeatLimit →
    ∃ r, replicate q count = .ok r ∧ Rounds q count.toInt.toNat r
  beyond : repeatLimit < q.items.length * count.toInt.toNat →
    ∃ fault, replicate q count = .error fault ∧ fault.kind = .overflow

/-- Repetition is exact where the limit admits the sequence as it counts it, and past the limit. In
between, where it admits as many elements but not as many bytes, there is an overflow too. -/
theorem replicate_exact_iff (sequence : q.isSequence = true) (count : Int64) :
    (RepetitionExact q count ↔
      extent q * count.toInt.toNat ≤ repeatLimit ∨
        repeatLimit < q.items.length * count.toInt.toNat) ∧
    (extent q * count.toInt.toNat ≤ repeatLimit →
      ∃ r, replicate q count = .ok r ∧ Rounds q count.toInt.toNat r) ∧
    (repeatLimit < extent q * count.toInt.toNat →
      replicate q count = .error (.tooLong (extent q) count.toInt.toNat)) ∧
    Arithmetic.multiply q (.integer count) = replicate q count ∧
    Arithmetic.multiply (.integer count) q = replicate q count := by
  have fewer : q.items.length * count.toInt.toNat ≤ extent q * count.toInt.toNat :=
    Nat.mul_le_mul_right _ (length_items_le_extent q)
  refine ⟨⟨fun exact => ?_, fun outside => ?_⟩, replicate_of_le sequence,
    replicate_of_lt sequence, multiply_integer sequence count⟩
  · -- Where there are too many bytes, the elements that would not be too many are refused.
    by_cases admitted : extent q * count.toInt.toNat ≤ repeatLimit
    · exact .inl admitted
    · refine .inr (Nat.not_le.1 fun few => ?_)
      obtain ⟨r, result, -⟩ := exact.within few
      rw [replicate_of_lt sequence (Nat.not_le.1 admitted)] at result
      cases result
  · constructor
    · intro few
      rcases outside with admitted | many
      · exact replicate_of_le sequence admitted
      · exact absurd few (Nat.not_le.2 many)
    · intro many
      exact ⟨_, replicate_of_lt sequence (Nat.lt_of_lt_of_le many fewer), rfl⟩

/-- The longest string of a letter of two bytes. -/
theorem replicate_exact_iff_accent :
    (Value.string ['é']).isSequence = true ∧
      RepetitionExact (.string ['é']) 134217728 := by
  have sequence : (Value.string ['é']).isSequence = true := rfl
  have admitted : extent (.string ['é']) * (134217728 : Int64).toInt.toNat ≤ repeatLimit := by
    decide
  exact ⟨sequence, (replicate_exact_iff sequence 134217728).1.2 (.inl admitted)⟩

/-- One letter more is refused, though the limit is twice as many. -/
theorem replicate_not_exact :
    (Value.string ['é']).items.length * (134217729 : Int64).toInt.toNat ≤ repeatLimit ∧
      replicate (.string ['é']) 134217729 = .error (.tooLong 2 134217729) ∧
      ¬ RepetitionExact (.string ['é']) 134217729 := by
  have few : (Value.string ['é']).items.length * (134217729 : Int64).toInt.toNat ≤ repeatLimit := by
    decide
  have refused : replicate (.string ['é']) 134217729 = .error (.tooLong 2 134217729) :=
    replicate_of_lt rfl (by decide)
  refine ⟨few, refused, fun exact => ?_⟩
  obtain ⟨r, result, -⟩ := exact.within few
  rw [refused] at result
  cases result

end Sequence

end Stackscript
