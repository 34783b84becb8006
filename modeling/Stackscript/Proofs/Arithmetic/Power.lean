import Mathlib
import Stackscript.Arithmetic

set_option autoImplicit false

/- Powers of integers. With an exponent below the limit the result is the mathematical power, or an
overflow where that does not fit. From the limit on the real power takes over: it is right for the
bases whose powers stay small, apart from the sign of minus one at exponents that decimals round to
even ones, and for all other bases it is infinite and counts as a division by zero. -/
namespace Stackscript

namespace Integer

/-- A word fits an integer exactly if it is that integer. -/
theorem fit?_eq_some_iff {v : Int} {n : Int64} : fit? v = some n ↔ n.toInt = v := by
  have low := n.le_toInt
  have high := n.toInt_lt
  unfold fit? least greatest
  split
  · rename_i inside
    have back : (Int64.ofInt v).toInt = v :=
      Int64.toInt_ofInt_of_le (by omega) (by omega)
    rw [Option.some.injEq]
    constructor
    · rintro rfl
      exact back
    · rintro rfl
      exact Int64.ofInt_toInt n
  · rename_i outside
    constructor
    · intro impossible
      cases impossible
    · rintro rfl
      exact absurd ⟨by omega, by omega⟩ outside

theorem fit?_eq_none_iff {v : Int} : fit? v = none ↔ ∀ n : Int64, n.toInt ≠ v := by
  simp only [Option.eq_none_iff_forall_ne_some, ne_eq, fit?_eq_some_iff]

theorem fit?_toInt (n : Int64) : fit? n.toInt = some n :=
  fit?_eq_some_iff.2 rfl

/-- The powers of minus one, zero and one are among these three. -/
theorem pow_of_natAbs_le_one {v : Int} (small : v.natAbs ≤ 1) (exponent : Nat) :
    v ^ exponent =
      if v = -1 ∧ exponent % 2 = 0 then 1 else if exponent = 0 then 1 else v := by
  have cases : v = -1 ∨ v = 0 ∨ v = 1 := by omega
  rcases cases with rfl | rfl | rfl
  · rcases Nat.even_or_odd exponent with even | odd
    · simp only [even.neg_one_pow, Nat.even_iff.1 even, and_self, ↓reduceIte]
    · have positive := odd.pos
      have notEven : ¬ exponent % 2 = 0 := by
        have := Nat.odd_iff.1 odd
        omega
      simp only [odd.neg_one_pow, notEven, and_false, ↓reduceIte, positive.ne']
  · by_cases nothing : exponent = 0
    · simp [nothing]
    · simp [nothing]
  · simp

/-- Any other integer leaves the range at exponent sixty-four. -/
theorem natAbs_pow_of_ge {v : Int} (large : 1 < v.natAbs) {exponent : Nat} (many : 64 ≤ exponent) :
    2 ^ 64 ≤ (v ^ exponent).natAbs :=
  calc
    2 ^ 64 ≤ 2 ^ exponent := Nat.pow_le_pow_right (by decide) many
    _ ≤ v.natAbs ^ exponent := Nat.pow_le_pow_left large exponent
    _ = (v ^ exponent).natAbs := (Int.natAbs_pow v exponent).symm

theorem fit?_pow_of_ge {v : Int} (large : 1 < v.natAbs) {exponent : Nat} (many : 64 ≤ exponent) :
    fit? (v ^ exponent) = none := by
  refine fit?_eq_none_iff.2 fun n same => ?_
  have past := natAbs_pow_of_ge large many
  have low := n.le_toInt
  have high := n.toInt_lt
  rw [← same] at past
  omega

/-- The checked power is the mathematical one, if it fits. -/
theorem pow?_eq (x : Int64) (exponent : Nat) : pow? x exponent = fit? (x.toInt ^ exponent) := by
  unfold pow?
  split
  · rename_i small
    rw [pow_of_natAbs_le_one small]
    split
    · rfl
    · split
      · rfl
      · exact (fit?_toInt x).symm
  · rename_i large
    split
    · rename_i many
      exact (fit?_pow_of_ge (by omega) many).symm
    · rfl

end Integer

namespace Arithmetic

variable {x y : Int64}

theorem power_integers (x y : Int64) :
    power (.integer x) (.integer y) = .integer <$> integerPower x y :=
  rfl

/-- Below the limit the power is checked. -/
theorem integerPower_of_lt (nonnegative : 0 ≤ y.toInt) (below : y.toInt < exponentLimit) :
    integerPower x y = checked .power (Integer.fit? (x.toInt ^ y.toInt.toNat)) := by
  rw [integerPower, if_pos ⟨nonnegative, below⟩, Integer.pow?_eq]

/-- From the limit on the powers of large bases are infinite. -/
theorem integerPower_of_large (huge : exponentLimit ≤ y.toInt) (large : 1 < x.toInt.natAbs) :
    integerPower x y = .error .zeroDivisor := by
  have past : ¬ (0 ≤ y.toInt ∧ y.toInt < exponentLimit) := by omega
  have positive : ¬ y.toInt < 0 := by
    unfold exponentLimit at huge
    omega
  have notZero : x ≠ 0 := by
    rintro rfl
    exact absurd large (by decide)
  have notOne : x ≠ 1 := by
    rintro rfl
    exact absurd large (by decide)
  have notMinus : x ≠ -1 := by
    rintro rfl
    exact absurd large (by decide)
  simp only [integerPower, past, notZero, notOne, notMinus, positive, ↓reduceIte]

/-- The sign of a power of minus one is lost: the exponent is odd, and the decimal next to it is
even. -/
def SignLost (x y : Int64) : Prop :=
  x = -1 ∧ y.toInt % 2 = 1 ∧ parityLimit ≤ y.toInt

/-- From the limit on the powers of small bases are exact, but for a sign. -/
theorem integerPower_of_small (huge : exponentLimit ≤ y.toInt) (small : x.toInt.natAbs ≤ 1) :
    ∃ n : Int64, integerPower x y = .ok n ∧
      (n.toInt = x.toInt ^ y.toInt.toNat ↔ ¬ SignLost x y) := by
  have past : ¬ (0 ≤ y.toInt ∧ y.toInt < exponentLimit) := by omega
  have positive : 0 < y.toInt := by
    unfold exponentLimit at huge
    omega
  have exponent : y.toInt.toNat ≠ 0 := by omega
  have bases : x = 0 ∨ x = 1 ∨ x = -1 := by
    rcases (by omega : x.toInt = 0 ∨ x.toInt = 1 ∨ x.toInt = -1) with zero | one | minus
    · exact .inl (Int64.toInt_inj.1 zero)
    · exact .inr (.inl (Int64.toInt_inj.1 one))
    · exact .inr (.inr (Int64.toInt_inj.1 minus))
  rw [Integer.pow_of_natAbs_le_one small]
  rcases bases with rfl | rfl | rfl
  · refine ⟨0, ?_, ?_⟩
    · simp only [integerPower, past, ↓reduceIte, positive.not_gt]
    · have zero : (0 : Int64).toInt = 0 := rfl
      have other : (0 : Int64) ≠ -1 := by decide
      simp only [SignLost, zero, other, exponent, Int.reduceNeg, Int.reduceEq, false_and,
        ↓reduceIte, not_false_eq_true]
  · refine ⟨1, ?_, ?_⟩
    · simp [integerPower, past]
    · simp [SignLost]
  · refine ⟨if y.toInt % 2 = 1 ∧ y.toInt.natAbs < parityLimit then -1 else 1, ?_, ?_⟩
    · simp [integerPower, past]
    · have minus : (-1 : Int64).toInt = -1 := rfl
      have one : (1 : Int64).toInt = 1 := rfl
      have parity : y.toInt.toNat % 2 = 0 ↔ ¬ y.toInt % 2 = 1 := by omega
      have reach : parityLimit ≤ y.toInt ↔ ¬ y.toInt.natAbs < parityLimit := by omega
      simp only [SignLost, minus, parity, reach, exponent, true_and, ↓reduceIte]
      by_cases odd : y.toInt % 2 = 1
      · by_cases near : y.toInt.natAbs < parityLimit
        · simp [odd, near]
        · simp [odd, near]
      · simp [odd]

/-- Raising `x` to the power `y` does what mathematics says: the power is the result where it is an
integer of the program, and where it is none there is an overflow. -/
structure PowerExact (x y : Int64) : Prop where
  result : ∀ n : Int64, n.toInt = x.toInt ^ y.toInt.toNat →
    power (.integer x) (.integer y) = .ok (.integer n)
  overflow : (∀ n : Int64, n.toInt ≠ x.toInt ^ y.toInt.toNat) →
    ∃ fault, power (.integer x) (.integer y) = .error fault ∧ fault.kind = .overflow

theorem PowerExact.of_checked
    (checked : integerPower x y = checked .power (Integer.fit? (x.toInt ^ y.toInt.toNat))) :
    PowerExact x y := by
  constructor
  · intro n same
    rw [power_integers, checked, Integer.fit?_eq_some_iff.2 same]
    rfl
  · intro outside
    rw [power_integers, checked, Integer.fit?_eq_none_iff.2 outside]
    exact ⟨_, rfl, rfl⟩

theorem powerExact_iff_of_ok {n : Int64}
    (answer : power (.integer x) (.integer y) = .ok (.integer n)) :
    PowerExact x y ↔ n.toInt = x.toInt ^ y.toInt.toNat := by
  constructor
  · intro exact
    by_cases fits : ∃ m : Int64, m.toInt = x.toInt ^ y.toInt.toNat
    · obtain ⟨m, same⟩ := fits
      have result := exact.result m same
      rw [answer] at result
      cases result
      exact same
    · obtain ⟨fault, refused, -⟩ := exact.overflow (not_exists.1 fits)
      rw [answer] at refused
      cases refused
  · intro same
    constructor
    · intro m same'
      rw [answer, Int64.toInt_inj.1 (same'.trans same.symm)]
    · intro outside
      exact absurd same (outside n)

theorem not_powerExact_of_zeroDivisor
    (answer : power (.integer x) (.integer y) = .error .zeroDivisor) : ¬ PowerExact x y := by
  intro exact
  have outside : ∀ n : Int64, n.toInt ≠ x.toInt ^ y.toInt.toNat := by
    intro n same
    have result := exact.result n same
    rw [answer] at result
    cases result
  obtain ⟨fault, refused, kind⟩ := exact.overflow outside
  rw [answer] at refused
  cases refused
  cases kind

def RefusedAsDivision (x y : Int64) : Prop :=
  ∃ fault, power (.integer x) (.integer y) = .error fault ∧ fault.kind = .divisionByZero

theorem not_refusedAsDivision_of_checked {result : Option Int64}
    (checked : integerPower x y = checked .power result) : ¬ RefusedAsDivision x y := by
  rintro ⟨fault, refused, kind⟩
  rw [power_integers, checked] at refused
  cases result with
  | none =>
    cases refused
    cases kind
  | some n => cases refused

theorem not_refusedAsDivision_of_ok {value : Value}
    (answer : power (.integer x) (.integer y) = .ok value) : ¬ RefusedAsDivision x y := by
  rintro ⟨fault, refused, -⟩
  rw [answer] at refused
  cases refused

/-- Powers are exact below the limit, and from there on only for the bases whose powers stay small,
as far as the sign is kept. All other bases, and they alone, are refused from the limit on as if
something were divided by zero. -/
theorem power_exact_iff (nonnegative : 0 ≤ y.toInt) :
    (PowerExact x y ↔ y.toInt < exponentLimit ∨ x.toInt.natAbs ≤ 1 ∧ ¬ SignLost x y) ∧
    (RefusedAsDivision x y ↔ exponentLimit ≤ y.toInt ∧ 1 < x.toInt.natAbs) := by
  by_cases below : y.toInt < exponentLimit
  · have checked := integerPower_of_lt (x := x) nonnegative below
    exact ⟨iff_of_true (.of_checked checked) (.inl below),
      iff_of_false (not_refusedAsDivision_of_checked checked) (by omega)⟩
  have huge : exponentLimit ≤ y.toInt := by omega
  by_cases small : x.toInt.natAbs ≤ 1
  · obtain ⟨n, result, same⟩ := integerPower_of_small huge small
    have answer : power (.integer x) (.integer y) = .ok (.integer n) := by
      rw [power_integers, result]
      rfl
    refine ⟨?_, iff_of_false (not_refusedAsDivision_of_ok answer) (by omega)⟩
    rw [powerExact_iff_of_ok answer, same]
    simp only [below, small, true_and, false_or]
  · have large : 1 < x.toInt.natAbs := by omega
    have answer : power (.integer x) (.integer y) = .error .zeroDivisor := by
      rw [power_integers, integerPower_of_large huge large]
      rfl
    exact ⟨iff_of_false (not_powerExact_of_zeroDivisor answer) (by omega),
      iff_of_true ⟨_, answer, rfl⟩ ⟨huge, large⟩⟩

/-- An odd exponent past the limit that decimals keep. -/
theorem power_exact_iff_odd :
    0 ≤ (4294967297 : Int64).toInt ∧ PowerExact (-1) 4294967297 ∧
      ¬ RefusedAsDivision (-1) 4294967297 := by
  have nonnegative : 0 ≤ (4294967297 : Int64).toInt := by decide
  obtain ⟨exact, refused⟩ := power_exact_iff (x := -1) nonnegative
  refine ⟨nonnegative, exact.2 (.inr ⟨by decide, ?_⟩), fun division => ?_⟩
  · rintro ⟨-, -, far⟩
    exact absurd far (by decide)
  · exact absurd (refused.1 division).2 (by decide)

/-- Two to the power of the limit is refused as if it were divided by zero, and minus one to the
greatest power, which is odd, is one. -/
theorem power_not_exact :
    power (.integer 2) (.integer 4294967296) = .error .zeroDivisor ∧
      ¬ PowerExact 2 4294967296 ∧ RefusedAsDivision 2 4294967296 ∧
      power (.integer (-1)) (.integer 9223372036854775807) = .ok (.integer 1) ∧
      ¬ PowerExact (-1) 9223372036854775807 := by
  have division : power (.integer 2) (.integer 4294967296) = .error .zeroDivisor := rfl
  have sign : power (.integer (-1)) (.integer 9223372036854775807) = .ok (.integer 1) := rfl
  refine ⟨division, not_powerExact_of_zeroDivisor division, ⟨_, division, rfl⟩, sign, ?_⟩
  rw [powerExact_iff_of_ok sign, Integer.pow_of_natAbs_le_one (by decide)]
  decide

end Arithmetic

end Stackscript
