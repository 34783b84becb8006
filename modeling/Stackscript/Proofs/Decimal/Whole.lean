import Mathlib
import Stackscript.Decimal.Reader

set_option autoImplicit false

/- The decimal nearest to a large whole number. A decimal has fifty-three binary digits, so that
what it stands for is the number rounded to a multiple of a power of two, a half going to the even
multiple. -/
namespace Stackscript.Decimal

theorem toNat_bits_ofMagnitude {magnitude : Nat} (small : magnitude < signBit)
    (negative : Bool) :
    (ofMagnitude negative magnitude).bits.toNat =
      (if negative then signBit else 0) + magnitude := by
  unfold ofMagnitude
  unfold signBit at small ⊢
  rw [UInt64.toNat_ofNat']
  cases negative with
  | true =>
    rw [if_pos rfl, if_pos rfl]
    omega
  | false =>
    rw [if_neg Bool.false_ne_true, if_neg Bool.false_ne_true]
    omega

theorem magnitude_ofMagnitude {magnitude : Nat} (small : magnitude < signBit) (negative : Bool) :
    (ofMagnitude negative magnitude).magnitude = magnitude := by
  rw [Decimal.magnitude, toNat_bits_ofMagnitude small]
  unfold signBit at small ⊢
  split <;> omega

theorem isNegative_ofMagnitude {magnitude : Nat} (small : magnitude < signBit)
    (negative : Bool) : (ofMagnitude negative magnitude).isNegative = negative := by
  rw [isNegative, toNat_bits_ofMagnitude small]
  unfold signBit at small ⊢
  cases negative with
  | true =>
    rw [if_pos rfl]
    exact decide_eq_true (by omega)
  | false =>
    rw [if_neg Bool.false_ne_true]
    exact decide_eq_false (by omega)

/-- The units of a magnitude put together from an exponent and a significand. One that is carried
over into the exponent is halved there and doubled by the exponent. -/
theorem units_eq {d : Decimal} {scale significand : Nat}
    (packed : d.magnitude = scale * hiddenBit + significand) (low : hiddenBit ≤ significand)
    (high : significand ≤ 2 * hiddenBit) : d.units = significand * 2 ^ scale := by
  have large : ¬ d.magnitude < hiddenBit := by omega
  have positive : 0 < hiddenBit := by decide
  rw [units, Decimal.significand, if_neg large, Nat.shiftLeft_eq, Decimal.scale, packed]
  generalize hiddenBit = bit at *
  rcases Nat.lt_or_eq_of_le high with inside | rfl
  · obtain ⟨rest, rfl⟩ := Nat.exists_eq_add_of_le low
    have small : rest < bit := by omega
    have parts : scale * bit + (bit + rest) = rest + bit * (scale + 1) := by ring
    rw [parts, Nat.add_mul_div_left _ _ positive, Nat.add_mul_mod_self_left,
      Nat.div_eq_of_lt small, Nat.mod_eq_of_lt small, Nat.zero_add, Nat.add_sub_cancel]
  · have parts : scale * bit + 2 * bit = bit * (scale + 2) := by ring
    have double : 2 ^ (scale + 1) = 2 * 2 ^ scale := Nat.pow_succ'
    rw [parts, Nat.mul_div_cancel_left _ positive, Nat.mul_mod_right, Nat.add_zero,
      show scale + 2 - 1 = scale + 1 from rfl, double]
    ring

theorem roundDiv_mul_right (num den : Nat) {factor : Nat} (positive : 0 < factor) :
    roundDiv (num * factor) (den * factor) = roundDiv num den := by
  have quotient : num * factor / (den * factor) = num / den :=
    Nat.mul_div_mul_right num den positive
  have twice : 2 * (num * factor % (den * factor)) = 2 * (num % den) * factor := by
    rw [Nat.mul_mod_mul_right, Nat.mul_assoc]
  unfold roundDiv
  simp only [quotient, twice, Nat.mul_lt_mul_right positive,
    Nat.mul_left_inj positive.ne']

/-- Rounding does not pass a whole number. -/
theorem le_roundDiv {num den n : Nat} (positive : 0 < den) (bound : n * den ≤ num) :
    n ≤ roundDiv num den := by
  have quotient : n ≤ num / den := (Nat.le_div_iff_mul_le positive).2 bound
  unfold roundDiv
  dsimp only
  split <;> omega

/-- Up to the half above it, a ratio is rounded to an even number or below it. -/
theorem roundDiv_le_iff {num den n : Nat} (positive : 0 < den) (even : n % 2 = 0) :
    roundDiv num den ≤ n ↔ 2 * num ≤ (2 * n + 1) * den := by
  have parts := Nat.div_add_mod num den
  have below := Nat.mod_lt num positive
  unfold roundDiv
  dsimp only
  generalize num / den = quotient at *
  generalize num % den = rest at *
  have whole : (2 * n + 1) * den = 2 * (den * n) + den := by ring
  rw [← parts, whole]
  rcases Nat.lt_trichotomy quotient n with less | rfl | more
  · have next : den * (quotient + 1) ≤ den * n := Nat.mul_le_mul_left den less
    rw [Nat.mul_add_one] at next
    refine iff_of_true ?_ (by omega)
    split <;> omega
  · split <;> omega
  · have next : den * (n + 1) ≤ den * quotient := Nat.mul_le_mul_left den more
    rw [Nat.mul_add_one] at next
    refine iff_of_false ?_ (by omega)
    split <;> omega

theorem log2_mul_two_pow {n : Nat} (nonzero : n ≠ 0) (k : Nat) :
    (n * 2 ^ k).log2 = n.log2 + k := by
  have positive := Nat.two_pow_pos k
  have product : n * 2 ^ k ≠ 0 := Nat.mul_ne_zero nonzero positive.ne'
  rw [Nat.log2_eq_iff product]
  constructor
  · rw [Nat.pow_add]
    exact Nat.mul_le_mul_right _ (Nat.log2_self_le nonzero)
  · rw [Nat.add_right_comm, Nat.pow_add]
    exact Nat.mul_lt_mul_of_pos_right Nat.lt_log2_self positive

/-- How many binary digits a whole number has past the first fifty-three. -/
def lost (v : Nat) : Nat := v.log2 - 52

/-- The first fifty-three binary digits of a whole number, after rounding. -/
def leading (v : Nat) : Nat := roundDiv v (2 ^ lost v)

def rounded (v : Nat) : Nat := leading v * 2 ^ lost v

theorem ne_zero_of_hiddenBit_le {v : Nat} (large : hiddenBit ≤ v) : v ≠ 0 := by
  rintro rfl
  exact absurd large (by decide)

theorem lost_add {v : Nat} (large : hiddenBit ≤ v) : lost v + 52 = v.log2 := by
  have digits : 52 ≤ v.log2 := (Nat.le_log2 (ne_zero_of_hiddenBit_le large)).2 large
  exact Nat.sub_add_cancel digits

theorem leading_bounds {v : Nat} (large : hiddenBit ≤ v) :
    hiddenBit ≤ leading v ∧ leading v ≤ 2 * hiddenBit := by
  have digits := lost_add large
  have positive : 0 < 2 ^ lost v := Nat.two_pow_pos _
  have low : 2 ^ 52 * 2 ^ lost v ≤ v := by
    rw [← Nat.pow_add, Nat.add_comm, digits]
    exact Nat.log2_self_le (ne_zero_of_hiddenBit_le large)
  have high : v < 2 ^ 53 * 2 ^ lost v := by
    have whole : 53 + lost v = v.log2 + 1 := by omega
    rw [← Nat.pow_add, whole]
    exact Nat.lt_log2_self
  refine ⟨le_roundDiv positive low, (roundDiv_le_iff positive (by decide)).2 ?_⟩
  unfold hiddenBit
  omega

theorem ofRatio_one {v : Nat} (large : hiddenBit ≤ v) (negative : Bool) :
    ofRatio negative v 1 =
      ofMagnitude negative (min ((lost v + 1074) * hiddenBit + leading v) infinityBits) := by
  have digits := lost_add large
  have scale : v.log2 + 1074 - 52 = lost v + 1074 := by omega
  have significand (k : Nat) : roundDiv (v * 2 ^ k) (2 ^ (lost v + k)) = leading v := by
    rw [Nat.pow_add]
    exact roundDiv_mul_right v (2 ^ lost v) (Nat.two_pow_pos k)
  unfold ofRatio
  simp only [Nat.shiftLeft_eq, Nat.div_one, Nat.one_mul, log2_mul_two_pow (ne_zero_of_hiddenBit_le large), scale,
    significand]

/-- Numbers with no more than 1023 binary digits have finite decimals. -/
theorem finite_of_log2_lt {v : Nat} (large : hiddenBit ≤ v) (few : v.log2 < 1023) :
    (lost v + 1074) * hiddenBit + leading v < infinityBits := by
  have digits := lost_add large
  have high := (leading_bounds large).2
  unfold hiddenBit at high ⊢
  unfold infinityBits
  omega

theorem mul_two_pow_shiftRight (n s k : Nat) : (n * 2 ^ (s + k)) >>> k = n * 2 ^ s := by
  rw [Nat.shiftRight_eq_div_pow, Nat.pow_add, ← Nat.mul_assoc,
    Nat.mul_div_cancel _ (Nat.two_pow_pos k)]

/-- The decimal nearest to a large whole number, if it is finite, is the number rounded. -/
theorem truncate?_ofRatio_one {v : Nat} (large : hiddenBit ≤ v) (negative : Bool) :
    (ofRatio negative v 1).truncate? =
      if (lost v + 1074) * hiddenBit + leading v < infinityBits then
        some (if negative then -(rounded v : Int) else rounded v)
      else none := by
  obtain ⟨low, high⟩ := leading_bounds large
  rw [ofRatio_one large]
  generalize packed : (lost v + 1074) * hiddenBit + leading v = magnitude
  have below : min magnitude infinityBits < signBit :=
    Nat.lt_of_le_of_lt (Nat.min_le_right _ _) (by decide)
  have finite : (min magnitude infinityBits < infinityBits) = (magnitude < infinityBits) := by
    rw [min_lt_iff]
    simp only [Nat.lt_irrefl, or_false]
  simp only [truncate?, isFinite, isNegative_ofMagnitude below, magnitude_ofMagnitude below,
    finite, decide_eq_true_eq]
  split
  · rename_i small
    have kept : min magnitude infinityBits = magnitude := Nat.min_eq_left (Nat.le_of_lt small)
    rw [kept] at below ⊢
    have units := units_eq ((magnitude_ofMagnitude below negative).trans packed.symm) low high
    rw [units, mul_two_pow_shiftRight]
    rfl
  · rfl

theorem two_pow_log2_le_rounded {v : Nat} (large : hiddenBit ≤ v) :
    2 ^ v.log2 ≤ rounded v := by
  calc
    2 ^ v.log2 = 2 ^ 52 * 2 ^ lost v := by rw [← Nat.pow_add, Nat.add_comm, lost_add large]
    _ ≤ leading v * 2 ^ lost v := Nat.mul_le_mul_right _ (leading_bounds large).1

theorem le_rounded {v : Nat} (large : 2 ^ 63 ≤ v) : 2 ^ 63 ≤ rounded v := by
  have hidden : hiddenBit ≤ v := Nat.le_trans (by decide) large
  have digits : 63 ≤ v.log2 := (Nat.le_log2 (ne_zero_of_hiddenBit_le hidden)).2 large
  exact Nat.le_trans (Nat.pow_le_pow_right (by decide) digits) (two_pow_log2_le_rounded hidden)

/-- Two to the power of sixty-three is what numbers from it on are rounded to, up to the half of
their last binary digit that is kept. -/
theorem rounded_le_iff {v : Nat} (large : 2 ^ 63 ≤ v) :
    rounded v ≤ 2 ^ 63 ↔ v ≤ 2 ^ 63 + 2 ^ 10 := by
  have hidden : hiddenBit ≤ v := Nat.le_trans (by decide) large
  have nonzero : v ≠ 0 := by omega
  by_cases near : v < 2 ^ 64
  · have digits : v.log2 = 63 := (Nat.log2_eq_iff nonzero).2 ⟨large, near⟩
    have tie : roundDiv v (2 ^ 11) ≤ 2 ^ 52 ↔ 2 * v ≤ (2 * 2 ^ 52 + 1) * 2 ^ 11 :=
      roundDiv_le_iff (Nat.two_pow_pos 11) (by decide)
    rw [rounded, leading, lost, digits, show 63 - 52 = 11 from rfl]
    omega
  · have digits : 64 ≤ v.log2 := (Nat.le_log2 nonzero).2 (by omega)
    have beyond : 2 ^ 64 ≤ rounded v :=
      Nat.le_trans (Nat.pow_le_pow_right (by decide) digits) (two_pow_log2_le_rounded hidden)
    refine iff_of_false ?_ ?_ <;> omega

end Stackscript.Decimal
