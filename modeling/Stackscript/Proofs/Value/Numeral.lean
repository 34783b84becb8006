import Mathlib
import Stackscript.Proofs.Arithmetic.Power
import Stackscript.Proofs.Decimal.Whole
import Stackscript.Proofs.Token.Spelling
import Stackscript.Proofs.Token.Tiling
import Stackscript.Value.Conversion

set_option autoImplicit false

/- Strings of digits as integers. One whose number fits is read exactly. Any other is read a second
time as a decimal, and decimals cannot tell the numbers just outside the range from its ends, so
that those are taken for the ends; numbers farther out are refused. The lexer does not read twice
and refuses all that do not fit. -/
namespace Stackscript

namespace Text

theorem digitsValue_cons (d : Char) (ds : Text) :
    digitsValue (d :: ds) = 10 ^ ds.length * (d.toNat - '0'.toNat) + digitsValue ds := by
  rw [digitsValue_eq_ofDigitChars, Nat.ofDigitChars_cons, Nat.ofDigitChars_eq_ofDigitChars_zero,
    Nat.mul_zero, Nat.zero_add, ← digitsValue_eq_ofDigitChars]

theorem digitsValue_dropWhile_zero (digits : Text) :
    digitsValue (digits.dropWhile (· == '0')) = digitsValue digits := by
  induction digits with
  | nil => rfl
  | cons d ds ih =>
    rw [List.dropWhile_cons]
    split
    · rename_i zero
      rw [ih, eq_of_beq zero, digitsValue_cons, Nat.sub_self, Nat.mul_zero, Nat.zero_add]
    · rfl

/-- A number has no fewer digits than are written after its leading zeros. -/
theorem ten_pow_le_digitsValue {digits : Text} (decimal : ∀ d ∈ digits, d.isDigit = true) {n : Nat}
    (many : n < (digits.dropWhile (· == '0')).length) : 10 ^ n ≤ digitsValue digits := by
  rw [← digitsValue_dropWhile_zero]
  cases split : digits.dropWhile (· == '0') with
  | nil =>
    rw [split] at many
    cases many
  | cons d ds =>
    have digit : d.isDigit = true := by
      refine decimal d ((List.dropWhile_sublist (· == '0')).subset ?_)
      rw [split]
      exact List.mem_cons_self
    have notZero : d ≠ '0' := by
      have first := List.head?_dropWhile_not (· == '0') digits
      rw [split] at first
      simpa using first
    have positive : 1 ≤ d.toNat - '0'.toNat := by
      have low := (Char.isDigit_iff_toNat.1 digit).1
      have other : d.toNat ≠ '0'.toNat := fun same => notZero (Char.toNat_inj.1 same)
      omega
    have fewer : n ≤ ds.length := by
      rw [split, List.length_cons] at many
      omega
    calc
      10 ^ n ≤ 10 ^ ds.length := Nat.pow_le_pow_right (by decide) fewer
      _ ≤ 10 ^ ds.length * (d.toNat - '0'.toNat) := Nat.le_mul_of_pos_right _ positive
      _ ≤ digitsValue (d :: ds) := by
        rw [digitsValue_cons]
        exact Nat.le_add_right _ _

theorem dropWhile_isBlank {body : Text} (dark : ∀ c ∈ body, isBlank c = false) :
    body.dropWhile isBlank = body := by
  cases body with
  | nil => rfl
  | cons c cs =>
    rw [List.dropWhile_cons, dark c List.mem_cons_self]
    rfl

theorem trim_padded {before body after : Text} (nonempty : body ≠ [])
    (dark : ∀ c ∈ body, isBlank c = false) (blankBefore : ∀ c ∈ before, isBlank c = true)
    (blankAfter : ∀ c ∈ after, isBlank c = true) : trim (before ++ body ++ after) = body := by
  have dark' : ∀ c ∈ body.reverse, isBlank c = false :=
    fun c member => dark c (List.mem_reverse.1 member)
  have blankAfter' : ∀ c ∈ after.reverse, isBlank c = true :=
    fun c member => blankAfter c (List.mem_reverse.1 member)
  have visible : body.isEmpty = false := List.isEmpty_eq_false_iff.2 nonempty
  rw [trim, List.append_assoc, List.dropWhile_append_of_pos blankBefore, List.dropWhile_append,
    dropWhile_isBlank dark, visible, if_neg Bool.false_ne_true, List.reverse_append,
    List.dropWhile_append_of_pos blankAfter', dropWhile_isBlank dark', List.reverse_reverse]

end Text

namespace Decimal

/-- A run of digits is a ratio if it has few digits after its leading zeros, and else infinite. -/
theorem ofDigits_whole {digits : Text} (nonzero : digits.dropWhile (· == '0') ≠ [])
    (negative : Bool) :
    ofDigits negative digits 0 =
      if 310 < (digits.dropWhile (· == '0')).length then infinity negative
      else ofRatio negative (Text.digitsValue digits) 1 := by
  rw [← Text.digitsValue_dropWhile_zero]
  unfold ofDigits
  generalize digits.dropWhile (· == '0') = significant at *
  have visible : ¬ (significant.isEmpty = true ∨ 0 + (significant.length : Int) < -330) := by
    have low : ¬ 0 + (significant.length : Int) < -330 := by omega
    simp only [List.isEmpty_iff, nonzero, low, or_self, not_false_eq_true]
  have past : 310 < 0 + (significant.length : Int) ↔ 310 < significant.length := by omega
  simp only [visible, past, ↓reduceIte]
  split
  · rfl
  · -- So few digits are all decisive, and none of them are behind the point.
    rename_i short
    have whole : significant.length ≤ decisive := Nat.le_trans (Nat.not_lt.1 short) (by decide)
    have condensed : condense significant = significant := by
      rw [condense, List.take_of_length_le whole, List.drop_of_length_le whole]
      exact List.append_nil _
    have exponent : 0 + (significant.length : Int) - significant.length = 0 := by omega
    rw [condensed, exponent]
    exact congrArg (ofRatio negative · 1) (Nat.mul_one _)

theorem truncate?_infinity (negative : Bool) : (infinity negative).truncate? = none := by
  cases negative <;> rfl

end Decimal

namespace Integer

theorem fit?_eq_none_iff_outside {n : Int} : fit? n = none ↔ n < least ∨ greatest < n := by
  unfold fit?
  split
  · simp only [reduceCtorEq, false_iff]
    omega
  · simp only [true_iff]
    omega

theorem clamp_of_ge {n : Int} (high : greatest ≤ n) : clamp n = Int64.ofInt greatest := by
  have low : least ≤ greatest := by decide
  rw [clamp, min_eq_left high, max_eq_right low]

theorem clamp_of_le {n : Int} (low : n ≤ least) : clamp n = Int64.ofInt least := by
  have high : n ≤ greatest := Int.le_trans low (by decide)
  rw [clamp, min_eq_right high, max_eq_left low]

end Integer

namespace Value

/-- A large decimal is truncated to an end of the range where it is rounded to it. -/
theorem truncate_ofRatio_one {v : Nat} (large : 2 ^ 63 ≤ v) (negative : Bool) :
    truncate (Decimal.ofRatio negative v 1) =
      if v ≤ 2 ^ 63 + 2 ^ 10 then .ok (Integer.clamp (if negative then -(v : Int) else v))
      else .error (.doesNotFit (Decimal.ofRatio negative v 1)) := by
  have hidden : Decimal.hiddenBit ≤ v := Nat.le_trans (by decide) large
  have limit := Decimal.rounded_le_iff large
  have reach := Decimal.le_rounded large
  rw [truncate, Decimal.truncate?_ofRatio_one hidden]
  by_cases near : v ≤ 2 ^ 63 + 2 ^ 10
  · have nonzero := Decimal.ne_zero_of_hiddenBit_le hidden
    have digits : v.log2 = 63 := (Nat.log2_eq_iff nonzero).2 ⟨large, by omega⟩
    have finite := Decimal.finite_of_log2_lt hidden (by omega)
    have same : Decimal.rounded v = 2 ^ 63 := Nat.le_antisymm (limit.2 near) reach
    rw [if_pos finite, if_pos near, same]
    cases negative with
    | true =>
      have low : -(v : Int) ≤ Integer.least := by
        unfold Integer.least
        omega
      simp only [↓reduceIte, Integer.clamp_of_le low]
      rfl
    | false =>
      have high : Integer.greatest ≤ (v : Int) := by
        unfold Integer.greatest
        omega
      simp only [Bool.false_eq_true, ↓reduceIte, Integer.clamp_of_ge high]
      rfl
  · rw [if_neg near]
    split
    · rfl
    · rename_i n found
      split at found
      · have outside : ¬ (Integer.least ≤ n ∧ n ≤ Integer.greatest + 1) := by
          unfold Integer.least Integer.greatest
          cases negative <;> cases found <;> omega
        rw [if_neg outside]
      · cases found

end Value

inductive Sign where
  | none | plus | minus
  deriving DecidableEq

namespace Sign

def text : Sign → Text
  | .none => []
  | .plus => ['+']
  | .minus => ['-']

def isNegative : Sign → Bool
  | .minus => true
  | _ => false

end Sign

/-- An integer in base ten: an optional sign and at least one digit. -/
structure Numeral where
  sign : Sign
  digits : Text
  nonempty : digits ≠ []
  decimal : ∀ d ∈ digits, d.isDigit = true

namespace Numeral

variable (numeral : Numeral)

def text : Text :=
  numeral.sign.text ++ numeral.digits

def value : Int :=
  if numeral.sign.isNegative then -(Text.digitsValue numeral.digits : Int)
  else Text.digitsValue numeral.digits

/-- The numeral of a natural number after a sign, without leading zeros. -/
def ofNat (sign : Sign) (n : Nat) : Numeral :=
  ⟨sign, Text.ofNat n, Nat.toDigits_ne_nil, fun _ => Text.isDigit_of_mem_ofNat⟩

theorem value_ofNat (sign : Sign) (n : Nat) :
    (ofNat sign n).value = if sign.isNegative then -(n : Int) else n := by
  simp only [value, ofNat, Text.digitsValue_ofNat]

theorem natAbs_value : numeral.value.natAbs = Text.digitsValue numeral.digits := by
  unfold value
  split <;> omega

theorem splitSign_text :
    Text.splitSign numeral.text = (numeral.sign.isNegative, numeral.digits) := by
  obtain ⟨sign, digits, nonempty, decimal⟩ := numeral
  cases sign with
  | none =>
    obtain ⟨d, ds, rfl⟩ := List.exists_cons_of_ne_nil nonempty
    exact Text.splitSign_digit (decimal d List.mem_cons_self) ds
  | plus => rfl
  | minus => rfl

theorem isEmpty_digits : numeral.digits.isEmpty = false :=
  List.isEmpty_eq_false_iff.2 numeral.nonempty

theorem toInt?_text : Text.toInt? numeral.text = some numeral.value := by
  have digits : numeral.digits.all Char.isDigit = true := List.all_eq_true.2 numeral.decimal
  simp only [Text.toInt?, splitSign_text, isEmpty_digits, digits, Bool.not_true, Bool.or_self,
    Bool.false_eq_true, ↓reduceIte, value]
  split <;> rfl

/-- An integer is read if it fits: with more digits than any integer of the range has, after its
leading zeros, it does not. -/
theorem read?_text : Integer.read? numeral.text = Integer.fit? numeral.value := by
  rw [Integer.read?, splitSign_text, toInt?_text, Option.bind_some]
  split
  · rename_i many
    have large : 10 ^ 19 ≤ Text.digitsValue numeral.digits :=
      Text.ten_pow_le_digitsValue numeral.decimal many
    symm
    rw [Integer.fit?_eq_none_iff]
    intro n same
    have low := n.le_toInt
    have high := n.toInt_lt
    rw [← natAbs_value, ← same] at large
    omega
  · rfl

theorem decimal_read?_text :
    Decimal.read? numeral.text =
      some (Decimal.ofDigits numeral.sign.isNegative numeral.digits 0) := by
  have whole : numeral.digits.takeWhile Char.isDigit = numeral.digits :=
    List.takeWhile_eq_self_iff.2 numeral.decimal
  have rest : numeral.digits.dropWhile Char.isDigit = [] :=
    List.dropWhile_eq_nil_iff.2 numeral.decimal
  simp only [Decimal.read?, splitSign_text, Decimal.readNumber?, whole, rest, List.append_nil,
    isEmpty_digits, Bool.false_eq_true, ↓reduceIte, Decimal.readExponent?]
  rfl

theorem isBlank_text {c : Char} (member : c ∈ numeral.text) : Text.isBlank c = false := by
  obtain ⟨sign, digits, nonempty, decimal⟩ := numeral
  rcases List.mem_append.1 member with first | digit
  · cases sign with
    | none => cases first
    | plus =>
      cases List.mem_singleton.1 first
      decide
    | minus =>
      cases List.mem_singleton.1 first
      decide
  · exact isBlank_of_isDigit (decimal c digit)

theorem trim_text {before after : Text} (blankBefore : ∀ c ∈ before, Text.isBlank c = true)
    (blankAfter : ∀ c ∈ after, Text.isBlank c = true) :
    Text.trim (before ++ numeral.text ++ after) = numeral.text := by
  refine Text.trim_padded ?_ (fun c => numeral.isBlank_text) blankBefore blankAfter
  intro nothing
  exact numeral.nonempty (List.append_eq_nil_iff.1 nothing).2

/-- A numeral without a plus sign starts like a number, and digits follow. -/
theorem text_eq_cons (notPlus : numeral.sign ≠ .plus) :
    ∃ c cs, numeral.text = c :: cs ∧ (∀ d ∈ cs, d.isDigit = true) ∧
      (c.isDigit || (c == '-' && startsNegative none cs)) = true := by
  obtain ⟨sign, digits, nonempty, decimal⟩ := numeral
  obtain ⟨d, ds, rfl⟩ := List.exists_cons_of_ne_nil nonempty
  have digit : d.isDigit = true := decimal d List.mem_cons_self
  cases sign with
  | none =>
    refine ⟨d, ds, rfl, fun e member => decimal e (List.mem_cons_of_mem d member), ?_⟩
    rw [digit, Bool.true_or]
  | plus => exact absurd rfl notPlus
  | minus =>
    refine ⟨'-', d :: ds, rfl, decimal, ?_⟩
    simp only [startsNegative, digit, beq_self_eq_true, Bool.and_self, Bool.or_true]

/-- A numeral without a plus sign is one literal if its number fits, and else no token. -/
theorem tokenizeAt_text (notPlus : numeral.sign ≠ .plus) (p : Position) :
    tokenizeAt p numeral.text =
      match Integer.fit? numeral.value with
      | some n => .ok ((TokenKind.integer n).alone p numeral.text)
      | none => .error ⟨.invalidInteger numeral.text, p⟩ := by
  obtain ⟨c, cs, text, digits, starts⟩ := numeral.text_eq_cons notPlus
  have dark : Text.isBlank c = false := by
    refine numeral.isBlank_text ?_
    rw [text]
    exact List.mem_cons_self
  have notBrace : c ≠ '{' := by
    rintro rfl
    cases starts
  have whole : cs.takeWhile Char.isDigit = cs := List.takeWhile_eq_self_iff.2 digits
  rw [← read?_text, text]
  cases value : Integer.read? (c :: cs) with
  | some n =>
    have scanned : Scanned none 0 p c cs (.integer n) cs.length := by
      refine .number starts ?_
      rw [scanNumber_eq, fractionDigits_digits digits, whole, value]
      rfl
    exact scanned.tokenizeAt_alone dark notBrace rfl
  | none =>
    refine tokenizeFrom_refused dark notBrace ?_
    rw [scan_number starts, scanNumber_eq, fractionDigits_digits digits, whole, value]
    rfl

end Numeral

namespace Value

/-- The string is read as the integer `m` if that is an integer of the program, and refused as a
conversion if it is none. -/
structure ReadsExactly (t : Text) (m : Int) : Prop where
  result : ∀ n : Int64, n.toInt = m → (Value.string t).toInteger = .ok n
  refused : (∀ n : Int64, n.toInt ≠ m) →
    ∃ fault, (Value.string t).toInteger = .error fault ∧ fault.kind = .conversionError

/-- Outside the range, by so little that a decimal does not tell the number from the nearer end. -/
def JustOutside (m : Int) : Prop :=
  (m < Integer.least ∨ Integer.greatest < m) ∧ m.natAbs ≤ 2 ^ 63 + 2 ^ 10

instance (m : Int) : Decidable (JustOutside m) :=
  inferInstanceAs (Decidable (_ ∧ _))

/-- The second reading of digits whose number does not fit. -/
theorem truncate_numeral {numeral : Numeral} (misfit : Integer.fit? numeral.value = none) :
    truncate (Decimal.ofDigits numeral.sign.isNegative numeral.digits 0) =
      if JustOutside numeral.value then .ok (Integer.clamp numeral.value)
      else .error (.doesNotFit
        (Decimal.ofDigits numeral.sign.isNegative numeral.digits 0)) := by
  have outside := Integer.fit?_eq_none_iff_outside.1 misfit
  have size := numeral.natAbs_value
  have large : 2 ^ 63 ≤ Text.digitsValue numeral.digits := by
    unfold Integer.least Integer.greatest at outside
    omega
  have nonzero : numeral.digits.dropWhile (· == '0') ≠ [] := by
    intro nothing
    rw [← Text.digitsValue_dropWhile_zero, nothing] at large
    exact absurd large (by decide)
  have near : JustOutside numeral.value ↔
      Text.digitsValue numeral.digits ≤ 2 ^ 63 + 2 ^ 10 := by
    rw [JustOutside, size]
    exact and_iff_right outside
  simp only [Decimal.ofDigits_whole nonzero, near]
  split
  · -- An infinite decimal has no integer part, and its number is far outside.
    rename_i long
    have huge : 10 ^ 20 ≤ Text.digitsValue numeral.digits :=
      Text.ten_pow_le_digitsValue numeral.decimal (by omega)
    have far : ¬ Text.digitsValue numeral.digits ≤ 2 ^ 63 + 2 ^ 10 := by omega
    rw [if_neg far, truncate, Decimal.truncate?_infinity]
  · exact truncate_ofRatio_one large numeral.sign.isNegative

/-- What a string of digits between whitespace is read as. -/
theorem toInteger_numeral (numeral : Numeral) {before after : Text}
    (blankBefore : ∀ c ∈ before, Text.isBlank c = true)
    (blankAfter : ∀ c ∈ after, Text.isBlank c = true) :
    (Value.string (before ++ numeral.text ++ after)).toInteger =
      match Integer.fit? numeral.value with
      | some n => .ok n
      | none =>
        if JustOutside numeral.value then .ok (Integer.clamp numeral.value)
        else .error (.doesNotFit
          (Decimal.ofDigits numeral.sign.isNegative numeral.digits 0)) := by
  rw [toInteger, readInteger, numeral.trim_text blankBefore blankAfter, numeral.read?_text,
    numeral.decimal_read?_text]
  cases fits : Integer.fit? numeral.value with
  | some n => rfl
  | none => exact truncate_numeral fits

/-- Strings of digits are read exactly, but for those whose numbers lie just outside the range: they
are taken for its ends. The same digits as a literal are one integer if it fits, and refused if it
does not. -/
theorem toInteger_exact_iff (numeral : Numeral) {before after : Text}
    (blankBefore : ∀ c ∈ before, Text.isBlank c = true)
    (blankAfter : ∀ c ∈ after, Text.isBlank c = true) :
    (ReadsExactly (before ++ numeral.text ++ after) numeral.value ↔
      ¬ JustOutside numeral.value) ∧
    (JustOutside numeral.value →
      (Value.string (before ++ numeral.text ++ after)).toInteger =
        .ok (Integer.clamp numeral.value)) ∧
    (numeral.sign ≠ .plus → ∀ p, tokenizeAt p numeral.text =
      match Integer.fit? numeral.value with
      | some n => .ok ((TokenKind.integer n).alone p numeral.text)
      | none => .error ⟨.invalidInteger numeral.text, p⟩) := by
  have reading := toInteger_numeral numeral blankBefore blankAfter
  have misfit (near : JustOutside numeral.value) : Integer.fit? numeral.value = none :=
    Integer.fit?_eq_none_iff_outside.2 near.1
  have taken (near : JustOutside numeral.value) :
      (Value.string (before ++ numeral.text ++ after)).toInteger =
        .ok (Integer.clamp numeral.value) := by
    rw [reading, misfit near]
    exact if_pos near
  refine ⟨⟨fun exact near => ?_, fun far => ⟨fun n same => ?_, fun outside => ?_⟩⟩, taken,
    numeral.tokenizeAt_text⟩
  · obtain ⟨fault, refused, -⟩ := exact.refused (Integer.fit?_eq_none_iff.1 (misfit near))
    rw [taken near] at refused
    cases refused
  · rw [reading, Integer.fit?_eq_some_iff.2 same]
  · rw [reading, Integer.fit?_eq_none_iff.2 outside]
    exact ⟨_, if_neg far, rfl⟩

/-- The farthest number below the range that is taken for its lower end. -/
theorem toInteger_exact_iff_below :
    ∃ numeral : Numeral, numeral.text = "-9223372036854776832".toList ∧
      JustOutside numeral.value ∧
      (Value.string (['\t'] ++ numeral.text ++ [' ', '\n'])).toInteger =
        .ok (Integer.clamp numeral.value) ∧
      ¬ ReadsExactly (['\t'] ++ numeral.text ++ [' ', '\n']) numeral.value ∧
      tokenizeAt .start numeral.text = .error ⟨.invalidInteger numeral.text, .start⟩ := by
  have blankBefore : ∀ c ∈ ['\t'], Text.isBlank c = true := by simp [Text.isBlank]
  have blankAfter : ∀ c ∈ [' ', '\n'], Text.isBlank c = true := by simp [Text.isBlank]
  have near : JustOutside (Numeral.ofNat .minus 9223372036854776832).value := by
    rw [Numeral.value_ofNat]
    decide
  have misfit := Integer.fit?_eq_none_iff_outside.2 near.1
  obtain ⟨exact, taken, literal⟩ :=
    toInteger_exact_iff (Numeral.ofNat .minus 9223372036854776832) blankBefore blankAfter
  refine ⟨_, by cbv, near, taken near, fun reads => exact.1 reads near, ?_⟩
  have refused := literal (by decide) .start
  rw [misfit] at refused
  exact refused

/-- Two to the power of sixty-three, one past the greatest integer, is read as the greatest integer,
though it is no literal. -/
theorem toInteger_not_exact :
    ∃ numeral : Numeral, numeral.text = "9223372036854775808".toList ∧
      numeral.value = 2 ^ 63 ∧
      (Value.string numeral.text).toInteger = .ok 9223372036854775807 ∧
      ¬ ReadsExactly numeral.text numeral.value ∧
      tokenize numeral.text = .error ⟨.invalidInteger numeral.text, .start⟩ := by
  have value : (Numeral.ofNat .none 9223372036854775808).value = 2 ^ 63 :=
    Numeral.value_ofNat .none 9223372036854775808
  have answer : (Value.string (Numeral.ofNat .none 9223372036854775808).text).toInteger =
      .ok 9223372036854775807 := by decide +kernel
  refine ⟨Numeral.ofNat .none 9223372036854775808, by cbv, value, answer, fun exact => ?_, by cbv⟩
  have outside : ∀ n : Int64, n.toInt ≠ (Numeral.ofNat .none 9223372036854775808).value := by
    rw [value]
    exact Integer.fit?_eq_none_iff.1 (by decide)
  obtain ⟨fault, refused, -⟩ := exact.refused outside
  rw [answer] at refused
  cases refused

end Value

end Stackscript
