import Mathlib
import Stackscript.Proofs.Value.Numeral

set_option autoImplicit false

/- Integers and their texts. The text of an integer is a numeral without a plus sign, so that
converting the text back gives the integer, and to the lexer it is one literal where a minus sign may
start a number: at the start, behind whitespace and behind an opening bracket. -/
namespace Stackscript

/-- The text of an integer is a numeral that denotes it. -/
theorem Integer.exists_numeral (n : Int64) :
    ∃ numeral : Numeral, numeral.text = render n ∧ numeral.sign ≠ .plus ∧
      numeral.value = n.toInt := by
  by_cases negative : n.toInt < 0
  · have minus : Sign.isNegative .minus = true := rfl
    have notPlus : Sign.minus ≠ .plus := by decide
    refine ⟨.ofNat .minus n.toInt.natAbs, ?_, notPlus, ?_⟩
    · simp only [render, Text.ofInt, if_pos negative]
      rfl
    · rw [Numeral.value_ofNat, if_pos minus]
      omega
  · have noMinus : ¬ Sign.isNegative .none = true := by decide
    have notPlus : Sign.none ≠ .plus := by decide
    refine ⟨.ofNat .none n.toInt.natAbs, ?_, notPlus, ?_⟩
    · simp only [render, Text.ofInt, if_neg negative]
      rfl
    · rw [Numeral.value_ofNat, if_neg noMinus]
      omega

theorem Value.toInteger_render (n : Int64) :
    (Value.string (Integer.render n)).toInteger = .ok n := by
  obtain ⟨numeral, text, -, value⟩ := Integer.exists_numeral n
  have bare : ∀ c ∈ ([] : Text), Text.isBlank c = true := nofun
  have read := toInteger_numeral numeral bare bare
  rw [List.nil_append, List.append_nil, text, value, Integer.fit?_toInt] at read
  exact read

/-- The text has tokens, and they are of the given kinds. -/
def HasKinds (t : Text) (kinds : List TokenKind) : Prop :=
  ∃ tokens, tokenize t = .ok tokens ∧ tokens.map Token.kind = kinds

theorem Spells.hasKinds {text : Text} {kinds : List TokenKind} (spells : Spells text kinds 0 0) :
    HasKinds text (kinds ++ [.endOfText]) := by
  obtain ⟨tokens, last, read, same, ends⟩ := spells.tokenize
  refine ⟨tokens ++ [last], read, ?_⟩
  rw [List.map_append, same, List.map_singleton, ends]

theorem Spells.integer (n : Int64) (depth : Nat) :
    Spells (Integer.render n) [.integer n] depth depth := by
  have legible : (TokenKind.integer n).Legible := trivial
  exact .render legible nofun

/-- An integer survives its text. The text is a numeral of it, and the string of that text is
converted back to it; and the text alone, behind whitespace and between brackets is one literal of
it. -/
theorem integer_roundTrip (n : Int64) :
    let text := Integer.render n
    (∃ numeral : Numeral, numeral.text = text ∧ numeral.sign ≠ .plus ∧ numeral.value = n.toInt) ∧
    (Value.integer n).convert .string = .ok (.string text) ∧
    (Value.string text).convert .integer = .ok (.integer n) ∧
    HasKinds text [.integer n, .endOfText] ∧
    (∀ w, (∀ c ∈ w, Text.isBlank c = true) → HasKinds (w ++ text) [.integer n, .endOfText]) ∧
    HasKinds ('[' :: text ++ [']'])
      [.openBracket, .integer n, .closeBracket, .endOfText] := by
  intro text
  refine ⟨Integer.exists_numeral n, rfl, ?_, ?_, fun w blank => ?_, ?_⟩
  · rw [Value.convert, Value.toInteger_render]
    rfl
  · exact (Spells.integer n 0).hasKinds
  · exact ((Spells.integer n 0).behind_blanks blank).hasKinds
  · exact (Spells.integer n 1).bracketed.hasKinds

/-- The least integer, which has no positive counterpart, behind a line feed and a space of another
width. -/
theorem integer_roundTrip_least :
    (∀ c ∈ ['\n', '\u2003'], Text.isBlank c = true) ∧
      Integer.render Int64.minValue = "-9223372036854775808".toList ∧
      (Value.string "-9223372036854775808".toList).convert .integer =
        .ok (.integer Int64.minValue) ∧
      HasKinds "\n\u2003-9223372036854775808".toList [.integer Int64.minValue, .endOfText] ∧
      HasKinds "[-9223372036854775808]".toList
        [.openBracket, .integer Int64.minValue, .closeBracket, .endOfText] := by
  have blank : ∀ c ∈ ['\n', '\u2003'], Text.isBlank c = true := by simp [Text.isBlank]
  obtain ⟨-, -, converted, -, behind, between⟩ := integer_roundTrip Int64.minValue
  exact ⟨blank, by decide, converted, behind _ blank, between⟩

end Stackscript
