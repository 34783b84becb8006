import Stackscript.Machine.Input

set_option autoImplicit false

/- Texts as bytes. The bytes of a text are read back as that text, and the byte of the line feed
stands for the line feed alone, so that cutting the bytes at line feeds cuts the text into its
lines. -/
namespace Stackscript

namespace Text

def encode (t : Text) : List UInt8 :=
  t.flatMap String.utf8EncodeChar

theorem lineFeed_ne_ofNat {n : Nat} (high : 128 ≤ n) (small : n < 256) :
    (0x0A : UInt8) ≠ UInt8.ofNat n := by
  intro same
  have value : 10 = n % 256 := congrArg UInt8.toNat same
  omega

/-- All bytes of other characters are different from the line feed. -/
theorem lineFeed_notMem_utf8EncodeChar {c : Char} (other : c ≠ '\n') :
    0x0A ∉ String.utf8EncodeChar c := by
  unfold String.utf8EncodeChar
  dsimp only
  split
  · rename_i ascii
    rw [List.mem_singleton]
    intro same
    have value : 10 = c.val.toNat % 256 := congrArg UInt8.toNat same
    rw [Nat.mod_eq_of_lt (by omega)] at value
    exact other (Char.ext (UInt32.toNat_inj.1 value.symm))
  · -- Both the first byte and those that follow have their highest bit set.
    split
    · simp only [List.mem_cons, List.not_mem_nil, or_false, not_or]
      exact ⟨lineFeed_ne_ofNat (by omega) (by omega), lineFeed_ne_ofNat (by omega) (by omega)⟩
    · split
      · simp only [List.mem_cons, List.not_mem_nil, or_false, not_or]
        refine ⟨?_, ?_, ?_⟩
        all_goals exact lineFeed_ne_ofNat (by omega) (by omega)
      · simp only [List.mem_cons, List.not_mem_nil, or_false, not_or]
        refine ⟨?_, ?_, ?_, ?_⟩
        all_goals exact lineFeed_ne_ofNat (by omega) (by omega)

theorem lineFeed_notMem_encode {t : Text} (single : '\n' ∉ t) : 0x0A ∉ t.encode := by
  intro member
  obtain ⟨c, inside, member⟩ := List.mem_flatMap.1 member
  refine lineFeed_notMem_utf8EncodeChar ?_ member
  rintro rfl
  exact single inside

end Text

namespace Input

/-- Bytes without a line feed belong to the line that follows them. -/
theorem cutLines_run {run : List UInt8} (single : 0x0A ∉ run) (nonempty : run ≠ [])
    (rest : List UInt8) :
    cutLines (run ++ rest) =
      match cutLines rest with
      | [] => [run]
      | line :: lines => (run ++ line) :: lines := by
  induction run with
  | nil => exact absurd rfl nonempty
  | cons byte run ih =>
    rw [List.mem_cons, not_or] at single
    rw [List.cons_append, cutLines, if_neg (Ne.symm single.1)]
    cases run with
    | nil => rfl
    | cons next run =>
      rw [ih single.2 (List.cons_ne_nil next run)]
      cases cutLines rest with
      | nil => rfl
      | cons line lines => rfl

theorem cutLines_append {line : List UInt8} (single : 0x0A ∉ line) (rest : List UInt8) :
    cutLines (line ++ 0x0A :: rest) = (line ++ [0x0A]) :: cutLines rest := by
  have feed : cutLines (0x0A :: rest) = [0x0A] :: cutLines rest := if_pos rfl
  cases line with
  | nil => exact feed
  | cons byte line => rw [cutLines_run single (List.cons_ne_nil byte line), feed]

theorem cutLines_encode (t : Text) : cutLines t.encode = (Text.rawLines t).map Text.encode := by
  induction t with
  | nil => rfl
  | cons c cs ih =>
    have bytes : Text.encode (c :: cs) = String.utf8EncodeChar c ++ Text.encode cs :=
      List.flatMap_cons
    rw [bytes, Text.rawLines]
    split
    · rename_i feed
      subst feed
      have first : cutLines (String.utf8EncodeChar '\n' ++ Text.encode cs) =
          [0x0A] :: cutLines (Text.encode cs) := if_pos rfl
      rw [first, ih]
      rfl
    · rename_i other
      rw [cutLines_run (Text.lineFeed_notMem_utf8EncodeChar other) String.utf8EncodeChar_ne_nil, ih]
      cases Text.rawLines cs with
      | nil => exact congrArg (fun bytes => [bytes]) (List.append_nil _).symm
      | cons line lines => rfl

theorem decode?_encode (t : Text) : decode? t.encode = some t := by
  have bytes : (⟨t.encode.toArray⟩ : ByteArray) = (String.ofList t).toByteArray := by
    apply ByteArray.ext
    exact (List.data_toByteArray (l := t.encode)).symm
  unfold decode? String.fromUTF8?
  rw [bytes, dif_pos (String.isValidUTF8 _)]
  exact congrArg some String.toList_ofList

/-- The lines of the bytes of a text are the lines of the text. -/
theorem ofBytes_encode (t : Text) : ofBytes t.encode = ofText t := by
  have decoded : decode? ∘ Text.encode = some := funext decode?_encode
  rw [ofBytes, ofText, cutLines_encode, List.map_map, decoded]

end Input

end Stackscript
