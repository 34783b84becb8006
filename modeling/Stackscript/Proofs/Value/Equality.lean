import Mathlib
import Stackscript.Value.Basic

set_option autoImplicit false

/- Structural equality is an equivalence, though it is not identity: both zeros are the same, and so
are two blocks of one text. A value equals itself, and equal values are equal to the same values;
symmetry and transitivity follow. -/
namespace Stackscript.Value

mutual

/-- Structural equality is reflexive. -/
theorem same_self (a : Value) : a.same a = true := by
  match a with
  | .array elements =>
    simp only [same]
    exact sameAll_self elements
  | .character _ | .integer _ | .decimal _ | .string _ | .block _ =>
    simp only [same, Decimal.same, beq_self_eq_true]

theorem sameAll_self (as : List Value) : sameAll as as = true := by
  match as with
  | [] => rfl
  | a :: as => simp only [sameAll, same_self a, sameAll_self as, Bool.and_self]

end

mutual

/-- Equal values are equal to the same values. -/
theorem same_congr {a b : Value} (equal : a.same b = true) (c : Value) :
    a.same c = b.same c := by
  match a, b, equal with
  | .array as, .array bs, equal =>
    simp only [same] at equal
    cases c with
    | array cs =>
      simp only [same]
      exact sameAll_congr equal cs
    | _ => rfl
  | .character a, .character b, equal | .integer a, .integer b, equal
  | .string a, .string b, equal =>
    simp only [same, beq_iff_eq] at equal
    rw [equal]
  | .decimal a, .decimal b, equal =>
    simp only [same, Decimal.same, beq_iff_eq] at equal
    cases c <;> simp only [same, Decimal.same, equal]
  | .block a, .block b, equal =>
    simp only [same, beq_iff_eq] at equal
    cases c <;> simp only [same, equal]

theorem sameAll_congr {as bs : List Value} (equal : sameAll as bs = true) (cs : List Value) :
    sameAll as cs = sameAll bs cs := by
  match as, bs, equal with
  | [], [], _ => rfl
  | a :: as, b :: bs, equal =>
    simp only [sameAll, Bool.and_eq_true] at equal
    cases cs with
    | nil => rfl
    | cons c cs => simp only [sameAll, same_congr equal.1 c, sameAll_congr equal.2 cs]

end

instance : EquivBEq Value where
  rfl := same_self _
  symm := fun {a _} equal => (same_congr equal a).symm.trans (same_self a)
  trans := fun {_ _ c} first second => (same_congr first c).trans second

end Stackscript.Value
