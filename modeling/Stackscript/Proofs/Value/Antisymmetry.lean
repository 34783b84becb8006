import Stackscript.Value.Order

set_option autoImplicit false

/- The order of values read from the other side. Promotion treats its two operands alike, so that
comparing two values the other way round gives the reverse, and fails where the comparison does. -/
namespace Stackscript.Value

instance : Std.OrientedCmp Decimal.compare :=
  inferInstanceAs (Std.OrientedCmp (compareOn Decimal.key))

instance : Std.OrientedCmp Text.compare :=
  inferInstanceAs (Std.OrientedCmp (List.compareLex (compareOn Char.toNat)))

def Promoted.swap : Promoted → Promoted
  | .characters a b => .characters b a
  | .integers a b => .integers b a
  | .decimals a b => .decimals b a
  | .strings a b => .strings b a
  | .arrays a b => .arrays b a

theorem promote_swap (a b : Value) : promote b a = Promoted.swap <$> promote a b := by
  cases a <;> cases b <;> rfl

/-- Lists compare in reverse where their elements do. -/
theorem lexicographic_swap {α β ε : Type} {cmp : α → β → Except ε Ordering}
    {cmp' : β → α → Except ε Ordering}
    (reverse : ∀ a b, cmp' b a = Ordering.swap <$> cmp a b) (as : List α) (bs : List β) :
    lexicographic cmp' bs as = Ordering.swap <$> lexicographic cmp as bs := by
  induction as generalizing bs with
  | nil => cases bs <;> rfl
  | cons a as ih =>
    cases bs with
    | nil => rfl
    | cons b bs =>
      rw [lexicographic, lexicographic, reverse]
      cases cmp a b with
      | error e => rfl
      | ok order =>
        cases order with
        | eq => exact ih bs
        | lt => rfl
        | gt => rfl

theorem compareWithin_swap (depth : Nat) (a b : Value) :
    compareWithin depth b a = Ordering.swap <$> compareWithin depth a b := by
  induction depth generalizing a b with
  | zero => rfl
  | succ depth ih =>
    rw [compareWithin, compareWithin, promote_swap]
    cases promote a b with
    | error fault => rfl
    | ok promoted =>
      cases promoted with
      | characters c d => exact congrArg Except.ok Std.OrientedCmp.eq_swap
      | integers m n => exact congrArg Except.ok Std.OrientedCmp.eq_swap
      | decimals d e => exact congrArg Except.ok Std.OrientedCmp.eq_swap
      | strings s t => exact congrArg Except.ok Std.OrientedCmp.eq_swap
      | arrays as bs => exact lexicographic_swap ih as bs

/-- The order of values is antisymmetric, failures included. -/
theorem compare_swap (a b : Value) : compare b a = Ordering.swap <$> compare a b := by
  unfold compare
  rw [Nat.max_comm]
  exact compareWithin_swap _ a b

end Stackscript.Value
