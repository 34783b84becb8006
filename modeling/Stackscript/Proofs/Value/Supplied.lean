import Stackscript.Proofs.Correspondence.Arithmetic

set_option autoImplicit false

/- Computations on values alone. An operator hands its operands over once they are off the stack, so
that whatever is then computed from them may fail, but not because the stack holds too few. -/
namespace Stackscript

/-- A result that is not a failure for want of values on a stack. -/
def Supplied {α : Type} (result : Except Fault α) : Prop :=
  ∀ fault, result = .error fault → fault.kind ≠ .stackUnderflow

namespace Supplied

variable {α β : Type}

theorem ok (a : α) : Supplied (.ok a) := by
  intro fault failed
  cases failed

theorem error {fault : Fault} (other : fault.kind ≠ .stackUnderflow) :
    Supplied (.error fault : Except Fault α) := by
  intro raised failed
  cases failed
  exact other

theorem bind {result : Except Fault α} {next : α → Except Fault β} (first : Supplied result)
    (rest : ∀ a, Supplied (next a)) : Supplied (result >>= next) := by
  cases result with
  | ok a => exact rest a
  | error fault => exact .error (first fault rfl)

theorem map {result : Except Fault α} (first : Supplied result) (f : α → β) :
    Supplied (f <$> result) := by
  cases result with
  | ok a => exact .ok (f a)
  | error fault => exact .error (first fault rfl)

def lifting : Lifting (Except Fault) where
  rel R x _ := Supplied x ∧ ∀ a, x = .ok a → ∃ b, R a b
  pure {_ _ _ a b} related := by
    refine ⟨.ok a, ?_⟩
    intro _ same
    cases same
    exact ⟨b, related⟩
  bind {_ _ _ _ _ _ x _ _ _} first next := by
    cases x with
    | error fault => exact ⟨.error (first.1 fault rfl), nofun⟩
    | ok a =>
      obtain ⟨b, related⟩ := first.2 a rfl
      exact next a b related

end Supplied

namespace Value

theorem kind_supplied (a : Value) : Supplied a.kind := by
  cases a with
  | block => exact .error nofun
  | _ => exact .ok _

theorem ofCode_supplied (code : Int) : Supplied (ofCode code) := by
  unfold ofCode
  split
  · exact .ok _
  · exact .error nofun

theorem truncate_supplied (d : Decimal) : Supplied (truncate d) := by
  unfold truncate
  split
  · exact .error nofun
  · split
    · exact .ok _
    · exact .error nofun

theorem readInteger_supplied (t : Text) : Supplied (readInteger t) := by
  unfold readInteger
  split
  · exact .ok _
  · split
    · exact truncate_supplied _
    · exact .error nofun

theorem readDecimal_supplied (t : Text) : Supplied (readDecimal t) := by
  unfold readDecimal
  split
  · exact .ok _
  · exact .error nofun

theorem toCharacter_supplied (a : Value) : Supplied a.toCharacter := by
  cases a with
  | character c => exact .ok c
  | integer n => exact ofCode_supplied _
  | decimal d => exact (truncate_supplied d).bind fun n => ofCode_supplied n.toInt
  | string t => exact .ok _
  | array => exact .error nofun
  | block => exact .error nofun

theorem toInteger_supplied (a : Value) : Supplied a.toInteger := by
  cases a with
  | character c => exact .ok _
  | integer n => exact .ok n
  | decimal d => exact truncate_supplied d
  | string t => exact readInteger_supplied t
  | array => exact .error nofun
  | block => exact .error nofun

theorem toDecimal_supplied (a : Value) : Supplied a.toDecimal := by
  cases a with
  | character c => exact .ok _
  | integer n => exact .ok _
  | decimal d => exact .ok d
  | string t => exact readDecimal_supplied t
  | array => exact .error nofun
  | block => exact .error nofun

theorem toText_supplied (a : Value) : Supplied a.toText := by
  cases a with
  | block => exact .error nofun
  | _ => exact .ok _

theorem toArray_supplied (a : Value) : Supplied a.toArray := by
  cases a with
  | block => exact .error nofun
  | _ => exact .ok _

theorem promote_supplied (a b : Value) : Supplied (promote a b) := by
  apply a.kind_supplied.bind
  intro left
  apply b.kind_supplied.bind
  intro right
  cases left.wider right with
  | character =>
    apply a.toCharacter_supplied.bind
    intro x
    exact b.toCharacter_supplied.bind fun y => .ok _
  | integer =>
    apply a.toInteger_supplied.bind
    intro x
    exact b.toInteger_supplied.bind fun y => .ok _
  | decimal =>
    apply a.toDecimal_supplied.bind
    intro x
    exact b.toDecimal_supplied.bind fun y => .ok _
  | string =>
    apply a.toText_supplied.bind
    intro x
    exact b.toText_supplied.bind fun y => .ok _
  | array =>
    apply a.toArray_supplied.bind
    intro x
    exact b.toArray_supplied.bind fun y => .ok _

theorem lexicographic_supplied {cmp : Value → Value → Except Fault Ordering}
    (each : ∀ a b, Supplied (cmp a b)) (as bs : List Value) :
    Supplied (lexicographic cmp as bs) := by
  induction as generalizing bs with
  | nil => cases bs <;> exact .ok _
  | cons a as ih =>
    cases bs with
    | nil => exact .ok _
    | cons b bs =>
      apply (each a b).bind
      intro order
      cases order with
      | eq => exact ih bs
      | lt => exact .ok _
      | gt => exact .ok _

theorem compareWithin_supplied (depth : Nat) (a b : Value) :
    Supplied (compareWithin depth a b) := by
  induction depth generalizing a b with
  | zero => exact .ok _
  | succ depth ih =>
    apply (promote_supplied a b).bind
    intro promoted
    cases promoted with
    | arrays as bs => exact lexicographic_supplied ih as bs
    | _ => exact .ok _

theorem compare_supplied (a b : Value) : Supplied (compare a b) :=
  compareWithin_supplied _ a b

end Value

namespace Sequence

theorem concat_supplied (a b : Value) : Supplied (concat a b) := by
  apply (Value.promote_supplied a b).bind
  intro promoted
  cases promoted with
  | strings => exact .ok _
  | arrays => exact .ok _
  | _ => exact .error nofun

theorem replicate_supplied (a : Value) (count : Int64) : Supplied (replicate a count) := by
  have checked (length times : Nat) : Supplied (checkLength length times) := by
    unfold checkLength
    split
    · exact .ok _
    · exact .error nofun
  cases a with
  | string t => exact (checked _ _).bind fun _ => .ok _
  | array elements => exact (checked _ _).bind fun _ => .ok _
  | _ => exact .error nofun

theorem separate_supplied {α : Type} [BEq α] (items pattern : List α) :
    Supplied (separate items pattern) := by
  cases pattern with
  | nil => exact .error nofun
  | cons => exact .ok _

theorem split_supplied (a b : Value) : Supplied (split a b) := by
  apply (Value.promote_supplied a b).bind
  intro promoted
  cases promoted with
  | strings t pattern => exact (separate_supplied t pattern).bind fun _ => .ok _
  | arrays items pattern => exact (separate_supplied items pattern).bind fun _ => .ok _
  | _ => exact .error nofun

theorem indexOf_supplied (a b : Value) : Supplied (indexOf a b) := by
  apply (Value.promote_supplied a b).bind
  intro promoted
  cases promoted with
  | strings => exact .ok _
  | arrays => exact .ok _
  | _ => exact .error nofun

theorem elementAt_supplied (a : Value) (index : Int64) : Supplied (elementAt a index) := by
  apply a.toArray_supplied.bind
  intro items
  dsimp only
  split
  · exact .ok _
  · exact .error nofun

theorem take_supplied (a : Value) (count : Int64) : Supplied (take a count) := by
  cases a with
  | string => exact .ok _
  | array => exact .ok _
  | _ => exact .error nofun

theorem drop_supplied (a : Value) (count : Int64) : Supplied (drop a count) := by
  cases a with
  | string => exact .ok _
  | array => exact .ok _
  | _ => exact .error nofun

theorem uncons_supplied (a : Value) : Supplied (uncons a) := by
  unfold uncons
  split
  · exact .ok _
  · exact .ok _
  · exact .error nofun
  · exact .error nofun
  · exact .error nofun

theorem unsnoc_supplied (a : Value) : Supplied (unsnoc a) := by
  unfold unsnoc
  split
  · split
    · exact .ok _
    · exact .error nofun
  · split
    · exact .ok _
    · exact .error nofun
  · exact .error nofun

theorem words_supplied (a : Value) : Supplied (words a) := by
  cases a with
  | string => exact .ok _
  | _ => exact .error nofun

theorem lines_supplied (a : Value) : Supplied (lines a) := by
  cases a with
  | string => exact .ok _
  | _ => exact .error nofun

theorem sort_supplied (a : Value) : Supplied (sort a) := by
  have sorted (items : List Value) : Supplied (mergeSort Value.less items) := by
    have same : List.Forall₂ Eq items items := List.forall₂_same.2 fun _ _ => rfl
    have related : Supplied.lifting.rel (List.Forall₂ Eq) (mergeSort Value.less items)
        (mergeSort Value.less items) := by
      refine mergeSort_related Supplied.lifting ?_ same
      intro x _ y _ _ _
      exact ⟨(Value.compare_supplied x y).map _, fun answer _ => ⟨answer, rfl⟩⟩
    exact related.1
  unfold sort
  split
  · apply a.toArray_supplied.bind
    intro items
    exact (sorted items).bind fun _ => .ok _
  · exact .error nofun

end Sequence

namespace Arithmetic

theorem checked_supplied (op : Operator) (result : Option Int64) :
    Supplied (checked op result) := by
  cases result with
  | none => exact .error nofun
  | some n => exact .ok n

theorem numeric_supplied {op : Operator} {onIntegers : Int64 → Int64 → Except Fault Int64}
    {onDecimals : Option (Decimal → Decimal → Decimal)}
    (each : ∀ x y, Supplied (onIntegers x y)) (a b : Value) :
    Supplied (numeric op onIntegers onDecimals a b) := by
  apply (Value.promote_supplied a b).bind
  intro promoted
  cases promoted with
  | integers x y => exact (each x y).bind fun _ => .ok _
  | characters x y =>
    apply (each (Value.code x) (Value.code y)).bind
    intro code
    exact (Value.ofCode_supplied code.toInt).bind fun _ => .ok _
  | decimals x y =>
    cases onDecimals with
    | none => exact .error nofun
    | some f => exact .ok _
  | _ => exact .error nofun

private theorem divisor_supplied {op : Operator} (compute : Int64 → Int64 → Option Int64)
    (x y : Int64) :
    Supplied (if y = 0 then .error .zeroDivisor else checked op (compute x y)) := by
  split
  · exact .error nofun
  · exact checked_supplied _ _

theorem add_supplied (a b : Value) : Supplied (add a b) := by
  unfold add
  split
  · exact Sequence.concat_supplied a b
  · exact numeric_supplied (fun _ _ => checked_supplied _ _) a b

theorem subtract_supplied (a b : Value) : Supplied (subtract a b) :=
  numeric_supplied (fun _ _ => checked_supplied _ _) a b

theorem multiply_supplied (a b : Value) : Supplied (multiply a b) := by
  unfold multiply
  split
  · exact Sequence.replicate_supplied _ _
  · exact numeric_supplied (fun _ _ => checked_supplied _ _) a b

theorem divide_supplied (a b : Value) : Supplied (divide a b) := by
  unfold divide
  split
  · exact Sequence.split_supplied a b
  · exact numeric_supplied (divisor_supplied Integer.div?) a b

theorem remainder_supplied (a b : Value) : Supplied (remainder a b) :=
  numeric_supplied (divisor_supplied Integer.mod?) a b

theorem integerPower_supplied (x y : Int64) : Supplied (integerPower x y) := by
  unfold integerPower
  split
  · exact checked_supplied _ _
  split
  · split
    · exact .error nofun
    · exact .ok _
  split
  · exact .ok _
  split
  · exact .ok _
  split
  · exact .ok _
  · exact .error nofun

theorem power_supplied (a b : Value) : Supplied (power a b) := by
  unfold power
  split
  · exact Sequence.indexOf_supplied a b
  · exact numeric_supplied integerPower_supplied a b

theorem bitwise_supplied {op : Operator} (combine : Int64 → Int64 → Int64) (a b : Value) :
    Supplied (numeric op (fun x y => .ok (combine x y)) none a b) :=
  numeric_supplied (fun _ _ => .ok _) a b

theorem complement_supplied (a : Value) : Supplied (complement a) := by
  cases a with
  | integer n => exact .ok _
  | _ => exact .error nofun

theorem step_supplied (a : Value) (distance : Int64) : Supplied (step a distance) := by
  cases a with
  | character c => exact (Value.ofCode_supplied _).bind fun _ => .ok _
  | integer n => exact (checked_supplied _ _).bind fun _ => .ok _
  | decimal d => exact .ok _
  | _ => exact .error nofun

theorem comparison_supplied {onSequence : Value → Int64 → Except Fault Value}
    (sequence : ∀ a n, Supplied (onSequence a n)) (expected : Ordering) (a b : Value) :
    Supplied (comparison onSequence expected a b) := by
  unfold comparison
  split
  · exact sequence _ _
  · exact (Value.compare_supplied _ _).bind fun _ => .ok _

theorem minimum_supplied (a b : Value) : Supplied (minimum a b) := by
  apply (Value.compare_supplied a b).bind
  intro order
  cases order <;> exact .ok _

theorem maximum_supplied (a b : Value) : Supplied (maximum a b) := by
  apply (Value.compare_supplied a b).bind
  intro order
  cases order <;> exact .ok _

end Arithmetic

end Stackscript
