import Stackscript.Arithmetic
import Stackscript.Proofs.Correspondence.Sequence

set_option autoImplicit false

/- Arithmetic, comparison and logic carry corresponding operands to corresponding results. -/
namespace Stackscript.Arithmetic

variable {B : Pairing}

theorem checked_agree (op : Operator) (result : Option Int64) :
    Agree Eq (checked op result) (checked op result) := by
  cases result with
  | none => exact .error nofun
  | some n => exact .ok rfl

theorem integerPower_agree (x y : Int64) : Agree Eq (integerPower x y) (integerPower x y) := by
  unfold integerPower
  split
  · exact checked_agree _ _
  split
  · split
    · exact .error nofun
    · exact .ok rfl
  split
  · exact .ok rfl
  split
  · exact .ok rfl
  split
  · exact .ok rfl
  · exact .error nofun

theorem numeric_agree {op : Operator} {onIntegers : Int64 → Int64 → Except Fault Int64}
    {onDecimals : Option (Decimal → Decimal → Decimal)}
    (semantic : ∀ x y, Agree Eq (onIntegers x y) (onIntegers x y)) {a b a' b' : Value}
    (h : Value.Related B a b) (h' : Value.Related B a' b') :
    Agree (Value.Related B) (numeric op onIntegers onDecimals a a')
      (numeric op onIntegers onDecimals b b') := by
  refine (h.promote h').bind fun p q promoted => ?_
  cases promoted with
  | integers x y =>
    refine (semantic x y).bindSame fun n => ?_
    exact .ok (.integer n)
  | characters x y =>
    refine (semantic (Value.code x) (Value.code y)).bindSame fun code => ?_
    refine (Value.ofCode_agree _).bindSame fun c => ?_
    exact .ok (.character c)
  | decimals x y =>
    cases onDecimals with
    | none => exact .error nofun
    | some f => exact .ok (.decimal _)
  | _ => exact .error nofun

theorem add_agree {a b a' b' : Value} (h : Value.Related B a b) (h' : Value.Related B a' b') :
    Agree (Value.Related B) (add a a') (add b b') := by
  unfold add
  rw [h.isSequence_eq, h'.isSequence_eq]
  split
  · exact Sequence.concat_agree h h'
  · exact numeric_agree (fun _ _ => checked_agree _ _) h h'

theorem subtract_agree {a b a' b' : Value} (h : Value.Related B a b) (h' : Value.Related B a' b') :
    Agree (Value.Related B) (subtract a a') (subtract b b') :=
  numeric_agree (fun _ _ => checked_agree _ _) h h'

theorem multiply_agree {a b a' b' : Value} (h : Value.Related B a b) (h' : Value.Related B a' b') :
    Agree (Value.Related B) (multiply a a') (multiply b b') := by
  have product : Agree (Value.Related B)
      (numeric .multiply (fun x y => checked .multiply (Integer.mul? x y)) (some Decimal.mul) a a')
      (numeric .multiply (fun x y => checked .multiply (Integer.mul? x y)) (some Decimal.mul) b b') :=
    numeric_agree (fun _ _ => checked_agree _ _) h h'
  cases h with
  | integer n =>
    cases h' with
    | string t => exact Sequence.replicate_agree (.string t) n
    | array elements => exact Sequence.replicate_agree (.array elements) n
    | _ => exact product
  | string t =>
    cases h' with
    | integer n => exact Sequence.replicate_agree (.string t) n
    | _ => exact product
  | array elements =>
    cases h' with
    | integer n => exact Sequence.replicate_agree (.array elements) n
    | _ => exact product
  | _ => exact product

private theorem divisor_agree {op : Operator} (compute : Int64 → Int64 → Option Int64)
    (x y : Int64) :
    Agree Eq (if y = 0 then .error .zeroDivisor else checked op (compute x y))
      (if y = 0 then .error .zeroDivisor else checked op (compute x y)) := by
  split
  · exact .error nofun
  · exact checked_agree _ _

theorem divide_agree {a b a' b' : Value} (h : Value.Related B a b) (h' : Value.Related B a' b') :
    Agree (Value.Related B) (divide a a') (divide b b') := by
  unfold divide
  rw [h.isSequence_eq, h'.isSequence_eq]
  split
  · exact Sequence.split_agree h h'
  · exact numeric_agree (divisor_agree Integer.div?) h h'

theorem remainder_agree {a b a' b' : Value} (h : Value.Related B a b) (h' : Value.Related B a' b') :
    Agree (Value.Related B) (remainder a a') (remainder b b') :=
  numeric_agree (divisor_agree Integer.mod?) h h'

theorem power_agree {a b a' b' : Value} (h : Value.Related B a b) (h' : Value.Related B a' b') :
    Agree (Value.Related B) (power a a') (power b b') := by
  unfold power
  rw [h.isSequence_eq, h'.isSequence_eq]
  split
  · exact Sequence.indexOf_agree h h'
  · exact numeric_agree integerPower_agree h h'

theorem bitwise_agree {op : Operator} (combine : Int64 → Int64 → Int64) {a b a' b' : Value}
    (h : Value.Related B a b) (h' : Value.Related B a' b') :
    Agree (Value.Related B) (numeric op (fun x y => .ok (combine x y)) none a a')
      (numeric op (fun x y => .ok (combine x y)) none b b') :=
  numeric_agree (fun _ _ => .ok rfl) h h'

theorem complement_agree {a b : Value} (h : Value.Related B a b) :
    Agree (Value.Related B) (complement a) (complement b) := by
  cases h with
  | integer n => exact .ok (.integer _)
  | _ => exact .error nofun

theorem step_agree {a b : Value} (h : Value.Related B a b) (distance : Int64) :
    Agree (Value.Related B) (step a distance) (step b distance) := by
  cases h with
  | character c =>
    refine (Value.ofCode_agree _).bindSame fun d => ?_
    exact .ok (.character d)
  | integer n =>
    refine (checked_agree _ _).bindSame fun k => ?_
    exact .ok (.integer k)
  | decimal d => exact .ok (.decimal _)
  | _ => exact .error nofun

def comparison (onSequence : Value → Int64 → Except Fault Value) (expected : Ordering)
    (a b : Value) : Except Fault Value :=
  match a.isSequence, b with
  | true, .integer n => onSequence a n
  | _, _ => return .ofBool ((← Value.compare a b) == expected)

theorem comparison_agree {onSequence : Value → Int64 → Except Fault Value} {expected : Ordering}
    (sequence : ∀ {a b}, Value.Related B a b → ∀ n,
      Agree (Value.Related B) (onSequence a n) (onSequence b n))
    {a b a' b' : Value} (h : Value.Related B a b) (h' : Value.Related B a' b') :
    Agree (Value.Related B) (comparison onSequence expected a a')
      (comparison onSequence expected b b') := by
  have compared : Agree (Value.Related B)
      (do return .ofBool ((← Value.compare a a') == expected))
      (do return .ofBool ((← Value.compare b b') == expected)) := by
    refine (h.compare h').bindSame fun order => ?_
    exact .ok (.integer _)
  unfold comparison
  rw [h.isSequence_eq]
  cases b.isSequence with
  | false => exact compared
  | true =>
    cases h' with
    | integer n => exact sequence h n
    | _ => exact compared

theorem equal_agree {a b a' b' : Value} (h : Value.Related B a b) (h' : Value.Related B a' b') :
    Agree (Value.Related B) (equal a a') (equal b b') :=
  comparison_agree Sequence.elementAt_agree h h'

theorem less_agree {a b a' b' : Value} (h : Value.Related B a b) (h' : Value.Related B a' b') :
    Agree (Value.Related B) (less a a') (less b b') :=
  comparison_agree Sequence.take_agree h h'

theorem greater_agree {a b a' b' : Value} (h : Value.Related B a b) (h' : Value.Related B a' b') :
    Agree (Value.Related B) (greater a a') (greater b b') :=
  comparison_agree Sequence.drop_agree h h'

theorem minimum_agree {a b a' b' : Value} (h : Value.Related B a b) (h' : Value.Related B a' b') :
    Agree (Value.Related B) (minimum a a') (minimum b b') := by
  refine (h.compare h').bindSame fun order => ?_
  cases order with
  | gt => exact .ok h'
  | lt => exact .ok h
  | eq => exact .ok h

theorem maximum_agree {a b a' b' : Value} (h : Value.Related B a b) (h' : Value.Related B a' b') :
    Agree (Value.Related B) (maximum a a') (maximum b b') := by
  refine (h.compare h').bindSame fun order => ?_
  cases order with
  | lt => exact .ok h'
  | gt => exact .ok h
  | eq => exact .ok h

theorem negation_related {a b : Value} (h : Value.Related B a b) :
    Value.Related B (negation a) (negation b) := by
  unfold negation
  rw [h.isTruthy_eq]
  exact .integer _

theorem choose_related {a b a' b' a'' b'' : Value} (h : Value.Related B a b)
    (h' : Value.Related B a' b') (h'' : Value.Related B a'' b'') :
    Value.Related B (choose a a' a'') (choose b b' b'') := by
  unfold choose
  rw [h.isTruthy_eq]
  split
  · exact h'
  · exact h''

end Stackscript.Arithmetic
