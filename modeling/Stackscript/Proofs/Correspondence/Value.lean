import Mathlib.Data.List.Forall2
import Stackscript.Value.Order

set_option autoImplicit false

/- Values that correspond: they are built alike and differ in their blocks only, which correspond by
a relation that keeps their texts. Nothing but running a block looks further than its text, so
whatever is computed from corresponding values corresponds, and it fails alike. -/
namespace Stackscript

/-- Results in step: related values, or on both sides the same fault, which is not one of syntax. -/
inductive Agree {α β : Type} (R : α → β → Prop) : Except Fault α → Except Fault β → Prop where
  | ok {a : α} {b : β} (related : R a b) : Agree R (.ok a) (.ok b)
  | error {fault : Fault} (semantic : fault.kind ≠ .syntaxError) :
    Agree R (.error fault) (.error fault)

namespace Agree

variable {α β γ δ : Type} {R : α → β → Prop} {S : γ → δ → Prop}

theorem bind {x : Except Fault α} {y : Except Fault β} {f : α → Except Fault γ}
    {g : β → Except Fault δ} (first : Agree R x y) (next : ∀ a b, R a b → Agree S (f a) (g b)) :
    Agree S (x >>= f) (y >>= g) := by
  cases first with
  | ok related => exact next _ _ related
  | error semantic => exact .error semantic

theorem bindSame {x y : Except Fault α} {f : α → Except Fault γ} {g : α → Except Fault δ}
    (first : Agree Eq x y) (next : ∀ a, Agree S (f a) (g a)) : Agree S (x >>= f) (y >>= g) := by
  refine first.bind fun a b same => ?_
  rw [← same]
  exact next a

theorem map {x : Except Fault α} {y : Except Fault β} {f : α → γ} {g : β → δ} (first : Agree R x y)
    (next : ∀ a b, R a b → S (f a) (g b)) : Agree S (f <$> x) (g <$> y) := by
  cases first with
  | ok related => exact .ok (next _ _ related)
  | error semantic => exact .error semantic

end Agree

/-- A relation between blocks of the same text. -/
structure Pairing where
  holds : Block → Block → Prop
  source_eq : ∀ {a b : Block}, holds a b → a.source = b.source

namespace Value

/-- The same value up to its blocks, which are related by `B`. -/
inductive Related (B : Pairing) : Value → Value → Prop where
  | character (c : Char) : Related B (.character c) (.character c)
  | integer (n : Int64) : Related B (.integer n) (.integer n)
  | decimal (d : Decimal) : Related B (.decimal d) (.decimal d)
  | string (t : Text) : Related B (.string t) (.string t)
  | array {xs ys : List Value} (elements : List.Forall₂ (Related B) xs ys) :
    Related B (.array xs) (.array ys)
  | block {a b : Block} (blocks : B.holds a b) : Related B (.block a) (.block b)

variable {B : Pairing}

theorem related_map {α : Type} {make : α → Value} (same : ∀ a, Related B (make a) (make a))
    (items : List α) : List.Forall₂ (Related B) (items.map make) (items.map make) := by
  induction items with
  | nil => exact .nil
  | cons item items ih => exact .cons (same item) ih

theorem Related.isSequence_eq {a b : Value} (h : Related B a b) : a.isSequence = b.isSequence := by
  cases h <;> rfl

theorem Related.type_eq {a b : Value} (h : Related B a b) : a.type = b.type := by
  cases h <;> rfl

theorem Related.kind {a b : Value} (h : Related B a b) : Agree Eq a.kind b.kind := by
  cases h with
  | block => exact .error (by decide)
  | _ => exact .ok rfl

theorem Related.isTruthy_eq {a b : Value} (h : Related B a b) : a.isTruthy = b.isTruthy := by
  cases h with
  | array elements => cases elements <;> rfl
  | block blocks => simp only [isTruthy, Block.isEmpty, B.source_eq blocks]
  | _ => rfl

mutual

theorem Related.render_eq {a b : Value} (h : Related B a b) : a.render = b.render := by
  match a, b, h with
  | .array xs, .array ys, .array elements =>
    simp only [render]
    exact renderAll_eq elements
  | .block _, .block _, .block blocks => simp only [render, B.source_eq blocks]
  | _, _, .character _ | _, _, .integer _ | _, _, .decimal _ | _, _, .string _ => rfl

theorem renderAll_eq {xs ys : List Value} (h : List.Forall₂ (Related B) xs ys) :
    renderAll xs = renderAll ys := by
  match xs, ys, h with
  | [], [], .nil => rfl
  | x :: xs, y :: ys, .cons head tail => simp only [renderAll, head.render_eq, renderAll_eq tail]

end

mutual

theorem Related.depth_eq {a b : Value} (h : Related B a b) : a.depth = b.depth := by
  match a, b, h with
  | .array xs, .array ys, .array elements =>
    simp only [depth]
    rw [depthAll_eq elements]
  | .block _, .block _, .block _ => rfl
  | _, _, .character _ | _, _, .integer _ | _, _, .decimal _ | _, _, .string _ => rfl

theorem depthAll_eq {xs ys : List Value} (h : List.Forall₂ (Related B) xs ys) :
    depthAll xs = depthAll ys := by
  match xs, ys, h with
  | [], [], .nil => rfl
  | x :: xs, y :: ys, .cons head tail => simp only [depthAll, head.depth_eq, depthAll_eq tail]

end

mutual

theorem Related.same_eq {a b a' b' : Value} (h : Related B a b) (h' : Related B a' b') :
    same a a' = same b b' := by
  match a, b, h with
  | .array xs, .array ys, .array elements =>
    cases h' with
    | array elements' =>
      simp only [same]
      exact sameAll_eq elements elements'
    | _ => rfl
  | .block _, .block _, .block blocks =>
    cases h' with
    | block blocks' => simp only [same, B.source_eq blocks, B.source_eq blocks']
    | _ => rfl
  | _, _, .character _ | _, _, .integer _ | _, _, .decimal _ | _, _, .string _ =>
    cases h' <;> rfl

theorem sameAll_eq {xs ys xs' ys' : List Value} (h : List.Forall₂ (Related B) xs ys)
    (h' : List.Forall₂ (Related B) xs' ys') : sameAll xs xs' = sameAll ys ys' := by
  match xs, ys, h with
  | [], [], .nil => cases h' <;> rfl
  | x :: xs, y :: ys, .cons head tail =>
    cases h' with
    | nil => rfl
    | cons head' tail' => simp only [sameAll, head.same_eq head', sameAll_eq tail tail']

end

mutual

/-- Corresponding values are structurally equal. -/
theorem Related.same {a b : Value} (h : Related B a b) : a.same b = true := by
  match a, b, h with
  | .array xs, .array ys, .array elements =>
    simp only [Value.same]
    exact sameAll_of_related elements
  | .block _, .block _, .block blocks =>
    simp only [Value.same, B.source_eq blocks, beq_self_eq_true]
  | _, _, .decimal d => simp only [Value.same, Decimal.same, beq_self_eq_true]
  | _, _, .character _ | _, _, .integer _ | _, _, .string _ =>
    simp only [Value.same, beq_self_eq_true]

theorem sameAll_of_related {xs ys : List Value} (h : List.Forall₂ (Related B) xs ys) :
    sameAll xs ys = true := by
  match xs, ys, h with
  | [], [], .nil => rfl
  | x :: xs, y :: ys, .cons head tail =>
    simp only [sameAll, head.same, sameAll_of_related tail, Bool.and_self]

end

theorem Related.beq_eq {a b a' b' : Value} (h : Related B a b) (h' : Related B a' b') :
    (a == a') = (b == b') :=
  h.same_eq h'

theorem ofCode_agree (code : Int) : Agree Eq (ofCode code) (ofCode code) := by
  unfold ofCode
  split
  · exact .ok rfl
  · exact .error nofun

theorem truncate_agree (d : Decimal) : Agree Eq (truncate d) (truncate d) := by
  unfold truncate
  split
  · exact .error nofun
  · split
    · exact .ok rfl
    · exact .error nofun

theorem readInteger_agree (t : Text) : Agree Eq (readInteger t) (readInteger t) := by
  unfold readInteger
  split
  · exact .ok rfl
  · split
    · exact truncate_agree _
    · exact .error nofun

theorem readDecimal_agree (t : Text) : Agree Eq (readDecimal t) (readDecimal t) := by
  unfold readDecimal
  split
  · exact .ok rfl
  · exact .error nofun

theorem Related.toCharacter {a b : Value} (h : Related B a b) :
    Agree Eq a.toCharacter b.toCharacter := by
  cases h with
  | character c => exact .ok rfl
  | integer n => exact ofCode_agree _
  | decimal d =>
    refine (truncate_agree d).bindSame fun n => ?_
    exact ofCode_agree _
  | string t => exact .ok rfl
  | array => exact .error nofun
  | block => exact .error nofun

theorem Related.toInteger {a b : Value} (h : Related B a b) : Agree Eq a.toInteger b.toInteger := by
  cases h with
  | character c => exact .ok rfl
  | integer n => exact .ok rfl
  | decimal d => exact truncate_agree d
  | string t => exact readInteger_agree t
  | array => exact .error nofun
  | block => exact .error nofun

theorem Related.toDecimal {a b : Value} (h : Related B a b) : Agree Eq a.toDecimal b.toDecimal := by
  cases h with
  | character c => exact .ok rfl
  | integer n => exact .ok rfl
  | decimal d => exact .ok rfl
  | string t => exact readDecimal_agree t
  | array => exact .error nofun
  | block => exact .error nofun

theorem Related.toText {a b : Value} (h : Related B a b) : Agree Eq a.toText b.toText := by
  have rendered := h.render_eq
  cases h with
  | block => exact .error nofun
  | _ => exact .ok rendered

theorem Related.toArray {a b : Value} (h : Related B a b) :
    Agree (List.Forall₂ (Related B)) a.toArray b.toArray := by
  cases h with
  | character c => exact .ok (.cons (.character c) .nil)
  | integer n => exact .ok (.cons (.integer n) .nil)
  | decimal d => exact .ok (.cons (.decimal d) .nil)
  | string t => exact .ok (related_map .character t)
  | array elements => exact .ok elements
  | block => exact .error nofun

inductive Promoted.Related (B : Pairing) : Promoted → Promoted → Prop where
  | characters (a b : Char) : Related B (.characters a b) (.characters a b)
  | integers (a b : Int64) : Related B (.integers a b) (.integers a b)
  | decimals (a b : Decimal) : Related B (.decimals a b) (.decimals a b)
  | strings (a b : Text) : Related B (.strings a b) (.strings a b)
  | arrays {xs ys xs' ys' : List Value} (left : List.Forall₂ (Value.Related B) xs ys)
    (right : List.Forall₂ (Value.Related B) xs' ys') : Related B (.arrays xs xs') (.arrays ys ys')

theorem Related.promote {a b a' b' : Value} (h : Related B a b) (h' : Related B a' b') :
    Agree (Promoted.Related B) (promote a a') (promote b b') := by
  refine h.kind.bindSame fun left => ?_
  refine h'.kind.bindSame fun right => ?_
  cases left.wider right with
  | character =>
    refine h.toCharacter.bindSame fun x => ?_
    refine h'.toCharacter.bindSame fun y => ?_
    exact .ok (.characters x y)
  | integer =>
    refine h.toInteger.bindSame fun x => ?_
    refine h'.toInteger.bindSame fun y => ?_
    exact .ok (.integers x y)
  | decimal =>
    refine h.toDecimal.bindSame fun x => ?_
    refine h'.toDecimal.bindSame fun y => ?_
    exact .ok (.decimals x y)
  | string =>
    refine h.toText.bindSame fun x => ?_
    refine h'.toText.bindSame fun y => ?_
    exact .ok (.strings x y)
  | array =>
    refine h.toArray.bind fun xs ys left => ?_
    refine h'.toArray.bind fun xs' ys' right => ?_
    exact .ok (.arrays left right)

theorem lexicographic_agree {cmp : Value → Value → Except Fault Ordering}
    (agree : ∀ {a b a' b'}, Related B a b → Related B a' b' → Agree Eq (cmp a a') (cmp b b'))
    {xs ys xs' ys' : List Value} (h : List.Forall₂ (Related B) xs ys)
    (h' : List.Forall₂ (Related B) xs' ys') :
    Agree Eq (lexicographic cmp xs xs') (lexicographic cmp ys ys') := by
  induction h generalizing xs' ys' with
  | nil => cases h' <;> exact .ok rfl
  | cons head _ ih =>
    cases h' with
    | nil => exact .ok rfl
    | cons head' tail' =>
      refine (agree head head').bindSame fun order => ?_
      cases order with
      | eq => exact ih tail'
      | lt => exact .ok rfl
      | gt => exact .ok rfl

theorem compareWithin_agree (n : Nat) {a b a' b' : Value} (h : Related B a b)
    (h' : Related B a' b') : Agree Eq (compareWithin n a a') (compareWithin n b b') := by
  induction n generalizing a b a' b' with
  | zero => exact .ok rfl
  | succ n ih =>
    refine (h.promote h').bind ?_
    intro p q promoted
    cases promoted with
    | arrays left right => exact lexicographic_agree ih left right
    | _ => exact .ok rfl

theorem Related.compare {a b a' b' : Value} (h : Related B a b) (h' : Related B a' b') :
    Agree Eq (compare a a') (compare b b') := by
  unfold Value.compare
  rw [h.depth_eq, h'.depth_eq]
  exact compareWithin_agree _ h h'

theorem Related.less {a b a' b' : Value} (h : Related B a b) (h' : Related B a' b') :
    Agree Eq (less a a') (less b b') := by
  refine (h.compare h').bindSame fun order => ?_
  exact .ok rfl

end Value

end Stackscript
