import Stackscript.Proofs.Correspondence.Value
import Stackscript.Sequence.Basic

set_option autoImplicit false

/- Operations on sequences carry corresponding operands to corresponding results. -/
namespace Stackscript

/-- What a monad makes of a relation between results; it is kept by the monad's operations. -/
structure Lifting (m : Type → Type) [Monad m] where
  rel : ∀ {α β : Type}, (α → β → Prop) → m α → m β → Prop
  pure : ∀ {α β : Type} {R : α → β → Prop} {a : α} {b : β}, R a b →
    rel R (Pure.pure a) (Pure.pure b)
  bind : ∀ {α β γ δ : Type} {R : α → β → Prop} {S : γ → δ → Prop} {x : m α} {y : m β}
    {f : α → m γ} {g : β → m δ}, rel R x y → (∀ a b, R a b → rel S (f a) (g b)) →
    rel S (x >>= f) (y >>= g)

theorem Lifting.bindSame {m : Type → Type} [Monad m] (L : Lifting m) {α γ δ : Type}
    {S : γ → δ → Prop} {x y : m α} {f : α → m γ} {g : α → m δ} (first : L.rel Eq x y)
    (next : ∀ a, L.rel S (f a) (g a)) : L.rel S (x >>= f) (y >>= g) := by
  refine L.bind first fun a b same => ?_
  rw [← same]
  exact next a

def Agree.lifting : Lifting (Except Fault) where
  rel := Agree
  pure := .ok
  bind := Agree.bind

theorem isEmpty_eq {α β : Type} {R : α → β → Prop} {xs : List α} {ys : List β}
    (h : List.Forall₂ R xs ys) : xs.isEmpty = ys.isEmpty := by
  cases h <;> rfl

theorem getElem?_related {α β : Type} {R : α → β → Prop} {xs : List α} {ys : List β}
    (h : List.Forall₂ R xs ys) (i : Nat) : Option.Rel R xs[i]? ys[i]? := by
  induction h generalizing i with
  | nil => exact .none
  | cons head _ ih =>
    cases i with
    | zero => exact .some head
    | succ i => exact ih i

theorem getLast?_related {α β : Type} {R : α → β → Prop} {xs : List α} {ys : List β}
    (h : List.Forall₂ R xs ys) : Option.Rel R xs.getLast? ys.getLast? := by
  rw [List.getLast?_eq_getElem?, List.getLast?_eq_getElem?, h.length_eq]
  exact getElem?_related h _

theorem dropLast_related {α β : Type} {R : α → β → Prop} {xs : List α} {ys : List β}
    (h : List.Forall₂ R xs ys) : List.Forall₂ R xs.dropLast ys.dropLast := by
  rw [List.dropLast_eq_take, List.dropLast_eq_take, h.length_eq]
  exact List.forall₂_take _ h

namespace Sequence

section Search

variable {α : Type} [BEq α] {R : α → α → Prop}

theorem isPrefixOf_eq (same : ∀ {a b a' b'}, R a b → R a' b' → (a == a') = (b == b'))
    {xs ys xs' ys' : List α} (h : List.Forall₂ R xs ys) (h' : List.Forall₂ R xs' ys') :
    xs.isPrefixOf xs' = ys.isPrefixOf ys' := by
  induction h generalizing xs' ys' with
  | nil => rfl
  | cons head _ ih =>
    cases h' with
    | nil => rfl
    | cons head' tail' => simp only [List.isPrefixOf, same head head', ih tail']

theorem indexOf?_eq (same : ∀ {a b a' b'}, R a b → R a' b' → (a == a') = (b == b'))
    {xs ys pattern pattern' : List α} (h : List.Forall₂ R pattern pattern')
    (h' : List.Forall₂ R xs ys) : indexOf? pattern xs = indexOf? pattern' ys := by
  induction h' with
  | nil => cases h <;> rfl
  | cons head tail ih =>
    simp only [indexOf?, isPrefixOf_eq same h (.cons head tail), ih]

theorem pieces_related (same : ∀ {a b a' b'}, R a b → R a' b' → (a == a') = (b == b'))
    {p q : α} {ps qs : List α} (first : R p q) (others : List.Forall₂ R ps qs) {xs ys : List α}
    (h : List.Forall₂ R xs ys) :
    List.Forall₂ (List.Forall₂ R) (pieces p ps xs) (pieces q qs ys) := by
  induction xs using WellFounded.induction (measure List.length).wf
    generalizing ys with | _ xs ih =>
  cases h with
  | nil =>
    rw [pieces, pieces]
    exact .cons .nil .nil
  | @cons x y xs ys head tail =>
    rw [pieces, pieces, indexOf?_eq same (.cons first others) (.cons head tail),
      others.length_eq]
    cases indexOf? (q :: qs) (y :: ys) with
    | none => exact .cons (.cons head tail) .nil
    | some i =>
      have rest := List.forall₂_drop (i + qs.length) tail
      refine .cons (List.forall₂_take i (.cons head tail)) ?_
      rw [isEmpty_eq rest]
      split
      · exact .nil
      · refine ih _ ?_ rest
        change (xs.drop (i + qs.length)).length < (x :: xs).length
        simp only [List.length_drop, List.length_cons]
        omega

end Search

section Sorting

variable {m : Type → Type} [Monad m] (L : Lifting m) {α : Type} {R : α → α → Prop}
  {less less' : α → α → m Bool}

theorem mergeRuns_related
    (agree : ∀ a b a' b', R a b → R a' b' → L.rel Eq (less a a') (less' b b'))
    {xs ys xs' ys' : List α} (h : List.Forall₂ R xs ys) (h' : List.Forall₂ R xs' ys') :
    L.rel (List.Forall₂ R) (mergeRuns less xs xs') (mergeRuns less' ys ys') := by
  induction h generalizing xs' ys' with
  | nil =>
    rw [mergeRuns, mergeRuns]
    exact L.pure h'
  | @cons x y xs ys head tail ih =>
    induction h' with
    | nil =>
      rw [mergeRuns, mergeRuns]
      · exact L.pure (.cons head tail)
      · simp
      · simp
    | @cons x' y' xs' ys' head' tail' ih' =>
      rw [mergeRuns, mergeRuns]
      have ask : L.rel Eq (leftFirst less x x') (leftFirst less' y y') := by
        refine L.bindSame (agree _ _ _ _ head head') fun answer => ?_
        cases answer with
        | true => exact L.pure rfl
        | false =>
          refine L.bindSame (agree _ _ _ _ head' head) fun reverse => ?_
          exact L.pure rfl
      refine L.bindSame ask fun answer => ?_
      cases answer with
      | true => exact L.bind (ih (.cons head' tail')) fun _ _ rest => L.pure (.cons head rest)
      | false => exact L.bind ih' fun _ _ rest => L.pure (.cons head' rest)

theorem mergeSort_related
    (agree : ∀ a b a' b', R a b → R a' b' → L.rel Eq (less a a') (less' b b'))
    {xs ys : List α} (h : List.Forall₂ R xs ys) :
    L.rel (List.Forall₂ R) (mergeSort less xs) (mergeSort less' ys) := by
  induction xs using WellFounded.induction (measure List.length).wf
    generalizing ys with | _ xs ih =>
  rw [mergeSort, mergeSort, h.length_eq]
  split
  · exact L.pure h
  · rename_i long
    have size := h.length_eq
    have shorterLeft : (xs.take (ys.length - ys.length / 2)).length < xs.length := by
      simp only [List.length_take]
      omega
    have shorterRight : (xs.drop (ys.length - ys.length / 2)).length < xs.length := by
      simp only [List.length_drop]
      omega
    refine L.bind (ih _ shorterLeft (List.forall₂_take _ h)) fun left left' sortedLeft => ?_
    refine L.bind (ih _ shorterRight (List.forall₂_drop _ h)) fun right right' sortedRight => ?_
    exact mergeRuns_related L agree sortedLeft sortedRight

end Sorting

variable {B : Pairing}

theorem concat_agree {a b a' b' : Value} (h : Value.Related B a b) (h' : Value.Related B a' b') :
    Agree (Value.Related B) (concat a a') (concat b b') := by
  refine (h.promote h').bind fun p q promoted => ?_
  cases promoted with
  | strings s t => exact .ok (.string _)
  | arrays left right => exact .ok (.array (List.rel_append left right))
  | _ => exact .error nofun

theorem checkLength_agree (length times : Nat) :
    Agree Eq (checkLength length times) (checkLength length times) := by
  unfold checkLength
  split
  · exact .ok rfl
  · exact .error nofun

theorem repeated_related {xs ys : List Value} (times : Nat)
    (h : List.Forall₂ (Value.Related B) xs ys) :
    List.Forall₂ (Value.Related B) (repeated times xs) (repeated times ys) := by
  unfold repeated
  rw [isEmpty_eq h]
  split
  · exact .nil
  · apply List.rel_flatten
    induction times with
    | zero => exact .nil
    | succ times ih => exact .cons h ih

theorem replicate_agree {a b : Value} (h : Value.Related B a b) (count : Int64) :
    Agree (Value.Related B) (replicate a count) (replicate b count) := by
  cases h with
  | string t => exact (checkLength_agree _ _).bind fun _ _ _ => .ok (.string _)
  | array elements =>
    unfold replicate
    dsimp only
    rw [elements.length_eq]
    exact (checkLength_agree _ _).bind fun _ _ _ => .ok (.array (repeated_related _ elements))
  | _ => exact .error nofun

theorem split_agree {a b a' b' : Value} (h : Value.Related B a b) (h' : Value.Related B a' b') :
    Agree (Value.Related B) (split a a') (split b b') := by
  refine (h.promote h').bind fun p q promoted => ?_
  cases promoted with
  | strings t pattern =>
    cases pattern with
    | nil => exact .error nofun
    | cons c cs => exact .ok (.array (Value.related_map .string _))
  | arrays left right =>
    cases right with
    | nil => exact .error nofun
    | cons head tail =>
      have cut := pieces_related Value.Related.beq_eq head tail left
      refine .ok (.array ?_)
      rw [List.forall₂_map_left_iff, List.forall₂_map_right_iff]
      exact cut.imp fun _ _ piece => .array piece
  | _ => exact .error nofun

theorem indexOf_agree {a b a' b' : Value} (h : Value.Related B a b) (h' : Value.Related B a' b') :
    Agree (Value.Related B) (indexOf a a') (indexOf b b') := by
  refine (h.promote h').bind fun p q promoted => ?_
  cases promoted with
  | strings t pattern => exact .ok (.integer _)
  | arrays left right =>
    dsimp only
    rw [position, position, indexOf?_eq Value.Related.beq_eq right left]
    exact .ok (.integer _)
  | _ => exact .error nofun

theorem elementAt_agree {a b : Value} (h : Value.Related B a b) (index : Int64) :
    Agree (Value.Related B) (elementAt a index) (elementAt b index) := by
  refine h.toArray.bind fun xs ys items => ?_
  dsimp only
  rw [items.length_eq]
  generalize (if index.toInt < 0 then index.toInt + ys.length else index.toInt) = offset
  have found : Option.Rel (Value.Related B) (if offset < 0 then none else xs[offset.toNat]?)
      (if offset < 0 then none else ys[offset.toNat]?) := by
    split
    · exact .none
    · exact getElem?_related items _
  generalize (if offset < 0 then none else xs[offset.toNat]?) = x,
    (if offset < 0 then none else ys[offset.toNat]?) = y at found
  cases found with
  | none => exact .error nofun
  | some related => exact .ok related

theorem take_agree {a b : Value} (h : Value.Related B a b) (count : Int64) :
    Agree (Value.Related B) (take a count) (take b count) := by
  cases h with
  | string t => exact .ok (.string _)
  | array elements => exact .ok (.array (List.forall₂_take _ elements))
  | _ => exact .error nofun

theorem drop_agree {a b : Value} (h : Value.Related B a b) (count : Int64) :
    Agree (Value.Related B) (drop a count) (drop b count) := by
  cases h with
  | string t => exact .ok (.string _)
  | array elements => exact .ok (.array (List.forall₂_drop _ elements))
  | _ => exact .error nofun

def RelatedPair (B : Pairing) (p q : Value × Value) : Prop :=
  Value.Related B p.1 q.1 ∧ Value.Related B p.2 q.2

theorem uncons_agree {a b : Value} (h : Value.Related B a b) :
    Agree (RelatedPair B) (uncons a) (uncons b) := by
  cases h with
  | string t =>
    cases t with
    | nil => exact .error nofun
    | cons c cs => exact .ok ⟨.string _, .character c⟩
  | array elements =>
    cases elements with
    | nil => exact .error nofun
    | cons head tail => exact .ok ⟨.array tail, head⟩
  | _ => exact .error nofun

theorem unsnoc_agree {a b : Value} (h : Value.Related B a b) :
    Agree (RelatedPair B) (unsnoc a) (unsnoc b) := by
  cases h with
  | string t =>
    unfold unsnoc
    dsimp only
    cases t.getLast? with
    | none => exact .error nofun
    | some c => exact .ok ⟨.string _, .character c⟩
  | @array xs ys elements =>
    unfold unsnoc
    dsimp only
    have last := getLast?_related elements
    generalize xs.getLast? = x, ys.getLast? = y at last
    cases last with
    | none => exact .error nofun
    | some related => exact .ok ⟨.array (dropLast_related elements), related⟩
  | _ => exact .error nofun

theorem words_agree {a b : Value} (h : Value.Related B a b) :
    Agree (Value.Related B) (words a) (words b) := by
  cases h with
  | string t => exact .ok (.array (Value.related_map .string _))
  | _ => exact .error nofun

theorem lines_agree {a b : Value} (h : Value.Related B a b) :
    Agree (Value.Related B) (lines a) (lines b) := by
  cases h with
  | string t => exact .ok (.array (Value.related_map .string _))
  | _ => exact .error nofun

theorem characters?_eq {xs ys : List Value} (h : List.Forall₂ (Value.Related B) xs ys) :
    characters? xs = characters? ys := by
  induction h with
  | nil => rfl
  | cons head _ ih =>
    cases head with
    | character c => simp only [characters?, ih]
    | _ => rfl

theorem restore_related {xs ys : List Value} (h : List.Forall₂ (Value.Related B) xs ys)
    (wasText : Bool) : Value.Related B (restore xs wasText) (restore ys wasText) := by
  unfold restore
  rw [characters?_eq h]
  split
  · exact .string _
  · exact .array h

theorem isText_eq {a b : Value} (h : Value.Related B a b) : isText a = isText b := by
  cases h <;> rfl

theorem sort_agree {a b : Value} (h : Value.Related B a b) :
    Agree (Value.Related B) (sort a) (sort b) := by
  unfold sort
  rw [h.isSequence_eq, isText_eq h, h.type_eq]
  split
  · refine h.toArray.bind fun xs ys items => ?_
    have sorted := mergeSort_related (R := Value.Related B) Agree.lifting
      (fun _ _ _ _ => Value.Related.less) items
    exact Agree.bind sorted fun _ _ result => .ok (restore_related result _)
  · exact .error nofun

end Sequence

end Stackscript
