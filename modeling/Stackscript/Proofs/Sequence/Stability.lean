import Mathlib
import Stackscript.Proofs.Value.Order
import Stackscript.Sequence.Basic

set_option autoImplicit false

/- Sorting by a comparison that does nothing but answer, always in the same way. Then the merge sort
that may have effects is the one without them, and where the answers are those of a strict weak
order, its result is the stable sort: elements that are tied stay as they stood. -/
namespace Stackscript.Sequence

section Settled

variable {m : Type → Type} [Monad m] [LawfulMonad m] {α : Type} {less : α → α → m Bool}
  {le : α → α → Bool}

/-- Runs merge as lists do where it is settled which element goes first. -/
theorem mergeRuns_eq_merge {left right : List α}
    (answers : ∀ a ∈ left, ∀ b ∈ right, leftFirst less a b = pure (le a b)) :
    mergeRuns less left right = pure (left.merge right le) := by
  fun_induction mergeRuns less left right with
  | case1 right => rw [List.nil_merge]
  | case2 left => rw [List.merge_right]
  | case3 x xs y ys takeLeft takeRight =>
    rw [answers x List.mem_cons_self y List.mem_cons_self, pure_bind, List.cons_merge_cons]
    cases le x y with
    | true =>
      have rest := takeLeft fun a inside => answers a (List.mem_cons_of_mem x inside)
      rw [rest, if_pos rfl, if_pos rfl, pure_bind]
    | false =>
      have rest := takeRight fun a inside b inside' =>
        answers a inside b (List.mem_cons_of_mem y inside')
      rw [rest, if_neg Bool.false_ne_true, if_neg Bool.false_ne_true, pure_bind]

/-- The halves that lists are sorted by are the same. -/
theorem mergeSort_halves {items : List α} (long : ¬items.length < 2) :
    items.mergeSort le =
      ((items.take (items.length - items.length / 2)).mergeSort le).merge
        ((items.drop (items.length - items.length / 2)).mergeSort le) le := by
  have ceiling : items.length - items.length / 2 = (items.length + 1) / 2 := by omega
  rw [ceiling]
  match items with
  | [] => exact absurd Nat.two_pos long
  | [_] => exact absurd Nat.one_lt_two long
  | a :: b :: items =>
    rw [List.mergeSort]
    simp only [List.MergeSort.Internal.splitInTwo_fst, List.MergeSort.Internal.splitInTwo_snd]

/-- Sorting is that of lists where it is settled which of two elements goes first. -/
theorem mergeSort_eq_mergeSort {items : List α}
    (answers : ∀ a ∈ items, ∀ b ∈ items, leftFirst less a b = pure (le a b)) :
    mergeSort less items = pure (items.mergeSort le) := by
  fun_induction mergeSort less items with
  | case1 items short =>
    match items with
    | [] => rw [List.mergeSort_nil]
    | [a] => rw [List.mergeSort_singleton]
    | _ :: _ :: _ =>
      simp only [List.length_cons] at short
      omega
  | case2 items long half sortLeft sortRight =>
    have lower : ∀ a ∈ items.take half, a ∈ items := fun a => List.mem_of_mem_take
    have upper : ∀ a ∈ items.drop half, a ∈ items := fun a => List.mem_of_mem_drop
    have left := sortLeft fun a inside b inside' =>
      answers a (lower a inside) b (lower b inside')
    have right := sortRight fun a inside b inside' =>
      answers a (upper a inside) b (upper b inside')
    have merged : mergeRuns less ((items.take half).mergeSort le) ((items.drop half).mergeSort le) =
        pure (((items.take half).mergeSort le).merge ((items.drop half).mergeSort le) le) := by
      apply mergeRuns_eq_merge
      intro a inside b inside'
      exact answers a (lower a (List.mem_mergeSort.1 inside)) b
        (upper b (List.mem_mergeSort.1 inside'))
    rw [left, pure_bind, right, pure_bind, merged, mergeSort_halves long]

/-- A list in which each element goes before those after it is sorted already. -/
theorem mergeSort_of_pairwise {items : List α}
    (ordered : items.Pairwise fun a b => leftFirst less a b = pure true) :
    mergeSort less items = pure items := by
  fun_induction mergeSort less items with
  | case1 items short => rfl
  | case2 items long half sortLeft sortRight =>
    have merged : mergeRuns less (items.take half) (items.drop half) =
        pure ((items.take half).merge (items.drop half) fun _ _ => true) := by
      apply mergeRuns_eq_merge
      intro a inside b inside'
      exact ordered.rel_of_mem_take_of_mem_drop inside inside'
    rw [sortLeft ordered.take, pure_bind, sortRight ordered.drop, pure_bind, merged,
      List.merge_of_le fun _ _ _ _ => rfl, List.take_append_drop]

end Settled

section Order

variable {α : Type}

/-- Neither of two elements goes before the other. -/
def Tied (before : α → α → Bool) (a b : α) : Prop :=
  before a b = false ∧ before b a = false

structure StrictWeakOrder (before : α → α → Bool) (items : List α) : Prop where
  irreflexive : ∀ a ∈ items, before a a = false
  transitive : ∀ a ∈ items, ∀ b ∈ items, ∀ c ∈ items,
    before a b = true → before b c = true → before a c = true
  tied_transitive : ∀ a ∈ items, ∀ b ∈ items, ∀ c ∈ items,
    Tied before a b → Tied before b c → Tied before a c

/-- The list is the stable sort of the items: a permutation of them in which none goes before an
earlier one, and those that are tied stand in the order they had. -/
structure StableSort (before : α → α → Bool) (items sorted : List α) : Prop where
  permutation : sorted.Perm items
  ordered : sorted.Pairwise fun a b => before b a = false
  /-- The elements come with the places they had. -/
  stable : ∃ placed : List (α × Nat), placed.map Prod.fst = sorted ∧ placed.Perm items.zipIdx ∧
    placed.Pairwise fun a b => Tied before a.1 b.1 → a.2 < b.2

/-- The first of two elements need not stand after the other. -/
def notAfter (before : α → α → Bool) (a b : α) : Bool :=
  before a b || !before b a

theorem leftFirst_eq_notAfter {m : Type → Type} [Monad m] [LawfulMonad m] {less : α → α → m Bool}
    {before : α → α → Bool} {a b : α} (answer : less a b = pure (before a b))
    (reverse : less b a = pure (before b a)) :
    leftFirst less a b = pure (notAfter before a b) := by
  unfold leftFirst notAfter
  rw [answer, pure_bind]
  cases before a b with
  | true => rfl
  | false =>
    rw [reverse]
    exact pure_bind _ _

theorem notAfter_total (before : α → α → Bool) (a b : α) :
    (notAfter before a b || notAfter before b a) = true := by
  unfold notAfter
  cases before a b <;> cases before b a <;> rfl

theorem of_zipIdxLE {le : α → α → Bool} {a b : α × Nat}
    (lower : List.zipIdxLE le a b = true) :
    le a.1 b.1 = true ∧ (le b.1 a.1 = true → a.2 ≤ b.2) := by
  unfold List.zipIdxLE at lower
  split at lower
  · rename_i first
    refine ⟨first, fun second => ?_⟩
    rw [if_pos second] at lower
    exact of_decide_eq_true lower
  · cases lower

namespace StrictWeakOrder

variable {before : α → α → Bool} {items : List α} (order : StrictWeakOrder before items)
include order

theorem asymmetric {a b : α} (first : a ∈ items) (second : b ∈ items)
    (less : before a b = true) : before b a = false := by
  by_contra reverse
  rw [Bool.not_eq_false] at reverse
  have circular := order.transitive a first b second a first less reverse
  rw [order.irreflexive a first] at circular
  cases circular

theorem notAfter_iff {a b : α} (first : a ∈ items) (second : b ∈ items) :
    notAfter before a b = true ↔ before b a = false := by
  unfold notAfter
  rw [Bool.or_eq_true, Bool.not_eq_true']
  constructor
  · rintro (less | reverse)
    · exact order.asymmetric first second less
    · exact reverse
  · exact .inr

/-- What does not go before an element that does not go before a third does not go before that. -/
theorem negatively_transitive {a b c : α} (first : a ∈ items) (second : b ∈ items)
    (third : c ∈ items) (ab : before a b = false) (bc : before b c = false) :
    before a c = false := by
  by_contra less
  rw [Bool.not_eq_false] at less
  -- Otherwise the middle element is tied with both ends, or it takes one past the other.
  have ba : before b a = false := by
    by_contra lower
    rw [Bool.not_eq_false] at lower
    rw [order.transitive b second a first c third lower less] at bc
    cases bc
  have cb : before c b = false := by
    by_contra upper
    rw [Bool.not_eq_false] at upper
    rw [order.transitive a first c third b second less upper] at ab
    cases ab
  have tied := order.tied_transitive a first b second c third ⟨ab, ba⟩ ⟨bc, cb⟩
  rw [tied.1] at less
  cases less

theorem notAfter_transitive {a b c : α} (first : a ∈ items) (second : b ∈ items)
    (third : c ∈ items) (ab : notAfter before a b = true) (bc : notAfter before b c = true) :
    notAfter before a c = true := by
  rw [order.notAfter_iff first second] at ab
  rw [order.notAfter_iff second third] at bc
  rw [order.notAfter_iff first third]
  exact order.negatively_transitive third second first bc ab

/-- The sorted elements with the places they had, in the order that breaks ties by the places. -/
theorem exists_placed :
    ∃ placed : List (α × Nat), placed.map Prod.fst = items.mergeSort (notAfter before) ∧
      placed.Perm items.zipIdx ∧
      placed.Pairwise fun a b => List.zipIdxLE (notAfter before) a b = true := by
  -- The order is one of the elements only, so the list of these is sorted as a list of members.
  let le (a b : { a // a ∈ items }) : Bool := notAfter before a.1 b.1
  let forget : { a // a ∈ items } × Nat → α × Nat := Prod.map Subtype.val id
  let placed := items.attach.zipIdx.mergeSort (List.zipIdxLE le)
  have transitive : ∀ a b c, le a b = true → le b c = true → le a c = true :=
    fun a b c => order.notAfter_transitive a.2 b.2 c.2
  have total : ∀ a b, (le a b || le b a) = true := fun a b => notAfter_total before a.1 b.1
  refine ⟨placed.map forget, ?_, ?_, ?_⟩
  · have values : (placed.map Prod.fst).map Subtype.val = items.mergeSort (notAfter before) := by
      rw [List.mergeSort_zipIdx, List.map_mergeSort (s := notAfter before) fun _ _ _ _ => rfl,
        List.attach_map_subtype_val]
    rw [← values, List.map_map, List.map_map]
    rfl
  · have places : items.attach.zipIdx.map forget = items.zipIdx := by
      rw [← List.zipIdx_map, List.attach_map_subtype_val]
    rw [← places]
    exact (List.mergeSort_perm _ _).map forget
  · rw [List.pairwise_map]
    exact List.pairwise_mergeSort (List.zipIdxLE_trans transitive) (List.zipIdxLE_total total) _

theorem stableSort_mergeSort : StableSort before items (items.mergeSort (notAfter before)) := by
  obtain ⟨placed, values, places, sorted⟩ := order.exists_placed
  have member : ∀ a ∈ placed, a.1 ∈ items :=
    fun a inside => List.fst_mem_of_mem_zipIdx (places.subset inside)
  have ordered : placed.Pairwise fun a b => before b.1 a.1 = false := by
    refine sorted.imp_of_mem fun {a b} inside inside' lower => ?_
    exact (order.notAfter_iff (member a inside) (member b inside')).1 (of_zipIdxLE lower).1
  have apart : placed.Pairwise fun a b => a.2 ≠ b.2 := by
    have distinct : (placed.map Prod.snd).Nodup := by
      rw [(places.map Prod.snd).nodup_iff, List.zipIdx_map_snd]
      exact List.nodup_range'
    exact List.pairwise_map.1 distinct
  refine ⟨List.mergeSort_perm items _, ?_, placed, values, places, ?_⟩
  · rw [← values]
    exact List.pairwise_map.2 ordered
  · refine (sorted.and apart).imp_of_mem fun {a b} inside inside' both tied => ?_
    have upper : notAfter before b.1 a.1 = true :=
      (order.notAfter_iff (member b inside') (member a inside)).2 tied.1
    exact Nat.lt_of_le_of_ne ((of_zipIdxLE both.1).2 upper) both.2

end StrictWeakOrder

/-- Merge sort is the stable sort. Where the comparison, in whatever monad, does nothing but answer
by a strict weak order of the elements, the result is their stable sort, and sorting it again gives
it back. -/
theorem mergeSort_stable {m : Type → Type} [Monad m] [LawfulMonad m] {less : α → α → m Bool}
    {before : α → α → Bool} {items : List α}
    (answers : ∀ a ∈ items, ∀ b ∈ items, less a b = pure (before a b))
    (order : StrictWeakOrder before items) :
    ∃ sorted, mergeSort less items = pure sorted ∧ StableSort before items sorted ∧
      mergeSort less sorted = pure sorted := by
  have first : ∀ a ∈ items, ∀ b ∈ items, leftFirst less a b = pure (notAfter before a b) :=
    fun a inside b inside' =>
      leftFirst_eq_notAfter (answers a inside b inside') (answers b inside' a inside)
  have sorted := order.stableSort_mergeSort
  refine ⟨_, mergeSort_eq_mergeSort first, sorted, mergeSort_of_pairwise ?_⟩
  refine sorted.ordered.imp_of_mem fun {a b} inside inside' behind => ?_
  have lower := sorted.permutation.subset inside
  have upper := sorted.permutation.subset inside'
  rw [first a lower b upper, (order.notAfter_iff lower upper).2 behind]

/-- Integers and characters, which compare by their codes, so that two of them are tied. -/
theorem mergeSort_stable_codes :
    let items : List Value := [.integer 66, .character 'A', .integer 65, .character 'B']
    let before (a b : Value) : Bool := decide (a.number < b.number)
    StrictWeakOrder before items ∧
      StableSort before items [.character 'A', .integer 65, .integer 66, .character 'B'] := by
  intro items before
  have order : StrictWeakOrder before items := by
    constructor
    · intro a _
      simp only [before, decide_eq_false_iff_not]
      omega
    · intro a _ b _ c _
      simp only [before, decide_eq_true_iff]
      omega
    · intro a _ b _ c _
      simp only [Tied, before, decide_eq_false_iff_not]
      omega
  have answers : ∀ a ∈ items, ∀ b ∈ items, Value.less a b = pure (before a b) := by
    intro a inside b inside'
    simp only [items, List.mem_cons, List.not_mem_nil, or_false] at inside inside'
    rcases inside with rfl | rfl | rfl | rfl <;> rcases inside' with rfl | rfl | rfl | rfl <;> rfl
  obtain ⟨sorted, result, stable, -⟩ := mergeSort_stable answers order
  have computed : mergeSort Value.less items =
      .ok [.character 'A', .integer 65, .integer 66, .character 'B'] := by
    cbv
  rw [computed] at result
  cases result
  exact ⟨order, stable⟩

end Order

end Stackscript.Sequence
