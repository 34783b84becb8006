import Stackscript.Proofs.Sequence.Inquiry
import Stackscript.Proofs.Sequence.Stability
import Stackscript.Proofs.Value.Antisymmetry

set_option autoImplicit false

/- Sorting by a comparison that may fail but always answers a question in the same way. Whether or
not the answers fit together, an element is given out either behind its own neighbour or after it
was compared with the last one, so that neighbours in the result are in order. Only where the order
is transitive is the result sorted throughout; sorting it again then changes nothing. -/
namespace Stackscript.Sequence

section Chain

variable {α ε : Type} {less : α → α → Except ε Bool}

/-- The first of two elements goes first where it is the left one. -/
def GoesFirst (less : α → α → Except ε Bool) (a b : α) : Prop :=
  leftFirst less a b = .ok true

/-- Of two elements, the one that does not go first on the left does so when it is on the right. -/
theorem goesFirst_of_leftFirst {a b : α} (answer : leftFirst less a b = .ok false) :
    GoesFirst less b a := by
  obtain ⟨lower, asked, answer⟩ := bind_eq_ok.1 answer
  cases lower with
  | true => cases answer
  | false =>
    obtain ⟨upper, asked', answer⟩ := bind_eq_ok.1 answer
    cases upper with
    | false => cases answer
    | true =>
      unfold GoesFirst leftFirst
      rw [asked']
      rfl

/-- The merge loop: what was given out so far may be followed by either run, and so it may by the
merge of both. -/
theorem mergeRuns_isChain {front left right merged : List α}
    (lower : (front ++ left).IsChain (GoesFirst less))
    (upper : (front ++ right).IsChain (GoesFirst less))
    (result : mergeRuns less left right = .ok merged) :
    (front ++ merged).IsChain (GoesFirst less) := by
  fun_induction mergeRuns less left right generalizing front merged with
  | case1 right =>
    cases result
    exact upper
  | case2 left =>
    cases result
    exact lower
  | case3 x xs y ys takeLeft takeRight =>
    obtain ⟨toLeft, leftRun⟩ := List.isChain_split.1 lower
    obtain ⟨toRight, rightRun⟩ := List.isChain_split.1 upper
    obtain ⟨first, answer, result⟩ := bind_eq_ok.1 result
    cases first with
    | true =>
      obtain ⟨rest, merging, result⟩ := bind_eq_ok.1 result
      cases result
      rw [List.append_cons] at lower ⊢
      refine takeLeft lower ?_ merging
      rw [← List.append_cons]
      exact List.isChain_append_cons_cons.2 ⟨toLeft, answer, rightRun⟩
    | false =>
      obtain ⟨rest, merging, result⟩ := bind_eq_ok.1 result
      cases result
      rw [List.append_cons] at upper ⊢
      refine takeRight ?_ upper merging
      rw [← List.append_cons]
      exact List.isChain_append_cons_cons.2 ⟨toRight, goesFirst_of_leftFirst answer, leftRun⟩

/-- In a sorted list each element goes before the next. -/
theorem mergeSort_isChain {items sorted : List α} (result : mergeSort less items = .ok sorted) :
    sorted.IsChain (GoesFirst less) := by
  fun_induction mergeSort less items generalizing sorted with
  | case1 items short =>
    cases result
    cases items with
    | nil => exact .nil
    | cons a items =>
      have alone : items = [] := by
        simp only [List.length_cons] at short
        exact List.length_eq_zero_iff.1 (by omega)
      rw [alone]
      exact .singleton a
  | @case2 items long half sortLeft sortRight =>
    obtain ⟨left, lower, result⟩ := bind_eq_ok.1 result
    obtain ⟨right, upper, result⟩ := bind_eq_ok.1 result
    have merged : ([] ++ sorted).IsChain (GoesFirst less) :=
      mergeRuns_isChain (sortLeft lower) (sortRight upper) result
    exact merged

theorem mergeSort_perm {items sorted : List α} (result : mergeSort less items = .ok sorted) :
    sorted.Perm items := by
  rw [← mergeSort_answeredBy] at result
  exact (mergeSort_endsWithin (List.Subset.refl items)).of_answeredBy_eq_ok result

/-- What holds of neighbours holds throughout a list on which it is transitive. -/
theorem pairwise_of_isChain {R : α → α → Prop} {items : List α}
    (transitive : ∀ a ∈ items, ∀ b ∈ items, ∀ c ∈ items, R a b → R b c → R a c)
    (chain : items.IsChain R) : items.Pairwise R := by
  induction chain with
  | nil => exact .nil
  | singleton a => exact List.pairwise_singleton R a
  | @cons_cons a b rest first _ ih =>
    have behind : (b :: rest).Pairwise R := by
      refine ih fun x inside y inside' z inside'' => ?_
      exact transitive x (.tail a inside) y (.tail a inside') z (.tail a inside'')
    refine List.pairwise_cons.2 ⟨fun c inside => ?_, behind⟩
    rcases List.mem_cons.1 inside with rfl | later
    · exact first
    · have next : R b c := List.rel_of_pairwise_cons behind later
      exact transitive a (.head _) b (.tail a (.head _)) c (.tail a inside) first next

/-- Where going first is transitive for the elements, sorting again changes nothing. -/
theorem mergeSort_idempotent {items sorted : List α}
    (transitive : ∀ a ∈ items, ∀ b ∈ items, ∀ c ∈ items,
      GoesFirst less a b → GoesFirst less b c → GoesFirst less a c)
    (result : mergeSort less items = .ok sorted) : mergeSort less sorted = .ok sorted := by
  have member : ∀ a ∈ sorted, a ∈ items := (mergeSort_perm result).subset
  have throughout : sorted.Pairwise (GoesFirst less) := by
    refine pairwise_of_isChain (fun a first b second c third => ?_) (mergeSort_isChain result)
    exact transitive a (member a first) b (member b second) c (member c third)
  exact mergeSort_of_pairwise throughout

end Chain

end Stackscript.Sequence

namespace Stackscript.Value

/-- The first value is not greater than the second; in particular, they can be compared. -/
def AtMost (a b : Value) : Prop :=
  ∃ order, compare a b = .ok order ∧ order ≠ .gt

/-- Asking both ways round is comparing once. -/
theorem leftFirst_less (a b : Value) :
    Sequence.leftFirst less a b = Ordering.isLE <$> compare a b := by
  unfold Sequence.leftFirst less
  rw [compare_swap a b]
  cases compare a b with
  | error fault => rfl
  | ok order => cases order <;> rfl

theorem goesFirst_less_iff (a b : Value) : Sequence.GoesFirst less a b ↔ a.AtMost b := by
  unfold Sequence.GoesFirst AtMost
  rw [leftFirst_less]
  cases compare a b with
  | error fault => simp
  | ok order => cases order <;> simp

theorem Family.Admits.atMost_iff {family : Family} {a b : Value} (left : family.Admits a)
    (right : family.Admits b) {level : Nat} (shallow : a.depth ≤ level)
    (shallow' : b.depth ≤ level) :
    a.AtMost b ↔ (compareAt (level + 1) a b).isLE := by
  unfold AtMost
  rw [left.compare_eq right shallow shallow', Ordering.isLE_iff_ne_gt]
  simp only [Except.ok.injEq, exists_eq_left']

/-- The order is transitive within a family of values. -/
theorem Family.Admits.atMost_trans {family : Family} {a b c : Value} (first : family.Admits a)
    (second : family.Admits b) (third : family.Admits c) (ab : a.AtMost b) (bc : b.AtMost c) :
    a.AtMost c := by
  obtain ⟨level, da, db, dc⟩ :
      ∃ level, a.depth ≤ level ∧ b.depth ≤ level ∧ c.depth ≤ level :=
    ⟨max a.depth (max b.depth c.depth), by omega, by omega, by omega⟩
  rw [first.atMost_iff second da db] at ab
  rw [second.atMost_iff third db dc] at bc
  rw [first.atMost_iff third da dc]
  exact Std.TransCmp.isLE_trans ab bc

end Stackscript.Value

namespace Stackscript.Sequence

theorem sort_array (items : List Value) :
    sort (.array items) = (do return .array (← mergeSort Value.less items)) :=
  rfl

/-- Sorting an array leaves no element before a lesser one. Whatever the elements are, and even where
their order is not transitive, each of them is less than the next or equal to it. -/
theorem sort_neighbours {items : List Value} {sorted : Value}
    (result : sort (.array items) = .ok sorted) :
    ∃ elements, sorted = .array elements ∧ elements.Perm items ∧
      elements.IsChain fun a b => Value.compare a b = .ok .lt ∨ Value.compare a b = .ok .eq := by
  rw [sort_array, bind_eq_ok] at result
  obtain ⟨elements, result, done⟩ := result
  cases done
  refine ⟨elements, rfl, mergeSort_perm result, (mergeSort_isChain result).imp fun a b first => ?_⟩
  obtain ⟨order, compared, lower⟩ := (Value.goesFirst_less_iff a b).1 first
  cases order with
  | lt => exact .inl compared
  | eq => exact .inr compared
  | gt => exact absurd rfl lower

/-- Nine comes before ten, but between them in the sorted array are texts that ten comes before and
that come before nine. -/
theorem sort_neighbours_circular :
    let items : List Value :=
      [.integer 9, .string ['5'], .integer 10, .array [.string ['5']], .character '7']
    let elements : List Value :=
      [.integer 10, .string ['5'], .array [.string ['5']], .integer 9, .character '7']
    sort (.array items) = .ok (.array elements) ∧
      elements.IsChain fun a b => Value.compare a b = .ok .lt ∨ Value.compare a b = .ok .eq := by
  intro items elements
  have result : sort (.array items) = .ok (.array elements) := by cbv
  obtain ⟨_, same, -, chain⟩ := sort_neighbours result
  cases same
  exact ⟨result, chain⟩

/-- Sorting an array again changes nothing where the order of its elements is transitive, as it is
within a family of values. -/
theorem sort_idempotent {items : List Value} {sorted : Value}
    (transitive : ∀ a ∈ items, ∀ b ∈ items, ∀ c ∈ items,
      a.AtMost b → b.AtMost c → a.AtMost c)
    (result : sort (.array items) = .ok sorted) : sort sorted = .ok sorted := by
  rw [sort_array, bind_eq_ok] at result
  obtain ⟨elements, result, done⟩ := result
  cases done
  have again : mergeSort Value.less elements = .ok elements := by
    refine mergeSort_idempotent (fun a first b second c third => ?_) result
    simp only [Value.goesFirst_less_iff]
    exact transitive a first b second c third
  rw [sort_array, again]
  rfl

/-- Integers, a character and nested arrays of both. -/
theorem sort_idempotent_nested :
    let items : List Value :=
      [.array [.integer 66, .character 'A'], .integer 66, .character 'B', .array [.character 'A']]
    let sorted : Value := .array
      [.array [.character 'A'], .integer 66, .character 'B', .array [.integer 66, .character 'A']]
    (∀ a ∈ items, ∀ b ∈ items, ∀ c ∈ items, a.AtMost b → b.AtMost c → a.AtMost c) ∧
      sort (.array items) = .ok sorted ∧ sort sorted = .ok sorted := by
  intro items sorted
  have admitted : ∀ value ∈ items, Value.Family.numbers.Admits value := by
    have character (c : Char) : Value.Family.numbers.Admits (.character c) := .character c
    have integer (n : Int64) : Value.Family.numbers.Admits (.integer n) := .integer n
    have pair : Value.Family.numbers.Admits (.array [.integer 66, .character 'A']) :=
      .array (by simpa using ⟨integer 66, character 'A'⟩)
    have single : Value.Family.numbers.Admits (.array [.character 'A']) :=
      .array (by simpa using character 'A')
    simpa [items] using ⟨pair, integer 66, character 'B', single⟩
  have transitive : ∀ a ∈ items, ∀ b ∈ items, ∀ c ∈ items,
      a.AtMost b → b.AtMost c → a.AtMost c := fun a first b second c third =>
    (admitted a first).atMost_trans (admitted b second) (admitted c third)
  have result : sort (.array items) = .ok sorted := by cbv
  exact ⟨transitive, result, sort_idempotent transitive result⟩

/-- Integers and a string, whose order is a circle: 10 comes before "5" and that before 9, as texts
do, but 9 comes before 10. Each sorting turns the circle on. -/
theorem sort_not_idempotent :
    sort (.array [.integer 10, .string ['5'], .integer 9]) =
        .ok (.array [.integer 9, .integer 10, .string ['5']]) ∧
      sort (.array [.integer 9, .integer 10, .string ['5']]) =
        .ok (.array [.string ['5'], .integer 9, .integer 10]) ∧
      sort (.array [.integer 9, .integer 10, .string ['5']]) ≠
        .ok (.array [.integer 9, .integer 10, .string ['5']]) := by
  have again : sort (.array [.integer 9, .integer 10, .string ['5']]) =
      .ok (.array [.string ['5'], .integer 9, .integer 10]) := by
    cbv
  refine ⟨by cbv, again, ?_⟩
  rw [again]
  intro same
  cases same

end Stackscript.Sequence
