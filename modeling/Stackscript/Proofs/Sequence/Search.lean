import Mathlib
import Stackscript.Proofs.Value.Equality
import Stackscript.Sequence.Basic

set_option autoImplicit false

/- Where a pattern stands in a list, and the pieces between its occurrences. The search finds the
least index, so a piece has no occurrence in it, and the pieces are those that a scan from left to
right cuts off; joined by the pattern they are the list again, or the list without the occurrence
at its end. -/
namespace Stackscript.Sequence

variable {α : Type} [BEq α]

/-- Lists are equal when their parts are. -/
theorem beq_append {front front' rest rest' : List α} (first : (front == front') = true)
    (second : (rest == rest') = true) : (front ++ rest == front' ++ rest') = true := by
  induction front generalizing front' with
  | nil =>
    cases front' with
    | nil => exact second
    | cons y ys => cases first
  | cons x xs ih =>
    cases front' with
    | nil => cases first
    | cons y ys =>
      rw [List.cons_beq_cons, Bool.and_eq_true] at first
      rw [List.cons_append, List.cons_append, List.cons_beq_cons, Bool.and_eq_true]
      exact ⟨first.1, ih first.2⟩

section Occurrence

variable {pattern items : List α} {i : Nat}

/-- The pattern stands in the list at the index. -/
def OccursAt (pattern items : List α) (i : Nat) : Prop :=
  ((items.drop i).take pattern.length == pattern) = true

instance (pattern items : List α) (i : Nat) : Decidable (OccursAt pattern items i) :=
  inferInstanceAs (Decidable (_ = true))

theorem occursAt_nil (items : List α) (i : Nat) : OccursAt [] items i :=
  rfl

theorem occursAt_cons_succ {x : α} :
    OccursAt pattern (x :: items) (i + 1) ↔ OccursAt pattern items i :=
  Iff.rfl

theorem OccursAt.length_le (occurs : OccursAt pattern items i) :
    pattern.length ≤ items.length - i := by
  have length := List.length_eq_of_beq occurs
  rw [List.length_take, List.length_drop] at length
  omega

/-- A pattern that stands in a list stands in each longer one. -/
theorem OccursAt.append (occurs : OccursAt pattern items i) (rest : List α) :
    OccursAt pattern (items ++ rest) i := by
  have fits := occurs.length_le
  rw [← List.length_drop] at fits
  unfold OccursAt
  rw [List.drop_append, List.take_append_of_le_length fits]
  exact occurs

theorem occursAt_behind {front found rest : List α} (matched : (found == pattern) = true) :
    OccursAt pattern (front ++ (found ++ rest)) front.length := by
  unfold OccursAt
  rw [List.drop_left, ← List.length_eq_of_beq matched, List.take_left]
  exact matched

theorem not_occursAt_nil (nonempty : pattern ≠ []) (i : Nat) : ¬ OccursAt pattern [] i := by
  intro occurs
  have fits := occurs.length_le
  have positive := List.length_pos_iff.2 nonempty
  simp only [List.length_nil] at fits
  omega

theorem isPrefixOf_iff_occursAt [PartialEquivBEq α] :
    pattern.isPrefixOf items = true ↔ OccursAt pattern items 0 := by
  induction pattern generalizing items with
  | nil => exact iff_of_true rfl rfl
  | cons p ps ih =>
    cases items with
    | nil => exact iff_of_false Bool.false_ne_true (not_occursAt_nil (List.cons_ne_nil p ps) 0)
    | cons x xs =>
      change (p == x && ps.isPrefixOf xs) = true ↔ (x == p && xs.take ps.length == ps) = true
      rw [Bool.and_eq_true, Bool.and_eq_true, ih, BEq.comm (a := p)]
      rfl

/-- Nothing comes before a pattern that stands at the front. -/
theorem OccursAt.least_iff (here : OccursAt pattern items 0) :
    some 0 = some i ↔ OccursAt pattern items i ∧ ∀ j < i, ¬ OccursAt pattern items j := by
  constructor
  · rintro ⟨⟩
    exact ⟨here, fun j before => absurd before j.not_lt_zero⟩
  · rintro ⟨-, least⟩
    have first : i = 0 := Nat.eq_zero_of_not_pos fun positive => least 0 positive here
    rw [first]

/-- The search finds the least index at which the pattern stands. -/
theorem indexOf?_eq_some_iff [PartialEquivBEq α] :
    indexOf? pattern items = some i ↔
      OccursAt pattern items i ∧ ∀ j < i, ¬ OccursAt pattern items j := by
  induction items generalizing i with
  | nil =>
    cases pattern with
    | nil => exact (occursAt_nil [] 0).least_iff
    | cons p ps =>
      have absent := not_occursAt_nil (List.cons_ne_nil p ps) i
      exact iff_of_false (Option.some_ne_none i).symm fun found => absent found.1
  | cons x xs ih =>
    unfold indexOf?
    by_cases here : OccursAt pattern (x :: xs) 0
    · rw [if_pos (isPrefixOf_iff_occursAt.2 here)]
      exact here.least_iff
    · rw [if_neg (mt isPrefixOf_iff_occursAt.1 here)]
      cases i with
      | zero => simp [here]
      | succ i =>
        have earlier : (∀ j < i + 1, ¬ OccursAt pattern (x :: xs) j) ↔
            ∀ j < i, ¬ OccursAt pattern xs j := by
          simp only [Nat.forall_lt_succ_left, here, not_false_eq_true, true_and,
            occursAt_cons_succ]
        rw [occursAt_cons_succ, earlier, ← ih]
        simp

theorem indexOf?_eq_none_iff [PartialEquivBEq α] :
    indexOf? pattern items = none ↔ ∀ i, ¬ OccursAt pattern items i := by
  constructor
  · intro absent i occurs
    have least := indexOf?_eq_some_iff.2
      ⟨Nat.find_spec ⟨i, occurs⟩, fun j before => Nat.find_min ⟨i, occurs⟩ before⟩
    rw [absent] at least
    cases least
  · intro absent
    cases found : indexOf? pattern items with
    | none => rfl
    | some i => exact absurd (indexOf?_eq_some_iff.1 found).1 (absent i)

/-- An occurrence in the front would be one in the list. -/
theorem not_occursAt_front {front rest : List α} (nonempty : pattern ≠ [])
    (least : ∀ j < front.length, ¬ OccursAt pattern (front ++ rest) j) (i : Nat) :
    ¬ OccursAt pattern front i := by
  intro occurs
  have fits := occurs.length_le
  have positive := List.length_pos_iff.2 nonempty
  exact least i (by omega) (occurs.append rest)

theorem indexOf?_append [PartialEquivBEq α] {front found rest : List α}
    (matched : (found == pattern) = true)
    (least : ∀ j < front.length, ¬ OccursAt pattern (front ++ (found ++ rest)) j) :
    indexOf? pattern (front ++ (found ++ rest)) = some front.length :=
  indexOf?_eq_some_iff.2 ⟨occursAt_behind matched, least⟩

end Occurrence

section Scan

variable {pattern items piece found rest : List α} {place : Nat}

/-- The indices at which a scan from left to right finds the pattern, counted from a place: past an
occurrence it goes on behind it, and else at the next element. -/
def scan (pattern : List α) (place : Nat) : List α → List Nat
  | [] => []
  | x :: xs =>
    if OccursAt pattern (x :: xs) 0 then
      place :: scan pattern (place + pattern.length) (xs.drop (pattern.length - 1))
    else scan pattern (place + 1) xs
termination_by items => items.length
decreasing_by all_goals simp only [List.length_cons, List.length_drop]; omega

/-- The scan passes over elements at which the pattern does not stand. -/
theorem scan_append
    (absent : ∀ i < piece.length, ¬ OccursAt pattern (piece ++ rest) i) :
    scan pattern place (piece ++ rest) = scan pattern (place + piece.length) rest := by
  induction piece generalizing place with
  | nil => rfl
  | cons x xs ih =>
    have first := absent 0 (Nat.zero_lt_succ xs.length)
    have later : ∀ i < xs.length, ¬ OccursAt pattern (xs ++ rest) i :=
      fun i before => absent (i + 1) (Nat.succ_lt_succ before)
    rw [List.cons_append] at first ⊢
    rw [scan, if_neg first, ih later, List.length_cons, Nat.add_assoc, Nat.add_comm 1]

theorem scan_eq_nil (absent : ∀ i, ¬ OccursAt pattern items i) :
    scan pattern place items = [] := by
  have nowhere : ∀ i < items.length, ¬ OccursAt pattern (items ++ []) i := by
    rw [List.append_nil]
    exact fun i _ => absent i
  rw [← items.append_nil, scan_append nowhere, scan]

/-- The scan goes on behind an occurrence. -/
theorem scan_found (nonempty : pattern ≠ []) (matched : (found == pattern) = true) :
    scan pattern place (found ++ rest) = place :: scan pattern (place + pattern.length) rest := by
  have length := List.length_eq_of_beq matched
  have here : OccursAt pattern (found ++ rest) 0 := @occursAt_behind _ _ _ [] _ _ matched
  cases found with
  | nil => exact absurd (List.length_eq_zero_iff.1 length.symm) nonempty
  | cons x xs =>
    rw [List.cons_append] at here ⊢
    rw [scan, if_pos here, ← length, List.length_cons, Nat.add_sub_cancel, List.drop_left]

/-- The list, which begins at the place, ends at the last occurrence that the scan finds. -/
def EndsAtMatch (pattern : List α) (place : Nat) (items : List α) : Prop :=
  ∃ last, (scan pattern place items).getLast? = some last ∧
    last + pattern.length = place + items.length

theorem EndsAtMatch.exists_occurrence (ends : EndsAtMatch pattern place items) :
    ∃ i, OccursAt pattern items i := by
  by_contra absent
  obtain ⟨last, found, -⟩ := ends
  rw [scan_eq_nil (not_exists.1 absent)] at found
  cases found

theorem EndsAtMatch.ne_nil (ends : EndsAtMatch pattern place items) (nonempty : pattern ≠ []) :
    items ≠ [] := by
  rintro rfl
  obtain ⟨i, occurs⟩ := ends.exists_occurrence
  exact not_occursAt_nil nonempty i occurs

/-- Behind the first occurrence the list ends as the rest of it does. -/
theorem endsAtMatch_append_iff (place : Nat) (nonempty : pattern ≠ [])
    (matched : (found == pattern) = true)
    (least : ∀ i < piece.length, ¬ OccursAt pattern (piece ++ (found ++ rest)) i) :
    EndsAtMatch pattern place (piece ++ (found ++ rest)) ↔
      rest = [] ∨ EndsAtMatch pattern (place + piece.length + pattern.length) rest := by
  have length := List.length_eq_of_beq matched
  have scanned : scan pattern place (piece ++ (found ++ rest)) = (place + piece.length) ::
      scan pattern (place + piece.length + pattern.length) rest := by
    rw [scan_append least, scan_found nonempty matched]
  unfold EndsAtMatch
  rw [scanned, List.length_append, List.length_append, length]
  cases after : scan pattern (place + piece.length + pattern.length) rest with
  | nil =>
    simp only [List.getLast?_singleton, List.getLast?_nil, Option.some.injEq, reduceCtorEq,
      false_and, exists_false, or_false, exists_eq_left', ← List.length_eq_zero_iff]
    omega
  | cons next more =>
    have continued : rest ≠ [] := by
      rintro rfl
      simp [scan] at after
    simp only [List.getLast?_cons_cons, continued, false_or]
    refine exists_congr fun last => and_congr_right fun _ => ?_
    omega

end Scan

section Cut

variable {pattern items : List α}

/-- The pieces that the occurrences of a pattern cut a list into, from left to right: the pattern
stands nowhere in the list, or the first occurrence ends it, or the rest is cut again. -/
inductive Cut (pattern : List α) : List α → List (List α) → Prop
  | whole {items : List α} (absent : ∀ i, ¬ OccursAt pattern items i) : Cut pattern items [items]
  | last {piece found : List α} (matched : (found == pattern) = true)
      (least : ∀ i < piece.length, ¬ OccursAt pattern (piece ++ (found ++ [])) i) :
      Cut pattern (piece ++ (found ++ [])) [piece]
  | more {piece found rest : List α} {pieces : List (List α)} (matched : (found == pattern) = true)
      (least : ∀ i < piece.length, ¬ OccursAt pattern (piece ++ (found ++ rest)) i)
      (continued : rest ≠ []) (after : Cut pattern rest pieces) :
      Cut pattern (piece ++ (found ++ rest)) (piece :: pieces)

/-- A list splits at the index that the search finds. -/
theorem exists_append_of_indexOf? [PartialEquivBEq α] {i : Nat}
    (search : indexOf? pattern items = some i) :
    ∃ piece found, items = piece ++ (found ++ items.drop (i + pattern.length)) ∧
      items.take i = piece ∧ (found == pattern) = true ∧
      ∀ j < piece.length, ¬ OccursAt pattern items j := by
  obtain ⟨occurs, least⟩ := indexOf?_eq_some_iff.1 search
  refine ⟨items.take i, (items.drop i).take pattern.length, ?_, rfl, occurs, fun j before => ?_⟩
  · rw [← List.drop_drop, List.take_append_drop, List.take_append_drop]
  · exact least j (Nat.lt_of_lt_of_le before (List.length_take_le i items))

theorem pieces_cut [PartialEquivBEq α] (p : α) (ps items : List α) :
    Cut (p :: ps) items (pieces p ps items) := by
  fun_induction pieces p ps items with
  | case1 => exact .whole (not_occursAt_nil (List.cons_ne_nil p ps))
  | case2 x xs absent => exact .whole (indexOf?_eq_none_iff.1 absent)
  | case3 x xs i search rest ih =>
    obtain ⟨piece, found, whole, front, matched, least⟩ := exists_append_of_indexOf? search
    have behind : (x :: xs).drop (i + (p :: ps).length) = rest := rfl
    rw [behind] at whole
    rw [front]
    rw [whole] at least ⊢
    by_cases ended : rest = []
    · rw [ended] at least ⊢
      exact .last matched least
    · rw [if_neg (mt List.isEmpty_iff.1 ended)]
      exact .more matched least ended ih

namespace Cut

variable {pieces : List (List α)}

theorem ne_nil (cut : Cut pattern items pieces) : pieces ≠ [] := by
  cases cut <;> exact List.cons_ne_nil _ _

theorem not_occursAt (nonempty : pattern ≠ []) (cut : Cut pattern items pieces) :
    ∀ piece ∈ pieces, ∀ i, ¬ OccursAt pattern piece i := by
  induction cut with
  | whole absent =>
    intro piece member
    rw [List.mem_singleton.1 member]
    exact absent
  | last matched least =>
    intro piece member
    rw [List.mem_singleton.1 member]
    exact not_occursAt_front nonempty least
  | more matched least continued after ih =>
    intro piece member
    rcases List.mem_cons.1 member with rfl | later
    · exact not_occursAt_front nonempty least
    · exact ih piece later

/-- The first piece ends where the search finds the pattern. -/
theorem indexOf?_eq [PartialEquivBEq α] (cut : Cut pattern items pieces) {i : Nat}
    (occurs : OccursAt pattern items i) :
    indexOf? pattern items = pieces.head?.map List.length := by
  cases cut with
  | whole absent => exact absurd occurs (absent i)
  | last matched least => exact indexOf?_append matched least
  | more matched least => exact indexOf?_append matched least

/-- The pieces joined by the pattern are the list again, or the list without the occurrence that
ends it. -/
theorem beq_intercalate [EquivBEq α] (nonempty : pattern ≠ [])
    (cut : Cut pattern items pieces) (place : Nat) :
    ∃ tail, (items == pattern.intercalate pieces ++ tail) = true ∧
      (EndsAtMatch pattern place items ∧ tail = pattern ∨
        ¬ EndsAtMatch pattern place items ∧ tail = []) := by
  induction cut generalizing place with
  | @whole items absent =>
    refine ⟨[], ?_, .inr ⟨fun ends => not_exists.2 absent ends.exists_occurrence, rfl⟩⟩
    rw [List.intercalate_singleton, List.append_nil]
    exact BEq.rfl
  | @last piece found matched least =>
    have ends := (endsAtMatch_append_iff place nonempty matched least).2 (.inl rfl)
    refine ⟨pattern, ?_, .inl ⟨ends, rfl⟩⟩
    rw [List.intercalate_singleton, List.append_nil]
    exact beq_append BEq.rfl matched
  | @more piece found rest pieces matched least continued after ih =>
    obtain ⟨tail, joined, ends⟩ := ih (place + piece.length + pattern.length)
    have behind := endsAtMatch_append_iff place nonempty matched least
    simp only [continued, false_or] at behind
    refine ⟨tail, ?_, by rwa [behind]⟩
    rw [List.intercalate_cons_of_ne_nil after.ne_nil, List.append_assoc, List.append_assoc]
    exact beq_append BEq.rfl (beq_append matched joined)

end Cut

end Cut

/-- What the pieces of a list between the occurrences of a pattern are. -/
structure Separation (items pattern : List α) (pieces : List (List α)) : Prop where
  /-- There is at least one piece. -/
  nonempty : pieces ≠ []
  /-- Joined by the pattern they are the list, or lack one more pattern at its end. -/
  joined : (items == pattern.intercalate pieces) = true ∨
    (items == pattern.intercalate pieces ++ pattern) = true
  /-- They lack it when the list ends at the last match of the scan. -/
  terminated : (items == pattern.intercalate pieces ++ pattern) = true ↔
    items ≠ [] ∧ EndsAtMatch pattern 0 items
  /-- The pattern stands in no piece. -/
  clear : ∀ piece ∈ pieces, ∀ i, ¬ OccursAt pattern piece i
  /-- The first piece reaches to the first occurrence. -/
  first : ∀ i, OccursAt pattern items i →
    indexOf? pattern items = pieces.head?.map List.length

theorem Cut.separation [EquivBEq α] {items pattern : List α} {pieces : List (List α)}
    (nonempty : pattern ≠ []) (cut : Cut pattern items pieces) :
    Separation items pattern pieces := by
  obtain ⟨tail, joined, ends⟩ := cut.beq_intercalate nonempty 0
  -- lengths tell the two joins apart
  have exclusive : (items == pattern.intercalate pieces) = true →
      ¬ (items == pattern.intercalate pieces ++ pattern) = true := by
    intro shorter longer
    have positive := List.length_pos_iff.2 nonempty
    have length := List.length_eq_of_beq shorter
    have length' := List.length_eq_of_beq longer
    rw [List.length_append] at length'
    omega
  refine ⟨cut.ne_nil, ?_, ?_, cut.not_occursAt nonempty, fun i occurs => cut.indexOf?_eq occurs⟩
  · rcases ends with ⟨-, rfl⟩ | ⟨-, rfl⟩
    · exact .inr joined
    · rw [List.append_nil] at joined
      exact .inl joined
  · rcases ends with ⟨ends, rfl⟩ | ⟨ends, rfl⟩
    · exact iff_of_true joined ⟨ends.ne_nil nonempty, ends⟩
    · rw [List.append_nil] at joined
      exact iff_of_false (exclusive joined) fun both => ends both.2

/-- Separating can be undone: by a pattern that is not empty it always yields pieces, and they are
what the pattern cuts the list into. -/
theorem separate_separation [EquivBEq α] (items : List α) {pattern : List α}
    (nonempty : pattern ≠ []) :
    ∃ pieces, separate items pattern = .ok pieces ∧ Separation items pattern pieces := by
  cases pattern with
  | nil => exact absurd rfl nonempty
  | cons p ps => exact ⟨pieces p ps items, rfl, (pieces_cut p ps items).separation nonempty⟩

/-- Two blocks are the pattern, and blocks of the same text written elsewhere are found. The second
and the third overlap the first match and are passed over; the last match ends the list. -/
theorem separate_separation_blocks :
    let letter : Nat → Value := fun column => .block ⟨['a'], ⟨1, column⟩⟩
    let items := [letter 1, letter 2, letter 3, .integer 7, letter 5, letter 6]
    let pattern := [letter 8, letter 9]
    pattern ≠ [] ∧ separate items pattern = .ok [[], [letter 3, .integer 7]] ∧
      Separation items pattern [[], [letter 3, .integer 7]] := by
  intro letter items pattern
  have nonempty : pattern ≠ [] := List.cons_ne_nil _ _
  have computed : separate items pattern = .ok [[], [letter 3, .integer 7]] := by
    cbv
  obtain ⟨pieces, separated, separation⟩ := separate_separation items nonempty
  rw [computed] at separated
  cases separated
  exact ⟨nonempty, computed, separation⟩

end Stackscript.Sequence
