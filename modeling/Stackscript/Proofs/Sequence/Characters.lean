import Mathlib.Data.Set.List
import Stackscript.Machine.Meaning
import Stackscript.Proofs.Correspondence.Sequence

set_option autoImplicit false

/- A string is the array of its characters. Each operation on sequences has a form for strings and
one for arrays, and they do the same: what comes of a string, with its strings spelled out, is what
comes of the array, and the one fails where the other does, for the same reason. -/
namespace Stackscript

namespace Value

/-- A string as the array of its characters. -/
def spelled (t : Text) : Value :=
  .array (t.map .character)

/-- This is what a string is converted to. -/
theorem toArray_string (t : Text) : .array <$> (Value.string t).toArray = .ok (spelled t) := rfl

mutual

/-- The value with each string in it, at any depth, as the array of its characters. -/
def spellOut : Value → Value
  | .string t => spelled t
  | .array elements => .array (spellOutAll elements)
  | other => other

def spellOutAll : List Value → List Value
  | [] => []
  | value :: values => spellOut value :: spellOutAll values

end

theorem spellOutAll_strings (texts : List Text) :
    spellOutAll (texts.map .string) = texts.map spelled := by
  induction texts with
  | nil => rfl
  | cons t texts ih => simp only [List.map_cons, spellOutAll, spellOut, ih]

theorem beq_character (c d : Char) : (Value.character c == Value.character d) = (c == d) := rfl

end Value

namespace Sequence

section Search

variable {α β : Type} [BEq α] [BEq β] {embed : α → β}

theorem isPrefixOf_map (same : ∀ a b, (embed a == embed b) = (a == b)) (xs ys : List α) :
    (xs.map embed).isPrefixOf (ys.map embed) = xs.isPrefixOf ys := by
  induction xs generalizing ys with
  | nil => rfl
  | cons x xs ih =>
    cases ys with
    | nil => rfl
    | cons y ys => simp only [List.map_cons, List.isPrefixOf, same, ih]

theorem indexOf?_map (same : ∀ a b, (embed a == embed b) = (a == b)) (pattern items : List α) :
    indexOf? (pattern.map embed) (items.map embed) = indexOf? pattern items := by
  induction items with
  | nil => cases pattern <;> rfl
  | cons x xs ih =>
    have here := isPrefixOf_map same pattern (x :: xs)
    rw [List.map_cons] at here
    simp only [List.map_cons, indexOf?, here, ih]

theorem pieces_map (same : ∀ a b, (embed a == embed b) = (a == b)) (p : α) (ps items : List α) :
    pieces (embed p) (ps.map embed) (items.map embed) =
      (pieces p ps items).map (List.map embed) := by
  induction items using WellFounded.induction (measure List.length).wf with | _ items ih =>
  cases items with
  | nil =>
    rw [List.map_nil, pieces, pieces]
    rfl
  | cons x xs =>
    have found := indexOf?_map same (p :: ps) (x :: xs)
    rw [List.map_cons, List.map_cons] at found
    rw [List.map_cons, pieces, pieces, found, List.length_map]
    cases indexOf? (p :: ps) (x :: xs) with
    | none => rfl
    | some i =>
      have shorter : (xs.drop (i + ps.length)).length < (x :: xs).length := by
        simp only [List.length_drop, List.length_cons]
        omega
      have rest := ih (xs.drop (i + ps.length)) shorter
      dsimp only
      rw [← List.map_drop, ← List.map_cons, ← List.map_take, List.isEmpty_map, rest]
      split <;> rfl

theorem separate_map (same : ∀ a b, (embed a == embed b) = (a == b)) (items pattern : List α) :
    separate (items.map embed) (pattern.map embed) =
      List.map (List.map embed) <$> separate items pattern := by
  cases pattern with
  | nil => rfl
  | cons p ps => exact congrArg Except.ok (pieces_map same p ps items)

theorem position_map (same : ∀ a b, (embed a == embed b) = (a == b)) (items pattern : List α) :
    position (items.map embed) (pattern.map embed) = position items pattern := by
  unfold position
  rw [indexOf?_map same]

end Search

open Value (spelled spellOut)

theorem take_spelled (t : Text) (n : Int64) :
    take (spelled t) n = spellOut <$> take (.string t) n := by
  change Except.ok (Value.array ((t.map Value.character).take n.toInt.toNat)) = _
  rw [← List.map_take]
  rfl

theorem drop_spelled (t : Text) (n : Int64) :
    drop (spelled t) n = spellOut <$> drop (.string t) n := by
  change Except.ok (Value.array ((t.map Value.character).drop n.toInt.toNat)) = _
  rw [← List.map_drop]
  rfl

theorem mem_of_elementAt {items : List Value} {n : Int64} {value : Value}
    (found : elementAt (.array items) n = .ok value) : value ∈ items := by
  simp only [elementAt, Value.toArray, bind, Except.bind] at found
  generalize (if n.toInt < 0 then n.toInt + (items.length : Int) else n.toInt) = offset at found
  split at found
  · rename_i element hit
    cases found
    split at hit
    · cases hit
    · exact List.mem_of_getElem? hit
  · cases found

theorem elementAt_spelled (t : Text) (n : Int64) :
    elementAt (spelled t) n = spellOut <$> elementAt (.string t) n := by
  have same : elementAt (.string t) n = elementAt (spelled t) n := rfl
  rw [same]
  cases found : elementAt (spelled t) n with
  | error fault => rfl
  | ok value =>
    -- An element is a character, which has nothing to spell out.
    obtain ⟨c, -, rfl⟩ := List.mem_map.1 (mem_of_elementAt found)
    rfl

theorem uncons_spelled (t : Text) :
    uncons (spelled t) = Prod.map spellOut spellOut <$> uncons (.string t) := by
  cases t <;> rfl

theorem unsnoc_spelled (t : Text) :
    unsnoc (spelled t) = Prod.map spellOut spellOut <$> unsnoc (.string t) := by
  have last : (t.map Value.character).getLast? = t.getLast?.map Value.character :=
    List.getLast?_map
  simp only [spelled, unsnoc, last]
  cases t.getLast? with
  | none => rfl
  | some c =>
    rw [← List.map_dropLast]
    rfl

theorem concat_spelled (s t : Text) :
    concat (spelled s) (spelled t) = spellOut <$> concat (.string s) (.string t) := by
  change Except.ok (Value.array (s.map Value.character ++ t.map Value.character)) = _
  rw [← List.map_append]
  rfl

theorem split_spelled (s t : Text) :
    split (spelled s) (spelled t) = spellOut <$> split (.string s) (.string t) := by
  change (separate (s.map Value.character) (t.map Value.character) >>= fun parts =>
    .ok (Value.array (parts.map .array))) = _
  rw [separate_map Value.beq_character]
  change _ = spellOut <$> (separate s t >>= fun parts => .ok (Value.array (parts.map .string)))
  cases separate s t with
  | error fault => rfl
  | ok parts =>
    change Except.ok (Value.array ((parts.map (List.map Value.character)).map Value.array)) =
      .ok (Value.array (Value.spellOutAll (parts.map .string)))
    rw [Value.spellOutAll_strings, List.map_map]
    rfl

theorem indexOf_spelled (s t : Text) :
    indexOf (spelled s) (spelled t) = spellOut <$> indexOf (.string s) (.string t) := by
  change Except.ok (Value.integer
    (position (s.map Value.character) (t.map Value.character))) = _
  rw [position_map Value.beq_character]
  rfl

theorem characters?_spelled (t : Text) : characters? (t.map .character) = some t := by
  induction t with
  | nil => rfl
  | cons c t ih =>
    rw [List.map_cons, characters?, ih]
    rfl

theorem restore_characters (t : Text) : restore (t.map .character) true = .string t := by
  unfold restore
  rw [characters?_spelled]

/-- Sorting characters gives characters. -/
theorem mergeSort_characters (t : Text) {sorted : List Value}
    (result : mergeSort Value.less (t.map .character) = .ok sorted) :
    ∃ u : Text, sorted = u.map .character := by
  let Character (a b : Value) : Prop := a = b ∧ ∃ c, a = .character c
  have characters : List.Forall₂ Character (t.map .character) (t.map .character) := by
    apply List.forall₂_same.2
    intro value member
    obtain ⟨c, -, rfl⟩ := List.mem_map.1 member
    exact ⟨rfl, c, rfl⟩
  have kept : Agree (List.Forall₂ Character) (mergeSort Value.less (t.map .character))
      (mergeSort Value.less (t.map .character)) := by
    apply mergeSort_related Agree.lifting
    · rintro _ _ _ _ ⟨rfl, c, rfl⟩ ⟨rfl, d, rfl⟩
      exact .ok rfl
    · exact characters
  rw [result] at kept
  cases kept with
  | ok related =>
    have each : sorted ∈ Set.range (List.map Value.character) := by
      rw [Set.range_list_map]
      intro value member
      obtain ⟨-, c, same⟩ := List.forall₂_same.1 related value member
      exact ⟨c, same.symm⟩
    obtain ⟨u, same⟩ := each
    exact ⟨u, same.symm⟩

/-- A sorted string is restored, so it is the string of what the array is sorted to. -/
theorem sort_spelled (t : Text) : sort (spelled t) = spellOut <$> sort (.string t) := by
  change (mergeSort Value.less (t.map .character) >>= fun sorted => .ok (restore sorted false)) =
    spellOut <$> (mergeSort Value.less (t.map .character) >>= fun sorted =>
      .ok (restore sorted true))
  cases result : mergeSort Value.less (t.map Value.character) with
  | error fault => rfl
  | ok sorted =>
    obtain ⟨u, rfl⟩ := mergeSort_characters t result
    change Except.ok (Value.array (u.map .character)) =
      spellOut <$> Except.ok (restore (u.map .character) true)
    rw [restore_characters]
    rfl

end Sequence

/-- Counting the elements of a string. -/
theorem Engine.count_spelled (engine : Engine) (t : Text) (m : Machine) (base : Stack) :
    engine.count { m with stack := base.push (Value.spelled t) } =
      engine.count { m with stack := base.push (.string t) } := by
  change Outcome.done () { m with
    stack := base.push (.integer (Int64.ofNat (t.map Value.character).length)) } = _
  rw [List.length_map]
  rfl

namespace Sequence

/-- Operations on strings are those on the arrays of their characters: what they give, with its
strings spelled out, is the same, and so are their failures. -/
theorem spelled_operations (s p : Text) (n : Int64) :
    take (.spelled s) n = Value.spellOut <$> take (.string s) n ∧
    drop (.spelled s) n = Value.spellOut <$> drop (.string s) n ∧
    elementAt (.spelled s) n = Value.spellOut <$> elementAt (.string s) n ∧
    uncons (.spelled s) = Prod.map Value.spellOut Value.spellOut <$> uncons (.string s) ∧
    unsnoc (.spelled s) = Prod.map Value.spellOut Value.spellOut <$> unsnoc (.string s) ∧
    concat (.spelled s) (.spelled p) = Value.spellOut <$> concat (.string s) (.string p) ∧
    split (.spelled s) (.spelled p) = Value.spellOut <$> split (.string s) (.string p) ∧
    indexOf (.spelled s) (.spelled p) = Value.spellOut <$> indexOf (.string s) (.string p) ∧
    (∀ (engine : Engine) (m : Machine) (base : Stack),
      (Operator.count.meaning engine).apply { m with stack := base.push (.spelled s) } =
        (Operator.count.meaning engine).apply { m with stack := base.push (.string s) }) ∧
    sort (.spelled s) = Value.spellOut <$> sort (.string s) := by
  refine ⟨take_spelled s n, drop_spelled s n, elementAt_spelled s n, uncons_spelled s,
    unsnoc_spelled s, concat_spelled s p, split_spelled s p, indexOf_spelled s p, ?_,
    sort_spelled s⟩
  intro engine m base
  exact engine.count_spelled s m base

end Sequence

end Stackscript
