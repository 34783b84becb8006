import Stackscript.Proofs.Value.Antisymmetry
import Stackscript.Proofs.Value.Order

set_option autoImplicit false

/- Which values have an order. The depth that bounds a comparison is never used up, so values of all
depths are compared in one way: promoted, and at their common kind. Promotion widens, which fails
only for blocks. Without blocks all values are comparable, and those that are structurally equal are
equal in the order. -/
namespace Stackscript.Value

/-- A block is in a value: it is the value, or it is in an element of an array. -/
inductive HasBlock : Value → Block → Prop where
  | itself (b : Block) : HasBlock (.block b) b
  | element {elements : List Value} {value : Value} {b : Block} (member : value ∈ elements)
    (inside : HasBlock value b) : HasBlock (.array elements) b

def Blockless (a : Value) : Prop :=
  ∀ b, ¬a.HasBlock b

theorem Blockless.type_ne_block {a : Value} (blockless : a.Blockless) : a.type ≠ .block := by
  cases a with
  | block b => exact absurd (.itself b) (blockless b)
  | _ => exact ValueType.noConfusion

theorem Blockless.items {a value : Value} (blockless : a.Blockless) (member : value ∈ a.items) :
    value.Blockless := by
  intro b inside
  cases a with
  | array elements => exact blockless b (.element member inside)
  | string t =>
    obtain ⟨c, -, rfl⟩ := List.mem_map.1 member
    cases inside
  | _ =>
    rw [List.mem_singleton.1 member] at inside
    exact blockless b inside

/-- Only blocks cannot be promoted, since no conversion to a wider kind fails. -/
theorem exists_promote {a b : Value} (left : a.type ≠ .block) (right : b.type ≠ .block) :
    ∃ promoted, promote a b = .ok promoted := by
  cases a with
  | block => exact absurd rfl left
  | _ =>
    cases b with
    | block => exact absurd rfl right
    | _ => exact ⟨_, rfl⟩

/-- Two values become arrays only when one of them is an array. -/
theorem promote_eq_arrays {a b : Value} {as bs : List Value}
    (promoted : promote a b = .ok (.arrays as bs)) :
    as = a.items ∧ bs = b.items ∧ 0 < max a.depth b.depth := by
  have arrays : (a.type = .array ∨ b.type = .array) ∧ as = a.items ∧ bs = b.items := by
    cases a <;> cases b <;> cases promoted
    all_goals exact ⟨by simp [type], rfl, rfl⟩
  obtain ⟨array, left, right⟩ := arrays
  refine ⟨left, right, ?_⟩
  rcases array with array | array
  · exact Nat.lt_of_lt_of_le (depth_pos_of_array array) (Nat.le_max_left _ _)
  · exact Nat.lt_of_lt_of_le (depth_pos_of_array array) (Nat.le_max_right _ _)

theorem max_depth_le_of_mem_items {a b x y : Value} {depth : Nat}
    (shallow : max a.depth b.depth ≤ depth + 1) (left : x ∈ a.items) (right : y ∈ b.items) :
    max x.depth y.depth ≤ depth :=
  Nat.max_le.2 ⟨depth_le_of_mem_items (Nat.le_trans (Nat.le_max_left _ _) shallow) left,
    depth_le_of_mem_items (Nat.le_trans (Nat.le_max_right _ _) shallow) right⟩

section Lexicographic

variable {α β ε : Type} {cmp cmp' : α → β → Except ε Ordering} {as : List α} {bs : List β}

theorem lexicographic_congr (same : ∀ a ∈ as, ∀ b ∈ bs, cmp a b = cmp' a b) :
    lexicographic cmp as bs = lexicographic cmp' as bs := by
  induction as generalizing bs with
  | nil => cases bs <;> rfl
  | cons a as ih =>
    cases bs with
    | nil => rfl
    | cons b bs =>
      have rest : lexicographic cmp as bs = lexicographic cmp' as bs := by
        refine ih fun x inside y inside' => ?_
        exact same x (List.mem_cons_of_mem a inside) y (List.mem_cons_of_mem b inside')
      rw [lexicographic, lexicographic, same a List.mem_cons_self b List.mem_cons_self, rest]

theorem lexicographic_total (each : ∀ a ∈ as, ∀ b ∈ bs, ∃ order, cmp a b = .ok order) :
    ∃ order, lexicographic cmp as bs = .ok order := by
  induction as generalizing bs with
  | nil => cases bs <;> exact ⟨_, rfl⟩
  | cons a as ih =>
    cases bs with
    | nil => exact ⟨_, rfl⟩
    | cons b bs =>
      obtain ⟨first, compared⟩ := each a List.mem_cons_self b List.mem_cons_self
      rw [lexicographic, compared]
      cases first with
      | eq =>
        refine ih fun x inside y inside' => ?_
        exact each x (List.mem_cons_of_mem a inside) y (List.mem_cons_of_mem b inside')
      | lt => exact ⟨.lt, rfl⟩
      | gt => exact ⟨.gt, rfl⟩

end Lexicographic

/-- Compares two values at their common kind, and the elements of arrays by the given comparison. -/
def compareBy (cmp : Value → Value → Except Fault Ordering) (a b : Value) :
    Except Fault Ordering := do
  match ← promote a b with
  | .characters a b => return Ord.compare a.toNat b.toNat
  | .integers a b => return Ord.compare a.toInt b.toInt
  | .decimals a b => return a.compare b
  | .strings a b => return Text.compare a b
  | .arrays as bs => lexicographic cmp as bs

theorem compareWithin_succ (depth : Nat) (a b : Value) :
    compareWithin (depth + 1) a b = compareBy (compareWithin depth) a b :=
  rfl

/-- Elements are compared only where there is an array. -/
theorem compareBy_congr {cmp cmp' : Value → Value → Except Fault Ordering} {a b : Value}
    (same : 0 < max a.depth b.depth → ∀ x ∈ a.items, ∀ y ∈ b.items, cmp x y = cmp' x y) :
    compareBy cmp a b = compareBy cmp' a b := by
  unfold compareBy
  cases promoted : promote a b with
  | error fault => rfl
  | ok pair =>
    cases pair with
    | arrays as bs =>
      obtain ⟨rfl, rfl, deep⟩ := promote_eq_arrays promoted
      exact lexicographic_congr (same deep)
    | _ => rfl

/-- Depth that is not needed changes nothing. -/
theorem compareWithin_eq {depth depth' : Nat} {a b : Value} (enough : max a.depth b.depth ≤ depth)
    (enough' : max a.depth b.depth ≤ depth') :
    compareWithin (depth + 1) a b = compareWithin (depth' + 1) a b := by
  induction depth generalizing depth' a b with
  | zero =>
    apply compareBy_congr
    intro deep
    omega
  | succ depth ih =>
    apply compareBy_congr
    intro deep x inside y inside'
    obtain ⟨depth', rfl⟩ : ∃ below, depth' = below + 1 := ⟨depth' - 1, by omega⟩
    apply ih
    · exact max_depth_le_of_mem_items enough inside inside'
    · exact max_depth_le_of_mem_items enough' inside inside'

/-- However deep two values are, the elements of arrays are compared as the values are. -/
theorem compare_eq (a b : Value) : compare a b = compareBy compare a b := by
  rw [compare, compareWithin_succ]
  apply compareBy_congr
  intro deep x inside y inside'
  obtain ⟨depth, top⟩ : ∃ depth, max a.depth b.depth = depth + 1 :=
    ⟨max a.depth b.depth - 1, by omega⟩
  rw [top]
  exact compareWithin_eq (max_depth_le_of_mem_items (Nat.le_of_eq top) inside inside')
    (Nat.le_refl _)

theorem compareWithin_total (depth : Nat) {a b : Value} (left : a.Blockless)
    (right : b.Blockless) : ∃ order, compareWithin depth a b = .ok order := by
  induction depth generalizing a b with
  | zero => exact ⟨.eq, rfl⟩
  | succ depth ih =>
    obtain ⟨pair, promoted⟩ := exists_promote left.type_ne_block right.type_ne_block
    rw [compareWithin, promoted]
    cases pair with
    | arrays as bs =>
      obtain ⟨rfl, rfl, -⟩ := promote_eq_arrays promoted
      apply lexicographic_total
      intro x inside y inside'
      exact ih (left.items inside) (right.items inside')
    | _ => exact ⟨_, rfl⟩

theorem lexicographic_eq_of_sameAll {cmp : Value → Value → Except Fault Ordering}
    {as bs : List Value} (each : ∀ a ∈ as, ∀ b, same a b = true → cmp a b = .ok .eq)
    (equal : sameAll as bs = true) : lexicographic cmp as bs = .ok .eq := by
  induction as generalizing bs with
  | nil =>
    cases bs with
    | nil => rfl
    | cons => cases equal
  | cons a as ih =>
    cases bs with
    | nil => cases equal
    | cons b bs =>
      obtain ⟨first, rest⟩ := Bool.and_eq_true_iff.1 equal
      rw [lexicographic, each a List.mem_cons_self b first]
      exact ih (fun x inside => each x (List.mem_cons_of_mem a inside)) rest

theorem compareWithin_of_same (depth : Nat) {a b : Value} (blockless : a.Blockless)
    (equal : same a b = true) : compareWithin depth a b = .ok .eq := by
  induction depth generalizing a b with
  | zero => rfl
  | succ depth ih =>
    cases a with
    | character c =>
      cases b with
      | character d =>
        obtain rfl : c = d := eq_of_beq equal
        exact congrArg Except.ok Std.ReflCmp.compare_self
      | _ => cases equal
    | integer m =>
      cases b with
      | integer n =>
        obtain rfl : m = n := eq_of_beq equal
        exact congrArg Except.ok Std.ReflCmp.compare_self
      | _ => cases equal
    | decimal d =>
      cases b with
      | decimal e =>
        have tied : d.compare e = .eq := by
          rw [Decimal.compare, show d.key = e.key from eq_of_beq equal]
          exact Std.ReflCmp.compare_self
        exact congrArg Except.ok tied
      | _ => cases equal
    | string t =>
      cases b with
      | string u =>
        obtain rfl : t = u := eq_of_beq equal
        exact congrArg Except.ok Std.ReflCmp.compare_self
      | _ => cases equal
    | array as =>
      cases b with
      | array bs =>
        refine lexicographic_eq_of_sameAll (fun x inside y equal => ?_) equal
        exact ih (blockless.items inside) equal
      | _ => cases equal
    | block c => exact absurd (.itself c) (blockless c)

/-- The order of values. Two values are promoted and compared at their common kind, the elements of
arrays in the same way one by one. The other way round the answer is the reverse, failures included.
Values without blocks at any depth have an order, and are equal in it if they are structurally
equal. -/
theorem compare_total (a b : Value) :
    (compare a b = do
      match ← promote a b with
      | .characters a b => return Ord.compare a.toNat b.toNat
      | .integers a b => return Ord.compare a.toInt b.toInt
      | .decimals a b => return a.compare b
      | .strings a b => return Text.compare a b
      | .arrays as bs => lexicographic compare as bs) ∧
    compare b a = Ordering.swap <$> compare a b ∧
    (a.Blockless → b.Blockless →
      (∃ order, compare a b = .ok order) ∧ ((a == b) = true → compare a b = .ok .eq)) := by
  refine ⟨compare_eq a b, compare_swap a b, fun left right => ⟨?_, fun equal => ?_⟩⟩
  · exact compareWithin_total _ left right
  · exact compareWithin_of_same _ left equal

/-- A character, a zero two levels down and a string, compared with the same values but a zero of
the other sign. -/
theorem compare_total_zeros :
    let a : Value := .array [.character 'A', .array [.decimal (.ofMagnitude false 0)], .string ['x']]
    let b : Value := .array [.character 'A', .array [.decimal (.ofMagnitude true 0)], .string ['x']]
    a.Blockless ∧ b.Blockless ∧ (a == b) = true ∧ compare a b = .ok .eq := by
  intro a b
  have blockless (d : Decimal) :
      Blockless (.array [.character 'A', .array [.decimal d], .string ['x']]) := by
    rintro block (_ | ⟨member, inside⟩)
    simp only [List.mem_cons, List.not_mem_nil, or_false] at member
    rcases member with rfl | rfl | rfl
    · cases inside
    · obtain _ | ⟨member, inside⟩ := inside
      rw [List.mem_singleton.1 member] at inside
      cases inside
    · cases inside
  have equal : (a == b) = true := by decide
  have both := (compare_total a b).2.2 (blockless _) (blockless _)
  exact ⟨blockless _, blockless _, equal, both.2 equal⟩

end Stackscript.Value
