import Stackscript.Value.Order

set_option autoImplicit false

/- The order within a family of values. Promotion turns a scalar into an array of one and a string
into the array of its characters. In a family it does nothing else that matters, so that comparing
two values is comparing lists, level by level, down to the numbers of their scalars. Comparing by
levels makes sense of all values and is an order of them. -/
namespace Stackscript.Value

/-- The families of values that promotion compares consistently: those without strings and those
without integers. -/
inductive Family where
  | numbers
  | texts

/-- The values of a family: characters, its own scalars or strings, and arrays of such values; no
decimal and no block at any depth. -/
inductive Family.Admits : Family → Value → Prop where
  | character {family : Family} (c : Char) : Admits family (.character c)
  | integer (n : Int64) : Admits .numbers (.integer n)
  | string (t : Text) : Admits .texts (.string t)
  | array {family : Family} {elements : List Value}
    (each : ∀ value ∈ elements, Admits family value) : Admits family (.array elements)

/-- The elements of a value as an array; any value that is no sequence is an array of one. -/
def items : Value → List Value
  | .array elements => elements
  | .string t => t.map .character
  | value => [value]

theorem toArray_of_isSequence {q : Value} (sequence : q.isSequence = true) :
    q.toArray = .ok q.items := by
  cases q with
  | string t => rfl
  | array elements => rfl
  | _ => cases sequence

/-- What a character or an integer counts for. -/
def number : Value → Int
  | .character c => c.toNat
  | .integer n => n.toInt
  | _ => 0

/-- Compares two values as arrays of arrays, nested as deeply as the level tells, of numbers. -/
def compareAt : (level : Nat) → Value → Value → Ordering
  | 0, a, b => Ord.compare a.number b.number
  | level + 1, a, b => List.compareLex (compareAt level) a.items b.items

instance compareAt_trans (level : Nat) : Std.TransCmp (compareAt level) := by
  induction level with
  | zero => exact inferInstanceAs (Std.TransCmp (compareOn number))
  | succ level ih =>
    have lists : Std.TransCmp (List.compareLex (compareAt level)) := inferInstance
    exact { eq_swap := lists.eq_swap, isLE_trans := lists.isLE_trans }

/-- Values that are no sequences compare at each level as they do at the lowest one. -/
theorem compareAt_of_single {a b : Value} (left : a.items = [a]) (right : b.items = [b])
    (level : Nat) : compareAt level a b = Ord.compare a.number b.number := by
  induction level with
  | zero => rfl
  | succ level ih =>
    rw [compareAt, left, right, List.compareLex_cons_cons, List.compareLex_nil_nil,
      Ordering.then_eq, ih]

theorem compare_natCast (m n : Nat) : Ord.compare (m : Int) (n : Int) = Ord.compare m n := by
  simp only [Ord.compare, compareOfLessAndEq, Int.ofNat_lt, Int.ofNat_inj]

theorem toInt_code (c : Char) : (code c).toInt = c.toNat := by
  have bound : c.toNat < 0x110000 := by
    rcases c.valid with below | ⟨-, below⟩
    · exact Nat.lt_trans below (by decide)
    · exact below
  apply Int64.toInt_ofNat_of_lt
  omega

/-- Characters compare by their code points at each level. -/
theorem compareAt_characters (level : Nat) (c d : Char) :
    compareAt level (.character c) (.character d) = Ord.compare c.toNat d.toNat := by
  rw [compareAt_of_single rfl rfl]
  exact compare_natCast c.toNat d.toNat

/-- The characters of two strings compare as the strings do. -/
theorem compareLex_characters (level : Nat) (s t : Text) :
    List.compareLex (compareAt level) (s.map .character) (t.map .character) = Text.compare s t := by
  unfold Text.compare
  induction s generalizing t with
  | nil => cases t <;> rfl
  | cons c s ih =>
    cases t with
    | nil => rfl
    | cons d t =>
      rw [List.map_cons, List.map_cons, List.compareLex_cons_cons, List.compareLex_cons_cons,
        compareAt_characters, ih]

/-- A comparison of elements that does not fail gives one of lists that does not fail. -/
theorem lexicographic_eq_compareLex {cmp : Value → Value → Except Fault Ordering}
    {order : Value → Value → Ordering} {as bs : List Value}
    (compared : ∀ a ∈ as, ∀ b ∈ bs, cmp a b = .ok (order a b)) :
    lexicographic cmp as bs = .ok (List.compareLex order as bs) := by
  induction as generalizing bs with
  | nil => cases bs <;> rfl
  | cons a as ih =>
    cases bs with
    | nil => rfl
    | cons b bs =>
      have head : cmp a b = .ok (order a b) := compared a (by simp) b (by simp)
      have tail : lexicographic cmp as bs = .ok (List.compareLex order as bs) := by
        apply ih
        intro x left y right
        exact compared x (by simp [left]) y (by simp [right])
      rw [lexicographic, head, List.compareLex_cons_cons]
      cases order a b with
      | eq => exact tail
      | lt => rfl
      | gt => rfl

/-- An array meets any value but a block as an array. -/
theorem promote_of_array {a b : Value} (left : a.type ≠ .block) (right : b.type ≠ .block)
    (sequence : a.type = .array ∨ b.type = .array) :
    promote a b = .ok (.arrays a.items b.items) := by
  rcases sequence with array | array
  · cases a with
    | array =>
      cases b with
      | block => exact absurd rfl right
      | _ => rfl
    | _ => cases array
  · cases b with
    | array =>
      cases a with
      | block => exact absurd rfl left
      | _ => rfl
    | _ => cases array

theorem Family.Admits.type_ne_block {family : Family} {a : Value} (admitted : family.Admits a) :
    a.type ≠ .block := by
  cases admitted <;> exact ValueType.noConfusion

theorem Family.Admits.items {family : Family} {a : Value} (admitted : family.Admits a) :
    ∀ value ∈ a.items, family.Admits value := by
  intro value member
  cases admitted with
  | array each => exact each value member
  | character c =>
    rw [List.mem_singleton.1 member]
    exact .character c
  | integer n =>
    rw [List.mem_singleton.1 member]
    exact .integer n
  | string t =>
    obtain ⟨c, -, rfl⟩ := List.mem_map.1 member
    exact .character c

theorem depth_pos_of_array {a : Value} (array : a.type = .array) : 0 < a.depth := by
  cases a with
  | array =>
    rw [depth]
    omega
  | _ => cases array

theorem depth_le_depthAll {elements : List Value} {value : Value} (member : value ∈ elements) :
    value.depth ≤ depthAll elements := by
  induction elements with
  | nil => cases member
  | cons first rest ih =>
    rw [depthAll]
    rcases List.mem_cons.1 member with rfl | member
    · omega
    · have below := ih member
      omega

/-- The elements of a value are less deep, where there is any depth. -/
theorem depth_le_of_mem_items {a value : Value} {level : Nat} (shallow : a.depth ≤ level + 1)
    (member : value ∈ a.items) : value.depth ≤ level := by
  cases a with
  | array elements =>
    have below : value.depth ≤ depthAll elements := depth_le_depthAll member
    rw [depth] at shallow
    omega
  | string t =>
    obtain ⟨c, -, rfl⟩ := List.mem_map.1 member
    exact Nat.zero_le level
  | _ =>
    rw [List.mem_singleton.1 member]
    exact Nat.zero_le level

/-- Within a family, without an array, values compare at any level above the lowest. -/
theorem Family.Admits.compareWithin_of_flat {family : Family} {a b : Value}
    (left : family.Admits a) (right : family.Admits b) (flat : a.type ≠ .array)
    (flat' : b.type ≠ .array) (depth level : Nat) :
    compareWithin (depth + 1) a b = .ok (compareAt (level + 1) a b) := by
  cases left with
  | array => exact absurd rfl flat
  | character c =>
    cases right with
    | array => exact absurd rfl flat'
    | character d => rw [compareAt_characters]; rfl
    | integer n =>
      rw [compareAt_of_single rfl rfl, number, ← toInt_code]
      rfl
    | string t => exact congrArg Except.ok (compareLex_characters level [c] t).symm
  | integer m =>
    cases right with
    | array => exact absurd rfl flat'
    | character d =>
      rw [compareAt_of_single rfl rfl, number, number, ← toInt_code]
      rfl
    | integer n => rw [compareAt_of_single rfl rfl]; rfl
  | string s =>
    cases right with
    | array => exact absurd rfl flat'
    | character d => exact congrArg Except.ok (compareLex_characters level s [d]).symm
    | string t => exact congrArg Except.ok (compareLex_characters level s t).symm

/-- Within a family, values compare at any level that is not below their depths. -/
theorem Family.Admits.compareWithin_eq {family : Family} {a b : Value} (left : family.Admits a)
    (right : family.Admits b) {depth level : Nat} (enough : depth ≤ level)
    (shallow : a.depth ≤ depth) (shallow' : b.depth ≤ depth) :
    compareWithin (depth + 1) a b = .ok (compareAt (level + 1) a b) := by
  -- An array on either side goes one level down on both; only then does the depth matter.
  induction depth generalizing a b level with
  | zero =>
    apply left.compareWithin_of_flat right
    · intro array
      have deep := depth_pos_of_array array
      omega
    · intro array
      have deep := depth_pos_of_array array
      omega
  | succ depth ih =>
    by_cases sequence : a.type = .array ∨ b.type = .array
    · obtain ⟨level, rfl⟩ : ∃ below, level = below + 1 := ⟨level - 1, by omega⟩
      have promoted := promote_of_array left.type_ne_block right.type_ne_block sequence
      have elements : lexicographic (compareWithin (depth + 1)) a.items b.items =
          .ok (List.compareLex (compareAt (level + 1)) a.items b.items) := by
        apply lexicographic_eq_compareLex
        intro x inside y inside'
        apply ih (left.items x inside) (right.items y inside') (by omega)
        · exact depth_le_of_mem_items shallow inside
        · exact depth_le_of_mem_items shallow' inside'
      rw [compareWithin, promoted]
      exact elements
    · rw [not_or] at sequence
      exact left.compareWithin_of_flat right sequence.1 sequence.2 (depth + 1) level

/-- Within a family, values compare at every level that is not below their depths. -/
theorem Family.Admits.compare_eq {family : Family} {a b : Value} (left : family.Admits a)
    (right : family.Admits b) {level : Nat} (shallow : a.depth ≤ level)
    (shallow' : b.depth ≤ level) :
    Value.compare a b = .ok (compareAt (level + 1) a b) := by
  apply left.compareWithin_eq right
  · omega
  · omega
  · omega

/-- The order of values is a total preorder of each family: it never fails, one of two values is not
greater than the other, each is equal to itself, and a value that is not greater than one which is
not greater than a third is not greater than that one. -/
theorem compare_preorder {family : Family} {a b c : Value} (first : family.Admits a)
    (second : family.Admits b) (third : family.Admits c) :
    (∃ order, compare a b = .ok order ∧ compare b a = .ok order.swap) ∧
    compare a a = .ok .eq ∧
    (∀ order order', compare a b = .ok order → compare b c = .ok order' → order ≠ .gt →
      order' ≠ .gt → ∃ order'', compare a c = .ok order'' ∧ order'' ≠ .gt) := by
  obtain ⟨level, da, db, dc⟩ :
      ∃ level, a.depth ≤ level ∧ b.depth ≤ level ∧ c.depth ≤ level :=
    ⟨max a.depth (max b.depth c.depth), by omega, by omega, by omega⟩
  have ab := first.compare_eq second da db
  have ba := second.compare_eq first db da
  have aa := first.compare_eq first da da
  have bc := second.compare_eq third db dc
  have ac := first.compare_eq third da dc
  refine ⟨⟨_, ab, ?_⟩, ?_, ?_⟩
  · rw [ba]
    exact congrArg Except.ok Std.OrientedCmp.eq_swap
  · rw [aa]
    exact congrArg Except.ok Std.ReflCmp.compare_self
  · intro order order' found found' lower lower'
    rw [ab] at found
    rw [bc] at found'
    cases found
    cases found'
    refine ⟨_, ac, Ordering.isLE_iff_ne_gt.1 ?_⟩
    have below := Ordering.isLE_iff_ne_gt.2 lower
    have below' := Ordering.isLE_iff_ne_gt.2 lower'
    exact Std.TransCmp.isLE_trans below below'

/-- Three values of different depths: the code of the character, the array of that number, and an
array that begins with the array of the character. -/
theorem compare_preorder_nested :
    ∃ a b c : Value, Family.numbers.Admits a ∧ Family.numbers.Admits b ∧ Family.numbers.Admits c ∧
      compare a b = .ok .eq ∧ compare b c = .ok .lt ∧
      ∃ order, compare a c = .ok order ∧ order ≠ .gt := by
  let a : Value := .character 'A'
  let b : Value := .array [.integer 65]
  let c : Value := .array [.array [.character 'A'], .array []]
  have first : Family.numbers.Admits a := .character 'A'
  have second : Family.numbers.Admits b := .array (by simpa using .integer 65)
  have third : Family.numbers.Admits c := by
    have nested : Family.numbers.Admits (.array [a]) := .array (by simpa using first)
    have nothing : Family.numbers.Admits (.array []) := .array (by simp)
    exact .array (by simpa using ⟨nested, nothing⟩)
  have ab : compare a b = .ok .eq := rfl
  have bc : compare b c = .ok .lt := rfl
  have below := (compare_preorder first second third).2.2 _ _ ab bc nofun nofun
  exact ⟨a, b, c, first, second, third, ab, bc, below⟩

end Stackscript.Value
