import Stackscript.Proofs.Sequence.Comparator

set_option autoImplicit false

/- Folding and mapping by a block of one operator. Each run of the block takes all there is on its
stack and leaves one value, so that nothing piles up between the elements: what the machine works
out is the left fold, or the list of results, of the function that the operator stands for. -/
namespace Stackscript

theorem Run.settled_foldlM {α β : Type} (p : Position) (f : β → α → Except Fault β) (b : β)
    (items : List α) :
    items.foldlM (fun b a => settled p (f b a)) b = settled p (items.foldlM f b) := by
  induction items generalizing b with
  | nil => rfl
  | cons a items ih =>
    rw [List.foldlM_cons, List.foldlM_cons, settled_bind]
    congr 1
    funext next
    exact ih next

theorem Run.settled_mapM {α β : Type} (p : Position) (f : α → Except Fault β) (items : List α) :
    items.mapM (fun a => settled p (f a)) = settled p (items.mapM f) := by
  induction items with
  | nil => rfl
  | cons a items ih =>
    rw [List.mapM_cons, List.mapM_cons, settled_bind, ih]
    congr 1
    funext b
    rw [settled_bind]
    rfl

namespace Engine

/-- If a block, run on two values, leaves one that `f` gives, it folds as `f` does. -/
theorem foldFrom_eq_foldlM {engine : Engine} {code : Code} {f : Value → Value → Run Value}
    (single : ∀ a b, engine.runOn code (.ofList [a, b]) = (fun value => .ofList [value]) <$> f a b)
    (x : Value) (xs : List Value) :
    engine.foldFrom code (.ofList [x]) xs = (fun value => .ofList [value]) <$> xs.foldlM f x := by
  induction xs generalizing x with
  | nil => rfl
  | cons y ys ih =>
    change (engine.runOn code (.ofList [x, y]) >>= fun s => engine.foldFrom code s ys) = _
    rw [single, bind_map_left, List.foldlM_cons, map_bind]
    congr 1
    funext next
    exact ih next

theorem fold_eq_foldlM {engine : Engine} {code : Code} {f : Value → Value → Run Value}
    (single : ∀ a b, engine.runOn code (.ofList [a, b]) = (fun value => .ofList [value]) <$> f a b)
    (x : Value) (xs : List Value) : engine.fold code (x :: xs) = xs.foldlM f x := by
  rw [fold, foldFrom_eq_foldlM single, bind_map_left]
  exact bind_pure _

/-- If a block, run on one value, leaves one that `f` gives, it maps as `f` does. -/
theorem map_eq_mapM {engine : Engine} {code : Code} {f : Value → Run Value}
    (single : ∀ a, engine.runOn code (.ofList [a]) = (fun value => .ofList [value]) <$> f a)
    (xs : List Value) : engine.map code xs = xs.mapM f := by
  induction xs with
  | nil => rfl
  | cons x xs ih =>
    rw [map, single, bind_map_left, List.mapM_cons, ih]
    rfl

section Symbol

variable {op : Operator} {fuel : Nat}

theorem fold_symbol {f : Value → Value → Except Fault Value}
    (meaning : op.meaning (engine fuel) = .binary f) (p : Position) (x : Value) (xs : List Value) :
    (engine (fuel + 1)).fold (Block.code ⟨op.symbol, p⟩) (x :: xs) =
      Run.settled p (xs.foldlM f x) := by
  rw [← Run.settled_foldlM]
  refine fold_eq_foldlM (fun a b => ?_) x xs
  rw [runOn_binary meaning, Run.settled_map]

theorem map_symbol {f : Value → Except Fault Value}
    (meaning : op.meaning (engine fuel) = .unary f) (p : Position) (xs : List Value) :
    (engine (fuel + 1)).map (Block.code ⟨op.symbol, p⟩) xs = Run.settled p (xs.mapM f) := by
  rw [← Run.settled_mapM]
  refine map_eq_mapM (fun a => ?_) xs
  rw [runOn_unary meaning, Run.settled_map]

end Symbol

end Engine

theorem Run.Aloof.settled {α : Type} (p : Position) (result : Except Fault α) :
    (Run.settled p result).Aloof := by
  intro m s
  cases result with
  | ok value => exact .done rfl m
  | error fault => exact .failed ⟨fault, p⟩ m

namespace Operator

/-- An operator that puts a settled result on the stack has terminated. -/
theorem Ends.of_settled {op : Operator} {p : Position} {base : Stack} {m n : Machine}
    {result : Except Fault Value} (fuel : Nat)
    (run : (op.meaning (engine fuel)).apply n =
      (Run.settled p result >>= Run.push) { m with stack := base }) :
    op.Ends n ((Run.settled p result m).leaving base) := by
  rw [(Run.Aloof.settled p result).push_apply] at run
  refine ⟨?_, fuel, run⟩
  cases result <;> exact nofun

/-- Folding and mapping by a block of one operator. If the operator computes a function of two
values, folding an array that is not empty puts the left fold of the function on the values below,
and if it computes a function of one value, mapping an array puts the array of all results there.
Where the function fails for the first time, the whole fails for that cause, and only the values
below are left. Nothing else changes. -/
theorem singleton_block_ends (op : Operator) (p : Position) (base : Stack) (m : Machine) :
    (∀ f, (∀ engine, op.meaning engine = .binary f) → ∀ x xs,
      multiply.Ends
        { m with stack := (base.push (.array (x :: xs))).push (.block ⟨op.symbol, p⟩) }
        ((Run.settled p (xs.foldlM f x) m).leaving base)) ∧
    (∀ f, (∀ engine, op.meaning engine = .unary f) → ∀ xs,
      remainder.Ends
        { m with stack := (base.push (.array xs)).push (.block ⟨op.symbol, p⟩) }
        ((Run.settled p (.array <$> xs.mapM f) m).leaving base)) := by
  constructor
  · intro f meaning x xs
    refine .of_settled 1 ?_
    rw [← Engine.fold_symbol (meaning _)]
    rfl
  · intro f meaning xs
    refine .of_settled 1 ?_
    rw [Run.settled_map, ← Engine.map_symbol (meaning _), bind_map_left]
    rfl

/-- Dividing in turn by three and by zero stops at the zero, and the value below stays. Texts and a
character are read as integers in their order, and there is none to an array. -/
theorem singleton_block_ends_division :
    let m := Machine.initial .empty {}
    (∀ engine, divide.meaning engine = .binary Arithmetic.divide) ∧
      (∀ engine, toInteger.meaning engine = .unary fun a => .integer <$> a.toInteger) ∧
      multiply.Ends
        { m with stack := .ofList [.integer 7,
          .array [.integer 60, .integer 3, .integer 0, .integer 2], .block ⟨['/'], ⟨1, 9⟩⟩] }
        (.failed ⟨.zeroDivisor, ⟨1, 9⟩⟩ { m with stack := .ofList [.integer 7] }) ∧
      remainder.Ends
        { m with stack := .ofList [.integer 7,
          .array [.string ['4', '2'], .character 'a', .string ['-', '1']],
          .block ⟨['i'], ⟨1, 9⟩⟩] }
        (.done () { m with stack := .ofList [.integer 7,
          .array [.integer 42, .integer 97, .integer (-1)]] }) ∧
      remainder.Ends
        { m with stack := .ofList [.integer 7, .array [.character 'a', .array [], .string []],
          .block ⟨['i'], ⟨1, 9⟩⟩] }
        (.failed ⟨.arrayConversion .integer, ⟨1, 9⟩⟩ { m with stack := .ofList [.integer 7] }) := by
  intro m
  have divides : ∀ engine, divide.meaning engine = .binary Arithmetic.divide := fun _ => rfl
  have reads : ∀ engine, toInteger.meaning engine = .unary fun a => .integer <$> a.toInteger :=
    fun _ => rfl
  have folds := (singleton_block_ends divide ⟨1, 9⟩ (.ofList [.integer 7]) m).1 _ divides
  have maps := (singleton_block_ends toInteger ⟨1, 9⟩ (.ofList [.integer 7]) m).2 _ reads
  exact ⟨divides, reads, folds (.integer 60) [.integer 3, .integer 0, .integer 2],
    maps [.string ['4', '2'], .character 'a', .string ['-', '1']],
    maps [.character 'a', .array [], .string []]⟩

end Operator

end Stackscript
