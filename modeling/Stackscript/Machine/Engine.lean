import Stackscript.Machine.Run
import Stackscript.Sequence.Sort

set_option autoImplicit false

/- Running blocks, and what sequences do with them. Elements are handed to a block on stacks of
their own, so that it sees nothing of the live stack. -/
namespace Stackscript

/-- The tokens of a block, or why it has none. -/
abbrev Code := Except LexError (List Token)

/-- How blocks are run: `run` runs the code of one on the live stack, and `rounds` bounds the rounds
of a loop. -/
structure Engine where
  run : Code → Run Unit
  rounds : Nat

namespace Engine

/-- Runs code on the given stack and gives what is left on it. -/
def runOn (engine : Engine) (code : Code) (s : Stack) : Run Stack :=
  Run.onStack s (engine.run code)

/-- Runs code on the given stack and gives the top of what is left on it. -/
def valueOn (engine : Engine) (code : Code) (s : Stack) : Run Value := do
  let (value, _) ← Run.ofExcept (← engine.runOn code s).pop
  return value

/-- Runs code on each element alone; everything it leaves is kept. -/
def map (engine : Engine) (code : Code) : List Value → Run (List Value)
  | [] => return []
  | item :: items => do
    let produced ← engine.runOn code (.ofList [item])
    return produced.toList ++ (← map engine code items)

/-- Keeps the elements for which code, run on the element alone, leaves a top that counts as
true. -/
def filter (engine : Engine) (code : Code) : List Value → Run (List Value)
  | [] => return []
  | item :: items => do
    let verdict ← engine.valueOn code (.ofList [item])
    let kept ← filter engine code items
    return if verdict.isTruthy then item :: kept else kept

/-- Runs code after pushing each element on what the run before it left. -/
def foldFrom (engine : Engine) (code : Code) (s : Stack) : List Value → Run Stack
  | [] => return s
  | item :: items => do
    let s ← engine.runOn code (s.push item)
    foldFrom engine code s items

/-- Folds from the first element on and gives the top of what is left. -/
def fold (engine : Engine) (code : Code) : List Value → Run Value
  | [] => Run.fail (.underflow 1 0)
  | seed :: items => do
    let s ← engine.foldFrom code (.ofList [seed]) items
    let (value, _) ← Run.ofExcept s.pop
    return value

/-- Sorts by code that is run on two elements and tells whether the first goes before the other. -/
def sortBy (engine : Engine) (code : Code) (items : List Value) : Run (List Value) :=
  Sequence.mergeSort
    (fun left right => do
      return (← engine.valueOn code (.ofList [left, right])).isTruthy)
    items

end Engine

end Stackscript
