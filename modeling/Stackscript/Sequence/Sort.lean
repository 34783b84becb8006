set_option autoImplicit false

/- Stable merge sort for a strict comparison that may have effects. The comparison is asked both
ways round before an element of the right half is taken, so that ties keep their order. -/
namespace Stackscript.Sequence

variable {m : Type → Type} [Monad m] {α : Type}

/-- Whether the left of two elements goes first: it is less, or the right one is not less. -/
def leftFirst (less : α → α → m Bool) (left right : α) : m Bool := do
  if ← less left right then return true
  else return !(← less right left)

/-- Merges two runs, asking about their first elements until one run is used up. -/
def mergeRuns (less : α → α → m Bool) : List α → List α → m (List α)
  | [], right => return right
  | left, [] => return left
  | x :: xs, y :: ys => do
    if ← leftFirst less x y then return x :: (← mergeRuns less xs (y :: ys))
    else return y :: (← mergeRuns less (x :: xs) ys)
termination_by left right => left.length + right.length

/-- Sorts both halves, the left one first and no shorter than the right one, and merges them. -/
def mergeSort (less : α → α → m Bool) (items : List α) : m (List α) :=
  if _h : items.length < 2 then return items
  else do
    let half := items.length - items.length / 2
    let left ← mergeSort less (items.take half)
    let right ← mergeSort less (items.drop half)
    mergeRuns less left right
termination_by items.length
decreasing_by
  · simp only [List.length_take]; omega
  · simp only [List.length_drop]; omega

end Stackscript.Sequence
