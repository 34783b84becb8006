set_option autoImplicit false

/- Search for a pattern in a list, and the pieces of a list between occurrences of a pattern. -/
namespace Stackscript.Sequence

variable {α : Type} [BEq α]

/-- The least index at which the pattern stands in the list. -/
def indexOf? (pattern : List α) : List α → Option Nat
  | [] => if pattern.isEmpty then some 0 else none
  | x :: xs =>
    if pattern.isPrefixOf (x :: xs) then some 0
    else (indexOf? pattern xs).map (· + 1)

/-- Pieces between occurrences of the pattern `p :: ps`, found from left to right without overlap.
Nothing follows an occurrence at the very end, and an empty list is one empty piece. -/
def pieces (p : α) (ps : List α) : List α → List (List α)
  | [] => [[]]
  | x :: xs =>
    match indexOf? (p :: ps) (x :: xs) with
    | none => [x :: xs]
    | some i =>
      let rest := xs.drop (i + ps.length)
      (x :: xs).take i :: if rest.isEmpty then [] else pieces p ps (xs.drop (i + ps.length))
termination_by xs => xs.length
decreasing_by simp only [List.length_cons, List.length_drop]; omega

end Stackscript.Sequence
