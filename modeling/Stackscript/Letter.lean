import Stackscript.Text.Basic

set_option autoImplicit false

/- Variables are named by the letters A to Z. -/
namespace Stackscript

/-- A letter by its place in the alphabet. -/
abbrev Letter := Fin 26

namespace Letter

def ofChar? (c : Char) : Option Letter :=
  if h : 'A'.toNat ≤ c.toNat ∧ c.toNat - 'A'.toNat < 26 then some ⟨c.toNat - 'A'.toNat, h.2⟩
  else none

def toChar (letter : Letter) : Char :=
  Char.ofNat ('A'.toNat + letter.val)

theorem ofChar?_toChar (letter : Letter) : ofChar? (toChar letter) = some letter := by
  revert letter
  decide

end Letter

end Stackscript
