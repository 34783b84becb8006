import Stackscript.Machine.Input
import Stackscript.Machine.Output
import Stackscript.Stack

set_option autoImplicit false

/- The state of a running program. -/
namespace Stackscript

abbrev Bindings := Vector (Option Value) 26

namespace Bindings

/-- The variables a program starts with: A to F are ten to fifteen, X to Z are zero to two, N is a
line feed and S a space. -/
def initial : Bindings :=
  Vector.ofFn fun letter =>
    let c := Letter.toChar letter
    if c = 'N' then some (.character '\n')
    else if c = 'S' then some (.character ' ')
    else if c ≤ 'F' then some (.integer (Int64.ofNat (10 + letter.val)))
    else if 'X' ≤ c then some (.integer (Int64.ofNat (letter.val - 23)))
    else none

end Bindings

structure Machine where
  stack : Stack
  bindings : Bindings
  input : Input
  output : Output

namespace Machine

/-- The machine before the first program. -/
def initial (input : Input) (output : Output) : Machine :=
  ⟨.empty, .initial, input, output⟩

def valueOf? (m : Machine) (letter : Letter) : Option Value :=
  m.bindings[letter]

def assign (m : Machine) (letter : Letter) (value : Value) : Machine :=
  { m with bindings := m.bindings.set letter (some value) }

end Machine

end Stackscript
