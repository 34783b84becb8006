import Stackscript.Diagnostic
import Stackscript.Machine.Exec

set_option autoImplicit false

/- Running whole programs on a machine. The stack and the variables stay for the next program. -/
namespace Stackscript

inductive ProgramError where
  | lexical (error : LexError)
  | runtime (failure : Failure)

def ProgramError.diagnostic : ProgramError → Diagnostic
  | .lexical error => .ofLexError error
  | .runtime failure => .ofFailure failure

/-- Runs a program: all of its tokens, and then the output is flushed. -/
def runProgram (fuel : Nat) (source : Text) (m : Machine) : Outcome ProgramError Unit :=
  match tokenize source with
  | .error error => .failed (.lexical error) m
  | .ok tokens =>
    match (runTokens (engine fuel) tokens []).andThen (fun _ => Run.flush) m with
    | .done _ m => .done () m
    | .failed failure m => .failed (.runtime failure) m
    | .outOfFuel => .outOfFuel

/-- Fuel that no program uses up in practice. -/
def ampleFuel : Nat := 0x4000000000000000

namespace Stack

/-- The plain texts of the values, from the bottom up. -/
def render (s : Stack) : Text := Value.renderAll s.toList

/-- The stack as an array for inspection. -/
def inspect (s : Stack) : Text := Value.inspect (.array s.toList)

end Stack

/-- What a program writes to the output on some input, followed by the stack it leaves. -/
def evaluate (fuel : Nat) (source input : Text) : Outcome ProgramError Text :=
  match runProgram fuel source (.initial (.ofText input) {}) with
  | .done _ m => .done (m.output.text ++ m.stack.render) m
  | .failed error m => .failed error m
  | .outOfFuel => .outOfFuel

end Stackscript
