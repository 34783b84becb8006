import Stackscript.Machine.Meaning

set_option autoImplicit false

/- Running tokens. An opening bracket sets the live stack aside and the closing one makes an array
of what was pushed since. A failure is given the place of the innermost token that raised it, and
the stack that was live before the first open bracket comes back. -/
namespace Stackscript

/-- Runs one token; the stacks that open brackets have set aside are kept from the last one on. -/
def step (engine : Engine) (aside : List Stack) (token : Token) : Run (List Stack) :=
  match token.kind with
  | .integer n => do
    Run.push (.integer n)
    return aside
  | .decimal d => do
    Run.push (.decimal d)
    return aside
  | .string t => do
    Run.push (.string t)
    return aside
  | .character c => do
    Run.push (.character c)
    return aside
  | .block source => do
    Run.push (.block ⟨source, token.span.position.advance '{'⟩)
    return aside
  | .recall letter => do
    match (← Run.machine).valueOf? letter with
    | some value =>
      Run.push value
      return aside
    | none => Run.fail (.undefinedVariable letter)
  | .assign letter => do
    let value ← Run.ofExcept ((← Run.stack).peek 0)
    fun m => .done aside (m.assign letter value)
  | .openBracket => do
    let outer ← Run.stack
    Run.setStack .empty
    return outer :: aside
  | .closeBracket =>
    match aside with
    | [] => Run.fail .unmatchedBracket
    | outer :: aside => do
      let elements ← Run.stack
      Run.setStack (outer.push (.array elements.toList))
      return aside
  | .operator op => do
    (op.meaning engine).apply
    return aside
  | .endOfText => return aside

/-- The live stack after a failure: the one that the first open bracket has set aside, if any. -/
def recover (aside : List Stack) (m : Machine) : Machine :=
  match aside.getLast? with
  | some s => { m with stack := s }
  | none => m

def runTokens (engine : Engine) : (tokens : List Token) → (aside : List Stack) → Run Unit
  | [], aside => if aside.isEmpty then return () else Run.fail .unclosedBracket
  | token :: tokens, aside => fun m =>
    match step engine aside token m with
    | .done aside m => runTokens engine tokens aside m
    | .failed failure m => .failed (failure.locate token.span.position) (recover aside m)
    | .outOfFuel => .outOfFuel

theorem runTokens_cons (engine : Engine) (token : Token) (tokens : List Token)
    (aside : List Stack) (m : Machine) :
    runTokens engine (token :: tokens) aside m =
      match step engine aside token m with
      | .done aside m => runTokens engine tokens aside m
      | .failed failure m => .failed (failure.locate token.span.position) (recover aside m)
      | .outOfFuel => .outOfFuel :=
  rfl

/-- The engine with the given fuel, which bounds how deeply blocks are run inside one another and
how often a loop goes round. -/
def engine : (fuel : Nat) → Engine
  | 0 => { run := fun _ => Run.outOfFuel, rounds := 0 }
  | fuel + 1 =>
    { run := fun code =>
        match code with
        | .ok tokens => runTokens (engine fuel) tokens []
        | .error error => fun m => .failed (.ofLexError error) m
      rounds := fuel + 1 }

end Stackscript
