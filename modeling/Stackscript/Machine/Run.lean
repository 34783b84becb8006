import Stackscript.Machine.Basic
import Stackscript.Value.Printer

set_option autoImplicit false

/- Computations on a machine. A run ends with a value, or with a failure, which keeps the machine as
it was left, or it stops because its fuel is used up. -/
namespace Stackscript

inductive Outcome (ε α : Type) where
  | done (value : α) (machine : Machine)
  | failed (error : ε) (machine : Machine)
  | outOfFuel

def Run (α : Type) : Type := Machine → Outcome Failure α

namespace Run

/-- Runs one computation after another; a failure ends both. -/
@[inline] def andThen {α β : Type} (run : Run α) (next : α → Run β) : Run β := fun m =>
  match run m with
  | .done value m => next value m
  | .failed failure m => .failed failure m
  | .outOfFuel => .outOfFuel

@[inline] instance : Monad Run where
  pure value := fun m => .done value m
  bind := andThen

@[simp] theorem pure_apply {α : Type} (value : α) (m : Machine) :
    (pure value : Run α) m = .done value m :=
  rfl

theorem bind_apply {α β : Type} (run : Run α) (next : α → Run β) (m : Machine) :
    (run >>= next) m =
      match run m with
      | .done value m => next value m
      | .failed failure m => .failed failure m
      | .outOfFuel => .outOfFuel :=
  rfl

theorem andThen_pure {α : Type} (run : Run α) : andThen run (fun value => pure value) = run := by
  funext m
  simp only [andThen]
  cases run m <;> rfl

theorem andThen_assoc {α β γ : Type} (run : Run α) (f : α → Run β) (g : β → Run γ) :
    andThen (andThen run f) g = andThen run fun value => andThen (f value) g := by
  funext m
  simp only [andThen]
  cases run m <;> rfl

instance : LawfulMonad Run :=
  LawfulMonad.mk' Run andThen_pure (fun _ _ => rfl) andThen_assoc

/-- Fails for a cause that no token has claimed yet. -/
def fail {α : Type} (fault : Fault) : Run α := fun m =>
  .failed (.ofFault fault) m

def outOfFuel {α : Type} : Run α := fun _ => .outOfFuel

/-- A result that does not need the machine. -/
def ofExcept {α : Type} : Except Fault α → Run α
  | .ok value => pure value
  | .error fault => fail fault

def machine : Run Machine := fun m => .done m m

def stack : Run Stack := fun m => .done m.stack m

def setStack (s : Stack) : Run Unit := fun m => .done () { m with stack := s }

def push (value : Value) : Run Unit := fun m =>
  .done () { m with stack := m.stack.push value }

def pop : Run Value := do
  let (value, rest) ← ofExcept (← stack).pop
  setStack rest
  return value

def require (depth : Nat) : Run Unit := do
  ofExcept ((← stack).require depth)

/-- Runs on another stack and gives what is left on it; the live stack is back in place afterwards,
also after a failure. -/
def onStack (s : Stack) (run : Run Unit) : Run Stack := fun m =>
  match run { m with stack := s } with
  | .done _ after => .done after.stack { after with stack := m.stack }
  | .failed failure after => .failed failure { after with stack := m.stack }
  | .outOfFuel => .outOfFuel

/-- Reads a line and puts it on the stack; at the end of the input it is empty. -/
def readLine : Run Unit := fun m =>
  let (line, input) := m.input.next
  match line with
  | .ok line => push (.string (line.getD [])) { m with input := input }
  | .error fault => fail fault { m with input := input }

/-- Reads all lines and puts them on the stack. -/
def readAll : Run Unit := fun m =>
  let (lines, input) := m.input.readAll
  match lines with
  | .ok t => push (.string t) { m with input := input }
  | .error fault => fail fault { m with input := input }

def flush : Run Unit := do
  ofExcept (← machine).output.flush

def write (t : Text) : Run Unit := fun m =>
  match m.output.write t with
  | .ok output => .done () { m with output := output }
  | .error fault => fail fault m

/-- Writes the plain text of the top of the stack, which stays. -/
def print : Run Unit := do
  match (← stack).top? with
  | none => fail (.underflow 1 0)
  | some value =>
    write value.render
    flush

def times (run : Run Unit) : Nat → Run Unit
  | 0 => return ()
  | n + 1 => do
    run
    times run n

/-- Runs as long as there is a top of the stack that counts as true; the fuel bounds the number of
rounds. -/
def whileTrue (run : Run Unit) : Nat → Run Unit
  | 0 => do
    if (← stack).top?.any Value.isTruthy then outOfFuel else return ()
  | fuel + 1 => do
    if (← stack).top?.any Value.isTruthy then
      run
      whileTrue run fuel
    else return ()

end Run

end Stackscript
