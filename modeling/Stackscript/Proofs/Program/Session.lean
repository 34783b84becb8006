import Mathlib
import Stackscript.Proofs.Program.Invariant

set_option autoImplicit false

/- Programs run one after another on one machine. The lexer reads the bodies of blocks for their
errors and counts brackets, so no block that is on the stack, in a variable, set aside or in an
array can fail to have tokens, and no bracket can be missing when tokens are run. -/
namespace Stackscript

/-- The machines of a session: the fresh one, and the one that a program leaves, however it ends. -/
inductive Reachable (input : Input) (output : Output) : Machine → Prop where
  | fresh : Reachable input output (.initial input output)
  | done {source : Text} {m n : Machine} (before : Reachable input output m)
    (ends : Ends source m (.done () n)) : Reachable input output n
  | failed {source : Text} {error : ProgramError} {m n : Machine}
    (before : Reachable input output m) (ends : Ends source m (.failed error n)) :
    Reachable input output n

def Invariant.lexed : Invariant where
  blocks b := ∃ tokens, b.code = .ok tokens
  tokens token := ∀ body, token.kind = .block body →
    ∃ inner, tokenizeAt (token.span.position.advance '{') body = .ok inner
  places _ := True
  code := by
    rintro b ⟨tokens, code⟩
    exact ⟨tokens, code, fun token member => ((lexed_iff.1 code).parts token member).body⟩
  block := by
    rintro token body had kind
    exact had body kind
  place := fun _ _ => trivial

theorem Ends.lexed {source : Text} {m : Machine} {o : Outcome ProgramError Unit}
    (ends : Ends source m o) (held : Invariant.lexed.Holds m) : Invariant.lexed.Leaves o :=
  ends.leaves held fun _ code token member => ((lexed_iff.1 code).parts token member).body

theorem Reachable.lexed {input : Input} {output : Output} {m : Machine}
    (reached : Reachable input output m) : Invariant.lexed.Holds m := by
  induction reached with
  | fresh => exact Invariant.holds_initial input output
  | done _ ends ih => exact ends.lexed ih
  | @failed _ error _ _ _ ends ih =>
    have left := ends.lexed ih
    cases error with
    | lexical => exact left
    | runtime => exact left.2

/-- No program of a session fails for its syntax once it has tokens: no bracket is missing, and no
block is without tokens. -/
theorem runtime_failure_semantic {input : Input} {output : Output} {source : Text} {m n : Machine}
    {failure : Failure} (reached : Reachable input output m)
    (ends : Ends source m (.failed (.runtime failure) n)) :
    failure.fault.kind ≠ .syntaxError :=
  (ends.lexed reached.lexed).1.1

/-- A block that fails inside its brackets, and fails again from a variable in the next program. -/
theorem runtime_failure_semantic_of_stored_block :
    ∃ (m n : Machine) (failure : Failure), Reachable .empty {} m ∧
      Ends "[P]~~".toList m (.failed (.runtime failure) n) ∧
      failure.fault.kind ≠ .syntaxError := by
  let stored : Machine := (Machine.initial .empty {}).assign 15 (.block ⟨"1[+]".toList, ⟨1, 2⟩⟩)
  let m : Machine := { stored with stack := .ofList [.integer 1] }
  let n : Machine := { stored with stack := .ofList [.integer 1, .integer 1] }
  have first : Ends "{1[+]}:P~".toList (.initial .empty {})
      (.failed (.runtime ⟨.underflow 2 0, ⟨1, 4⟩⟩) m) :=
    .of_failed 3 (by cbv)
  have second : Ends "[P]~~".toList m (.failed (.runtime ⟨.underflow 2 0, ⟨1, 4⟩⟩) n) :=
    .of_failed 3 (by cbv)
  have reached := Reachable.failed .fresh first
  exact ⟨m, n, _, reached, second, runtime_failure_semantic reached second⟩

end Stackscript
