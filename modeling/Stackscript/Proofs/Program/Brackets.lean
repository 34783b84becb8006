import Stackscript.Proofs.Program.Inlining
import Stackscript.Proofs.Token.Spelling

set_option autoImplicit false

/- Text between brackets. Its tokens are those it has without them, and they run as they would on an
empty stack of their own: a stack that was set aside before is looked at again only when its bracket
closes, and it is the one that comes back when a token fails. -/
namespace Stackscript

/-- What brackets make of the outcome of the text between them: on the stack `s` that was live
before, they put the values that are left as an array, and a failure leaves that stack as it was. -/
def Outcome.enclosed {ε : Type} (s : Stack) : Outcome ε Unit → Outcome ε Unit
  | .done _ n => .done () { n with stack := s.push (.array n.stack.toList) }
  | .failed error n => .failed error { n with stack := s }
  | .outOfFuel => .outOfFuel

theorem Outcome.enclosed_eq_outOfFuel_iff {ε : Type} {s : Stack} {o : Outcome ε Unit} :
    o.enclosed s = .outOfFuel ↔ o = .outOfFuel := by
  cases o <;> simp [Outcome.enclosed]

theorem Outcome.ofTokens_enclosed (s : Stack) (o : Outcome Failure Unit) :
    (o.enclosed s).ofTokens = o.ofTokens.enclosed s := by
  cases o <;> rfl

theorem Run.map_apply {α β : Type} (f : α → β) (run : Run α) (m : Machine) :
    (f <$> run) m =
      match run m with
      | .done value n => .done (f value) n
      | .failed failure n => .failed failure n
      | .outOfFuel => .outOfFuel := by
  rw [map_eq_pure_bind, Run.bind_apply]
  rfl

/-- Stacks that were set aside before those that a token can reach stay where they are. -/
theorem step_append {engine : Engine} {aside : List Stack} {token : Token}
    (opened : token.kind = .closeBracket → aside ≠ []) (below : List Stack) :
    step engine (aside ++ below) token = (· ++ below) <$> step engine aside token := by
  unfold step
  cases kind : token.kind with
  | «recall» letter =>
    funext m
    simp only [map_bind]
    rw [Run.bind_apply, Run.bind_apply]
    simp only [Run.machine]
    cases m.valueOf? letter with
    | none => rfl
    | some value => rfl
  | assign letter =>
    funext m
    simp only [map_bind]
    rw [Run.bind_apply, Run.bind_apply]
    simp only [Run.stack]
    cases m.stack.peek 0 with
    | ok value => rfl
    | error fault => rfl
  | closeBracket =>
    cases aside with
    | nil => exact absurd rfl (opened kind)
    | cons outer aside => simp only [List.cons_append, map_bind, map_pure]
  | _ => simp only [map_bind, map_pure, List.cons_append]

theorem recover_append (aside : List Stack) (s : Stack) (m : Machine) :
    recover (aside ++ [s]) m = { m with stack := s } := by
  simp [recover]

theorem setStack_recover (aside : List Stack) (s : Stack) (m : Machine) :
    { recover aside m with stack := s } = { m with stack := s } := by
  unfold recover
  split <;> rfl

/-- Tokens with balanced brackets, before the bracket that closes the one for which `s` was set
aside. -/
theorem runTokens_enclosed {engine : Engine} {front : List Token} {aside : List Stack}
    (balanced : Balanced aside.length front) {closing last : Token}
    (closes : closing.kind = .closeBracket) (ends : last.kind = .endOfText) (s : Stack)
    (m : Machine) :
    runTokens engine (front ++ [closing, last]) (aside ++ [s]) m =
      (runTokens engine front aside m).enclosed s := by
  induction front generalizing aside m with
  | nil =>
    obtain rfl := List.length_eq_zero_iff.1 balanced
    rw [List.nil_append, List.nil_append, runTokens_cons, step_closeBracket closes]
    dsimp only
    rw [runTokens_cons, step_endOfText ends]
    rfl
  | cons token front ih =>
    have opened : token.kind = .closeBracket → aside ≠ [] := by
      intro close empty
      exact balanced.1 close (congrArg List.length empty)
    rw [List.cons_append, runTokens_cons, runTokens_cons, step_append opened]
    rw [Run.map_apply]
    cases stepped : step engine aside token m with
    | done after n =>
      have following := balanced.2
      rw [← step_length stepped] at following
      exact ih following n
    | failed failure n => simp only [Outcome.enclosed, recover_append, setStack_recover]
    | outOfFuel => rfl

section Literal

variable {c : Text} {inner : List Token}

/-- The tokens of a text between brackets. -/
theorem tokenize_bracketed (code : tokenizeAt (Position.start.advance '[') c = .ok inner) :
    ∃ opening front closing last,
      tokenize ('[' :: c ++ [']']) = .ok (opening :: (front ++ [closing, last])) ∧
      opening.kind = .openBracket ∧ closing.kind = .closeBracket ∧ last.kind = .endOfText ∧
      Balanced 0 front ∧ ∀ engine, runTokens engine front [] = runTokens engine inner [] := by
  let cursor := (Cursor.ofPosition .start).advance '['
  obtain ⟨moved, lexed, same⟩ := (lexed_iff.1 code).move cursor Apart.openBracket
  obtain ⟨front, split, append⟩ := lexed.tokenizeFrom_append
  have balanced : Balanced 0 front := by
    have closed := lexed.balanced
    rw [split] at closed
    exact closed.of_append_end rfl
  have tail : ∀ (cursor : Cursor) (previous : Option Char), ∃ closing last : Token,
      closing.kind = .closeBracket ∧ last.kind = .endOfText ∧
      tokenizeFrom cursor previous 1 [']'] = .ok [closing, last] := by
    intro cursor previous
    have closed : Lexed cursor previous 1 (']' :: ([] ++ [])) _ :=
      .lexeme (by decide) (by decide) (.closeBracket (by decide)) .finish
    exact ⟨_, _, rfl, rfl, closed.tokenizeFrom_eq⟩
  obtain ⟨closing, last, closes, ends, behind⟩ :=
    tail (cursor.advanceAll c) (c.getLast?.or (some '['))
  have inside : tokenizeFrom cursor (some '[') 1 (c ++ [']']) = .ok (front ++ [closing, last]) := by
    have joined := append [] 1 Seam.closeBracket
    rw [behind] at joined
    exact joined
  have whole : Lexed (.ofPosition .start) none 0 ('[' :: ([] ++ (c ++ [']']))) _ :=
    .lexeme (by decide) (by decide) .openBracket (lexed_iff.1 inside)
  refine ⟨_, front, closing, last, whole.tokenizeFrom_eq, rfl, closes, ends, balanced, ?_⟩
  intro engine
  rw [runTokens_congr (same.imp fun _ _ part => part.sameStep rfl), split]
  exact (runTokens_append_end rfl balanced).symm

/-- With the same fuel, a text between brackets does what it does on an empty stack. -/
theorem runProgram_bracketed {xs : List Token} (lexed : tokenize c = .ok xs) {m : Machine}
    (sound : m.output.flushError = none) (fuel : Nat) :
    runProgram fuel ('[' :: c ++ [']']) m =
      (runProgram fuel (' ' :: c ++ [' ']) { m with stack := .empty }).enclosed m.stack := by
  obtain ⟨inner, code, -⟩ := tokenizeAt_move lexed (Position.start.advance '[')
  have blank : ∀ c ∈ [' '], Text.isBlank c = true := List.all_eq_true.1 (by decide)
  obtain ⟨tokens, spaced, same⟩ := tokenize_spaced (List.cons_ne_nil _ _) blank code
  obtain ⟨opening, front, closing, last, bracketed, opens, closes, ends, balanced, congruent⟩ :=
    tokenize_bracketed code
  have closed : Balanced ([] : List Stack).length front := balanced
  have run : runTokens (engine fuel) (opening :: (front ++ [closing, last])) [] m =
      (runTokens (engine fuel) inner [] { m with stack := .empty }).enclosed m.stack := by
    rw [runTokens_cons, step_openBracket opens, ← congruent]
    exact runTokens_enclosed closed closes ends m.stack _
  have outer : runFlushed fuel (opening :: (front ++ [closing, last])) m =
      runTokens (engine fuel) (opening :: (front ++ [closing, last])) [] m :=
    runFlushed_eq (lexed_iff.1 bracketed).balanced sound
  have alone : runFlushed fuel inner { m with stack := .empty } =
      runTokens (engine fuel) inner [] { m with stack := .empty } :=
    runFlushed_eq (lexed_iff.1 code).balanced sound
  rw [runProgram_of_tokens bracketed, runProgram_of_tokens spaced, same, outer, alone, run,
    Outcome.ofTokens_enclosed]

end Literal

/-- A text between brackets terminates exactly if it does so alone on an empty stack. What it leaves
there is put as one array on the stack that was live before, and a failure, which is the same one,
leaves that stack as it was; the rest of the machine is the same in both cases. -/
theorem bracketed_ends_iff {c : Text} {xs : List Token} (lexed : tokenize c = .ok xs) {m : Machine}
    (sound : m.output.flushError = none) (o : Outcome ProgramError Unit) :
    Ends ('[' :: c ++ [']']) m o ↔
      ∃ o', Ends (' ' :: c ++ [' ']) { m with stack := .empty } o' ∧ o = o'.enclosed m.stack := by
  constructor
  · rintro ⟨followed, fuel, rfl⟩
    have run := runProgram_bracketed lexed sound fuel
    rw [run] at followed ⊢
    refine ⟨_, ⟨?_, fuel, rfl⟩, rfl⟩
    intro stopped
    exact followed (Outcome.enclosed_eq_outOfFuel_iff.2 stopped)
  · rintro ⟨o', ⟨followed, fuel, rfl⟩, rfl⟩
    refine ⟨?_, fuel, runProgram_bracketed lexed sound fuel⟩
    intro stopped
    exact followed (Outcome.enclosed_eq_outOfFuel_iff.1 stopped)

/-- A text that assigns a variable and fails inside a bracket of its own: the stack from before the
outermost bracket is back, and the assignment stays. -/
theorem bracketed_ends_iff_failing :
    ∃ m : Machine, m.stack = .ofList [.integer 7, .character 'x'] ∧
      Ends "[-1:P[;+]]".toList m
        (.failed (.runtime ⟨.underflow 2 0, ⟨1, 8⟩⟩) (m.assign 15 (.integer (-1)))) := by
  let m : Machine :=
    { Machine.initial .empty {} with stack := .ofList [.integer 7, .character 'x'] }
  have alone : Ends " -1:P[;+] ".toList { m with stack := .empty }
      (.failed (.runtime ⟨.underflow 2 0, ⟨1, 8⟩⟩)
        { m.assign 15 (.integer (-1)) with stack := .ofList [.integer (-1)] }) :=
    .of_failed 1 (by cbv)
  have lexed : ∃ xs, tokenize "-1:P[;+]".toList = .ok xs := ⟨_, by cbv⟩
  obtain ⟨xs, lexed⟩ := lexed
  exact ⟨m, rfl, (bracketed_ends_iff lexed rfl _).2 ⟨_, alone, rfl⟩⟩

end Stackscript
