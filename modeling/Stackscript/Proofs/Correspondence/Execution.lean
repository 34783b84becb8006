import Stackscript.Machine.Exec
import Stackscript.Proofs.Correspondence.Meaning
import Stackscript.Proofs.Token.Place

set_option autoImplicit false

/- Running tokens in step. A step opens and closes the brackets that the lexer counted, so no
bracket is missing at a step or at the end, and the engine with more fuel does what the other
does. -/
namespace Stackscript

/-- How the tokens of corresponding blocks correspond: they are of one kind, they make corresponding
blocks, and giving their places to corresponding failures leaves them so. -/
structure Reading (C : Correspondence) where
  tokens : Token → Token → Prop
  kind_eq : ∀ {a b : Token}, tokens a b → a.kind = b.kind
  block : ∀ {a b : Token} {body : Text}, tokens a b → a.kind = .block body →
    C.blocks.holds ⟨body, a.span.position.advance '{'⟩ ⟨body, b.span.position.advance '{'⟩
  locate : ∀ {a b : Token} {f g : Failure}, tokens a b → a.kind ≠ .endOfText → C.failures f g →
    C.failures (f.locate a.span.position) (g.locate b.span.position)
  code : ∀ {a b : Block}, C.blocks.holds a b →
    (∃ xs ys, a.code = .ok xs ∧ b.code = .ok ys ∧ List.Forall₂ tokens xs ys) ∨
    ∃ e e', a.code = .error e ∧ b.code = .error e' ∧ C.failures (.ofLexError e) (.ofLexError e')

/-- The end of the text does nothing. -/
theorem step_endOfText {engine : Engine} {aside : List Stack} {token : Token}
    (ends : token.kind = .endOfText) : step engine aside token = pure aside := by
  unfold step
  rw [ends]

/-- An opening bracket sets the live stack aside and begins an empty one. -/
theorem step_openBracket {engine : Engine} {token : Token} (opens : token.kind = .openBracket)
    (aside : List Stack) (m : Machine) :
    step engine aside token m = .done (m.stack :: aside) { m with stack := .empty } := by
  unfold step
  rw [opens]
  rfl

/-- A closing bracket puts the values of the live stack as an array on the one set aside last. -/
theorem step_closeBracket {engine : Engine} {token : Token} (closes : token.kind = .closeBracket)
    (outer : Stack) (aside : List Stack) (m : Machine) :
    step engine (outer :: aside) token m =
      .done aside { m with stack := outer.push (.array m.stack.toList) } := by
  unfold step
  rw [closes]
  rfl

/-- A step sets aside as many stacks as the lexer counts brackets. -/
theorem step_length {engine : Engine} {aside after : List Stack} {token : Token} {m n : Machine}
    (stepped : step engine aside token m = .done after n) :
    after.length = token.kind.depthAfter aside.length := by
  unfold step at stepped
  cases kind : token.kind with
  | «recall» letter =>
    simp only [kind, Run.bind_apply, Run.machine] at stepped
    cases found : m.valueOf? letter with
    | some value =>
      simp only [found, Run.bind_apply, Run.push, Run.pure_apply] at stepped
      cases stepped
      rfl
    | none =>
      simp only [found, Run.fail] at stepped
      cases stepped
  | assign letter =>
    simp only [kind, Run.bind_apply, Run.stack] at stepped
    cases top : m.stack.peek 0 with
    | ok value =>
      simp only [top, Run.ofExcept] at stepped
      cases stepped
      rfl
    | error fault =>
      simp only [top, Run.ofExcept] at stepped
      cases stepped
  | closeBracket =>
    cases aside with
    | nil =>
      simp only [kind, Run.fail] at stepped
      cases stepped
    | cons outer aside =>
      simp only [kind] at stepped
      cases stepped
      rfl
  | operator op =>
    simp only [kind, Run.bind_apply] at stepped
    cases applied : (op.meaning engine).apply m with
    | done _ after =>
      simp only [applied, Run.pure_apply] at stepped
      cases stepped
      rfl
    | _ =>
      simp only [applied] at stepped
      cases stepped
  | _ =>
    simp only [kind] at stepped
    cases stepped
    rfl

variable {C : Correspondence} {e e' : Engine} {aside aside' : List Stack}

/-- One step, when a closing bracket has one to close. -/
theorem step_related (reading : Reading C) (engines : Engine.Related C e e') {a b : Token}
    (same : reading.tokens a b) (asides : List.Forall₂ (Stack.Related C.blocks) aside aside')
    (opened : a.kind = .closeBracket → aside.length ≠ 0) :
    Run.Related C (List.Forall₂ (Stack.Related C.blocks)) (step e aside a) (step e' aside' b) := by
  unfold step
  rw [← reading.kind_eq same]
  cases kind : a.kind with
  | integer n => exact (Run.Related.push (.integer n)).bind fun _ _ _ => .pure asides
  | decimal d => exact (Run.Related.push (.decimal d)).bind fun _ _ _ => .pure asides
  | string t => exact (Run.Related.push (.string t)).bind fun _ _ _ => .pure asides
  | character c => exact (Run.Related.push (.character c)).bind fun _ _ _ => .pure asides
  | block source =>
    have blocks := reading.block same kind
    exact (Run.Related.push (.block blocks)).bind fun _ _ _ => .pure asides
  | «recall» letter =>
    refine Run.Related.machine.bind fun m n machines => ?_
    have found := machines.1.bindings letter
    generalize m.valueOf? letter = x, n.valueOf? letter = y at found
    cases found with
    | none => exact .fail nofun
    | some value => exact (Run.Related.push value).bind fun _ _ _ => .pure asides
  | assign letter =>
    refine Run.Related.stack.bind fun s t stacked => ?_
    refine (Run.Related.ofExcept (stacked.peek 0)).bind fun _ _ value => ?_
    exact fun _ _ machines => .done asides (machines.assign letter value)
  | openBracket =>
    refine Run.Related.stack.bind fun _ _ outer => ?_
    exact (Run.Related.setStack .nil).bind fun _ _ _ => .pure (.cons outer asides)
  | closeBracket =>
    cases asides with
    | nil => exact absurd rfl (opened kind)
    | cons outer asides =>
      refine Run.Related.stack.bind fun _ _ elements => ?_
      have closed := outer.push (.array elements.toList)
      exact (Run.Related.setStack closed).bind fun _ _ _ => .pure asides
  | operator op =>
    exact (op.meaning_related engines).apply.bind fun _ _ _ => .pure asides
  | endOfText => exact .pure asides

theorem recover_related (asides : List.Forall₂ (Stack.Related C.blocks) aside aside')
    {m n : Machine} (machines : C.machines m n) :
    C.machines (recover aside m) (recover aside' n) := by
  have last := getLast?_related asides
  unfold recover
  generalize aside.getLast? = x, aside'.getLast? = y at last
  cases last with
  | none => exact machines
  | some stacked => exact machines.setStack stacked

/-- Tokens with balanced brackets run in step. -/
theorem runTokens_related (reading : Reading C) (engines : Engine.Related C e e')
    {xs ys : List Token} (same : List.Forall₂ reading.tokens xs ys)
    (asides : List.Forall₂ (Stack.Related C.blocks) aside aside')
    (balanced : Balanced aside.length xs) :
    Run.Related C Eq (runTokens e xs aside) (runTokens e' ys aside') := by
  -- The stacks set aside are as many as the brackets the lexer counts as open, so a closing
  -- bracket always finds one and none is left at the end.
  induction same generalizing aside aside' with
  | nil =>
    cases asides with
    | nil => exact .pure rfl
    | cons => cases balanced
  | @cons a b _ _ token _ ih =>
    intro m n machines
    rw [runTokens_cons, runTokens_cons]
    have stepped := step_related reading engines token asides balanced.1 m n machines
    generalize taken : step e aside a m = o, step e' aside' b n = o' at stepped
    cases stepped with
    | done asides machines =>
      have count := step_length taken
      exact ih asides (count ▸ balanced.2) _ _ machines
    | failed failure machines =>
      have working : a.kind ≠ .endOfText := by
        intro ends
        rw [step_endOfText ends] at taken
        cases taken
      exact .failed (reading.locate token working failure) (recover_related asides machines)
    | outOfFuel => exact .outOfFuel _

/-- Engines run corresponding blocks in step, the second with at least as much fuel. -/
theorem engine_related (reading : Reading C) {fuel fuel' : Nat} (more : fuel ≤ fuel') :
    Engine.Related C (engine fuel) (engine fuel') := by
  induction fuel generalizing fuel' with
  | zero => exact ⟨fun _ => .outOfFuel, Nat.zero_le _⟩
  | succ fuel ih =>
    obtain ⟨fuel', rfl⟩ : ∃ less, fuel' = less + 1 := ⟨fuel' - 1, by omega⟩
    refine ⟨fun {a b} blocks => ?_, more⟩
    rcases reading.code blocks with ⟨xs, ys, first, second, same⟩ | ⟨_, _, first, second, failure⟩
    · rw [first, second]
      exact runTokens_related reading (ih (by omega)) same .nil (lexed_iff.1 first).balanced
    · rw [first, second]
      exact fun _ _ machines => .failed failure machines

end Stackscript
