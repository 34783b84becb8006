import Stackscript.Machine.Run
import Stackscript.Proofs.Correspondence.Sequence

set_option autoImplicit false

/- Runs that correspond. From machines in step they end in step, with corresponding values or with
corresponding failures; only the first of the two may stop for lack of fuel before that. Related to
itself in this way, a run keeps an invariant, and related to a run with more fuel it says that fuel
does not change how a run ends. -/
namespace Stackscript

def Stack.Related (B : Pairing) (s t : Stack) : Prop :=
  List.Forall₂ (Value.Related B) s.values t.values

/-- Machines that differ in blocks only. -/
structure Machine.Related (B : Pairing) (m n : Machine) : Prop where
  stack : m.stack.Related B n.stack
  bindings : ∀ letter, Option.Rel (Value.Related B) (m.valueOf? letter) (n.valueOf? letter)
  input : m.input = n.input
  output : m.output = n.output

/-- What runs keep: how blocks and failures correspond, and what a broken output answers when it is
flushed. A fault that is not one of syntax corresponds to itself. -/
structure Correspondence where
  blocks : Pairing
  failures : Failure → Failure → Prop
  flushError : Option String
  of_fault : ∀ {fault : Fault}, fault.kind ≠ .syntaxError →
    failures (.ofFault fault) (.ofFault fault)

def Correspondence.machines (C : Correspondence) (m n : Machine) : Prop :=
  m.Related C.blocks n ∧ m.output.flushError = C.flushError

/-- Outcomes in step; no fuel corresponds to any outcome. -/
inductive Outcome.Related (C : Correspondence) {α β : Type} (R : α → β → Prop) :
    Outcome Failure α → Outcome Failure β → Prop where
  | done {a : α} {b : β} {m n : Machine} (value : R a b) (machines : C.machines m n) :
    Related C R (.done a m) (.done b n)
  | failed {f g : Failure} {m n : Machine} (failure : C.failures f g) (machines : C.machines m n) :
    Related C R (.failed f m) (.failed g n)
  | outOfFuel (other : Outcome Failure β) : Related C R .outOfFuel other

/-- Runs that end in step from machines in step. -/
def Run.Related (C : Correspondence) {α β : Type} (R : α → β → Prop) (run : Run α) (run' : Run β) :
    Prop :=
  ∀ m n, C.machines m n → Outcome.Related C R (run m) (run' n)

section Stacks

variable {B : Pairing} {s t : Stack}

theorem Stack.Related.push (h : s.Related B t) {a b : Value} (value : Value.Related B a b) :
    (s.push a).Related B (t.push b) :=
  .cons value h

theorem Stack.Related.ofList {xs ys : List Value} (h : List.Forall₂ (Value.Related B) xs ys) :
    (Stack.ofList xs).Related B (Stack.ofList ys) :=
  List.rel_reverse h

theorem Stack.Related.toList (h : s.Related B t) :
    List.Forall₂ (Value.Related B) s.toList t.toList :=
  List.rel_reverse h

theorem Stack.Related.pop (h : s.Related B t) :
    Agree (fun p q => Value.Related B p.1 q.1 ∧ Stack.Related B p.2 q.2) s.pop t.pop := by
  obtain ⟨xs⟩ := s
  obtain ⟨ys⟩ := t
  cases h with
  | nil => exact .error nofun
  | cons head tail => exact .ok ⟨head, tail⟩

theorem Stack.Related.top? (h : s.Related B t) : Option.Rel (Value.Related B) s.top? t.top? := by
  obtain ⟨xs⟩ := s
  obtain ⟨ys⟩ := t
  cases h with
  | nil => exact .none
  | cons head _ => exact .some head

theorem Stack.Related.peek (h : s.Related B t) (n : Nat) :
    Agree (Value.Related B) (s.peek n) (t.peek n) := by
  have found := getElem?_related h n
  unfold Stack.peek Stack.size
  rw [h.length_eq]
  generalize s.values[n]? = x, t.values[n]? = y at found
  cases found with
  | none => exact .error nofun
  | some value => exact .ok value

theorem Stack.Related.require (h : s.Related B t) (depth : Nat) :
    Agree Eq (s.require depth) (t.require depth) := by
  have semantic : ∀ needed held, (Fault.underflow needed held).kind ≠ .syntaxError := by
    intro needed held
    simp [Fault.kind]
  rw [Stack.require_eq, Stack.require_eq, Stack.size, Stack.size, h.length_eq]
  split
  · exact .error (semantic _ _)
  · exact .ok rfl

theorem Stack.Related.split (h : s.Related B t) (n : Nat) :
    Agree (fun p q => Stack.Related B p.1 q.1 ∧ Stack.Related B p.2 q.2) (s.split n)
      (t.split n) := by
  refine (h.require n).bind fun _ _ _ => ?_
  exact .ok ⟨List.forall₂_drop n h, List.forall₂_take n h⟩

theorem Stack.Related.rotateTop (h : s.Related B t) (n : Nat) :
    Agree (Stack.Related B) (s.rotateTop n) (t.rotateTop n) := by
  refine (h.split n).bind ?_
  rintro ⟨lower, ⟨group⟩⟩ ⟨lower', ⟨group'⟩⟩ ⟨below, above⟩
  cases above with
  | nil => exact .ok below
  | cons head tail => exact .ok (List.rel_append tail (.cons head below))

theorem Stack.Related.duplicate (h : s.Related B t) :
    Agree (Stack.Related B) s.duplicate t.duplicate :=
  (h.peek 0).bind fun _ _ value => .ok (h.push value)

theorem Stack.Related.eraseTop (h : s.Related B t) : s.eraseTop.Related B t.eraseTop := by
  obtain ⟨xs⟩ := s
  obtain ⟨ys⟩ := t
  cases h with
  | nil => exact .nil
  | cons _ tail => exact tail

theorem Stack.Related.merge (h : s.Related B t) {upper upper' : Stack}
    (above : upper.Related B upper') : (s.merge upper).Related B (t.merge upper') :=
  List.rel_append above h

end Stacks

theorem Correspondence.machines.setStack {C : Correspondence} {m n : Machine}
    (h : C.machines m n) {s t : Stack} (stacked : s.Related C.blocks t) :
    C.machines { m with stack := s } { n with stack := t } :=
  ⟨⟨stacked, h.1.bindings, h.1.input, h.1.output⟩, h.2⟩

theorem Correspondence.machines.setInput {C : Correspondence} {m n : Machine}
    (h : C.machines m n) (input : Input) :
    C.machines { m with input := input } { n with input := input } :=
  ⟨⟨h.1.stack, h.1.bindings, rfl, h.1.output⟩, h.2⟩

theorem Correspondence.machines.assign {C : Correspondence} {m n : Machine} (h : C.machines m n)
    (letter : Letter) {a b : Value} (value : Value.Related C.blocks a b) :
    C.machines (m.assign letter a) (n.assign letter b) := by
  refine ⟨⟨h.1.stack, fun other => ?_, h.1.input, h.1.output⟩, h.2⟩
  have before := h.1.bindings other
  simp only [Machine.valueOf?, Machine.assign, Fin.getElem_fin, Vector.getElem_set] at before ⊢
  split
  · exact .some value
  · exact before

section Reading

variable {fault : Fault}

theorem Input.invalid_semantic : Input.invalid.kind ≠ .syntaxError := nofun

theorem Input.next_eq_error {input : Input} (h : input.next.1 = .error fault) :
    fault = invalid := by
  obtain ⟨_ | ⟨_ | line, rest⟩⟩ := input
  · cases h
  · cases h
    rfl
  · cases h

theorem Input.untilSentinel_eq_error {lines : List (Option Text)}
    (h : (untilSentinel lines).1 = .error fault) : fault = invalid := by
  fun_induction untilSentinel lines with
  | case1 => cases h
  | case2 =>
    cases h
    rfl
  | case3 => cases h
  | case4 line rest _ result _ read ih =>
    rw [read] at ih
    cases result with
    | ok => cases h
    | error => exact ih h

theorem Input.readAll_eq_error {input : Input} (h : input.readAll.1 = .error fault) :
    fault = invalid := by
  unfold readAll at h
  cases read : (untilSentinel input.lines).1 with
  | ok => simp [read, Except.map] at h
  | error cause =>
    simp only [read, Except.map, Except.error.injEq] at h
    exact h ▸ untilSentinel_eq_error read

end Reading

theorem Output.flushError_write {output output' : Output} {t : Text}
    (h : output.write t = .ok output') : output'.flushError = output.flushError := by
  unfold Output.write at h
  split at h
  · cases h
    rfl
  · split at h
    · cases h
    · cases h
      rfl

theorem Output.write_eq_error {output : Output} {t : Text} {fault : Fault}
    (h : output.write t = .error fault) : fault.kind ≠ .syntaxError := by
  unfold Output.write at h
  split at h
  · cases h
  · split at h
    · cases h
      exact nofun
    · cases h

namespace Run

variable {C : Correspondence} {α β γ δ : Type} {R : α → β → Prop} {S : γ → δ → Prop}

theorem Related.pure {a : α} {b : β} (value : R a b) :
    Related C R (Pure.pure a) (Pure.pure b) :=
  fun _ _ machines => .done value machines

theorem Related.bind {run : Run α} {run' : Run β} {next : α → Run γ} {next' : β → Run δ}
    (first : Related C R run run') (rest : ∀ a b, R a b → Related C S (next a) (next' b)) :
    Related C S (run >>= next) (run' >>= next') := by
  intro m n machines
  rw [bind_apply, bind_apply]
  have ended := first m n machines
  generalize run m = o, run' n = o' at ended
  cases ended with
  | done value machines => exact rest _ _ value _ _ machines
  | failed failure machines => exact .failed failure machines
  | outOfFuel => exact .outOfFuel _

def lifting (C : Correspondence) : Lifting Run where
  rel := Related C
  pure := Related.pure
  bind := Related.bind

theorem Related.outOfFuel {run' : Run β} : Related C R (Run.outOfFuel : Run α) run' :=
  fun _ _ _ => .outOfFuel _

theorem Related.fail {fault : Fault} (semantic : fault.kind ≠ .syntaxError) :
    Related C R (Run.fail fault : Run α) (Run.fail fault) :=
  fun _ _ machines => .failed (C.of_fault semantic) machines

theorem Related.ofExcept {x : Except Fault α} {y : Except Fault β} (agree : Agree R x y) :
    Related C R (Run.ofExcept x) (Run.ofExcept y) := by
  cases agree with
  | ok value => exact .pure value
  | error semantic => exact .fail semantic

theorem Related.machine : Related C C.machines Run.machine Run.machine :=
  fun _ _ machines => .done machines machines

theorem Related.stack : Related C (Stack.Related C.blocks) Run.stack Run.stack :=
  fun _ _ machines => .done machines.1.stack machines

theorem Related.setStack {s t : Stack} (stacked : s.Related C.blocks t) :
    Related C Eq (Run.setStack s) (Run.setStack t) :=
  fun _ _ machines => .done rfl (machines.setStack stacked)

theorem Related.push {a b : Value} (value : Value.Related C.blocks a b) :
    Related C Eq (Run.push a) (Run.push b) :=
  fun _ _ machines => .done rfl (machines.setStack (machines.1.stack.push value))

theorem Related.pop : Related C (Value.Related C.blocks) Run.pop Run.pop := by
  refine Related.stack.bind fun s t stacked => ?_
  refine (Related.ofExcept stacked.pop).bind ?_
  rintro ⟨a, rest⟩ ⟨b, rest'⟩ ⟨value, below⟩
  exact (Related.setStack below).bind fun _ _ _ => .pure value

theorem Related.require (depth : Nat) : Related C Eq (Run.require depth) (Run.require depth) :=
  Related.stack.bind fun _ _ stacked => .ofExcept (stacked.require depth)

theorem Related.onStack {s t : Stack} (stacked : s.Related C.blocks t) {run run' : Run Unit}
    (inside : Related C Eq run run') :
    Related C (Stack.Related C.blocks) (Run.onStack s run) (Run.onStack t run') := by
  intro m n machines
  unfold Run.onStack
  have ended := inside _ _ (machines.setStack stacked)
  generalize run { m with stack := s } = o, run' { n with stack := t } = o' at ended
  cases ended with
  | done _ after => exact .done after.1.stack (after.setStack machines.1.stack)
  | failed failure after => exact .failed failure (after.setStack machines.1.stack)
  | outOfFuel => exact .outOfFuel _

theorem Related.readLine : Related C Eq Run.readLine Run.readLine := by
  intro m n machines
  unfold Run.readLine
  rw [machines.1.input]
  rcases read : n.input.next with ⟨line, input⟩
  have after := machines.setInput input
  cases line with
  | ok line => exact Related.push (.string _) _ _ after
  | error fault =>
    have cause : fault = Input.invalid := Input.next_eq_error (congrArg Prod.fst read)
    subst cause
    exact Related.fail Input.invalid_semantic _ _ after

theorem Related.readAll : Related C Eq Run.readAll Run.readAll := by
  intro m n machines
  unfold Run.readAll
  rw [machines.1.input]
  rcases read : n.input.readAll with ⟨lines, input⟩
  have after := machines.setInput input
  cases lines with
  | ok t => exact Related.push (.string _) _ _ after
  | error fault =>
    have cause : fault = Input.invalid := Input.readAll_eq_error (congrArg Prod.fst read)
    subst cause
    exact Related.fail Input.invalid_semantic _ _ after

theorem Related.flush : Related C Eq Run.flush Run.flush := by
  refine Related.machine.bind fun m n machines => Related.ofExcept ?_
  rw [machines.1.output]
  unfold Output.flush
  split
  · exact .error nofun
  · exact .ok rfl

theorem Related.write (t : Text) : Related C Eq (Run.write t) (Run.write t) := by
  intro m n machines
  unfold Run.write
  rw [← machines.1.output]
  cases written : m.output.write t with
  | ok output =>
    have kept := (Output.flushError_write written).trans machines.2
    exact .done rfl ⟨⟨machines.1.stack, machines.1.bindings, machines.1.input, rfl⟩, kept⟩
  | error fault => exact Related.fail (Output.write_eq_error written) _ _ machines

theorem Related.print : Related C Eq Run.print Run.print := by
  refine Related.stack.bind fun s t stacked => ?_
  have top := stacked.top?
  generalize s.top? = x, t.top? = y at top
  cases top with
  | none => exact .fail nofun
  | some value =>
    dsimp only
    rw [value.render_eq]
    exact (Related.write _).bind fun _ _ _ => .flush

theorem Related.times {run run' : Run Unit} (round : Related C Eq run run') (n : Nat) :
    Related C Eq (Run.times run n) (Run.times run' n) := by
  induction n with
  | zero => exact .pure rfl
  | succ n ih => exact round.bind fun _ _ _ => ih

theorem any_isTruthy_eq {B : Pairing} {x y : Option Value} (h : Option.Rel (Value.Related B) x y) :
    x.any Value.isTruthy = y.any Value.isTruthy := by
  cases h with
  | none => rfl
  | some value => exact value.isTruthy_eq

/-- More rounds than are used change nothing. -/
theorem Related.whileTrue {run run' : Run Unit} (round : Related C Eq run run')
    {rounds rounds' : Nat} (more : rounds ≤ rounds') :
    Related C Eq (Run.whileTrue run rounds) (Run.whileTrue run' rounds') := by
  induction rounds generalizing rounds' with
  | zero =>
    cases rounds'
    all_goals
      refine Related.stack.bind fun s t stacked => ?_
      rw [any_isTruthy_eq stacked.top?]
      split
      · exact .outOfFuel
      · exact .pure rfl
  | succ rounds ih =>
    cases rounds' with
    | zero => omega
    | succ rounds' =>
      refine Related.stack.bind fun s t stacked => ?_
      rw [any_isTruthy_eq stacked.top?]
      split
      · exact round.bind fun _ _ _ => ih (by omega)
      · exact .pure rfl

end Run

end Stackscript
