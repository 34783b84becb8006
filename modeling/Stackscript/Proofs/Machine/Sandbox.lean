import Mathlib
import Stackscript.Proofs.Program.Ends

set_option autoImplicit false

/- Blocks that a sequence runs on its elements see nothing of the live stack. What the machine works
out for a sequence and a block neither depends on the values below them nor changes them: whatever
the block does, its result is put on those values, and a failure leaves them alone. -/
namespace Stackscript

/-- Outcomes that are the same up to the live stack, which is `s` in the second. -/
inductive Outcome.Moved (s : Stack) {α β : Type} (R : α → β → Prop) :
    Outcome Failure α → Outcome Failure β → Prop where
  | done {a : α} {b : β} (value : R a b) (n : Machine) :
    Moved s R (.done a n) (.done b { n with stack := s })
  | failed (failure : Failure) (n : Machine) :
    Moved s R (.failed failure n) (.failed failure { n with stack := s })
  | outOfFuel : Moved s R .outOfFuel .outOfFuel

namespace Run

section Aloof

variable {α β γ δ : Type}

/-- Runs that end alike on any two live stacks, the second of which is left as it was. -/
def Moved (R : α → β → Prop) (run : Run α) (run' : Run β) : Prop :=
  ∀ m s, Outcome.Moved s R (run m) (run' { m with stack := s })

theorem Moved.pure {R : α → β → Prop} {a : α} {b : β} (value : R a b) :
    Moved R (Pure.pure a) (Pure.pure b) :=
  fun m _ => .done value m

theorem Moved.bind {R : α → β → Prop} {S : γ → δ → Prop} {run : Run α} {run' : Run β}
    {next : α → Run γ} {next' : β → Run δ} (first : Moved R run run')
    (rest : ∀ a b, R a b → Moved S (next a) (next' b)) :
    Moved S (run >>= next) (run' >>= next') := by
  intro m s
  rw [bind_apply, bind_apply]
  have ended := first m s
  generalize run m = o, run' { m with stack := s } = o' at ended
  cases ended with
  | done value n => exact rest _ _ value n s
  | failed failure n => exact .failed failure n
  | outOfFuel => exact .outOfFuel

def moving : Lifting Run where
  rel := Moved
  pure := Moved.pure
  bind := Moved.bind

/-- A run that neither looks at the live stack nor changes it. -/
def Aloof (run : Run α) : Prop :=
  Moved Eq run run

theorem Aloof.pure (value : α) : Aloof (Pure.pure value) :=
  Moved.pure rfl

theorem Aloof.bind {run : Run α} {next : α → Run β} (first : Aloof run)
    (rest : ∀ value, Aloof (next value)) : Aloof (run >>= next) :=
  moving.bindSame first rest

theorem Aloof.map {run : Run α} (aloof : Aloof run) (f : α → β) : Aloof (f <$> run) :=
  aloof.bind fun value => .pure (f value)

theorem Aloof.ofExcept (result : Except Fault α) : Aloof (Run.ofExcept result) := by
  intro m s
  cases result with
  | ok value => exact .done rfl m
  | error fault => exact .failed (.ofFault fault) m

/-- Whatever is run on a stack of its own, the live stack has no part in it. -/
theorem Aloof.onStack (s : Stack) (run : Run Unit) : Aloof (Run.onStack s run) := by
  intro m t
  unfold Run.onStack
  cases run { m with stack := s } with
  | done _ after => exact .done rfl { after with stack := m.stack }
  | failed failure after => exact .failed failure { after with stack := m.stack }
  | outOfFuel => exact .outOfFuel

end Aloof

end Run

namespace Engine

variable (engine : Engine) (code : Code)

theorem valueOn_aloof (s : Stack) : (engine.valueOn code s).Aloof := by
  apply (Run.Aloof.onStack s _).bind
  intro left
  exact (Run.Aloof.ofExcept left.pop).map Prod.fst

theorem map_aloof (items : List Value) : (engine.map code items).Aloof := by
  induction items with
  | nil => exact .pure []
  | cons item items ih =>
    apply (Run.Aloof.onStack (.ofList [item]) _).bind
    intro produced
    exact ih.map (produced.toList ++ ·)

theorem filter_aloof (items : List Value) : (engine.filter code items).Aloof := by
  induction items with
  | nil => exact .pure []
  | cons item items ih =>
    apply (engine.valueOn_aloof code (.ofList [item])).bind
    intro verdict
    exact ih.map fun kept => if verdict.isTruthy then item :: kept else kept

theorem foldFrom_aloof (items : List Value) (s : Stack) :
    (engine.foldFrom code s items).Aloof := by
  induction items generalizing s with
  | nil => exact .pure s
  | cons item items ih => exact (Run.Aloof.onStack (s.push item) _).bind fun left => ih left

theorem fold_aloof (items : List Value) : (engine.fold code items).Aloof := by
  cases items with
  | nil => exact .ofExcept (.error (.underflow 1 0))
  | cons seed items =>
    apply (engine.foldFrom_aloof code items (.ofList [seed])).bind
    intro left
    exact (Run.Aloof.ofExcept left.pop).map Prod.fst

theorem sortBy_aloof (items : List Value) : (engine.sortBy code items).Aloof := by
  have sorted : Run.Moved (List.Forall₂ Eq) (engine.sortBy code items)
      (engine.sortBy code items) := by
    refine Sequence.mergeSort_related (L := Run.moving) ?_ (forall₂_eq_self items)
    rintro left _ right _ rfl rfl
    exact (engine.valueOn_aloof code (.ofList [left, right])).map Value.isTruthy
  rwa [List.forall₂_eq_eq_eq] at sorted

end Engine

/-- What is left on the values `base` below the operands: the result on top of them, or they alone
after a failure. -/
def Outcome.leaving (base : Stack) : Outcome Failure Value → Outcome Failure Unit
  | .done value n => .done () { n with stack := base.push value }
  | .failed failure n => .failed failure { n with stack := base }
  | .outOfFuel => .outOfFuel

theorem Outcome.leaving_eq_outOfFuel_iff {base : Stack} {o : Outcome Failure Value} :
    o.leaving base = .outOfFuel ↔ o = .outOfFuel := by
  cases o <;> simp [Outcome.leaving]

/-- A failure above some values is the same above any others. -/
theorem Outcome.leaving_of_failed {base : Stack} {o : Outcome Failure Value} {failure : Failure}
    {n : Machine} (h : o.leaving base = .failed failure n) (other : Stack) :
    o.leaving other = .failed failure { n with stack := other } := by
  cases o with
  | failed raised left =>
    cases h
    rfl
  | _ => cases h

/-- The result of an aloof run, put on a live stack on which it has not been run. -/
theorem Run.Aloof.push_apply {work : Run Value} (aloof : work.Aloof) (m : Machine)
    (base : Stack) : (work >>= Run.push) { m with stack := base } = (work m).leaving base := by
  have ended := aloof m base
  rw [Run.bind_apply]
  generalize work m = o, work { m with stack := base } = o' at ended
  cases ended with
  | done value n =>
    rw [value]
    rfl
  | failed failure n => rfl
  | outOfFuel => rfl

namespace Operator

/-- The operators that run a block on the elements of a sequence. -/
def combinators : List Operator := [.remainder, .count, .multiply, .sort]

/-- A combinator takes the block and the sequence off the stack; all it does after that with the
elements, before it pushes the result, is aloof. -/
theorem apply_combinator {op : Operator} (known : op ∈ combinators) {q : Value}
    (sequence : q.isSequence = true) (engine : Engine) (b : Block) :
    ∃ work : List Value → Run Value, (∀ items, (work items).Aloof) ∧
      ∀ (m : Machine) (base : Stack),
        (op.meaning engine).apply { m with stack := (base.push q).push (.block b) } =
          (Run.ofExcept q.toArray >>= fun items => work items >>= Run.push)
            { m with stack := base } := by
  simp only [combinators, List.mem_cons, List.not_mem_nil, or_false] at known
  rcases known with rfl | rfl | rfl | rfl
  · refine ⟨fun items => .array <$> engine.map b.code items, ?_, ?_⟩
    · intro items
      exact (engine.map_aloof b.code items).map _
    · intro m base
      simp only [bind_map_left]
      cases q with
      | string t => rfl
      | array elements => rfl
      | _ => cases sequence
  · refine ⟨fun items => (Sequence.restore · (Sequence.isText q)) <$> engine.filter b.code items,
      ?_, ?_⟩
    · intro items
      exact (engine.filter_aloof b.code items).map _
    · intro m base
      simp only [bind_map_left]
      rfl
  · refine ⟨engine.fold b.code, engine.fold_aloof b.code, ?_⟩
    intro m base
    cases q with
    | string t => rfl
    | array elements => rfl
    | _ => cases sequence
  · refine ⟨fun items => (Sequence.restore · (Sequence.isText q)) <$> engine.sortBy b.code items,
      ?_, ?_⟩
    · intro items
      exact (engine.sortBy_aloof b.code items).map _
    · intro m base
      simp only [bind_map_left]
      rfl

/-- With any engine, a combinator does the same above all values below its operands. -/
theorem apply_leaving {op : Operator} (known : op ∈ combinators) {q : Value}
    (sequence : q.isSequence = true) (engine : Engine) (b : Block) (m : Machine) :
    ∃ o : Outcome Failure Value, ∀ base : Stack,
      (op.meaning engine).apply { m with stack := (base.push q).push (.block b) } =
        o.leaving base := by
  obtain ⟨work, aloof, applied⟩ := apply_combinator known sequence engine b
  have whole : (Run.ofExcept q.toArray >>= work).Aloof := (Run.Aloof.ofExcept _).bind aloof
  refine ⟨(Run.ofExcept q.toArray >>= work) m, fun base => ?_⟩
  rw [applied, ← bind_assoc, whole.push_apply]

/-- More fuel does not change how an operator ends. -/
theorem apply_mono {fuel fuel' : Nat} (more : fuel ≤ fuel') (op : Operator) {m : Machine}
    (enough : (op.meaning (engine fuel)).apply m ≠ .outOfFuel) :
    (op.meaning (engine fuel')).apply m = (op.meaning (engine fuel)).apply m := by
  have engines := engine_related (.equality m.output.flushError) more
  have ended := (op.meaning_related engines).apply m m ⟨.refl (fun _ => rfl) m, rfl⟩
  exact ended.eq_of_ended enough

/-- An operator terminates with the given outcome: it does so for some amount of fuel. -/
def Ends (op : Operator) (m : Machine) (o : Outcome Failure Unit) : Prop :=
  o ≠ .outOfFuel ∧ ∃ fuel, (op.meaning (engine fuel)).apply m = o

theorem Ends.of_failed {op : Operator} {m n : Machine} {failure : Failure} (fuel : Nat)
    (run : (op.meaning (engine fuel)).apply m = .failed failure n) :
    op.Ends m (.failed failure n) :=
  ⟨nofun, fuel, run⟩

theorem Ends.unique {op : Operator} {m : Machine} {o o' : Outcome Failure Unit}
    (first : op.Ends m o) (second : op.Ends m o') : o = o' := by
  obtain ⟨followed, fuel, rfl⟩ := first
  obtain ⟨followed', fuel', rfl⟩ := second
  rcases Nat.le_total fuel fuel' with more | more
  · exact (apply_mono more op followed).symm
  · exact apply_mono more op followed'

/-- Combinators are sandboxed. With the sequence `q` and a block on top, how one terminates, if it
does, with which result or failure and which variables and streams, is settled without the values
`base` below them; a result is put on `base`, and a failure leaves exactly `base`. -/
theorem combinator_ends_iff {op : Operator} (known : op ∈ combinators) {q : Value}
    (sequence : q.isSequence = true) (b : Block) (m : Machine) :
    ∃ o : Outcome Failure Value, ∀ (base : Stack) (o' : Outcome Failure Unit),
      op.Ends { m with stack := (base.push q).push (.block b) } o' ↔
        o' ≠ .outOfFuel ∧ o' = o.leaving base := by
  have applied (fuel : Nat) := apply_leaving known sequence (engine fuel) b m
  choose outcome applied using applied
  by_cases terminates : ∃ fuel, outcome fuel ≠ .outOfFuel
  · obtain ⟨fuel, followed⟩ := terminates
    refine ⟨outcome fuel, fun base o' => ⟨?_, ?_⟩⟩
    · intro ends
      have first : op.Ends { m with stack := (base.push q).push (.block b) }
          ((outcome fuel).leaving base) :=
        ⟨mt Outcome.leaving_eq_outOfFuel_iff.1 followed, fuel, applied fuel base⟩
      exact ⟨ends.1, ends.unique first⟩
    · rintro ⟨followed, rfl⟩
      exact ⟨followed, fuel, applied fuel base⟩
  · refine ⟨.outOfFuel, fun base o' => ⟨?_, ?_⟩⟩
    · rintro ⟨followed, fuel, rfl⟩
      rw [applied fuel base] at followed
      exact absurd ⟨fuel, mt Outcome.leaving_eq_outOfFuel_iff.2 followed⟩ terminates
    · rintro ⟨followed, rfl⟩
      exact absurd rfl followed

/-- Filtering by a block that assigns a variable, erases more than it was given and fails for the
second element: the failure and the assignment are the same above any values, and these are left as
they were. -/
theorem combinator_ends_iff_erasing :
    count ∈ combinators ∧ (Value.array [.integer 1, .integer 2]).isSequence = true ∧
      ∀ base : Stack,
        count.Ends
          { Machine.initial .empty {} with
            stack := (base.push (.array [.integer 1, .integer 2])).push
              (.block ⟨":P;;6P2-/".toList, ⟨1, 1⟩⟩) }
          (.failed ⟨.zeroDivisor, ⟨1, 9⟩⟩
            { (Machine.initial .empty {}).assign 15 (.integer 2) with stack := base }) := by
  have known : count ∈ combinators := by decide
  have sequence : (Value.array [.integer 1, .integer 2]).isSequence = true := rfl
  obtain ⟨o, sandboxed⟩ := combinator_ends_iff known sequence ⟨":P;;6P2-/".toList, ⟨1, 1⟩⟩
    (Machine.initial .empty {})
  -- One run, above nothing, tells what the outcome is above any values.
  have alone : count.Ends
      { Machine.initial .empty {} with
        stack := (Stack.empty.push (.array [.integer 1, .integer 2])).push
          (.block ⟨":P;;6P2-/".toList, ⟨1, 1⟩⟩) }
      (.failed ⟨.zeroDivisor, ⟨1, 9⟩⟩ ((Machine.initial .empty {}).assign 15 (.integer 2))) :=
    .of_failed 1 (by cbv)
  have outcome := ((sandboxed .empty _).1 alone).2
  refine ⟨known, sequence, fun base => (sandboxed base _).2 ⟨by simp, ?_⟩⟩
  exact (Outcome.leaving_of_failed outcome.symm base).symm

end Operator

end Stackscript
