import Stackscript.Proofs.Machine.Rotation
import Stackscript.Proofs.Machine.Sandbox

set_option autoImplicit false

/- Values below those that a run has to do with. An operator checks that the values it reads are
there before it reads them, so what it did on a stack it does with more values below as well, and
leaves those where they are. Two operators are no part of this: an empty stack does not stop
dropping the top, and it ends a loop, so that both notice values below. -/
namespace Stackscript

/-- The machine with more values below its live stack. -/
def Machine.onto (m : Machine) (base : Stack) : Machine :=
  { m with stack := base.merge m.stack }

namespace Stack

theorem merge_assoc (s t u : Stack) : (s.merge t).merge u = s.merge (t.merge u) := by
  simp only [merge, List.append_assoc]

variable {s t : Stack}

theorem require_eq_ok_iff {depth : Nat} : s.require depth = .ok () ↔ depth ≤ s.size := by
  rw [require_eq]
  by_cases shallow : s.size < depth
  · simp only [if_pos shallow, reduceCtorEq, false_iff]
    omega
  · simp only [if_neg shallow, true_iff]
    omega

theorem require_merge {depth : Nat} (enough : s.require depth = .ok ()) (base : Stack) :
    (base.merge s).require depth = .ok () := by
  rw [require_eq_ok_iff] at enough ⊢
  simp only [size, merge, List.length_append] at enough ⊢
  omega

theorem peek_merge {distance : Nat} {value : Value} (found : s.peek distance = .ok value)
    (base : Stack) : (base.merge s).peek distance = .ok value := by
  unfold peek at found ⊢
  cases read : s.values[distance]? with
  | none =>
    rw [read] at found
    cases found
  | some seen =>
    have inside : distance < s.values.length := (List.getElem?_eq_some_iff.1 read).1
    rw [merge, List.getElem?_append_left inside]
    rw [read] at found ⊢
    exact found

theorem rotateTop_merge {n : Nat} (turned : s.rotateTop n = .ok t) (base : Stack) :
    (base.merge s).rotateTop n = .ok (base.merge t) := by
  have enough : n ≤ s.size := by
    refine Nat.not_lt.1 fun shallow => ?_
    rw [rotateTop_of_shallow shallow] at turned
    cases turned
  obtain ⟨group, lower, rfl, rfl⟩ := exists_append enough
  rw [rotateTop_append] at turned
  cases turned
  simp only [merge, List.append_assoc]
  exact rotateTop_append group (lower ++ base.values)

theorem duplicate_merge (doubled : s.duplicate = .ok t) (base : Stack) :
    (base.merge s).duplicate = .ok (base.merge t) := by
  obtain ⟨top, found, rest⟩ := bind_eq_ok.1 doubled
  cases rest
  exact bind_eq_ok.2 ⟨top, peek_merge found base, rfl⟩

end Stack

theorem Outcome.Moved.of_done {α β : Type} {s : Stack} {R : α → β → Prop} {a : α} {n : Machine}
    {o : Outcome Failure β} (moved : Outcome.Moved s R (.done a n) o) :
    ∃ b, R a b ∧ o = .done b { n with stack := s } := by
  cases moved with | done value _ => exact ⟨_, value, rfl⟩

namespace Run

section Framed

variable {α β : Type} {m : Machine}

theorem bind_eq_done {run : Run α} {next : α → Run β} {b : β} {n : Machine} :
    (run >>= next) m = .done b n ↔ ∃ a k, run m = .done a k ∧ next a k = .done b n := by
  rw [bind_apply]
  cases run m <;> simp

/-- If a run succeeds on a machine, it does the same with any values below, which stay there. -/
def FramedAt (run : Run α) (m : Machine) : Prop :=
  ∀ value n, run m = .done value n → ∀ base, run (m.onto base) = .done value (n.onto base)

theorem FramedAt.pure (value : α) : FramedAt (Pure.pure value) m := by
  intro _ n ended base
  cases ended
  rfl

theorem FramedAt.fail (fault : Fault) : FramedAt (Run.fail fault : Run α) m := by
  intro _ n ended
  cases ended

theorem FramedAt.bind {run : Run α} {next : α → Run β} (first : FramedAt run m)
    (rest : ∀ a n, run m = .done a n → FramedAt (next a) n) : FramedAt (run >>= next) m := by
  intro b k ended base
  obtain ⟨a, n, begun, finished⟩ := bind_eq_done.1 ended
  exact bind_eq_done.2 ⟨a, n.onto base, first a n begun base, rest a n begun b k finished base⟩

/-- What has no part in the live stack leaves all of it where it is. -/
theorem Aloof.framedAt {run : Run α} (aloof : run.Aloof) : FramedAt run m := by
  intro value n ended base
  have here : Outcome.Moved m.stack Eq (run m) (run m) := aloof m m.stack
  have there : Outcome.Moved (base.merge m.stack) Eq (run m) (run (m.onto base)) :=
    aloof m (base.merge m.stack)
  rw [ended] at here there
  obtain ⟨_, rfl, same⟩ := here.of_done
  obtain ⟨_, rfl, moved⟩ := there.of_done
  have kept : n.stack = m.stack := by rw [(Outcome.done.inj same).2]
  rw [moved, Machine.onto, kept]

theorem FramedAt.ofExcept (result : Except Fault α) : FramedAt (Run.ofExcept result) m :=
  (Aloof.ofExcept result).framedAt

theorem FramedAt.push (value : Value) : FramedAt (Run.push value) m := by
  intro _ n ended base
  cases ended
  rfl

theorem FramedAt.pushResult (result : Except Fault Value) :
    FramedAt (Run.ofExcept result >>= Run.push) m :=
  (FramedAt.ofExcept result).bind fun value _ _ => .push value

theorem FramedAt.pop : FramedAt Run.pop m := by
  obtain ⟨⟨values⟩, bindings, input, output⟩ := m
  intro value n ended base
  cases values with
  | nil => cases ended
  | cons top values =>
    cases ended
    rfl

/-- Looking at the machine, when more values below do not change what comes next. -/
theorem FramedAt.machine {next : Machine → Run α} (same : ∀ base, next (m.onto base) = next m)
    (rest : FramedAt (next m) m) : FramedAt (Run.machine >>= next) m := by
  intro value n ended base
  change next m m = .done value n at ended
  change next (m.onto base) (m.onto base) = _
  rw [same base]
  exact rest value n ended base

/-- Looking at the live stack, when more values below do not change what is seen. -/
theorem FramedAt.look {read : Stack → Except Fault α} {next : α → Run β}
    (same : ∀ s a, read s = .ok a → ∀ base : Stack, read (base.merge s) = .ok a)
    (rest : ∀ a, FramedAt (next a) m) :
    FramedAt (Run.stack >>= fun s => Run.ofExcept (read s) >>= next) m := by
  intro b n ended base
  change (Run.ofExcept (read m.stack) >>= next) m = .done b n at ended
  change (Run.ofExcept (read (base.merge m.stack)) >>= next) (m.onto base) = _
  cases seen : read m.stack with
  | ok a =>
    rw [seen] at ended
    rw [same _ a seen base]
    exact rest a b n ended base
  | error fault =>
    rw [seen] at ended
    cases ended

theorem FramedAt.require (depth : Nat) : FramedAt (Run.require depth) m := by
  have looked : FramedAt (Run.stack >>= fun s => Run.ofExcept (s.require depth) >>= Pure.pure) m :=
    .look (fun _ _ enough => Stack.require_merge enough) fun _ => .pure ()
  simp only [bind_pure] at looked
  exact looked

/-- A run that is chosen by the top of the live stack, and fails without one. -/
theorem FramedAt.onTop {choose : Stack → Run α}
    (seen : ∀ {s t : Stack}, s.top? = t.top? → choose s = choose t)
    (empty : ∀ value n, choose .empty m ≠ .done value n) (chosen : FramedAt (choose m.stack) m) :
    FramedAt (Run.stack >>= choose) m := by
  obtain ⟨⟨values⟩, bindings, input, output⟩ := m
  intro value n ended base
  cases values with
  | nil => exact absurd ended (empty value n)
  | cons top values =>
    have same : choose (base.merge ⟨top :: values⟩) = choose ⟨top :: values⟩ := seen rfl
    change choose (base.merge ⟨top :: values⟩) _ = _
    rw [same]
    exact chosen value n ended base

theorem Aloof.write (t : Text) : Aloof (Run.write t) := by
  intro m s
  unfold Run.write
  cases m.output.write t with
  | ok output => exact .done rfl { m with output := output }
  | error fault => exact .failed (.ofFault fault) m

theorem Aloof.flush : Aloof Run.flush := by
  intro m s
  exact Aloof.ofExcept m.output.flush m s

theorem FramedAt.print : FramedAt Run.print m := by
  refine FramedAt.onTop (fun same => by simp only [same]) nofun ?_
  cases m.stack.top? with
  | none => exact .fail _
  | some value => exact ((Aloof.write _).bind fun _ => .flush).framedAt

theorem FramedAt.readLine : FramedAt Run.readLine m := by
  intro value n ended base
  rcases read : m.input.next with ⟨line, input⟩
  have above : (m.onto base).input.next = (line, input) := read
  unfold Run.readLine at ended ⊢
  rw [read] at ended
  rw [above]
  cases line with
  | ok line => exact FramedAt.push _ value n ended base
  | error fault => cases ended

theorem FramedAt.readAll : FramedAt Run.readAll m := by
  intro value n ended base
  rcases read : m.input.readAll with ⟨lines, input⟩
  have above : (m.onto base).input.readAll = (lines, input) := read
  unfold Run.readAll at ended ⊢
  rw [read] at ended
  rw [above]
  cases lines with
  | ok t => exact FramedAt.push _ value n ended base
  | error fault => cases ended

variable {C : Correspondence}

/-- What corresponding runs keep, of a run that corresponds to itself. -/
theorem Related.of_done {R : α → α → Prop} {run : Run α} (related : Run.Related C R run run)
    (held : C.machines m m) {value : α} {n : Machine} (ended : run m = .done value n) :
    R value value ∧ C.machines n n := by
  have both := related m m held
  rw [ended] at both
  cases both with | done value machines => exact ⟨value, machines⟩

theorem FramedAt.times {run : Run Unit} (related : Run.Related C Eq run run)
    (round : ∀ n, C.machines n n → FramedAt run n) (held : C.machines m m) (count : Nat) :
    FramedAt (Run.times run count) m := by
  induction count generalizing m with
  | zero => exact .pure ()
  | succ count ih => exact (round m held).bind fun _ n ended => ih (related.of_done held ended).2

end Framed

end Run

namespace Engine

variable {m : Machine}

theorem onLive_framedAt {change : Stack → Except Fault Stack}
    (same : ∀ s t, change s = .ok t → ∀ base : Stack, change (base.merge s) = .ok (base.merge t)) :
    (onLive change).FramedAt m := by
  intro value n ended base
  cases changed : change m.stack with
  | ok t =>
    have framed : change (m.onto base).stack = .ok (base.merge t) := same _ t changed base
    rw [onLive_of_ok changed] at ended
    rw [onLive_of_ok framed]
    cases ended
    rfl
  | error fault =>
    rw [onLive_of_error changed] at ended
    cases ended

theorem cut_framedAt (split : Value → Except Fault (Value × Value)) (distance : Int64)
    (value : Value) : (cut split distance value).FramedAt m := by
  unfold cut
  split
  · refine (Run.FramedAt.ofExcept _).bind fun parts _ _ => ?_
    exact (Run.FramedAt.push parts.1).bind fun _ _ _ => .push parts.2
  · exact .pushResult _

variable (engine : Engine)

/-- Sorting and filtering by a block take the block and the sequence below it off the stack; what
they do with the elements is aloof. -/
theorem select_framedAt {work : List Value → Run (List Value)}
    (aloof : ∀ items, (work items).Aloof) :
    Run.FramedAt
      (do
        Run.require 2
        let _ ← Run.pop
        let target ← Run.pop
        let items ← Run.ofExcept target.toArray
        Run.push (Sequence.restore (← work items) (Sequence.isText target))) m := by
  refine (Run.FramedAt.require 2).bind fun _ _ _ => ?_
  refine Run.FramedAt.pop.bind fun _ _ _ => ?_
  refine Run.FramedAt.pop.bind fun target _ _ => ?_
  refine (Run.FramedAt.ofExcept _).bind fun items _ _ => ?_
  exact (aloof items).framedAt.bind fun _ _ _ => .push _

theorem sort_framedAt : engine.sort.FramedAt m := by
  refine Run.FramedAt.onTop (fun same => by simp only [same]) nofun ?_
  have onValue : ∀ a : Value, Run.FramedAt
      (do
        let _ ← Run.pop
        if a.isSequence then Run.push (← Run.ofExcept (Sequence.sort a))
        else Run.fail (.undefinedFor .sort a.type)) m := by
    intro a
    refine Run.FramedAt.pop.bind fun _ _ _ => ?_
    split
    · exact .pushResult _
    · exact .fail _
  cases m.stack.top? with
  | none => exact .fail _
  | some value =>
    cases value with
    | integer n =>
      dsimp only
      split
      · exact .fail _
      · refine (Run.FramedAt.require _).bind fun _ _ _ => ?_
        refine Run.FramedAt.pop.bind fun _ _ _ => ?_
        exact .look (fun _ _ found => Stack.peek_merge found) fun value => .push value
    | block b => exact select_framedAt (engine.sortBy_aloof b.code)
    | character c => exact onValue (.character c)
    | decimal d => exact onValue (.decimal d)
    | string t => exact onValue (.string t)
    | array elements => exact onValue (.array elements)

theorem count_framedAt : engine.count.FramedAt m := by
  refine Run.FramedAt.onTop (fun same => by simp only [same]) nofun ?_
  cases m.stack.top? with
  | none => exact .fail _
  | some value =>
    cases value with
    | block b => exact select_framedAt (engine.filter_aloof b.code)
    | integer n => exact Run.FramedAt.pop.bind fun _ _ _ => .push _
    | string t => exact Run.FramedAt.pop.bind fun _ _ _ => .push _
    | array elements => exact Run.FramedAt.pop.bind fun _ _ _ => .push _
    | _ => exact Run.FramedAt.pop.bind fun _ _ _ => .fail _

theorem remainder_framedAt (a b : Value) : (engine.remainder a b).FramedAt m := by
  unfold Engine.remainder
  split
  · refine (Run.FramedAt.ofExcept _).bind fun items _ _ => ?_
    exact (engine.map_aloof _ items).framedAt.bind fun _ _ _ => .push _
  · exact .pushResult _

/-- An engine that keeps what `C` says, and lets the values below stay, whenever it runs a block
that `C` allows. -/
structure Framed (C : Correspondence) (engine : Engine) : Prop where
  related : Engine.Related C engine engine
  framed : ∀ {b : Block} {m : Machine}, C.blocks.holds b b → C.machines m m →
    (engine.run b.code).FramedAt m

variable {C : Correspondence} {engine}

theorem Framed.expand (framed : engine.Framed C) {a : Value} (value : Value.Related C.blocks a a)
    (held : C.machines m m) : (engine.expand a).FramedAt m := by
  cases value with
  | block allowed => exact framed.framed allowed held
  | @array elements _ _ =>
    intro value n ended base
    cases ended
    change Outcome.done () { m with stack := (base.merge m.stack).merge (.ofList elements) } = _
    rw [Stack.merge_assoc]
    rfl
  | _ => exact .pushResult _

theorem Framed.times (framed : engine.Framed C) {b : Block} (allowed : C.blocks.holds b b)
    (held : C.machines m m) (count : Nat) : (Run.times (engine.run b.code) count).FramedAt m :=
  .times (framed.related.run allowed) (fun _ => framed.framed allowed) held count

theorem Framed.multiply (framed : engine.Framed C) {a b : Value}
    (left : Value.Related C.blocks a a) (right : Value.Related C.blocks b b)
    (held : C.machines m m) : (engine.multiply a b).FramedAt m := by
  unfold Engine.multiply
  split
  · cases left with | block allowed => exact framed.times allowed held _
  · cases right with | block allowed => exact framed.times allowed held _
  · split
    · refine (Run.FramedAt.ofExcept _).bind fun items _ _ => ?_
      exact (engine.fold_aloof _ items).framedAt.bind fun _ _ _ => .push _
    · exact .pushResult _
  · exact .pushResult _

end Engine

/-- What operators do without noticing the values below, operand by operand. -/
inductive Meaning.Framed (C : Correspondence) : Meaning → Prop where
  | onStack {act : Run Unit} (framed : ∀ {m : Machine}, act.FramedAt m) : Framed C (.onStack act)
  | unary (f : Value → Except Fault Value) : Framed C (.unary f)
  | binary (f : Value → Value → Except Fault Value) : Framed C (.binary f)
  | ternary (f : Value → Value → Value → Except Fault Value) : Framed C (.ternary f)
  | unaryRun {f : Value → Run Unit}
    (framed : ∀ {a : Value} {m : Machine}, Value.Related C.blocks a a → C.machines m m →
      (f a).FramedAt m) :
    Framed C (.unaryRun f)
  | binaryRun {f : Value → Value → Run Unit}
    (framed : ∀ {a b : Value} {m : Machine}, Value.Related C.blocks a a →
      Value.Related C.blocks b b → C.machines m m → (f a b).FramedAt m) :
    Framed C (.binaryRun f)

theorem Meaning.Framed.apply {C : Correspondence} {meaning : Meaning} (h : meaning.Framed C)
    {m : Machine} (held : C.machines m m) : meaning.apply.FramedAt m := by
  refine (Run.FramedAt.require _).bind fun _ n enough => ?_
  have held := ((Run.Related.require _).of_done held enough).2
  -- What may run a block has to know that its operands, off the stack by then, are allowed.
  cases h with
  | onStack framed => exact framed
  | unary f => exact Run.FramedAt.pop.bind fun a _ _ => .pushResult (f a)
  | binary f =>
    refine Run.FramedAt.pop.bind fun b _ _ => ?_
    exact Run.FramedAt.pop.bind fun a _ _ => .pushResult (f a b)
  | ternary f =>
    refine Run.FramedAt.pop.bind fun c _ _ => ?_
    refine Run.FramedAt.pop.bind fun b _ _ => ?_
    exact Run.FramedAt.pop.bind fun a _ _ => .pushResult (f a b c)
  | unaryRun framed =>
    refine Run.FramedAt.pop.bind fun a _ popped => ?_
    obtain ⟨value, held⟩ := Run.Related.pop.of_done held popped
    exact framed value held
  | binaryRun framed =>
    refine Run.FramedAt.pop.bind fun b _ popped => ?_
    obtain ⟨right, held⟩ := Run.Related.pop.of_done held popped
    refine Run.FramedAt.pop.bind fun a _ popped => ?_
    obtain ⟨left, held⟩ := Run.Related.pop.of_done held popped
    exact framed left right held

/-- Every operator but the two that an empty stack does not stop. -/
theorem Operator.meaning_framed {C : Correspondence} {engine : Engine} (framed : engine.Framed C)
    {op : Operator} (notDiscard : op ≠ .discard) (notLoop : op ≠ .loop) :
    (op.meaning engine).Framed C := by
  cases op with
  | discard => exact absurd rfl notDiscard
  | loop => exact absurd rfl notLoop
  | duplicate =>
    exact .onStack (Engine.onLive_framedAt fun _ _ doubled => Stack.duplicate_merge doubled)
  | swap => exact .onStack (Engine.onLive_framedAt fun _ _ turned => Stack.rotateTop_merge turned)
  | rotate =>
    exact .onStack (Engine.onLive_framedAt fun _ _ turned => Stack.rotateTop_merge turned)
  | readLine => exact .onStack .readLine
  | readAll => exact .onStack .readAll
  | print => exact .onStack .print
  | expand => exact .unaryRun framed.expand
  | sort => exact .onStack engine.sort_framedAt
  | first => exact .unaryRun fun _ _ => Engine.cut_framedAt _ _ _
  | last => exact .unaryRun fun _ _ => Engine.cut_framedAt _ _ _
  | count => exact .onStack engine.count_framedAt
  | multiply => exact .binaryRun framed.multiply
  | remainder => exact .binaryRun fun _ _ _ => engine.remainder_framedAt _ _
  | choose => exact .ternary _
  | toInteger | toDecimal | toCharacter | toText | negation | words | lines => exact .unary _
  | _ => exact .binary _

end Stackscript
