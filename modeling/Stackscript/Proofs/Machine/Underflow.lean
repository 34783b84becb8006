import Stackscript.Proofs.Machine.Rotation
import Stackscript.Proofs.Machine.Sandbox
import Stackscript.Proofs.Program.Place
import Stackscript.Proofs.Value.Supplied

set_option autoImplicit false

/- Failures for want of values. Each operator needs a number of values that its operands tell, and
with fewer on the stack it fails and changes nothing. With enough of them, it fails for want of
values only in a block: there the token that did so gives the failure a place. What is left are
combinators that miss a value in what a block leaves, and blocks with tokens that have no place to
give, since the block was recorded at line zero or its lines have wrapped around to it. -/
namespace Stackscript

/-- A failure for want of values that no token has claimed. -/
def Failure.Bare (failure : Failure) : Prop :=
  failure.fault.kind = .stackUnderflow ∧ failure.position.line = 0

theorem Failure.not_bare {fault : Fault} (other : fault.kind ≠ .stackUnderflow) :
    ¬ (Failure.ofFault fault).Bare := by
  intro bare
  exact other bare.1

namespace Run

variable {α β : Type}

/-- A run in which each failure for want of values has a place. -/
def Located (run : Run α) : Prop :=
  ∀ m failure n, run m = .failed failure n → ¬ failure.Bare

theorem Located.of_done {run : Run α} (done : ∀ m, ∃ value n, run m = .done value n) :
    run.Located := by
  intro m failure n failed
  obtain ⟨value, after, ended⟩ := done m
  rw [ended] at failed
  cases failed

theorem Located.push (value : Value) : (Run.push value).Located :=
  .of_done fun _ => ⟨_, _, rfl⟩

theorem Located.bind {run : Run α} {next : α → Run β} (first : run.Located)
    (rest : ∀ value, (next value).Located) : (run >>= next).Located := by
  intro m failure n failed
  rw [bind_apply] at failed
  cases ended : run m with
  | done value after =>
    rw [ended] at failed
    exact rest value after failure n failed
  | failed raised after =>
    rw [ended] at failed
    cases failed
    exact first m _ _ ended
  | outOfFuel =>
    rw [ended] at failed
    cases failed

theorem Located.fail {fault : Fault} (other : fault.kind ≠ .stackUnderflow) :
    (Run.fail fault : Run α).Located := by
  intro m failure n failed
  cases failed
  exact Failure.not_bare other

theorem Located.ofExcept {result : Except Fault α} (supplied : Supplied result) :
    (Run.ofExcept result).Located := by
  cases result with
  | ok value => exact .of_done fun m => ⟨value, m, rfl⟩
  | error fault => exact .fail (supplied fault rfl)

theorem Located.pushResult {result : Except Fault Value} (supplied : Supplied result) :
    (Run.ofExcept result >>= Run.push).Located :=
  (Located.ofExcept supplied).bind Located.push

theorem Located.onStack {run : Run Unit} (inside : run.Located) (s : Stack) :
    (Run.onStack s run).Located := by
  intro m failure n failed
  unfold Run.onStack at failed
  cases ended : run { m with stack := s } with
  | failed raised after =>
    rw [ended] at failed
    cases failed
    exact inside _ _ _ ended
  | _ =>
    rw [ended] at failed
    cases failed

theorem Located.whileTrue {run : Run Unit} (round : run.Located) (rounds : Nat) :
    (Run.whileTrue run rounds).Located := by
  induction rounds with
  | zero =>
    intro m failure n failed
    rw [Run.whileTrue, bind_apply] at failed
    simp only [Run.stack] at failed
    split at failed <;> cases failed
  | succ rounds ih =>
    intro m failure n failed
    rw [Run.whileTrue, bind_apply] at failed
    simp only [Run.stack] at failed
    split at failed
    · exact (round.bind fun _ => ih) m failure n failed
    · cases failed

theorem Located.readLine : Run.readLine.Located := by
  intro m failure n failed
  unfold Run.readLine at failed
  rcases read : m.input.next with ⟨line, input⟩
  rw [read] at failed
  cases line with
  | ok line => cases failed
  | error fault =>
    have cause : fault = Input.invalid := Input.next_eq_error (congrArg Prod.fst read)
    have other : fault.kind ≠ .stackUnderflow := by
      rw [cause]
      decide
    exact Located.fail other _ failure n failed

theorem Located.readAll : Run.readAll.Located := by
  intro m failure n failed
  unfold Run.readAll at failed
  rcases read : m.input.readAll with ⟨lines, input⟩
  rw [read] at failed
  cases lines with
  | ok t => cases failed
  | error fault =>
    have cause : fault = Input.invalid := Input.readAll_eq_error (congrArg Prod.fst read)
    have other : fault.kind ≠ .stackUnderflow := by
      rw [cause]
      decide
    exact Located.fail other _ failure n failed

theorem Located.flush : Run.flush.Located := by
  have supplied (output : Output) : Supplied output.flush := by
    unfold Output.flush
    split
    · exact .error nofun
    · exact .ok _
  intro m failure n failed
  exact Located.ofExcept (supplied m.output) m failure n failed

theorem Located.write (t : Text) : (Run.write t).Located := by
  have supplied (output : Output) : Supplied (output.write t) := by
    unfold Output.write
    split
    · exact .ok _
    · split
      · exact .error nofun
      · exact .ok _
  intro m failure n failed
  unfold Run.write at failed
  cases written : m.output.write t with
  | ok output =>
    rw [written] at failed
    cases failed
  | error fault =>
    rw [written] at failed
    exact Located.fail (supplied m.output fault written) m failure n failed

end Run

namespace Stack

variable {s : Stack}

theorem exists_push {depth : Nat} (filled : depth + 1 ≤ s.size) :
    ∃ rest a, s = push rest a ∧ depth ≤ rest.size := by
  obtain ⟨values⟩ := s
  cases values with
  | nil => cases filled
  | cons a values => exact ⟨⟨values⟩, a, rfl, Nat.le_of_succ_le_succ filled⟩

theorem peek_supplied {distance : Nat} (inside : distance < s.size) :
    Supplied (s.peek distance) := by
  have found : s.values[distance]? = some s.values[distance] := List.getElem?_eq_getElem inside
  unfold peek
  rw [found]
  exact .ok _

theorem rotateTop_supplied {depth : Nat} (enough : depth ≤ s.size) :
    Supplied (s.rotateTop depth) := by
  obtain ⟨group, lower, rfl, rfl⟩ := exists_append enough
  rw [rotateTop_append]
  exact .ok _

end Stack

theorem Run.require_apply (depth : Nat) (m : Machine) :
    Run.require depth m =
      if m.stack.size < depth then .failed (.ofFault (.underflow depth m.stack.size)) m
      else .done () m := by
  change Run.ofExcept (m.stack.require depth) m = _
  rw [Stack.require_eq]
  split <;> rfl

theorem Meaning.apply_onStack (act : Run Unit) (m : Machine) :
    (Meaning.onStack act).apply m = act m := rfl

/-- With fewer values than it takes, an operator of any shape fails and leaves the machine. -/
theorem Meaning.apply_of_shallow (meaning : Meaning) {m : Machine}
    (shallow : m.stack.size < meaning.arity) :
    meaning.apply m = .failed (.ofFault (.underflow meaning.arity m.stack.size)) m := by
  unfold apply
  rw [Run.bind_apply, Run.require_apply, if_pos shallow]

/-- What an operator does on a stack with enough values, operand by operand, gives its failures for
want of values a place. -/
inductive Meaning.Located (s : Stack) : Meaning → Prop where
  | onStack {act : Run Unit}
    (own : ∀ m failure n, m.stack = s → act m = .failed failure n → ¬ failure.Bare) :
    Located s (.onStack act)
  | unary {f : Value → Except Fault Value} (each : ∀ a, Supplied (f a)) : Located s (.unary f)
  | binary {f : Value → Value → Except Fault Value} (each : ∀ a b, Supplied (f a b)) :
    Located s (.binary f)
  | ternary {f : Value → Value → Value → Except Fault Value} (each : ∀ a b c, Supplied (f a b c)) :
    Located s (.ternary f)
  | unaryRun {f : Value → Run Unit} (each : ∀ a (rest : Stack), s = rest.push a → (f a).Located) :
    Located s (.unaryRun f)
  | binaryRun {f : Value → Value → Run Unit}
    (each : ∀ a b (rest : Stack), s = (rest.push a).push b → (f a b).Located) :
    Located s (.binaryRun f)

theorem Meaning.Located.apply {meaning : Meaning} {m n : Machine} {failure : Failure}
    (located : meaning.Located m.stack) (enough : meaning.arity ≤ m.stack.size)
    (failed : meaning.apply m = .failed failure n) : ¬ failure.Bare := by
  obtain ⟨s, bindings, input, output⟩ := m
  cases located with
  | onStack own => exact own _ failure n rfl failed
  | unary each =>
    obtain ⟨rest, a, rfl, -⟩ := Stack.exists_push enough
    exact Run.Located.pushResult (each a) _ failure n failed
  | binary each =>
    obtain ⟨below, b, rfl, filled⟩ := Stack.exists_push enough
    obtain ⟨rest, a, rfl, -⟩ := Stack.exists_push filled
    exact Run.Located.pushResult (each a b) _ failure n failed
  | ternary each =>
    obtain ⟨below, c, rfl, filled⟩ := Stack.exists_push enough
    obtain ⟨below, b, rfl, deeper⟩ := Stack.exists_push filled
    obtain ⟨rest, a, rfl, -⟩ := Stack.exists_push deeper
    exact Run.Located.pushResult (each a b c) _ failure n failed
  | unaryRun each =>
    obtain ⟨rest, a, rfl, -⟩ := Stack.exists_push enough
    exact each a rest rfl _ failure n failed
  | binaryRun each =>
    obtain ⟨below, b, rfl, filled⟩ := Stack.exists_push enough
    obtain ⟨rest, a, rfl, -⟩ := Stack.exists_push filled
    exact each a b rest rfl _ failure n failed

namespace Engine

variable {engine : Engine}

theorem expand_located {a : Value}
    (blocks : ∀ b, a = .block b → (engine.run b.code).Located) : (engine.expand a).Located := by
  cases a with
  | block b => exact blocks b rfl
  | array elements => exact .of_done fun _ => ⟨_, _, rfl⟩
  | _ => exact .pushResult (Arithmetic.complement_supplied _)

theorem loop_located {a : Value}
    (blocks : ∀ b, a = .block b → (engine.run b.code).Located) : (engine.loop a).Located := by
  cases a with
  | block b => exact .whileTrue (blocks b rfl) _
  | _ => exact .fail nofun

theorem map_located {code : Code} (run : (engine.run code).Located) (items : List Value) :
    (engine.map code items).Located := by
  induction items with
  | nil => exact .of_done fun _ => ⟨_, _, rfl⟩
  | cons item items ih =>
    apply (run.onStack (.ofList [item])).bind
    intro produced
    apply ih.bind
    intro others
    exact .of_done fun _ => ⟨_, _, rfl⟩

theorem remainder_located {a b : Value}
    (blocks : ∀ block, b = .block block → (engine.run block.code).Located) :
    (engine.remainder a b).Located := by
  unfold remainder
  split
  · rename_i block _
    apply (Run.Located.ofExcept a.toArray_supplied).bind
    intro items
    apply (map_located (blocks block rfl) items).bind
    intro produced
    exact .push _
  · exact .pushResult (Arithmetic.remainder_supplied a _)

theorem multiply_located {a b : Value} (left : a.type ≠ .block) (right : b.type ≠ .block) :
    (engine.multiply a b).Located := by
  unfold multiply
  split
  · exact absurd rfl left
  · exact absurd rfl right
  · exact absurd rfl right
  · exact .pushResult (Arithmetic.multiply_supplied _ _)

theorem cut_located {split : Value → Except Fault (Value × Value)} (each : ∀ a, Supplied (split a))
    (distance : Int64) (a : Value) : (cut split distance a).Located := by
  unfold cut
  split
  · apply (Run.Located.ofExcept (each a)).bind
    rintro ⟨rest, element⟩
    exact (Run.Located.push rest).bind fun _ => .push element
  · exact .pushResult (Arithmetic.step_supplied a distance)

theorem onLive_located {change : Stack → Except Fault Stack} {s : Stack}
    (supplied : Supplied (change s)) (m : Machine) (failure : Failure) (n : Machine)
    (live : m.stack = s) (failed : onLive change m = .failed failure n) : ¬ failure.Bare := by
  subst live
  cases changed : change m.stack with
  | ok t =>
    rw [onLive_of_ok changed] at failed
    cases failed
  | error fault =>
    rw [onLive_of_error changed] at failed
    cases failed
    exact Failure.not_bare (supplied fault changed)

end Engine

/-- An integer on top is the distance of the value that is copied. -/
theorem Engine.sort_integer (engine : Engine) {m : Machine} {k : Int64}
    (top : m.stack.top? = some (.integer k)) :
    engine.sort m =
      (if k.toInt < 0 then Run.fail (.cannotCopy k.toInt)
      else do
        Run.require (k.toInt.toNat + 2)
        let _ ← Run.pop
        Run.push (← Run.ofExcept ((← Run.stack).peek k.toInt.toNat)) : Run Unit) m := by
  unfold Engine.sort
  rw [Run.bind_apply]
  simp only [Run.stack, top]

/-- A block that is placed gives each failure in it a place. -/
theorem engine_located (fuel : Nat) {b : Block} (placed : ¬ b.Unplaced) :
    ((engine fuel).run b.code).Located := by
  intro m failure n failed bare
  cases fuel with
  | zero => cases failed
  | succ fuel =>
    cases code : b.code with
    | ok tokens =>
      rw [code] at failed
      exact b.failed_known code placed failed bare.2
    | error error =>
      rw [code] at failed
      cases failed
      exact absurd bare.1 nofun

theorem engine_located_of_top {s rest : Stack} {b : Block} (fuel : Nat)
    (placed : ¬ ∃ b, s.top? = some (.block b) ∧ b.Unplaced)
    (live : s = rest.push (.block b)) : ((engine fuel).run b.code).Located := by
  apply engine_located
  intro unplaced
  exact placed ⟨b, congrArg Stack.top? live, unplaced⟩

namespace Operator

/-- The number of values that an operator needs on the given stack. Mostly it is the number of its
operands; where the top tells what is done, it tells how many values that takes. -/
def need (op : Operator) (s : Stack) : Nat :=
  match op with
  | .discard | .readLine | .readAll => 0
  | .duplicate | .print => 1
  | .swap => 2
  | .rotate => 3
  | .count =>
    match s.top? with
    | some (.block _) => 2
    | _ => 1
  | .sort =>
    match s.top? with
    | some (.block _) => 2
    | some (.integer n) => if n.toInt < 0 then 1 else n.toInt.toNat + 2
    | _ => 1
  | other => (other.meaning (engine 0)).arity

/-- One of the operands of an operator that folds, filters or sorts is a block. -/
def TakesBlock : Operator → Stack → Prop
  | .multiply, s => ∃ b, .block b ∈ s.values.take 2
  | .count, s | .sort, s => ∃ b, s.top? = some (.block b)
  | _, _ => False

/-- The block that an operator runs, on the live stack or for each element, has a token without a
place. -/
def RunsUnplaced : Operator → Stack → Prop
  | .expand, s | .loop, s | .remainder, s => ∃ b, s.top? = some (.block b) ∧ b.Unplaced
  | _, _ => False

theorem need_count_pos (s : Stack) : 1 ≤ count.need s := by
  change 1 ≤ match s.top? with
    | some (.block _) => 2
    | _ => 1
  split
  · omega
  · omega

theorem need_sort_pos (s : Stack) : 1 ≤ sort.need s := by
  change 1 ≤ match s.top? with
    | some (.block _) => 2
    | some (.integer n) => if n.toInt < 0 then 1 else n.toInt.toNat + 2
    | _ => 1
  split
  · omega
  · split
    · omega
    · omega
  · omega

/-- With fewer values than it needs, an operator fails and leaves the machine as it was. -/
theorem apply_of_shallow (op : Operator) (engine : Engine) {m : Machine}
    (shallow : m.stack.size < op.need m.stack) :
    (op.meaning engine).apply m =
      .failed (.ofFault (.underflow (op.need m.stack) m.stack.size)) m := by
  have impossible {a : Value} {values : List Value} (below : (Stack.mk (a :: values)).size < 1) :
      False :=
    Nat.not_lt_zero _ (Nat.lt_of_succ_lt_succ below)
  cases op with
  | discard | readLine | readAll => exact absurd shallow (Nat.not_lt_zero _)
  | duplicate | print =>
    obtain ⟨⟨_ | ⟨a, values⟩⟩, bindings, input, output⟩ := m
    · rfl
    · exact (impossible shallow).elim
  | swap =>
    change Engine.onLive (fun s => s.rotateTop 2) m = _
    exact Engine.onLive_of_error (Stack.rotateTop_of_shallow shallow)
  | rotate =>
    change Engine.onLive (fun s => s.rotateTop 3) m = _
    exact Engine.onLive_of_error (Stack.rotateTop_of_shallow shallow)
  | count =>
    obtain ⟨⟨_ | ⟨a, values⟩⟩, bindings, input, output⟩ := m
    · rfl
    · cases a with
      | block b =>
        cases values with
        | nil => rfl
        | cons => exact (impossible (Nat.lt_of_succ_lt_succ shallow)).elim
      | _ => exact (impossible shallow).elim
  | sort =>
    obtain ⟨⟨_ | ⟨a, values⟩⟩, bindings, input, output⟩ := m
    · rfl
    · cases a with
      | block b =>
        cases values with
        | nil => rfl
        | cons => exact (impossible (Nat.lt_of_succ_lt_succ shallow)).elim
      | integer n =>
        by_cases negative : n.toInt < 0
        · have one : sort.need ⟨.integer n :: values⟩ = 1 := if_pos negative
          rw [one] at shallow
          exact (impossible shallow).elim
        · have deep : sort.need ⟨.integer n :: values⟩ = n.toInt.toNat + 2 := if_neg negative
          rw [deep] at shallow ⊢
          rw [show sort.meaning engine = .onStack engine.sort from rfl, Meaning.apply_onStack,
            engine.sort_integer rfl, if_neg negative, Run.bind_apply, Run.require_apply,
            if_pos shallow]
      | _ => exact (impossible shallow).elim
  | _ => exact Meaning.apply_of_shallow _ shallow

/-- With enough values, an operator gives its failures for want of values a place, but for the
combinators that take blocks and for blocks with tokens that have no place. -/
theorem meaning_located (op : Operator) (fuel : Nat) {s : Stack} (enough : op.need s ≤ s.size)
    (plain : ¬ op.TakesBlock s) (placed : ¬ op.RunsUnplaced s) :
    (op.meaning (engine fuel)).Located s := by
  cases op with
  | duplicate =>
    refine .onStack (Engine.onLive_located ?_)
    obtain ⟨rest, a, rfl, -⟩ := Stack.exists_push enough
    exact .ok _
  | discard => exact .onStack (Engine.onLive_located (.ok _))
  | swap => exact .onStack (Engine.onLive_located (Stack.rotateTop_supplied enough))
  | rotate => exact .onStack (Engine.onLive_located (Stack.rotateTop_supplied enough))
  | readLine => exact .onStack fun m failure n _ => Run.Located.readLine m failure n
  | readAll => exact .onStack fun m failure n _ => Run.Located.readAll m failure n
  | print =>
    refine .onStack ?_
    rintro ⟨_, bindings, input, output⟩ failure n rfl failed
    obtain ⟨rest, a, rfl, -⟩ := Stack.exists_push enough
    exact ((Run.Located.write a.render).bind fun _ => .flush) _ failure n failed
  | toInteger => exact .unary fun a => a.toInteger_supplied.map _
  | toDecimal => exact .unary fun a => a.toDecimal_supplied.map _
  | toCharacter => exact .unary fun a => a.toCharacter_supplied.map _
  | toText => exact .unary fun a => a.toText_supplied.map _
  | negation => exact .unary fun a => .ok _
  | words => exact .unary Sequence.words_supplied
  | lines => exact .unary Sequence.lines_supplied
  | expand =>
    refine .unaryRun fun a rest live => Engine.expand_located ?_
    rintro b rfl
    exact engine_located_of_top fuel placed live
  | sort =>
    refine .onStack ?_
    rintro ⟨_, bindings, input, output⟩ failure n rfl failed
    obtain ⟨rest, a, rfl, -⟩ := Stack.exists_push (Nat.le_trans (need_sort_pos _) enough)
    cases a with
    | block b => exact absurd ⟨b, rfl⟩ plain
    | string t => exact Run.Located.pushResult (Sequence.sort_supplied _) _ failure n failed
    | array elements => exact Run.Located.pushResult (Sequence.sort_supplied _) _ failure n failed
    | integer k =>
      by_cases negative : k.toInt < 0
      · rw [Engine.sort_integer _ rfl, if_pos negative] at failed
        cases failed
        exact Failure.not_bare nofun
      · have deep : sort.need (rest.push (.integer k)) = k.toInt.toNat + 2 := if_neg negative
        rw [deep] at enough
        rw [Engine.sort_integer _ rfl, if_neg negative, Run.bind_apply, Run.require_apply,
          if_neg (Nat.not_lt.2 enough)] at failed
        have found : k.toInt.toNat < rest.size := by
          change k.toInt.toNat + 2 ≤ rest.size + 1 at enough
          omega
        exact Run.Located.pushResult (Stack.peek_supplied found) _ failure n failed
    | _ =>
      cases failed
      exact Failure.not_bare nofun
  | first => exact .unaryRun fun a _ _ => Engine.cut_located Sequence.uncons_supplied (-1) a
  | last => exact .unaryRun fun a _ _ => Engine.cut_located Sequence.unsnoc_supplied 1 a
  | count =>
    refine .onStack ?_
    rintro ⟨_, bindings, input, output⟩ failure n rfl failed
    obtain ⟨rest, a, rfl, -⟩ := Stack.exists_push (Nat.le_trans (need_count_pos _) enough)
    cases a with
    | block b => exact absurd ⟨b, rfl⟩ plain
    | integer => cases failed
    | string => cases failed
    | array => cases failed
    | _ =>
      cases failed
      exact Failure.not_bare nofun
  | loop =>
    refine .unaryRun fun a rest live => Engine.loop_located ?_
    rintro b rfl
    exact engine_located_of_top fuel placed live
  | add => exact .binary Arithmetic.add_supplied
  | subtract => exact .binary Arithmetic.subtract_supplied
  | multiply =>
    refine .binaryRun fun a b rest live => Engine.multiply_located ?_ ?_
    · intro block
      cases a with
      | block x => exact plain ⟨x, by simp [live, Stack.push]⟩
      | _ => cases block
    · intro block
      cases b with
      | block x => exact plain ⟨x, by simp [live, Stack.push]⟩
      | _ => cases block
  | divide => exact .binary Arithmetic.divide_supplied
  | remainder =>
    refine .binaryRun fun a b rest live => Engine.remainder_located ?_
    rintro block rfl
    exact engine_located_of_top fuel placed live
  | power => exact .binary Arithmetic.power_supplied
  | bitAnd => exact .binary (Arithmetic.bitwise_supplied _)
  | bitOr => exact .binary (Arithmetic.bitwise_supplied _)
  | bitXor => exact .binary (Arithmetic.bitwise_supplied _)
  | equal => exact .binary (Arithmetic.comparison_supplied Sequence.elementAt_supplied .eq)
  | less => exact .binary (Arithmetic.comparison_supplied Sequence.take_supplied .lt)
  | greater => exact .binary (Arithmetic.comparison_supplied Sequence.drop_supplied .gt)
  | both => exact .binary fun a b => .ok _
  | either => exact .binary fun a b => .ok _
  | minimum => exact .binary Arithmetic.minimum_supplied
  | maximum => exact .binary Arithmetic.maximum_supplied
  | choose => exact .ternary fun a b c => .ok _

theorem arity_le_need (op : Operator) (engine : Engine) (s : Stack) :
    (op.meaning engine).arity ≤ op.need s := by
  cases op with
  | duplicate | discard | swap | rotate | readLine | readAll | print | sort | count =>
    exact Nat.zero_le _
  | _ => exact Nat.le_refl _

/-- With fewer values than it needs, an operator fails for that reason, before it has changed
anything. A failure for want of values that no token has claimed means that there were fewer, or
that an operator which folds, filters or sorts has been given a block, or that the block which has
been run has a token without a place. -/
theorem underflow_atomic (op : Operator) (m : Machine) :
    (m.stack.size < op.need m.stack →
      op.Ends m (.failed (.ofFault (.underflow (op.need m.stack) m.stack.size)) m)) ∧
    ∀ failure n, op.Ends m (.failed failure n) → failure.fault.kind = .stackUnderflow →
      failure.position.line = 0 →
      m.stack.size < op.need m.stack ∨ op.TakesBlock m.stack ∨ op.RunsUnplaced m.stack := by
  constructor
  · intro shallow
    exact .of_failed 0 (op.apply_of_shallow (engine 0) shallow)
  · rintro failure n ⟨-, fuel, failed⟩ underflow unknown
    by_cases shallow : m.stack.size < op.need m.stack
    · exact .inl shallow
    right
    by_contra plain
    rw [not_or] at plain
    have enough : op.need m.stack ≤ m.stack.size := by omega
    have located := op.meaning_located fuel enough plain.1 plain.2
    have filled := Nat.le_trans (op.arity_le_need (engine fuel) m.stack) enough
    exact located.apply filled failed ⟨underflow, unknown⟩

/-- An integer on top that asks for a value below the bottom, and a block to filter by that leaves
no verdict: the values it needed were there. -/
theorem underflow_atomic_copying :
    (∃ m : Machine, m.stack = .ofList [.character 'x', .integer 9] ∧
      m.stack.size < sort.need m.stack ∧
      sort.Ends m (.failed (.ofFault (.underflow 11 2)) m)) ∧
    ∃ m : Machine, m.stack = .ofList [.array [.integer 1], .block ⟨[';'], ⟨1, 1⟩⟩] ∧
      count.Ends m (.failed (.ofFault (.underflow 1 0)) { m with stack := .empty }) ∧
      (m.stack.size < count.need m.stack ∨ count.TakesBlock m.stack ∨
        count.RunsUnplaced m.stack) := by
  constructor
  · let m : Machine :=
      { Machine.initial .empty {} with stack := .ofList [.character 'x', .integer 9] }
    have shallow : m.stack.size < sort.need m.stack := by decide
    exact ⟨m, rfl, shallow, (underflow_atomic sort m).1 shallow⟩
  · let m : Machine :=
      { Machine.initial .empty {} with
        stack := .ofList [.array [.integer 1], .block ⟨[';'], ⟨1, 1⟩⟩] }
    have ends : count.Ends m (.failed (.ofFault (.underflow 1 0)) { m with stack := .empty }) :=
      .of_failed 1 (by cbv)
    exact ⟨m, rfl, ends, (underflow_atomic count m).2 _ _ ends rfl rfl⟩

/-- Blocks without a place have to be told apart: one that misses a value is run from the live
stack, no token has a place to give, and yet there was the value that running it needs. -/
theorem underflow_unplaced :
    ¬ ∀ (op : Operator) (m : Machine),
      (m.stack.size < op.need m.stack →
        op.Ends m (.failed (.ofFault (.underflow (op.need m.stack) m.stack.size)) m)) ∧
      ∀ failure n, op.Ends m (.failed failure n) → failure.fault.kind = .stackUnderflow →
        failure.position.line = 0 → m.stack.size < op.need m.stack ∨ op.TakesBlock m.stack := by
  intro all
  let m : Machine :=
    { Machine.initial .empty {} with stack := .ofList [.block ⟨['+'], ⟨0, 1⟩⟩] }
  have ends : expand.Ends m (.failed ⟨.underflow 2 0, ⟨0, 1⟩⟩ (.initial .empty {})) :=
    .of_failed 1 (by cbv)
  rcases (all expand m).2 _ _ ends rfl rfl with shallow | block
  · exact absurd shallow (by decide)
  · exact block

end Operator

end Stackscript
