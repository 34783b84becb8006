import Stackscript.Machine.Meaning
import Stackscript.Proofs.Correspondence.Arithmetic
import Stackscript.Proofs.Correspondence.Run

set_option autoImplicit false

/- Operators keep runs in step. Engines are in step when they run corresponding blocks in step and
the second has at least the rounds of the first; whatever an operator does with them, and with
corresponding values, is then in step too. -/
namespace Stackscript

structure Engine.Related (C : Correspondence) (engine engine' : Engine) : Prop where
  run : ∀ {a b : Block}, C.blocks.holds a b →
    Run.Related C Eq (engine.run a.code) (engine'.run b.code)
  rounds : engine.rounds ≤ engine'.rounds

namespace Engine

variable {C : Correspondence} {engine engine' : Engine} {a b : Block}

theorem Related.runOn (engines : Related C engine engine') (blocks : C.blocks.holds a b)
    {s t : Stack} (stacked : s.Related C.blocks t) :
    Run.Related C (Stack.Related C.blocks) (engine.runOn a.code s) (engine'.runOn b.code t) :=
  .onStack stacked (engines.run blocks)

theorem Related.valueOn (engines : Related C engine engine') (blocks : C.blocks.holds a b)
    {s t : Stack} (stacked : s.Related C.blocks t) :
    Run.Related C (Value.Related C.blocks) (engine.valueOn a.code s)
      (engine'.valueOn b.code t) := by
  refine (engines.runOn blocks stacked).bind fun _ _ left => ?_
  exact (Run.Related.ofExcept left.pop).bind fun _ _ popped => .pure popped.1

variable {xs ys : List Value}

theorem Related.map (engines : Related C engine engine') (blocks : C.blocks.holds a b)
    (items : List.Forall₂ (Value.Related C.blocks) xs ys) :
    Run.Related C (List.Forall₂ (Value.Related C.blocks)) (engine.map a.code xs)
      (engine'.map b.code ys) := by
  induction items with
  | nil => exact .pure .nil
  | cons item _ ih =>
    refine (engines.runOn blocks (.ofList (.cons item .nil))).bind fun _ _ produced => ?_
    exact ih.bind fun _ _ others => .pure (List.rel_append produced.toList others)

theorem Related.filter (engines : Related C engine engine') (blocks : C.blocks.holds a b)
    (items : List.Forall₂ (Value.Related C.blocks) xs ys) :
    Run.Related C (List.Forall₂ (Value.Related C.blocks)) (engine.filter a.code xs)
      (engine'.filter b.code ys) := by
  induction items with
  | nil => exact .pure .nil
  | cons item _ ih =>
    refine (engines.valueOn blocks (.ofList (.cons item .nil))).bind fun _ _ verdict => ?_
    refine ih.bind fun _ _ kept => .pure ?_
    rw [verdict.isTruthy_eq]
    split
    · exact .cons item kept
    · exact kept

theorem Related.foldFrom (engines : Related C engine engine') (blocks : C.blocks.holds a b)
    (items : List.Forall₂ (Value.Related C.blocks) xs ys) {s t : Stack}
    (stacked : s.Related C.blocks t) :
    Run.Related C (Stack.Related C.blocks) (engine.foldFrom a.code s xs)
      (engine'.foldFrom b.code t ys) := by
  induction items generalizing s t with
  | nil => exact .pure stacked
  | cons item _ ih => exact (engines.runOn blocks (stacked.push item)).bind fun _ _ left => ih left

theorem Related.fold (engines : Related C engine engine') (blocks : C.blocks.holds a b)
    (items : List.Forall₂ (Value.Related C.blocks) xs ys) :
    Run.Related C (Value.Related C.blocks) (engine.fold a.code xs) (engine'.fold b.code ys) := by
  cases items with
  | nil => exact .fail nofun
  | cons seed items =>
    refine (engines.foldFrom blocks items (.ofList (.cons seed .nil))).bind fun _ _ left => ?_
    exact (Run.Related.ofExcept left.pop).bind fun _ _ popped => .pure popped.1

theorem Related.sortBy (engines : Related C engine engine') (blocks : C.blocks.holds a b)
    (items : List.Forall₂ (Value.Related C.blocks) xs ys) :
    Run.Related C (List.Forall₂ (Value.Related C.blocks)) (engine.sortBy a.code xs)
      (engine'.sortBy b.code ys) := by
  refine Sequence.mergeSort_related (L := Run.lifting C) (fun _ _ _ _ left right => ?_) items
  have operands := Stack.Related.ofList (.cons left (.cons right .nil))
  exact (engines.valueOn blocks operands).bind fun _ _ verdict => .pure verdict.isTruthy_eq

end Engine

section Live

variable {C : Correspondence}

/-- Pushing what a computation gives. -/
theorem Run.Related.pushResult {x y : Except Fault Value}
    (agree : Agree (Value.Related C.blocks) x y) :
    Run.Related C Eq (Run.ofExcept x >>= Run.push) (Run.ofExcept y >>= Run.push) :=
  (Run.Related.ofExcept agree).bind fun _ _ value => .push value

theorem Engine.onLive_related {change change' : Stack → Except Fault Stack}
    (changes : ∀ s t, s.Related C.blocks t →
      Agree (Stack.Related C.blocks) (change s) (change' t)) :
    Run.Related C Eq (Engine.onLive change) (Engine.onLive change') := by
  refine Run.Related.stack.bind fun s t stacked => ?_
  exact (Run.Related.ofExcept (changes s t stacked)).bind fun _ _ after => .setStack after

theorem Engine.cut_related {split : Value → Except Fault (Value × Value)}
    (splits : ∀ {a b}, Value.Related C.blocks a b →
      Agree (Sequence.RelatedPair C.blocks) (split a) (split b))
    (distance : Int64) {a b : Value} (h : Value.Related C.blocks a b) :
    Run.Related C Eq (Engine.cut split distance a) (Engine.cut split distance b) := by
  unfold Engine.cut
  rw [h.isSequence_eq]
  split
  · refine (Run.Related.ofExcept (splits h)).bind fun _ _ parts => ?_
    exact (Run.Related.push parts.1).bind fun _ _ _ => .push parts.2
  · exact .pushResult (Arithmetic.step_agree h distance)

end Live

namespace Engine

variable {C : Correspondence} {engine engine' : Engine} {a b a' b' : Value}

theorem Related.expand (engines : Related C engine engine') (h : Value.Related C.blocks a b) :
    Run.Related C Eq (engine.expand a) (engine'.expand b) := by
  have complement := Arithmetic.complement_agree h
  cases h with
  | block blocks => exact engines.run blocks
  | array elements =>
    exact Run.Related.stack.bind fun _ _ stacked => .setStack (stacked.merge (.ofList elements))
  | _ => exact .pushResult complement

theorem Related.loop (engines : Related C engine engine') (h : Value.Related C.blocks a b) :
    Run.Related C Eq (engine.loop a) (engine'.loop b) := by
  cases h with
  | block blocks => exact .whileTrue (engines.run blocks) engines.rounds
  | _ => exact .fail nofun

theorem Related.multiply (engines : Related C engine engine') (h : Value.Related C.blocks a b)
    (h' : Value.Related C.blocks a' b') :
    Run.Related C Eq (engine.multiply a a') (engine'.multiply b b') := by
  have product := Run.Related.pushResult (Arithmetic.multiply_agree h h')
  cases h' with
  | block blocks =>
    have folded := (Run.Related.ofExcept h.toArray).bind fun _ _ items =>
      (engines.fold blocks items).bind fun _ _ value => .push value
    cases h with
    | integer n => exact .times (engines.run blocks) _
    | string t => exact folded
    | array elements => exact folded
    | _ => exact product
  | integer n =>
    cases h with
    | block blocks => exact .times (engines.run blocks) _
    | _ => exact product
  | _ => cases h <;> exact product

theorem Related.remainder (engines : Related C engine engine') (h : Value.Related C.blocks a b)
    (h' : Value.Related C.blocks a' b') :
    Run.Related C Eq (engine.remainder a a') (engine'.remainder b b') := by
  have divided := Run.Related.pushResult (Arithmetic.remainder_agree h h')
  unfold Engine.remainder
  rw [h.isSequence_eq]
  cases h' with
  | block blocks =>
    cases b.isSequence with
    | true =>
      refine (Run.Related.ofExcept h.toArray).bind fun _ _ items => ?_
      exact (engines.map blocks items).bind fun _ _ produced => .push (.array produced)
    | false => exact divided
  | _ => cases b.isSequence <;> exact divided

/-- Sorting and filtering by a block take the block and the sequence below it off the stack. -/
theorem Related.select {work work' : Code → List Value → Run (List Value)} {block block' : Block}
    (works : ∀ {xs ys}, List.Forall₂ (Value.Related C.blocks) xs ys →
      Run.Related C (List.Forall₂ (Value.Related C.blocks)) (work block.code xs)
        (work' block'.code ys)) :
    Run.Related C Eq
      (do
        Run.require 2
        let _ ← Run.pop
        let target ← Run.pop
        let items ← Run.ofExcept target.toArray
        Run.push (Sequence.restore (← work block.code items) (Sequence.isText target)))
      (do
        Run.require 2
        let _ ← Run.pop
        let target ← Run.pop
        let items ← Run.ofExcept target.toArray
        Run.push (Sequence.restore (← work' block'.code items) (Sequence.isText target))) := by
  refine (Run.Related.require 2).bind fun _ _ _ => ?_
  refine Run.Related.pop.bind fun _ _ _ => ?_
  refine Run.Related.pop.bind fun _ _ target => ?_
  refine (Run.Related.ofExcept target.toArray).bind fun _ _ items => ?_
  refine (works items).bind fun _ _ result => ?_
  rw [Sequence.isText_eq target]
  exact .push (Sequence.restore_related result _)

theorem Related.sort (engines : Related C engine engine') :
    Run.Related C Eq engine.sort engine'.sort := by
  have onValue : ∀ {a b}, Value.Related C.blocks a b → Run.Related C Eq
      (do
        let _ ← Run.pop
        if a.isSequence then Run.push (← Run.ofExcept (Sequence.sort a))
        else Run.fail (.undefinedFor .sort a.type))
      (do
        let _ ← Run.pop
        if b.isSequence then Run.push (← Run.ofExcept (Sequence.sort b))
        else Run.fail (.undefinedFor .sort b.type)) := by
    intro a b value
    refine Run.Related.pop.bind fun _ _ _ => ?_
    rw [value.isSequence_eq, value.type_eq]
    split
    · exact .pushResult (Sequence.sort_agree value)
    · exact .fail nofun
  refine Run.Related.stack.bind fun s t stacked => ?_
  have top := stacked.top?
  generalize s.top? = x, t.top? = y at top
  cases top with
  | none => exact .fail nofun
  | some value =>
    cases value with
    | integer n =>
      dsimp only
      split
      · exact .fail nofun
      · refine (Run.Related.require _).bind fun _ _ _ => ?_
        refine Run.Related.pop.bind fun _ _ _ => ?_
        exact Run.Related.stack.bind fun _ _ below => .pushResult (below.peek _)
    | block blocks => exact Related.select (engines.sortBy blocks)
    | character c => exact onValue (.character c)
    | decimal d => exact onValue (.decimal d)
    | string t => exact onValue (.string t)
    | array elements => exact onValue (.array elements)

theorem Related.count (engines : Related C engine engine') :
    Run.Related C Eq engine.count engine'.count := by
  refine Run.Related.stack.bind fun s t stacked => ?_
  have top := stacked.top?
  generalize s.top? = x, t.top? = y at top
  cases top with
  | none => exact .fail nofun
  | some value =>
    cases value with
    | block blocks => exact Related.select (engines.filter blocks)
    | integer n =>
      have range := Value.related_map (B := C.blocks) fun i => .integer (Int64.ofNat i)
      exact Run.Related.pop.bind fun _ _ _ => .push (.array (range _))
    | string t => exact Run.Related.pop.bind fun _ _ _ => .push (.integer _)
    | array elements =>
      refine Run.Related.pop.bind fun _ _ _ => ?_
      dsimp only
      rw [elements.length_eq]
      exact .push (.integer _)
    | _ => exact Run.Related.pop.bind fun _ _ _ => .fail nofun

end Engine

/-- What operators do in step, operand by operand. -/
inductive Meaning.Related (C : Correspondence) : Meaning → Meaning → Prop where
  | onStack {act act' : Run Unit} (acts : Run.Related C Eq act act') :
    Related C (.onStack act) (.onStack act')
  | unary {f f' : Value → Except Fault Value}
    (results : ∀ {a b}, Value.Related C.blocks a b → Agree (Value.Related C.blocks) (f a) (f' b)) :
    Related C (.unary f) (.unary f')
  | binary {f f' : Value → Value → Except Fault Value}
    (results : ∀ {a b a' b'}, Value.Related C.blocks a b → Value.Related C.blocks a' b' →
      Agree (Value.Related C.blocks) (f a a') (f' b b')) :
    Related C (.binary f) (.binary f')
  | ternary {f f' : Value → Value → Value → Except Fault Value}
    (results : ∀ {a b a' b' a'' b''}, Value.Related C.blocks a b → Value.Related C.blocks a' b' →
      Value.Related C.blocks a'' b'' → Agree (Value.Related C.blocks) (f a a' a'') (f' b b' b'')) :
    Related C (.ternary f) (.ternary f')
  | unaryRun {f f' : Value → Run Unit}
    (runs : ∀ {a b}, Value.Related C.blocks a b → Run.Related C Eq (f a) (f' b)) :
    Related C (.unaryRun f) (.unaryRun f')
  | binaryRun {f f' : Value → Value → Run Unit}
    (runs : ∀ {a b a' b'}, Value.Related C.blocks a b → Value.Related C.blocks a' b' →
      Run.Related C Eq (f a a') (f' b b')) :
    Related C (.binaryRun f) (.binaryRun f')

theorem Meaning.Related.apply {C : Correspondence} {meaning meaning' : Meaning}
    (h : Meaning.Related C meaning meaning') :
    Run.Related C Eq meaning.apply meaning'.apply := by
  cases h with
  | onStack acts => exact (Run.Related.require 0).bind fun _ _ _ => acts
  | unary results =>
    refine (Run.Related.require 1).bind fun _ _ _ => ?_
    exact Run.Related.pop.bind fun _ _ a => .pushResult (results a)
  | binary results =>
    refine (Run.Related.require 2).bind fun _ _ _ => ?_
    refine Run.Related.pop.bind fun _ _ b => ?_
    exact Run.Related.pop.bind fun _ _ a => .pushResult (results a b)
  | ternary results =>
    refine (Run.Related.require 3).bind fun _ _ _ => ?_
    refine Run.Related.pop.bind fun _ _ c => ?_
    refine Run.Related.pop.bind fun _ _ b => ?_
    exact Run.Related.pop.bind fun _ _ a => .pushResult (results a b c)
  | unaryRun runs =>
    refine (Run.Related.require 1).bind fun _ _ _ => ?_
    exact Run.Related.pop.bind fun _ _ a => runs a
  | binaryRun runs =>
    refine (Run.Related.require 2).bind fun _ _ _ => ?_
    refine Run.Related.pop.bind fun _ _ b => ?_
    exact Run.Related.pop.bind fun _ _ a => runs a b

/-- Every operator does the same with engines in step. -/
theorem Operator.meaning_related {C : Correspondence} {engine engine' : Engine}
    (engines : Engine.Related C engine engine') (op : Operator) :
    Meaning.Related C (op.meaning engine) (op.meaning engine') := by
  cases op with
  | duplicate => exact .onStack (Engine.onLive_related fun _ _ stacked => stacked.duplicate)
  | discard => exact .onStack (Engine.onLive_related fun _ _ stacked => .ok stacked.eraseTop)
  | swap => exact .onStack (Engine.onLive_related fun _ _ stacked => stacked.rotateTop 2)
  | rotate => exact .onStack (Engine.onLive_related fun _ _ stacked => stacked.rotateTop 3)
  | readLine => exact .onStack .readLine
  | readAll => exact .onStack .readAll
  | print => exact .onStack .print
  | toInteger => exact .unary fun a => a.toInteger.map fun _ _ same => same ▸ .integer _
  | toDecimal => exact .unary fun a => a.toDecimal.map fun _ _ same => same ▸ .decimal _
  | toCharacter => exact .unary fun a => a.toCharacter.map fun _ _ same => same ▸ .character _
  | toText => exact .unary fun a => a.toText.map fun _ _ same => same ▸ .string _
  | negation => exact .unary fun a => .ok (Arithmetic.negation_related a)
  | words => exact .unary Sequence.words_agree
  | lines => exact .unary Sequence.lines_agree
  | expand => exact .unaryRun engines.expand
  | sort => exact .onStack engines.sort
  | first => exact .unaryRun (Engine.cut_related Sequence.uncons_agree (-1))
  | last => exact .unaryRun (Engine.cut_related Sequence.unsnoc_agree 1)
  | count => exact .onStack engines.count
  | loop => exact .unaryRun engines.loop
  | add => exact .binary Arithmetic.add_agree
  | subtract => exact .binary Arithmetic.subtract_agree
  | multiply => exact .binaryRun engines.multiply
  | divide => exact .binary Arithmetic.divide_agree
  | remainder => exact .binaryRun engines.remainder
  | power => exact .binary Arithmetic.power_agree
  | bitAnd => exact .binary (Arithmetic.bitwise_agree _)
  | bitOr => exact .binary (Arithmetic.bitwise_agree _)
  | bitXor => exact .binary (Arithmetic.bitwise_agree _)
  | equal => exact .binary Arithmetic.equal_agree
  | less => exact .binary Arithmetic.less_agree
  | greater => exact .binary Arithmetic.greater_agree
  | both => exact .binary fun a b => .ok (Arithmetic.choose_related a b a)
  | either => exact .binary fun a b => .ok (Arithmetic.choose_related a a b)
  | minimum => exact .binary Arithmetic.minimum_agree
  | maximum => exact .binary Arithmetic.maximum_agree
  | choose => exact .ternary fun a b c => .ok (Arithmetic.choose_related a b c)

end Stackscript
