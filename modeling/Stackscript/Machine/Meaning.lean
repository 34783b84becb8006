import Stackscript.Arithmetic
import Stackscript.Machine.Engine

set_option autoImplicit false

/- What each operator does. Its shape fixes how many operands it takes off the stack, which is
checked before any of them is touched, and whether its result is put back. -/
namespace Stackscript

/-- What an operator does, by how it takes its operands; of several, the deepest comes first. -/
inductive Meaning where
  /-- Works on the live stack. -/
  | onStack (act : Run Unit)
  | unary (f : Value → Except Fault Value)
  | binary (f : Value → Value → Except Fault Value)
  | ternary (f : Value → Value → Value → Except Fault Value)
  /-- Takes one operand and may run blocks or leave any number of results. -/
  | unaryRun (f : Value → Run Unit)
  /-- Takes two operands and may run blocks or leave any number of results. -/
  | binaryRun (f : Value → Value → Run Unit)

namespace Meaning

def arity : Meaning → Nat
  | .onStack _ => 0
  | .unary _ | .unaryRun _ => 1
  | .binary _ | .binaryRun _ => 2
  | .ternary _ => 3

def pushesResult : Meaning → Bool
  | .unary _ | .binary _ | .ternary _ => true
  | _ => false

/-- Takes the operands off the stack and does the work; with too few values on the stack it fails
and leaves them. -/
def apply (meaning : Meaning) : Run Unit := do
  Run.require meaning.arity
  match meaning with
  | .onStack act => act
  | .unary f =>
    let a ← Run.pop
    Run.push (← Run.ofExcept (f a))
  | .binary f =>
    let b ← Run.pop
    let a ← Run.pop
    Run.push (← Run.ofExcept (f a b))
  | .ternary f =>
    let c ← Run.pop
    let b ← Run.pop
    let a ← Run.pop
    Run.push (← Run.ofExcept (f a b c))
  | .unaryRun f =>
    let a ← Run.pop
    f a
  | .binaryRun f =>
    let b ← Run.pop
    let a ← Run.pop
    f a b

end Meaning

namespace Engine

/-- Changes the live stack, or fails and leaves it. -/
def onLive (change : Stack → Except Fault Stack) : Run Unit := do
  Run.setStack (← Run.ofExcept (change (← Run.stack)))

/-- Runs a block, spills an array, or complements an integer. -/
def expand (engine : Engine) : Value → Run Unit
  | .block b => engine.run b.code
  | .array elements => do Run.setStack ((← Run.stack).merge (.ofList elements))
  | other => do Run.push (← Run.ofExcept (Arithmetic.complement other))

/-- Sorts the sequence below a block by that block, sorts a sequence by the order of values, or
copies the value at the depth that an integer tells. -/
def sort (engine : Engine) : Run Unit := do
  match (← Run.stack).top? with
  | none => Run.fail (.underflow 1 0)
  | some (.integer n) =>
    if n.toInt < 0 then Run.fail (.cannotCopy n.toInt)
    else
      Run.require (n.toInt.toNat + 2)
      let _ ← Run.pop
      Run.push (← Run.ofExcept ((← Run.stack).peek n.toInt.toNat))
  | some (.block b) =>
    Run.require 2
    let _ ← Run.pop
    let target ← Run.pop
    let items ← Run.ofExcept target.toArray
    Run.push (Sequence.restore (← engine.sortBy b.code items) (Sequence.isText target))
  | some value =>
    let _ ← Run.pop
    if value.isSequence then Run.push (← Run.ofExcept (Sequence.sort value))
    else Run.fail (.undefinedFor .sort value.type)

/-- Keeps the elements below a block that it accepts, counts the elements of a sequence, or lists
the integers below an integer. -/
def count (engine : Engine) : Run Unit := do
  match (← Run.stack).top? with
  | none => Run.fail (.underflow 1 0)
  | some (.block b) =>
    Run.require 2
    let _ ← Run.pop
    let target ← Run.pop
    let items ← Run.ofExcept target.toArray
    Run.push (Sequence.restore (← engine.filter b.code items) (Sequence.isText target))
  | some value =>
    let _ ← Run.pop
    match value with
    | .integer n => Run.push (Sequence.range n)
    | .string t => Run.push (.integer (Int64.ofNat t.length))
    | .array elements => Run.push (.integer (Int64.ofNat elements.length))
    | other => Run.fail (.undefinedFor .count other.type)

/-- Splits an end off a sequence, or moves a number by a distance. -/
def cut (split : Value → Except Fault (Value × Value)) (distance : Int64) (value : Value) :
    Run Unit := do
  if value.isSequence then
    let (rest, element) ← Run.ofExcept (split value)
    Run.push rest
    Run.push element
  else Run.push (← Run.ofExcept (Arithmetic.step value distance))

/-- Runs a block as long as the top of the stack counts as true. -/
def loop (engine : Engine) : Value → Run Unit
  | .block b => Run.whileTrue (engine.run b.code) engine.rounds
  | other => Run.fail (.notBlock .loop other.type)

/-- Runs a block a number of times, folds a sequence by a block, repeats a sequence, or
multiplies. -/
def multiply (engine : Engine) (a b : Value) : Run Unit := do
  match a, b with
  | .block block, .integer n | .integer n, .block block =>
    Run.times (engine.run block.code) n.toInt.toNat
  | a, .block block =>
    if a.isSequence then Run.push (← engine.fold block.code (← Run.ofExcept a.toArray))
    else Run.push (← Run.ofExcept (Arithmetic.multiply a (.block block)))
  | a, b => Run.push (← Run.ofExcept (Arithmetic.multiply a b))

/-- Runs a block on each element of a sequence, or takes the remainder. -/
def remainder (engine : Engine) (a b : Value) : Run Unit := do
  match a.isSequence, b with
  | true, .block block =>
    Run.push (.array (← engine.map block.code (← Run.ofExcept a.toArray)))
  | _, b => Run.push (← Run.ofExcept (Arithmetic.remainder a b))

end Engine

/-- What an operator does, when blocks are run by the given engine. -/
def Operator.meaning (engine : Engine) : Operator → Meaning
  | .duplicate => .onStack (Engine.onLive Stack.duplicate)
  | .discard => .onStack (Engine.onLive fun s => .ok s.eraseTop)
  | .swap => .onStack (Engine.onLive fun s => s.rotateTop 2)
  | .rotate => .onStack (Engine.onLive fun s => s.rotateTop 3)
  | .readLine => .onStack Run.readLine
  | .readAll => .onStack Run.readAll
  | .print => .onStack Run.print
  | .toInteger => .unary fun a => .integer <$> a.toInteger
  | .toDecimal => .unary fun a => .decimal <$> a.toDecimal
  | .toCharacter => .unary fun a => .character <$> a.toCharacter
  | .toText => .unary fun a => .string <$> a.toText
  | .negation => .unary fun a => .ok (Arithmetic.negation a)
  | .words => .unary Sequence.words
  | .lines => .unary Sequence.lines
  | .expand => .unaryRun engine.expand
  | .sort => .onStack engine.sort
  | .first => .unaryRun (Engine.cut Sequence.uncons (-1))
  | .last => .unaryRun (Engine.cut Sequence.unsnoc 1)
  | .count => .onStack engine.count
  | .loop => .unaryRun engine.loop
  | .add => .binary Arithmetic.add
  | .subtract => .binary Arithmetic.subtract
  | .multiply => .binaryRun engine.multiply
  | .divide => .binary Arithmetic.divide
  | .remainder => .binaryRun engine.remainder
  | .power => .binary Arithmetic.power
  | .bitAnd => .binary Arithmetic.bitAnd
  | .bitOr => .binary Arithmetic.bitOr
  | .bitXor => .binary Arithmetic.bitXor
  | .equal => .binary Arithmetic.equal
  | .less => .binary Arithmetic.less
  | .greater => .binary Arithmetic.greater
  | .both => .binary fun a b => .ok (Arithmetic.both a b)
  | .either => .binary fun a b => .ok (Arithmetic.either a b)
  | .minimum => .binary Arithmetic.minimum
  | .maximum => .binary Arithmetic.maximum
  | .choose => .ternary fun a b c => .ok (Arithmetic.choose a b c)

end Stackscript
