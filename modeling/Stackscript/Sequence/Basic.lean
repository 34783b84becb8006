import Stackscript.Sequence.Search
import Stackscript.Sequence.Sort
import Stackscript.Value.Order

set_option autoImplicit false

/- Operations on strings and arrays. Strings are sequences of characters, and indices and lengths
count them; only the limit on repetition counts the bytes of a string. -/
namespace Stackscript.Sequence

/-- Joins two sequences after promotion. -/
def concat (a b : Value) : Except Fault Value := do
  match ← Value.promote a b with
  | .strings s t => return .string (s ++ t)
  | .arrays xs ys => return .array (xs ++ ys)
  | other => throw (.notSequence .add other.type)

def repeatLimit : Nat := 0x10000000

/-- The list one after another, the given number of times. -/
def repeated {α : Type} (times : Nat) (items : List α) : List α :=
  if items.isEmpty then [] else (List.replicate times items).flatten

def checkLength (length times : Nat) : Except Fault Unit :=
  if length * times ≤ repeatLimit then .ok () else .error (.tooLong length times)

/-- Repeats a sequence; a negative count counts as zero. -/
def replicate (seq : Value) (count : Int64) : Except Fault Value := do
  let times := count.toInt.toNat
  match seq with
  | .string t =>
    checkLength (Text.byteLength t) times
    return .string (repeated times t)
  | .array elements =>
    checkLength elements.length times
    return .array (repeated times elements)
  | other => throw (.notSequence .multiply other.type)

/-- The pieces of a list between occurrences of a pattern, which may not be empty. -/
def separate {α : Type} [BEq α] (items pattern : List α) : Except Fault (List (List α)) :=
  match pattern with
  | [] => .error .emptyPattern
  | p :: ps => .ok (pieces p ps items)

/-- Cuts a sequence at each occurrence of another: strings into strings, arrays into arrays. -/
def split (a b : Value) : Except Fault Value := do
  match ← Value.promote a b with
  | .strings t pattern => return .array ((← separate t pattern).map .string)
  | .arrays items pattern => return .array ((← separate items pattern).map .array)
  | other => throw (.notSequence .divide other.type)

/-- The index of the first occurrence of a pattern, or minus one. -/
def position {α : Type} [BEq α] (items pattern : List α) : Int64 :=
  match indexOf? pattern items with
  | some i => Int64.ofNat i
  | none => -1

/-- The index of the first occurrence of one sequence in another, or minus one. -/
def indexOf (a b : Value) : Except Fault Value := do
  match ← Value.promote a b with
  | .strings t pattern => return .integer (position t pattern)
  | .arrays items pattern => return .integer (position items pattern)
  | other => throw (.notSequence .power other.type)

/-- The element at an index, which counts from the end when it is negative. -/
def elementAt (seq : Value) (index : Int64) : Except Fault Value := do
  let items ← seq.toArray
  let offset := if index.toInt < 0 then index.toInt + items.length else index.toInt
  let found := if offset < 0 then none else items[offset.toNat]?
  match found with
  | some value => return value
  | none => throw (.outside index.toInt items.length)

/-- The first elements of a sequence; a negative count counts as zero. -/
def take (seq : Value) (count : Int64) : Except Fault Value :=
  match seq with
  | .string t => .ok (.string (t.take count.toInt.toNat))
  | .array items => .ok (.array (items.take count.toInt.toNat))
  | other => .error (.notSequence .less other.type)

/-- A sequence without its first elements; a negative count counts as zero. -/
def drop (seq : Value) (count : Int64) : Except Fault Value :=
  match seq with
  | .string t => .ok (.string (t.drop count.toInt.toNat))
  | .array items => .ok (.array (items.drop count.toInt.toNat))
  | other => .error (.notSequence .greater other.type)

/-- A sequence without its first element, and that element. -/
def uncons : Value → Except Fault (Value × Value)
  | .string (c :: rest) => .ok (.string rest, .character c)
  | .array (x :: rest) => .ok (.array rest, x)
  | .string [] | .array [] => .error (.emptySequence .first)
  | other => .error (.notSequence .first other.type)

def unsnoc : Value → Except Fault (Value × Value)
  | .string t =>
    match t.getLast? with
    | some c => .ok (.string t.dropLast, .character c)
    | none => .error (.emptySequence .last)
  | .array items =>
    match items.getLast? with
    | some x => .ok (.array items.dropLast, x)
    | none => .error (.emptySequence .last)
  | other => .error (.notSequence .last other.type)

def range (bound : Int64) : Value :=
  .array ((List.range bound.toInt.toNat).map fun i => .integer (Int64.ofNat i))

def words : Value → Except Fault Value
  | .string t => .ok (.array ((Text.words t).map .string))
  | other => .error (.notText .words other.type)

def lines : Value → Except Fault Value
  | .string t => .ok (.array ((Text.lines t).map .string))
  | other => .error (.notText .lines other.type)

def characters? : List Value → Option Text
  | [] => some []
  | .character c :: rest => (characters? rest).map (c :: ·)
  | _ :: _ => none

/-- What became of a sequence: a string again if it was one and holds only characters. -/
def restore (items : List Value) (wasText : Bool) : Value :=
  match wasText, characters? items with
  | true, some t => .string t
  | _, _ => .array items

def isText : Value → Bool
  | .string _ => true
  | _ => false

def sort (seq : Value) : Except Fault Value := do
  if seq.isSequence then
    return restore (← mergeSort Value.less (← seq.toArray)) (isText seq)
  else throw (.notSequence .sort seq.type)

end Stackscript.Sequence
