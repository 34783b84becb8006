import Stackscript.Text.Basic

set_option autoImplicit false

/- Places in a program text. Lines and columns count from one, columns in characters, in counters of
32 bits that wrap around; offsets count the bytes of the UTF-8 form. -/
namespace Stackscript

/-- A counter is shown as the number that it holds. -/
scoped instance counterToNat : CoeOut UInt32 Nat := ⟨UInt32.toNat⟩

/-- A number is counted modulo `2 ^ 32`. -/
scoped instance counterOfNat : Coe Nat UInt32 := ⟨UInt32.ofNat⟩

/-- A line and column; line zero stands for a place that is not known. -/
structure Position where
  line : UInt32
  column : UInt32
  deriving DecidableEq, Repr

namespace Position

def start : Position := ⟨1, 1⟩

/-- The place of what no token raised. -/
def unknown : Position := ⟨0, 0⟩

def advance (p : Position) (c : Char) : Position :=
  if c = '\n' then ⟨p.line + 1, 1⟩ else ⟨p.line, p.column + 1⟩

def advanceAll (p : Position) (t : Text) : Position :=
  t.foldl advance p

@[simp] theorem advanceAll_nil (p : Position) : p.advanceAll [] = p := rfl

@[simp] theorem advanceAll_cons (p : Position) (c : Char) (t : Text) :
    p.advanceAll (c :: t) = (p.advance c).advanceAll t := rfl

theorem advanceAll_append (p : Position) (s t : Text) :
    p.advanceAll (s ++ t) = (p.advanceAll s).advanceAll t :=
  List.foldl_append

/-- Keeps a known place and otherwise takes the other one. -/
def orElse (p other : Position) : Position :=
  if p.line = 0 then other else p

end Position

/-- How far a text has been read: the bytes behind and the place of the next character. -/
structure Cursor where
  offset : Nat
  position : Position
  deriving DecidableEq, Repr

namespace Cursor

/-- The cursor before the first character of a text that begins at `p`. -/
def ofPosition (p : Position) : Cursor := ⟨0, p⟩

def advance (cursor : Cursor) (c : Char) : Cursor :=
  ⟨cursor.offset + c.utf8Size, cursor.position.advance c⟩

def advanceAll (cursor : Cursor) (t : Text) : Cursor :=
  t.foldl advance cursor

theorem advanceAll_append (cursor : Cursor) (s t : Text) :
    cursor.advanceAll (s ++ t) = (cursor.advanceAll s).advanceAll t :=
  List.foldl_append

theorem advanceAll_eq (cursor : Cursor) (t : Text) :
    cursor.advanceAll t =
      ⟨cursor.offset + Text.byteLength t, cursor.position.advanceAll t⟩ := by
  induction t generalizing cursor with
  | nil => rfl
  | cons c cs ih =>
    change (cursor.advance c).advanceAll cs = _
    rw [ih]
    simp [advance, Text.byteLength, Nat.add_assoc]

theorem offset_advanceAll (p : Position) (t : Text) :
    ((ofPosition p).advanceAll t).offset = Text.byteLength t := by
  rw [advanceAll_eq]
  exact Nat.zero_add _

theorem position_advanceAll (p : Position) (t : Text) :
    ((ofPosition p).advanceAll t).position = p.advanceAll t := by
  rw [advanceAll_eq]
  rfl

end Cursor

end Stackscript
