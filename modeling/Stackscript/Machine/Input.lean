import Stackscript.Fault

set_option autoImplicit false

/- Input is read a line at a time. Bytes are cut at line feeds before they are decoded, so that only
a line that is no UTF-8 fails, and it is used up by the attempt to read it. -/
namespace Stackscript

/-- The lines still to be read, each with its terminator; nothing stands for one that is no
UTF-8. -/
structure Input where
  lines : List (Option Text)

namespace Input

def empty : Input := ⟨[]⟩

def ofText (t : Text) : Input :=
  ⟨(Text.rawLines t).map some⟩

/-- Bytes up to each line feed; only the last piece may lack it, and none is empty. -/
def cutLines : List UInt8 → List (List UInt8)
  | [] => []
  | byte :: bytes =>
    if byte = 0x0A then [byte] :: cutLines bytes
    else match cutLines bytes with
      | [] => [[byte]]
      | line :: lines => (byte :: line) :: lines

def decode? (bytes : List UInt8) : Option Text :=
  (String.fromUTF8? ⟨bytes.toArray⟩).map String.toList

def ofBytes (bytes : List UInt8) : Input :=
  ⟨(cutLines bytes).map decode?⟩

def invalid : Fault := .stream "stream did not contain valid UTF-8"

/-- The next line without its terminator, or nothing at the end, and the input after it. -/
def next : Input → Except Fault (Option Text) × Input
  | ⟨[]⟩ => (.ok none, ⟨[]⟩)
  | ⟨none :: rest⟩ => (.error invalid, ⟨rest⟩)
  | ⟨some line :: rest⟩ => (.ok (some (Text.dropTerminator line)), ⟨rest⟩)

/-- The line that ends the reading of all lines. -/
def sentinel : Text := "--ENDOFFILE--".toList

/-- All lines up to the sentinel, which is used up with them, or up to the end. -/
def untilSentinel : List (Option Text) → Except Fault (List Text) × List (Option Text)
  | [] => (.ok [], [])
  | none :: rest => (.error invalid, rest)
  | some line :: rest =>
    if Text.dropTerminator line = sentinel then (.ok [], rest)
    else
      let (result, rest) := untilSentinel rest
      (result.map (Text.dropTerminator line :: ·), rest)

/-- All lines up to the sentinel or the end, joined by spaces, and the input after them. -/
def readAll (input : Input) : Except Fault Text × Input :=
  let (result, rest) := untilSentinel input.lines
  (result.map [' '].intercalate, ⟨rest⟩)

end Input

end Stackscript
