set_option autoImplicit false

/- Text as a list of characters, and the ways the language cuts it: whitespace is trimmed and
separates words, and a line feed ends a line. -/
namespace Stackscript

/-- Program text, string values and everything that is printed. -/
abbrev Text := List Char

namespace Text

/-- Whitespace: the characters with the Unicode property White_Space. -/
def isBlank (c : Char) : Bool :=
  let n := c.toNat
  (0x9 ≤ n && n ≤ 0xD) || n == 0x20 || n == 0x85 || n == 0xA0 || n == 0x1680 ||
    (0x2000 ≤ n && n ≤ 0x200A) || n == 0x2028 || n == 0x2029 || n == 0x202F || n == 0x205F ||
    n == 0x3000

def byteLength : Text → Nat
  | [] => 0
  | c :: cs => c.utf8Size + byteLength cs

theorem byteLength_append (s t : Text) :
    byteLength (s ++ t) = byteLength s + byteLength t := by
  induction s with
  | nil => simp [byteLength]
  | cons c cs ih => simp only [List.cons_append, byteLength, ih, Nat.add_assoc]

def trim (t : Text) : Text :=
  ((t.dropWhile isBlank).reverse.dropWhile isBlank).reverse

/-- Pieces between the characters that satisfy `separates`, empty pieces included. -/
def splitBy (separates : Char → Bool) : Text → List Text
  | [] => [[]]
  | c :: cs =>
    if separates c then [] :: splitBy separates cs
    else match splitBy separates cs with
      | [] => [[c]]
      | piece :: pieces => (c :: piece) :: pieces

/-- Maximal runs of characters that are not whitespace. -/
def words (t : Text) : List Text :=
  (splitBy isBlank t).filter (!·.isEmpty)

/-- Lines with their line feeds; only the last one may lack it, and none is empty. -/
def rawLines : Text → List Text
  | [] => []
  | c :: cs =>
    if c = '\n' then [c] :: rawLines cs
    else match rawLines cs with
      | [] => [[c]]
      | line :: lines => (c :: line) :: lines

def dropTrailing (c : Char) (t : Text) : Text :=
  if t.getLast? = some c then t.dropLast else t

/-- A line without its terminator: the line feed and one carriage return before it. -/
def dropTerminator (line : Text) : Text :=
  if line.getLast? = some '\n' then dropTrailing '\r' line.dropLast else line

/-- Lines without their terminators. -/
def lines (t : Text) : List Text :=
  (rawLines t).map dropTerminator

/-- Puts `pad` in front until the text has `width` characters. -/
def padStart (width : Nat) (pad : Char) (t : Text) : Text :=
  List.replicate (width - t.length) pad ++ t

end Text

end Stackscript
