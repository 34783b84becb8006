import Stackscript.Decimal.Printer
import Stackscript.Integer
import Stackscript.Letter
import Stackscript.Operator
import Stackscript.Position
import Stackscript.Text.Quoted

set_option autoImplicit false

/- The tokens of a program, where they stand and how they are printed. -/
namespace Stackscript

inductive TokenKind where
  | integer (value : Int64)
  | decimal (value : Decimal)
  | string (value : Text)
  | character (value : Char)
  /-- The text between an opening brace and the brace that closes it. -/
  | block (source : Text)
  | recall (letter : Letter)
  | assign (letter : Letter)
  | openBracket
  | closeBracket
  | operator (op : Operator)
  | endOfText
  deriving DecidableEq

/-- The part of a text that a token covers: bytes from `start` up to `stop`, and the place of its
first character. -/
structure Span where
  start : Nat
  stop : Nat
  position : Position
  deriving DecidableEq

structure Token where
  kind : TokenKind
  span : Span
  deriving DecidableEq

namespace TokenKind

/-- The token as it would be written in a program. -/
def render : TokenKind → Text
  | .integer n => Integer.render n
  | .decimal d => d.shortest
  | .string t => Text.quoted t
  | .character c => ['\'', c]
  | .block source => '{' :: source ++ ['}']
  | .recall letter => [letter.toChar]
  | .assign letter => [':', letter.toChar]
  | .openBracket => ['[']
  | .closeBracket => [']']
  | .operator op => op.symbol
  | .endOfText => ['E', 'O', 'F']

end TokenKind

namespace Span

def between (first last : Cursor) : Span :=
  ⟨first.offset, last.offset, first.position⟩

end Span

end Stackscript
