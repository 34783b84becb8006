import Stackscript.Text.Basic

set_option autoImplicit false

/- The operators of the language and the symbols they are written with. -/
namespace Stackscript

inductive Operator where
  | duplicate | discard | swap | rotate | readLine | readAll | print | toInteger | toDecimal
  | toCharacter | toText | negation | words | lines | expand | sort | first | last | count
  | loop | add | subtract | multiply | divide | remainder | power | bitAnd | bitOr | bitXor
  | equal | less | greater | both | either | minimum | maximum | choose
  deriving DecidableEq, Repr

namespace Operator

def symbol : Operator → Text
  | .duplicate => ['_']
  | .discard => [';']
  | .swap => ['\\']
  | .rotate => ['@']
  | .readLine => ['l']
  | .readAll => ['t']
  | .print => ['p']
  | .toInteger => ['i']
  | .toDecimal => ['f']
  | .toCharacter => ['c']
  | .toText => ['s']
  | .negation => ['!']
  | .words => ['S', '/']
  | .lines => ['N', '/']
  | .expand => ['~']
  | .sort => ['$']
  | .first => ['(']
  | .last => [')']
  | .count => [',']
  | .loop => ['w']
  | .add => ['+']
  | .subtract => ['-']
  | .multiply => ['*']
  | .divide => ['/']
  | .remainder => ['%']
  | .power => ['#']
  | .bitAnd => ['&']
  | .bitOr => ['|']
  | .bitXor => ['^']
  | .equal => ['=']
  | .less => ['<']
  | .greater => ['>']
  | .both => ['e', '&']
  | .either => ['e', '|']
  | .minimum => ['e', '<']
  | .maximum => ['e', '>']
  | .choose => ['?']

def all : List Operator := [
  .duplicate, .discard, .swap, .rotate, .readLine, .readAll, .print, .toInteger, .toDecimal,
  .toCharacter, .toText, .negation, .words, .lines, .expand, .sort, .first, .last, .count,
  .loop, .add, .subtract, .multiply, .divide, .remainder, .power, .bitAnd, .bitOr, .bitXor,
  .equal, .less, .greater, .both, .either, .minimum, .maximum, .choose]

theorem mem_all (op : Operator) : op ∈ all := by
  cases op <;> decide

def ofSymbol? (t : Text) : Option Operator :=
  all.find? fun op => op.symbol == t

theorem ofSymbol?_symbol (op : Operator) : ofSymbol? op.symbol = some op := by
  cases op <;> decide

theorem symbol_of_ofSymbol? {t : Text} {op : Operator} (h : ofSymbol? t = some op) :
    op.symbol = t := by
  have found := List.find?_some h
  simpa using found

/-- The symbol as it stands in messages. -/
def name (op : Operator) : String :=
  String.ofList op.symbol

end Operator

end Stackscript
