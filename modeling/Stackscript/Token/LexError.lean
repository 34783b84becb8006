import Stackscript.Position

set_option autoImplicit false

/- Why a program text has no tokens, and where. -/
namespace Stackscript

inductive LexFault where
  | unclosedBracket
  | unmatchedBracket
  | unmatchedBrace
  | unterminatedBlock
  | unterminatedString
  | invalidEscape (c : Char)
  | missingCharacter
  | missingName
  | invalidInteger (text : Text)
  | unexpected (c : Char)
  deriving DecidableEq

def LexFault.message : LexFault → String
  | .unclosedBracket => "Unclosed '['"
  | .unmatchedBracket => "Unmatched ']'"
  | .unmatchedBrace => "Unmatched '\x7d'"
  | .unterminatedBlock => "Unterminated block"
  | .unterminatedString => "Unterminated string literal"
  | .invalidEscape c => s!"Invalid escape sequence: \\{c}"
  | .missingCharacter => "Expected a character after '\\''"
  | .missingName => "Expected a variable name (A-Z) after ':'"
  | .invalidInteger text =>
    let literal := String.ofList text
    s!"Invalid integer literal: {literal}"
  | .unexpected c => s!"Unexpected character: '{c}'"

structure LexError where
  fault : LexFault
  position : Position
  deriving DecidableEq

end Stackscript
