import Stackscript.Text.Extender
import Stackscript.Text.Unprintable

set_option autoImplicit false

/- Text between quotation marks. Quotes and backslashes are escaped, and so is every character
that could not be told apart on the page: controls, invisible characters and grapheme extenders. -/
namespace Stackscript.Text

def codeEscape (c : Char) : Text :=
  '\\' :: 'u' :: '{' :: Nat.toDigits 16 c.toNat ++ ['}']

def escape (c : Char) : Text :=
  if c = '\x00' then ['\\', '0']
  else if c = '\t' then ['\\', 't']
  else if c = '\r' then ['\\', 'r']
  else if c = '\n' then ['\\', 'n']
  else if c = '\\' then ['\\', '\\']
  else if c = '"' then ['\\', '"']
  else if isExtender c || isUnprintable c then codeEscape c
  else [c]

/-- Text between quotation marks, with its escapes. -/
def quoted (t : Text) : Text :=
  '"' :: t.flatMap escape ++ ['"']

end Stackscript.Text
