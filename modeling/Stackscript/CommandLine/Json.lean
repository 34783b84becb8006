import Stackscript.Program

set_option autoImplicit false

/- The outcome of a program as one JSON object without blanks. -/
namespace Stackscript.CommandLine

def jsonEscape (c : Char) : Text :=
  if c = '"' then ['\\', '"']
  else if c = '\\' then ['\\', '\\']
  else if c = '\x08' then ['\\', 'b']
  else if c = '\x0c' then ['\\', 'f']
  else if c = '\n' then ['\\', 'n']
  else if c = '\r' then ['\\', 'r']
  else if c = '\t' then ['\\', 't']
  else if c.toNat < 0x20 then
    '\\' :: 'u' :: Text.padStart 4 '0' (Nat.toDigits 16 c.toNat)
  else [c]

def jsonString (t : Text) : Text :=
  '"' :: t.flatMap jsonEscape ++ ['"']

def jsonArray (items : List Text) : Text :=
  '[' :: [','].intercalate items ++ [']']

def jsonObject (fields : List (String × Text)) : Text :=
  '{' :: [','].intercalate
    (fields.map fun (name, value) => jsonString name.toList ++ ':' :: value) ++ ['}']

def jsonError (d : Diagnostic) : Text :=
  jsonObject [
    ("kind", jsonString d.kind.text.toList),
    ("message", jsonString d.message.toList),
    ("line", Text.ofNat d.position.line),
    ("column", Text.ofNat d.position.column)]

/-- The stack a program left, what it printed, and its error if it failed. -/
def jsonOutcome (s : Stack) (printed : Text) (error : Option Diagnostic) : Text :=
  jsonObject ([
    ("status", jsonString (if error.isSome then "error" else "complete").toList),
    ("stack", jsonArray ((Value.inspectAll s.toList).map jsonString)),
    ("printed", jsonString printed)] ++
    error.toList.map fun d => ("error", jsonError d))

end Stackscript.CommandLine
