import Stackscript.Value.Basic

set_option autoImplicit false

/- The two texts of a value: the plain one that programs print, in which elements run together, and
the one for inspection, which looks like source. -/
namespace Stackscript.Value

/-- A decimal with six places. -/
def renderDecimal (d : Decimal) : Text :=
  d.fixed 6

/-- A decimal with as many of six places as are needed, and at least one. -/
def inspectDecimal (d : Decimal) : Text :=
  if d.isFinite then
    let trimmed := ((renderDecimal d).reverse.dropWhile (· == '0')).reverse
    if trimmed.getLast? = some '.' then trimmed ++ ['0'] else trimmed
  else renderDecimal d

mutual

def render : Value → Text
  | .character c => [c]
  | .integer n => Integer.render n
  | .decimal d => renderDecimal d
  | .string t => t
  | .array elements => renderAll elements
  | .block b => '{' :: b.source ++ ['}']

def renderAll : List Value → Text
  | [] => []
  | value :: values => render value ++ renderAll values

end

mutual

def inspect : Value → Text
  | .character c => ['\'', c]
  | .integer n => Integer.render n
  | .decimal d => inspectDecimal d
  | .string t => Text.quoted t
  | .array elements => '[' :: [' '].intercalate (inspectAll elements) ++ [']']
  | .block b => '{' :: b.source ++ ['}']

def inspectAll : List Value → List Text
  | [] => []
  | value :: values => inspect value :: inspectAll values

end

end Stackscript.Value
