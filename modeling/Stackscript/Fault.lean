import Stackscript.Decimal.Printer
import Stackscript.Letter
import Stackscript.Operator
import Stackscript.Token.LexError
import Stackscript.Value.Kind

set_option autoImplicit false

/- Why a running program fails: the causes, the category and wording of each, and a cause together
with the place of the token that raised it. -/
namespace Stackscript

inductive ErrorKind where
  | stackUnderflow | typeError | conversionError | divisionByZero | invalidPattern | syntaxError
  | indexOutOfBounds | undefinedVariable | overflow | io
  deriving DecidableEq, Repr

namespace ErrorKind

def text : ErrorKind → String
  | .stackUnderflow => "stack underflow"
  | .typeError => "type error"
  | .conversionError => "conversion error"
  | .divisionByZero => "division by zero"
  | .invalidPattern => "invalid pattern"
  | .syntaxError => "syntax error"
  | .indexOutOfBounds => "index out of bounds"
  | .undefinedVariable => "undefined variable"
  | .overflow => "integer overflow"
  | .io => "i/o error"

def all : List ErrorKind := [
  .stackUnderflow, .typeError, .conversionError, .divisionByZero, .invalidPattern, .syntaxError,
  .indexOutOfBounds, .undefinedVariable, .overflow, .io]

def ofText? (text : String) : Option ErrorKind :=
  all.find? fun kind => kind.text == text

end ErrorKind

inductive Fault where
  /-- An operator needs more values than the stack holds. -/
  | underflow (needed available : Nat)
  /-- A number is the code point of no character. -/
  | invalidCode (code : Int)
  | blockInPromotion
  | notInteger (text : Text)
  | notDecimal (text : Text)
  /-- The integer part of a decimal is out of range. -/
  | doesNotFit (value : Decimal)
  | arrayConversion (target : Kind)
  | blockConversion (target : Kind)
  | overflow (op : Operator)
  | zeroDivisor
  | undefinedFor (op : Operator) (type : ValueType)
  | textAsBlock
  | cannotStep (type : ValueType)
  | emptyPattern
  | notSequence (op : Operator) (type : ValueType)
  | notText (op : Operator) (type : ValueType)
  | notBlock (op : Operator) (type : ValueType)
  /-- A repetition would pass the limit on lengths. -/
  | tooLong (length times : Nat)
  | outside (index : Int) (length : Nat)
  | emptySequence (op : Operator)
  | cannotCopy (index : Int)
  | undefinedVariable (letter : Letter)
  | unclosedBracket
  | unmatchedBracket
  /-- The body of a block has no tokens. -/
  | lexical (fault : LexFault)
  | stream (message : String)
  deriving DecidableEq

namespace Fault

def kind : Fault → ErrorKind
  | .underflow .. => .stackUnderflow
  | .invalidCode _ | .notInteger _ | .notDecimal _ | .doesNotFit _ | .arrayConversion _
  | .textAsBlock => .conversionError
  | .blockInPromotion | .blockConversion _ | .undefinedFor .. | .cannotStep _ | .notSequence ..
  | .notText .. | .notBlock .. => .typeError
  | .overflow _ | .tooLong .. => .overflow
  | .zeroDivisor => .divisionByZero
  | .emptyPattern => .invalidPattern
  | .outside .. | .emptySequence _ | .cannotCopy _ => .indexOutOfBounds
  | .undefinedVariable _ => .undefinedVariable
  | .unclosedBracket | .unmatchedBracket | .lexical _ => .syntaxError
  | .stream _ => .io

def message : Fault → String
  | .underflow needed available => s!"needed {needed} value(s), stack holds {available}"
  | .invalidCode code => s!"{code} is not a valid character code"
  | .blockInPromotion => "a Block cannot take part in promotion"
  | .notInteger text =>
    let literal := String.ofList text
    s!"\"{literal}\" is not an integer"
  | .notDecimal text =>
    let literal := String.ofList text
    s!"\"{literal}\" is not a decimal"
  | .doesNotFit value =>
    let number := String.ofList value.shortest
    s!"{number} does not fit in an Integer"
  | .arrayConversion target => s!"cannot convert an Array to {target.name}"
  | .blockConversion target => s!"cannot convert a Block to {target.name}"
  | .overflow op => s!"'{op.name}' overflowed"
  | .zeroDivisor => "divisor is zero"
  | .undefinedFor op type => s!"'{op.name}' is not defined for {type.name}"
  | .textAsBlock => "a String cannot be run as a Block"
  | .cannotStep type => s!"cannot step {type.name}"
  | .emptyPattern => "cannot split by an empty pattern"
  | .notSequence op type => s!"'{op.name}' expects a String or Array, got {type.name}"
  | .notText op type => s!"'{op.name}' expects a String, got {type.name}"
  | .notBlock op type => s!"'{op.name}' expects a Block, got {type.name}"
  | .tooLong length times => s!"repeating {length} element(s) {times} times is too long"
  | .outside index length => s!"index {index} is outside a sequence of length {length}"
  | .emptySequence op => s!"'{op.name}' on an empty sequence"
  | .cannotCopy index => s!"cannot copy element {index}"
  | .undefinedVariable letter => s!"variable {letter.toChar} has no value"
  | .unclosedBracket => "unclosed '['"
  | .unmatchedBracket => "unmatched ']'"
  | .lexical fault => fault.message
  | .stream message => message

end Fault

/-- A cause and the place of the token that raised it, unknown until a token has been found. -/
structure Failure where
  fault : Fault
  position : Position
  deriving DecidableEq

namespace Failure

/-- A failure that no token has claimed yet. -/
def ofFault (fault : Fault) : Failure := ⟨fault, .unknown⟩

/-- The failure of running a text that has no tokens. -/
def ofLexError (error : LexError) : Failure := ⟨.lexical error.fault, error.position⟩

/-- Gives the failure a place unless it has one. -/
def locate (failure : Failure) (p : Position) : Failure :=
  { failure with position := failure.position.orElse p }

end Failure

end Stackscript
