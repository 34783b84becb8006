import Stackscript.Arithmetic
import Stackscript.CommandLine.Arguments
import Stackscript.CommandLine.Command
import Stackscript.CommandLine.Json
import Stackscript.Decimal.Arithmetic
import Stackscript.Decimal.Basic
import Stackscript.Decimal.Printer
import Stackscript.Decimal.Reader
import Stackscript.Decimal.Rounding
import Stackscript.Diagnostic
import Stackscript.Fault
import Stackscript.Integer
import Stackscript.Letter
import Stackscript.Machine.Basic
import Stackscript.Machine.Engine
import Stackscript.Machine.Exec
import Stackscript.Machine.Input
import Stackscript.Machine.Meaning
import Stackscript.Machine.Output
import Stackscript.Machine.Run
import Stackscript.Main
import Stackscript.Operator
import Stackscript.Position
import Stackscript.Program
import Stackscript.Proofs.Arithmetic.Power
import Stackscript.Proofs.CommandLine.FirstLine
import Stackscript.Proofs.Correspondence.Arithmetic
import Stackscript.Proofs.Correspondence.Execution
import Stackscript.Proofs.Decimal.Whole
import Stackscript.Proofs.Diagnostic.Caret
import Stackscript.Proofs.Machine.Filter
import Stackscript.Proofs.Machine.Fold
import Stackscript.Proofs.Machine.Frame
import Stackscript.Proofs.Machine.Lines
import Stackscript.Proofs.Machine.Rotation
import Stackscript.Proofs.Machine.Underflow
import Stackscript.Proofs.Program.Concatenation
import Stackscript.Proofs.Program.Frame
import Stackscript.Proofs.Program.Inlining
import Stackscript.Proofs.Program.Inspection
import Stackscript.Proofs.Program.Session
import Stackscript.Proofs.Sequence.Characters
import Stackscript.Proofs.Sequence.Comparator
import Stackscript.Proofs.Sequence.FirstMatch
import Stackscript.Proofs.Sequence.Inquiry
import Stackscript.Proofs.Sequence.Neighbours
import Stackscript.Proofs.Sequence.Repetition
import Stackscript.Proofs.Sequence.Search
import Stackscript.Proofs.Sequence.Slicing
import Stackscript.Proofs.Sequence.Stability
import Stackscript.Proofs.Text.Encoding
import Stackscript.Proofs.Text.Lines
import Stackscript.Proofs.Token.Compose
import Stackscript.Proofs.Token.Count
import Stackscript.Proofs.Token.Lexed
import Stackscript.Proofs.Token.Place
import Stackscript.Proofs.Token.Spelling
import Stackscript.Proofs.Token.Tiling
import Stackscript.Proofs.Token.Translation
import Stackscript.Proofs.Value.Antisymmetry
import Stackscript.Proofs.Value.Numeral
import Stackscript.Proofs.Value.Order
import Stackscript.Proofs.Value.RoundTrip
import Stackscript.Proofs.Value.Supplied
import Stackscript.Proofs.Value.Totality
import Stackscript.Sequence.Basic
import Stackscript.Sequence.Search
import Stackscript.Sequence.Sort
import Stackscript.Stack
import Stackscript.Text.Basic
import Stackscript.Text.Digits
import Stackscript.Text.Extender
import Stackscript.Text.Quoted
import Stackscript.Text.Unprintable
import Stackscript.Token.Basic
import Stackscript.Token.LexError
import Stackscript.Token.Lexer
import Stackscript.Value.Basic
import Stackscript.Value.Conversion
import Stackscript.Value.Kind
import Stackscript.Value.Order
import Stackscript.Value.Printer
