import Stackscript.Fault

set_option autoImplicit false

/- Errors as they are shown: in one line, or with the source lines around the place. -/
namespace Stackscript

inductive Stage where
  | lexical | runtime
  deriving DecidableEq, Repr

def Stage.title : Stage → String
  | .lexical => "Lexical error"
  | .runtime => "Runtime error"

structure Diagnostic where
  stage : Stage
  kind : ErrorKind
  message : String
  position : Position

namespace Diagnostic

/-- A text without tokens is a syntax error. -/
def ofLexError (error : LexError) : Diagnostic :=
  ⟨.lexical, .syntaxError, error.fault.message, error.position⟩

def ofFailure (failure : Failure) : Diagnostic :=
  ⟨.runtime, failure.fault.kind, failure.fault.message, failure.position⟩

/-- The message, after its category if it was raised by a running program. -/
def summary (d : Diagnostic) : String :=
  match d.stage with
  | .lexical => d.message
  | .runtime => s!"{d.kind.text}: {d.message}"

def display (d : Diagnostic) : String :=
  s!"{d.stage.title} at line {d.position.line}, column {d.position.column}: {d.summary}"

/-- The heading of a report; a column is named only if it is known. -/
def header (d : Diagnostic) : String :=
  if d.position.column = 0 then s!"\n{d.stage.title} at line {d.position.line}: {d.summary}\n\n"
  else
    s!"\n{d.stage.title} at line {d.position.line}, column {d.position.column}: {d.summary}\n\n"

end Diagnostic

inductive ReportLine where
  /-- The source line of the error. -/
  | marked (number : Nat) (content : Text)
  /-- Points at a column of the line above. -/
  | caret (column : Nat)
  /-- A source line near the error. -/
  | plain (number : Nat) (content : Text)
  deriving DecidableEq

namespace ReportLine

/-- A line number in four places, and the bar that sets it off. -/
def margin (number : Nat) : Text :=
  Text.padStart 4 ' ' (Text.ofNat number) ++ [' ', '|', ' ']

/-- The text of a line, with its line feed. -/
def render : ReportLine → Text
  | .marked number content => [' ', '→', ' '] ++ margin number ++ content ++ ['\n']
  | .caret column =>
    List.replicate 8 ' ' ++ ['|', ' '] ++ List.replicate (column - 1) ' ' ++ ['^', '\n']
  | .plain number content => [' ', ' ', ' '] ++ margin number ++ content ++ ['\n']

end ReportLine

namespace Diagnostic

/-- One source line of a report; under the line of the error stands a caret if the column is
known. -/
def reportLine (d : Diagnostic) (content : Text) (index : Nat) : List ReportLine :=
  if index ≠ d.position.line.toNat - 1 then [.plain (index + 1) content]
  else if d.position.column = 0 then [.marked (index + 1) content]
  else [.marked (index + 1) content, .caret d.position.column]

/-- The source lines around an error: its line, two before it and two after it. -/
def reportLines (d : Diagnostic) (source : Text) : List ReportLine :=
  let index := d.position.line.toNat - 1
  (((Text.lines source).zipIdx.take (index + 3)).drop (index - 2)).flatMap fun (content, i) =>
    d.reportLine content i

/-- The error with the source lines around it. -/
def report (d : Diagnostic) (source : Text) : Text :=
  d.header.toList ++ (d.reportLines source).flatMap ReportLine.render

end Diagnostic

end Stackscript
