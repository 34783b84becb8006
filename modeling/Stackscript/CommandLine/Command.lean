import Stackscript.CommandLine.Arguments
import Stackscript.CommandLine.Json

set_option autoImplicit false

/- The command as a function: from its arguments, its standard input and the files it may read to
what it writes and the code it ends with. Code 1 stands for arguments or files that cannot be used
and code 2 for a program that fails. -/
namespace Stackscript.CommandLine

/-- What the command can read: standard input, and files by name, or why one cannot be read. -/
structure Environment where
  stdin : List UInt8
  file : Text → Except Text (List UInt8)

/-- What the command writes and the code it ends with. -/
structure Transcript where
  code : Nat
  stdout : Text
  stderr : Text

def banner : Text := "golfin 0.1.0".toList

def usage : Text :=
  ("Usage: golfin [OPTIONS] [SCRIPT]\n\n" ++
    "  -e, --eval CODE     run the program CODE\n" ++
    "  -i, --input FILE    read the program's input from FILE\n" ++
    "  -o, --output MODE   write the outcome as text or json\n" ++
    "  -r, --repl          run a program for each line of standard input\n" ++
    "  -h, --help          print this help\n" ++
    "  -V, --version       print the version\n\n" ++
    "With no SCRIPT and no CODE the first line of standard input is the program\n" ++
    "and the other lines are its input.\n").toList

/-- An end before any program is run, with one line on standard error. -/
def refuse (line : Text) : Transcript :=
  ⟨1, [], line ++ ['\n']⟩

def complaint (action : String) (name reason : Text) : Text :=
  action.toList ++ [' ', '\''] ++ name ++ ['\'', ':', ' '] ++ reason

/-- Why bytes that are no UTF-8 cannot be read. -/
def invalidText : Text := Input.invalid.message.toList

def readText (env : Environment) (name : Text) : Except Text Text :=
  match env.file name with
  | .error reason => .error reason
  | .ok bytes =>
    match Input.decode? bytes with
    | some t => .ok t
    | none => .error invalidText

/-- The program, and the input that is left for it on standard input. The program is the text given
as an argument, or a script, or the first line of standard input with its terminator. -/
def readSource (env : Environment) (inv : Invocation) : Except Transcript (Text × Input) :=
  let stdin := Input.ofBytes env.stdin
  match inv.eval, inv.script with
  | some source, _ => .ok (source, stdin)
  | none, some name =>
    match readText env name with
    | .ok source => .ok (source, stdin)
    | .error reason => .error (refuse (complaint "Error reading file" name reason))
  | none, none =>
    match stdin.lines with
    | [] => .ok ([], stdin)
    | some source :: rest => .ok (source, ⟨rest⟩)
    | none :: _ => .error (refuse ("Error reading from stdin: ".toList ++ invalidText))

/-- The input of the program: a file, or what is left of standard input. -/
def readInput (env : Environment) (inv : Invocation) (stdin : Input) : Except Transcript Input :=
  match inv.input with
  | none => .ok stdin
  | some name =>
    match env.file name with
    | .ok bytes => .ok (.ofBytes bytes)
    | .error reason => .error (refuse (complaint "Error opening input" name reason))

/-- The outcome as text: what was printed and the stack, or the report of the error. -/
def textTranscript (source : Text) (m : Machine) : Option Diagnostic → Transcript
  | none => ⟨0, m.output.text ++ m.stack.render ++ ['\n'], []⟩
  | some d => ⟨2, m.output.text, d.report source ++ ['\n']⟩

def jsonTranscript (m : Machine) (error : Option Diagnostic) : Transcript :=
  ⟨if error.isSome then 2 else 0, jsonOutcome m.stack m.output.text error ++ ['\n'], []⟩

/-- How a run ended: the machine it left and its error; nothing if the fuel was used up. -/
def ending? {α : Type} : Outcome ProgramError α → Option (Machine × Option Diagnostic)
  | .done _ m => some (m, none)
  | .failed error m => some (m, some error.diagnostic)
  | .outOfFuel => none

def runOnce (fuel : Nat) (env : Environment) (inv : Invocation) : Option Transcript :=
  let prepared := do
    let (source, stdin) ← readSource env inv
    let input ← readInput env inv stdin
    return (source, input)
  match prepared with
  | .error transcript => some transcript
  | .ok (source, input) =>
    (ending? (runProgram fuel source (.initial input {}))).map fun (m, error) =>
      match inv.output.getD .text with
      | .text => textTranscript source m error
      | .json => jsonTranscript m error

/-- Runs each line that is not blank on one machine and shows the stack after it. The lines that
follow are the program's input, and once a program has read from them, the session is over. -/
def session (fuel : Nat) (m : Machine) : List (Option Text) → Option Transcript
  | [] => some ⟨0, "Goodbye!\n".toList, []⟩
  | none :: _ => some ⟨2, [], "Error: ".toList ++ invalidText ++ ['\n']⟩
  | some line :: rest => do
    let source := Text.dropTerminator line
    if (Text.trim source).isEmpty then session fuel m rest
    else
      let before : Machine := { m with input := ⟨rest⟩, output := {} }
      let (after, error) ← ending? (runProgram fuel source before)
      let later ←
        if after.input.lines.length = rest.length then session fuel after rest
        else session fuel after []
      return ⟨later.code,
        after.output.text ++ after.stack.inspect ++ '\n' :: later.stdout,
        (error.map fun d => d.display.toList ++ ['\n']).getD [] ++ later.stderr⟩
termination_by lines => lines.length

def runSession (fuel : Nat) (env : Environment) : Option Transcript :=
  (session fuel (.initial .empty {}) (Input.ofBytes env.stdin).lines).map fun transcript =>
    { transcript with
      stdout := banner ++ " (Ctrl-D to exit)\n".toList ++ transcript.stdout }

/-- Runs the command; there is no transcript if the fuel was used up. -/
def run (fuel : Nat) (env : Environment) (args : List Text) : Option Transcript :=
  match Invocation.ofArguments args with
  | .error .usage => some ⟨1, [], usage⟩
  | .error .help => some ⟨0, usage, []⟩
  | .error .version => some ⟨0, banner ++ ['\n'], []⟩
  | .ok inv => if inv.repl then runSession fuel env else runOnce fuel env inv

end Stackscript.CommandLine
