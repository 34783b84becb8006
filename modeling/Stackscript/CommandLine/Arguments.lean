import Stackscript.Text.Basic

set_option autoImplicit false

/- The arguments of the command. Options have a long and a short form; their value is attached or is
the next argument, and each may be given once. After two dashes everything is the name of a
script. -/
namespace Stackscript.CommandLine

inductive OutputMode where
  | text | json
  deriving DecidableEq, Repr

def OutputMode.ofName? (name : Text) : Option OutputMode :=
  if name = "text".toList then some .text
  else if name = "json".toList then some .json
  else none

structure Invocation where
  script : Option Text := none
  eval : Option Text := none
  input : Option Text := none
  output : Option OutputMode := none
  repl : Bool := false

inductive ValueOption where
  | eval | input | output
  deriving DecidableEq, Repr

inductive Flag where
  | repl | help | version
  deriving DecidableEq, Repr

inductive Switch where
  | value (option : ValueOption)
  | flag (flag : Flag)

def Switch.ofLetter? : Char → Option Switch
  | 'e' => some (.value .eval)
  | 'i' => some (.value .input)
  | 'o' => some (.value .output)
  | 'r' => some (.flag .repl)
  | 'h' => some (.flag .help)
  | 'V' => some (.flag .version)
  | _ => none

def Switch.ofName? (name : Text) : Option Switch :=
  if name = "eval".toList then some (.value .eval)
  else if name = "input".toList then some (.value .input)
  else if name = "output".toList then some (.value .output)
  else if name = "repl".toList then some (.flag .repl)
  else if name = "help".toList then some (.flag .help)
  else if name = "version".toList then some (.flag .version)
  else none

inductive Exit where
  | usage | help | version
  deriving DecidableEq, Repr

namespace Invocation

def setOnce {α : Type} (old : Option α) (value : α) : Except Exit (Option α) :=
  match old with
  | none => .ok (some value)
  | some _ => .error .usage

/-- A file name, which may not be empty. -/
def fileName (name : Text) : Except Exit Text :=
  if name.isEmpty then .error .usage else .ok name

def setOption (inv : Invocation) (option : ValueOption) (value : Text) :
    Except Exit Invocation := do
  match option with
  | .eval => return { inv with eval := ← setOnce inv.eval value }
  | .input => return { inv with input := ← setOnce inv.input (← fileName value) }
  | .output =>
    match OutputMode.ofName? value with
    | some mode => return { inv with output := ← setOnce inv.output mode }
    | none => throw .usage

/-- Sets a flag; help and version end the reading. -/
def setFlag (inv : Invocation) : Flag → Except Exit Invocation
  | .help => .error .help
  | .version => .error .version
  | .repl => if inv.repl then .error .usage else .ok { inv with repl := true }

def setScript (inv : Invocation) (name : Text) : Except Exit Invocation := do
  return { inv with script := ← setOnce inv.script (← fileName name) }

/-- A long option: its name and, after an equals sign, its value. The option is given back if its
value is still to come. -/
def readLong (inv : Invocation) (t : Text) : Except Exit (Invocation × Option ValueOption) := do
  let name := t.takeWhile (· != '=')
  match Switch.ofName? name, t.drop name.length with
  | some (.flag flag), [] => return (← inv.setFlag flag, none)
  | some (.value option), [] => return (inv, some option)
  | some (.value option), _ :: value => return (← inv.setOption option value, none)
  | _, _ => throw .usage

/-- Options by their letters: flags, and at most one that takes a value, to which the rest of the
argument belongs, less one equals sign. -/
def readLetters (inv : Invocation) : Text → Except Exit (Invocation × Option ValueOption)
  | [] => return (inv, none)
  | c :: cs =>
    match Switch.ofLetter? c, cs with
    | some (.flag flag), _ => do readLetters (← inv.setFlag flag) cs
    | some (.value option), [] => return (inv, some option)
    | some (.value option), '=' :: value => do return (← inv.setOption option value, none)
    | some (.value option), value => do return (← inv.setOption option value, none)
    | none, _ => throw .usage

/-- Reads the arguments that are left; `pending` is an option whose value is the next one, which may
not look like an option. -/
def read (inv : Invocation) (pending : Option ValueOption) :
    List Text → Except Exit Invocation
  | [] => if pending.isSome then .error .usage else .ok inv
  | arg :: args =>
    match arg, pending with
    | '-' :: _ :: _, some _ => .error .usage
    | value, some option => do read (← inv.setOption option value) none args
    | ['-', '-'], none => args.foldlM setScript inv
    | '-' :: '-' :: t, none => do
      let (inv, pending) ← inv.readLong t
      read inv pending args
    | '-' :: c :: t, none => do
      let (inv, pending) ← inv.readLetters (c :: t)
      read inv pending args
    | name, none => do read (← inv.setScript name) none args

/-- Reads all arguments; a program may not be given both in a script and as text. -/
def ofArguments (args : List Text) : Except Exit Invocation := do
  let inv ← read {} none args
  if inv.eval.isSome && inv.script.isSome then throw .usage else return inv

end Invocation

end Stackscript.CommandLine
