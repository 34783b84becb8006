import Stackscript.Fault

set_option autoImplicit false

/- Output collects what is written. A stream that is broken refuses to be written or flushed. -/
namespace Stackscript

/-- What has been written, the latest first, and what a broken stream answers. -/
structure Output where
  chunks : List Text := []
  writeError : Option String := none
  flushError : Option String := none

namespace Output

def text (output : Output) : Text :=
  output.chunks.reverse.flatten

/-- Writes a text; writing nothing always succeeds. -/
def write (output : Output) (t : Text) : Except Fault Output :=
  if t.isEmpty then .ok output
  else match output.writeError with
    | some message => .error (.stream message)
    | none => .ok { output with chunks := t :: output.chunks }

def flush (output : Output) : Except Fault Unit :=
  match output.flushError with
  | some message => .error (.stream message)
  | none => .ok ()

end Output

end Stackscript
