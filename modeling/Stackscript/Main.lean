import Stackscript.CommandLine.Command

set_option autoImplicit false

/- The command itself: it reads standard input and the files that the arguments name, and writes
what the command line library answers. -/
namespace Stackscript.CommandLine

/-- Reads a stream to its end. -/
partial def readToEnd (stream : IO.FS.Stream) (bytes : ByteArray) : IO ByteArray := do
  let chunk ← stream.read 65536
  if chunk.isEmpty then return bytes else readToEnd stream (bytes ++ chunk)

def readFile (name : Text) : IO (Except Text (List UInt8)) := do
  try
    let bytes ← IO.FS.readBinFile (String.ofList name)
    return .ok bytes.toList
  catch error =>
    match error with
    | .noFileOrDirectory .. => return .error "No such file or directory (os error 2)".toList
    | other => return .error other.toString.toList

def gather (inv : Invocation) : IO Environment := do
  let names := inv.script.toList ++ inv.input.toList
  let files ← names.mapM fun name => return (name, ← readFile name)
  let bytes ← readToEnd (← IO.getStdin) .empty
  return {
    stdin := bytes.toList
    file := fun name => (files.lookup name).getD (.error []) }

end Stackscript.CommandLine

open Stackscript in
def main (args : List String) : IO UInt32 := do
  let args := args.map String.toList
  let env ← match CommandLine.Invocation.ofArguments args with
    | .ok inv => CommandLine.gather inv
    | .error _ => pure { stdin := [], file := fun _ => .error [] }
  match CommandLine.run ampleFuel env args with
  | some transcript =>
    (← IO.getStdout).putStr (String.ofList transcript.stdout)
    (← IO.getStderr).putStr (String.ofList transcript.stderr)
    return UInt32.ofNat transcript.code
  | none => return 2
