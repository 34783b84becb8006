import Stackscript.CommandLine.Command
import Stackscript.Proofs.Program.Concatenation
import Stackscript.Proofs.Text.Encoding

set_option autoImplicit false

/- A program on the first line of standard input. The bytes up to the first line feed are the text
of the program with one more character, which is whitespace and adds no token; the bytes after it
are the lines that are left for the program to read. So the command does what it does when the
program is given as an argument. -/
namespace Stackscript

namespace Input

/-- Behind a line of text come the lines of the bytes behind it. -/
theorem ofBytes_line {t : Text} (single : '\n' ∉ t) (rest : List UInt8) :
    (ofBytes ((t ++ ['\n']).encode ++ rest)).lines =
      some (t ++ ['\n']) :: (ofBytes rest).lines := by
  have bytes : (t ++ ['\n']).encode = t.encode ++ [0x0A] := List.flatMap_append
  have cut := cutLines_append (Text.lineFeed_notMem_encode single) rest
  unfold ofBytes
  rw [bytes, List.append_assoc, List.singleton_append, cut, List.map_cons, ← bytes, decode?_encode]

end Input

/-- Whitespace behind a program that has tokens changes nothing but the place of its end. -/
theorem runProgram_append_blank {p w : Text} {tokens : List Token}
    (lexed : tokenize p = .ok tokens) (apart : w ≠ [])
    (blank : ∀ c ∈ w, Text.isBlank c = true) (fuel : Nat) :
    runProgram fuel (p ++ w) = runProgram fuel p := by
  have nothing := tokenizeFrom_nil (.ofPosition .start) none 0
  rw [if_pos rfl] at nothing
  obtain ⟨front, last, behind, rfl, ends, whole, same⟩ := tokenize_append lexed nothing apart blank
  obtain ⟨last', _, kind, done, rfl⟩ := List.forall₂_cons_left_iff.1 same
  obtain rfl := List.forall₂_nil_left_iff.1 done
  rw [List.append_nil] at whole
  have balanced : Balanced 0 front := (lexed_iff.1 lexed).balanced.of_append_end ends
  funext m
  rw [runProgram_of_tokens whole, runProgram_of_tokens lexed,
    runFlushed_append_end kind.symm balanced, runFlushed_append_end ends balanced]

namespace CommandLine

/-- What a caller of the command sees but for its complaints: the code and the standard output. -/
def Transcript.observed (transcript : Transcript) : Nat × Text :=
  (transcript.code, transcript.stdout)

/-- A program that is known runs as soon as its input is. -/
theorem runOnce_of_source {env : Environment} {inv : Invocation} {source : Text} {stdin : Input}
    (found : readSource env inv = .ok (source, stdin)) (fuel : Nat) :
    runOnce fuel env inv =
      match readInput env inv stdin with
      | .error transcript => some transcript
      | .ok input =>
        (ending? (runProgram fuel source (.initial input {}))).map fun (m, error) =>
          match inv.output.getD .text with
          | .text => textTranscript source m error
          | .json => jsonTranscript m error := by
  unfold runOnce
  rw [found]
  dsimp only [bind, Except.bind]
  cases readInput env inv stdin with
  | error transcript => rfl
  | ok input => rfl

/-- Only the report of an error shows the program. -/
theorem textTranscript_observed (source source' : Text) (m : Machine) (error : Option Diagnostic) :
    (textTranscript source m error).observed = (textTranscript source' m error).observed := by
  cases error with
  | none => rfl
  | some diagnostic => rfl

theorem readSource_firstLine {p : Text} (single : '\n' ∉ p) (rest : List UInt8)
    (file : Text → Except Text (List UInt8)) (inv : Invocation) :
    readSource ⟨(p ++ ['\n']).encode ++ rest, file⟩ { inv with script := none, eval := none } =
      .ok (p ++ ['\n'], .ofBytes rest) := by
  unfold readSource
  dsimp only
  rw [Input.ofBytes_line single]

/-- A program that is run from the first line of standard input ends with the code and writes the
output that it does when it is given as an argument and standard input begins after that line. -/
theorem runOnce_firstLine {p : Text} {tokens : List Token} (single : '\n' ∉ p)
    (lexed : tokenize p = .ok tokens) (rest : List UInt8)
    (file : Text → Except Text (List UInt8)) (inv : Invocation) (fuel : Nat) :
    (runOnce fuel ⟨(p ++ ['\n']).encode ++ rest, file⟩
        { inv with script := none, eval := none }).map Transcript.observed =
      (runOnce fuel ⟨rest, file⟩
        { inv with script := none, eval := some p }).map Transcript.observed := by
  have ran : runProgram fuel (p ++ ['\n']) = runProgram fuel p :=
    runProgram_append_blank lexed (List.cons_ne_nil _ _)
      (List.forall_mem_singleton.2 (by decide)) fuel
  have source : readSource ⟨rest, file⟩ { inv with script := none, eval := some p } =
      .ok (p, .ofBytes rest) := rfl
  have opened : readInput ⟨(p ++ ['\n']).encode ++ rest, file⟩
        { inv with script := none, eval := none } (.ofBytes rest) =
      readInput ⟨rest, file⟩ { inv with script := none, eval := some p } (.ofBytes rest) := rfl
  rw [runOnce_of_source (readSource_firstLine single rest file inv), runOnce_of_source source,
    opened, ran]
  cases readInput ⟨rest, file⟩ { inv with script := none, eval := some p } (.ofBytes rest) with
  | error transcript => rfl
  | ok input =>
    dsimp only
    rw [Option.map_map, Option.map_map]
    congr 1
    funext ⟨m, error⟩
    dsimp only [Function.comp_apply]
    cases inv.output.getD .text with
    | text => exact textTranscript_observed _ _ m error
    | json => rfl

/-- A program that reads the next line and ends with a character. -/
theorem runOnce_firstLine_read :
    let p : Text := "l'!".toList
    let rest : Text := "ab\n".toList
    let file : Text → Except Text (List UInt8) := fun _ => .error []
    '\n' ∉ p ∧ (∃ tokens, tokenize p = .ok tokens) ∧
      (runOnce 1 ⟨(p ++ ['\n']).encode ++ rest.encode, file⟩ {}).map Transcript.observed =
        some (0, "ab!\n".toList) := by
  intro p rest file
  have single : '\n' ∉ p := by decide
  obtain ⟨tokens, lexed⟩ : ∃ tokens, tokenize p = .ok tokens := ⟨_, by cbv⟩
  have given : (runOnce 1 ⟨rest.encode, file⟩ { eval := some p }).map Transcript.observed =
      some (0, "ab!\n".toList) := by
    cbv
  refine ⟨single, ⟨tokens, lexed⟩, ?_⟩
  exact (runOnce_firstLine single lexed rest.encode file {} 1).trans given

end CommandLine

end Stackscript
