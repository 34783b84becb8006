import Mathlib
import Stackscript.Proofs.Program.Inspection
import Stackscript.Proofs.Text.Encoding
import Stackscript.Proofs.Text.Lines

set_option autoImplicit false

/- Reading input by lines. The lines of a text are numbered, and the two ways to read them move one
cursor: a line is read at the cursor, and all lines are read from the cursor on up to the sentinel.
What is left of the input is always the lines from the cursor on. -/
namespace Stackscript

namespace Input

/-- What is left of the input when the cursor is at a line. -/
def since (raw : List Text) (cursor : Nat) : Input :=
  ⟨(raw.drop cursor).map some⟩

theorem since_min (raw : List Text) (cursor : Nat) :
    since raw (min cursor raw.length) = since raw cursor := by
  rcases Nat.le_total cursor raw.length with inside | past
  · rw [Nat.min_eq_left inside]
  · rw [Nat.min_eq_right past, since, since, List.drop_length, List.drop_of_length_le past]

theorem next_since (raw : List Text) (cursor : Nat) :
    (since raw cursor).next =
      (.ok (raw.map Text.dropTerminator)[cursor]?, since raw (min (cursor + 1) raw.length)) := by
  rw [since_min, List.getElem?_map, ← List.head?_drop]
  unfold since
  rw [← List.tail_drop]
  cases raw.drop cursor <;> rfl

/-- Where the reading of all lines from the cursor on stops: at the first sentinel, or else at the
end. -/
def stop (lines : List Text) (cursor : Nat) : Nat :=
  cursor + (lines.drop cursor).findIdx (· == sentinel)

theorem untilSentinel_some (raw : List Text) :
    untilSentinel (raw.map some) =
      (.ok ((raw.map Text.dropTerminator).takeWhile (!· == sentinel)),
        (raw.drop ((raw.map Text.dropTerminator).findIdx (· == sentinel) + 1)).map some) := by
  induction raw with
  | nil => rfl
  | cons line raw ih =>
    rw [List.map_cons, List.map_cons, untilSentinel, List.takeWhile_cons, List.findIdx_cons]
    by_cases ends : Text.dropTerminator line = sentinel
    · rw [if_pos ends, beq_iff_eq.2 ends]
      rfl
    · rw [if_neg ends, ih, beq_false_of_ne ends]
      rfl

theorem readAll_since (raw : List Text) (cursor : Nat) :
    (since raw cursor).readAll =
      (.ok ([' '].intercalate (((raw.map Text.dropTerminator).take
          (stop (raw.map Text.dropTerminator) cursor)).drop cursor)),
        since raw (min (stop (raw.map Text.dropTerminator) cursor + 1) raw.length)) := by
  unfold stop
  rw [since_min, readAll, since, untilSentinel_some, List.drop_drop, List.map_drop,
    List.takeWhile_eq_take_findIdx_not, List.take_drop]
  simp only [Bool.not_not]
  rfl

/-- The first sentinel from the cursor on is at the given place, or there is none and that is the
end. -/
structure StopsAt (lines : List Text) (cursor place : Nat) : Prop where
  behind : cursor ≤ place
  inside : place ≤ lines.length
  earlier : ∀ i, cursor ≤ i → i < place → lines[i]? ≠ some sentinel
  found : place < lines.length → lines[place]? = some sentinel

theorem stopsAt_stop {lines : List Text} {cursor : Nat} (inside : cursor ≤ lines.length) :
    StopsAt lines cursor (stop lines cursor) := by
  have bound : (lines.drop cursor).findIdx (· == sentinel) ≤ (lines.drop cursor).length :=
    List.findIdx_le_length
  rw [List.length_drop] at bound
  unfold stop
  refine ⟨Nat.le_add_right _ _, by omega, fun i behind before found => ?_, fun before => ?_⟩
  · have earlier : i - cursor < (lines.drop cursor).findIdx (· == sentinel) := by omega
    rw [← Nat.add_sub_cancel' behind, ← List.getElem?_drop] at found
    obtain ⟨_, same⟩ := List.getElem?_eq_some_iff.1 found
    have other := List.not_of_lt_findIdx earlier
    rw [same, beq_self_eq_true] at other
    cases other
  · have within : (lines.drop cursor).findIdx (· == sentinel) < (lines.drop cursor).length := by
      rw [List.length_drop]
      omega
    have found := List.findIdx_getElem (w := within)
    rw [← List.getElem?_drop, List.getElem?_eq_getElem within]
    exact congrArg some (eq_of_beq found)

end Input

inductive Request where
  | line | all

namespace Request

def operator : Request → Operator
  | .line => .readLine
  | .all => .readAll

/-- What a request gives when the cursor is at a line, and where it leaves the cursor. -/
def answer (lines : List Text) (cursor : Nat) : Request → Text × Nat
  | .line => (lines[cursor]?.getD [], min (cursor + 1) lines.length)
  | .all =>
    ([' '].intercalate ((lines.take (Input.stop lines cursor)).drop cursor),
      min (Input.stop lines cursor + 1) lines.length)

/-- What requests give one after another, and where they leave the cursor. -/
def answers (lines : List Text) : (cursor : Nat) → List Request → List Text × Nat
  | cursor, [] => ([], cursor)
  | cursor, request :: requests =>
    let (text, next) := request.answer lines cursor
    let (texts, last) := answers lines next requests
    (text :: texts, last)

/-- The operator of a request does what the cursor tells. -/
theorem operator_apply (engine : Engine) (request : Request) (raw : List Text) (cursor : Nat)
    (m : Machine) :
    (request.operator.meaning engine).apply { m with input := .since raw cursor } =
      .done ()
        { m with
          stack := m.stack.push
            (.string (request.answer (raw.map Text.dropTerminator) cursor).1)
          input := .since raw (request.answer (raw.map Text.dropTerminator) cursor).2 } := by
  cases request with
  | line =>
    change Run.readLine { m with input := .since raw cursor } = _
    rw [Run.readLine, Input.next_since]
    simp only [answer, List.length_map]
    rfl
  | all =>
    change Run.readAll { m with input := .since raw cursor } = _
    rw [Run.readAll, Input.readAll_since]
    simp only [answer, List.length_map]
    rfl

/-- Tokens that are requests, one after another, do what the cursor tells. -/
theorem runTokens_requests (engine : Engine) {requests : List Request} {tokens : List Token}
    (kinds : tokens.map Token.kind = requests.map fun request => .operator request.operator)
    (raw : List Text) (cursor : Nat) (rest : List Token) (aside : List Stack) (m : Machine) :
    runTokens engine (tokens ++ rest) aside { m with input := .since raw cursor } =
      runTokens engine rest aside
        { m with
          stack := m.stack.merge (.ofList
            ((answers (raw.map Text.dropTerminator) cursor requests).1.map .string))
          input := .since raw (answers (raw.map Text.dropTerminator) cursor requests).2 } := by
  induction requests generalizing tokens cursor m with
  | nil =>
    rw [List.map_nil, List.map_eq_nil_iff] at kinds
    subst kinds
    rfl
  | cons request requests ih =>
    obtain ⟨token, tokens, rfl, kind, kinds⟩ := List.map_eq_cons_iff.1 kinds
    obtain ⟨text, next, given⟩ :
        ∃ text next, request.answer (raw.map Text.dropTerminator) cursor = (text, next) :=
      ⟨_, _, rfl⟩
    have stepped : step engine aside token { m with input := .since raw cursor } =
        .done aside { m with stack := m.stack.push (.string text), input := .since raw next } := by
      simp only [step, kind, Run.bind_apply, operator_apply, given, Run.pure_apply]
    have later := ih kinds next { m with stack := m.stack.push (.string text) }
    have pushed (texts : List Text) :
        (m.stack.push (.string text)).merge (.ofList (texts.map .string)) =
          m.stack.merge (.ofList ((text :: texts).map .string)) :=
      Stack.merge_merge m.stack [.string text] (texts.map .string)
    rw [List.cons_append, runTokens_cons, stepped]
    dsimp only at later ⊢
    rw [later, pushed]
    simp only [answers, given]

/-- The program of some requests, with spaces between them. -/
def program (requests : List Request) : Text :=
  [' '].intercalate (requests.map fun request => request.operator.symbol)

theorem spells_program (requests : List Request) :
    Spells (program requests) (requests.map fun request => .operator request.operator) 0 0 := by
  have text : program requests =
      [' '].intercalate ((requests.map fun request => .operator request.operator).map
        TokenKind.render) := by
    rw [program, List.map_map]
    rfl
  rw [text]
  refine .intercalate ?_ (.of_notMem ?_ ?_)
  · intro kind member
    obtain ⟨request, -, rfl⟩ := List.mem_map.1 member
    exact trivial
  · intro member
    obtain ⟨request, -, other⟩ := List.mem_map.1 member
    cases other
  · intro member
    obtain ⟨request, -, other⟩ := List.mem_map.1 member
    cases other

end Request

/-- Reading by lines is a cursor into the lines of the text, which are the pieces between line feeds
without a carriage return before each: whatever lines are asked for, one after another, they are
given from the cursor on, and those behind it are left. In a text without the sentinel, reading all
lines gives the lines that the text is split into. -/
theorem requests_deliver (t : Text) :
    (∃ front last, t.splitOn '\n' = front ++ [last] ∧
      t.lines = front.map (Text.dropTrailing '\r') ++ if last.isEmpty then [] else [last]) ∧
    Input.ofBytes t.encode = .since (Text.rawLines t) 0 ∧
    (∀ cursor ≤ t.lines.length, Input.StopsAt t.lines cursor (Input.stop t.lines cursor)) ∧
    (∀ (requests : List Request) (cursor fuel : Nat) (m : Machine),
      runProgram fuel (Request.program requests)
          { m with input := .since (Text.rawLines t) cursor } =
        .flushed
          { m with
            stack := m.stack.merge
              (.ofList ((Request.answers t.lines cursor requests).1.map .string))
            input := .since (Text.rawLines t) (Request.answers t.lines cursor requests).2 }) ∧
    (Input.sentinel ∉ t.lines → ∀ (engine : Engine) (m : Machine),
      (Operator.lines.meaning engine).apply { m with stack := m.stack.push (.string t) } =
        .done () { m with stack := m.stack.push (.array (t.lines.map .string)) } ∧
      (Operator.readAll.meaning engine).apply { m with input := .ofBytes t.encode } =
        .done ()
          { m with
            stack := m.stack.push (.string ([' '].intercalate t.lines))
            input := .since (Text.rawLines t) t.lines.length }) := by
  have start : Input.ofBytes t.encode = .since (Text.rawLines t) 0 := Input.ofBytes_encode t
  refine ⟨Text.lines_splitOn t, start, fun cursor inside => Input.stopsAt_stop inside, ?_, ?_⟩
  · intro requests cursor fuel m
    obtain ⟨tokens, last, lexed, kinds, ends⟩ := (Request.spells_program requests).tokenize
    refine runProgram_of_runTokens lexed ends fun rest => ?_
    exact Request.runTokens_requests (engine fuel) kinds (Text.rawLines t) cursor rest [] m
  · intro absent engine m
    have whole : Input.stop t.lines 0 = t.lines.length := by
      have stops := Input.stopsAt_stop (Nat.zero_le t.lines.length)
      refine Nat.le_antisymm stops.inside (Nat.not_lt.1 fun before => absent ?_)
      exact List.mem_of_getElem? (stops.found before)
    have read := Request.operator_apply engine .all (Text.rawLines t) 0 m
    change _ = Outcome.done () { m with
      stack := m.stack.push (.string (Request.all.answer t.lines 0).1)
      input := .since (Text.rawLines t) (Request.all.answer t.lines 0).2 } at read
    refine ⟨rfl, ?_⟩
    rw [start]
    refine read.trans ?_
    rw [Request.answer, whole, List.take_length, List.drop_zero,
      Nat.min_eq_right (Nat.le_succ t.lines.length)]

/-- A text with a sentinel is read by lines and up to the sentinel; one without is read as a whole,
with an empty line, a carriage return inside a line, and one at the end that is kept. -/
theorem requests_deliver_terminators :
    runProgram 0 "l t l l".toList
        { Machine.initial .empty {} with
          input := .ofBytes (Text.encode "a\r\n\nb\n--ENDOFFILE--\r\nc".toList) } =
      .done ()
        { Machine.initial .empty {} with
          stack := .ofList [.string ['a'], .string [' ', 'b'], .string ['c'], .string []] } ∧
    Input.sentinel ∉ Text.lines "a\r\n\n\rb\r".toList ∧
    ((Operator.readAll.meaning (engine 0)).apply
        { Machine.initial .empty {} with
          input := .ofBytes (Text.encode "a\r\n\n\rb\r".toList) } =
      .done ()
        { Machine.initial .empty {} with
          stack := .ofList [.string ['a', ' ', ' ', '\r', 'b', '\r']] }) := by
  obtain ⟨-, start, -, run, -⟩ := requests_deliver "a\r\n\nb\n--ENDOFFILE--\r\nc".toList
  obtain ⟨-, -, -, -, whole⟩ := requests_deliver "a\r\n\n\rb\r".toList
  have absent : Input.sentinel ∉ Text.lines "a\r\n\n\rb\r".toList := by decide
  refine ⟨?_, absent, ?_⟩
  · rw [start]
    exact run [.line, .all, .line, .line] 0 0 (.initial .empty {})
  · exact (whole absent (engine 0) (.initial .empty {})).2

end Stackscript
