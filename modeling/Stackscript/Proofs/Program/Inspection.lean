import Stackscript.Proofs.Program.Concatenation
import Stackscript.Proofs.Token.Spelling

set_option autoImplicit false

/- The text of a stack for inspection, run as a program. It spells one array of the values of the
stack, and running the tokens of a value puts it on the stack again; only its blocks have been
written in another place. -/
namespace Stackscript

namespace Value

mutual

/-- Values whose texts for inspection are read back: no decimal is among them, the strings are
legible and the blocks have tokens. -/
def Legible : Value → Prop
  | .character _ | .integer _ => True
  | .decimal _ => False
  | .string t => t.Legible
  | .array elements => LegibleAll elements
  | .block b => ∃ tokens, tokenize b.source = .ok tokens

def LegibleAll : List Value → Prop
  | [] => True
  | value :: values => value.Legible ∧ LegibleAll values

end

mutual

/-- The tokens that make a value, by their kinds. -/
def spelling : Value → List TokenKind
  | .character c => [.character c]
  | .integer n => [.integer n]
  | .decimal d => [.decimal d]
  | .string t => [.string t]
  | .array elements => .openBracket :: spellingAll elements ++ [.closeBracket]
  | .block b => [.block b.source]

def spellingAll : List Value → List TokenKind
  | [] => []
  | value :: values => value.spelling ++ spellingAll values

end

mutual

theorem spells_inspect (value : Value) (legible : value.Legible) (depth : Nat) :
    Spells value.inspect value.spelling depth depth := by
  have literal : ∀ kind : TokenKind, kind.Legible → kind ≠ .closeBracket →
      kind.depthAfter depth = depth → Spells kind.render [kind] depth depth := by
    intro kind readable notClose level
    have spells : Spells kind.render [kind] depth (kind.depthAfter depth) :=
      .render readable fun closes => absurd closes notClose
    rw [level] at spells
    exact spells
  match value, legible with
  | .character c, _ => exact literal (.character c) trivial nofun rfl
  | .integer n, _ => exact literal (.integer n) trivial nofun rfl
  | .string t, legible => exact literal (.string t) legible nofun rfl
  | .block b, legible => exact literal (.block b.source) legible nofun rfl
  | .array elements, legible =>
    simp only [inspect, spelling]
    exact (spells_inspectAll elements legible (depth + 1)).bracketed

theorem spells_inspectAll (values : List Value) (legible : LegibleAll values) (depth : Nat) :
    Spells ([' '].intercalate (inspectAll values)) (spellingAll values) depth depth := by
  match values, legible with
  | [], _ => exact .nil depth
  | [value], ⟨head, _⟩ =>
    have spells := spells_inspect value head depth
    simpa [inspectAll, spellingAll] using spells
  | value :: next :: values, ⟨head, tail⟩ =>
    have first := spells_inspect value head depth
    have second := spells_inspectAll (next :: values) tail depth
    have text : [' '].intercalate (inspectAll (value :: next :: values)) =
        value.inspect ++ ' ' :: [' '].intercalate (inspectAll (next :: values)) := by
      have nonempty : inspectAll (next :: values) ≠ [] := by simp [inspectAll]
      rw [inspectAll, List.intercalate_cons_of_ne_nil nonempty]
      simp
    rw [text, spellingAll]
    exact first.spaced second

end

end Value

theorem Stack.merge_merge (s : Stack) (xs ys : List Value) :
    (s.merge (.ofList xs)).merge (.ofList ys) = s.merge (.ofList (xs ++ ys)) := by
  simp [Stack.merge, Stack.ofList]

theorem Stack.toList_empty_merge (values : List Value) :
    (Stack.empty.merge (.ofList values)).toList = values := by
  simp [Stack.empty, Stack.merge, Stack.ofList, Stack.toList]

/-- Running the tokens only puts the values on the stack, whatever follows them and whatever is set
aside. -/
def Pushes (engine : Engine) (tokens : List Token) (values : List Value) : Prop :=
  ∀ rest aside m, runTokens engine (tokens ++ rest) aside m =
    runTokens engine rest aside { m with stack := m.stack.merge (.ofList values) }

namespace Pushes

variable {engine : Engine} {tokens tokens' : List Token} {values values' : List Value}

theorem nil : Pushes engine [] [] := by
  intro rest aside m
  rfl

theorem literal {token : Token} {value : Value}
    (pushes : ∀ aside, step engine aside token = Run.push value >>= fun _ => pure aside) :
    Pushes engine [token] [value] := by
  intro rest aside m
  rw [List.singleton_append, runTokens_cons, pushes]
  rfl

theorem append (first : Pushes engine tokens values) (second : Pushes engine tokens' values') :
    Pushes engine (tokens ++ tokens') (values ++ values') := by
  intro rest aside m
  rw [List.append_assoc, first, second]
  dsimp only
  rw [Stack.merge_merge]

/-- Between brackets, the values become an array. -/
theorem array (inside : Pushes engine tokens values) {opening closing : Token}
    (opens : opening.kind = .openBracket) (closes : closing.kind = .closeBracket) :
    Pushes engine (opening :: tokens ++ [closing]) [.array values] := by
  intro rest aside m
  rw [List.cons_append, List.cons_append, List.append_assoc, runTokens_cons,
    step_openBracket opens]
  dsimp only
  rw [inside, List.singleton_append, runTokens_cons, step_closeBracket closes]
  dsimp only
  rw [Stack.toList_empty_merge]
  rfl

end Pushes

mutual

/-- Running the tokens that spell a value puts it on the stack, up to the places of its blocks. -/
theorem Value.pushes_spelling (engine : Engine) (value : Value) {tokens : List Token}
    (kinds : tokens.map Token.kind = value.spelling) :
    ∃ made, Value.Related .sameText made value ∧ Pushes engine tokens [made] := by
  have literal : ∀ (kind : TokenKind) (make : Token → Value), tokens.map Token.kind = [kind] →
      (∀ token : Token, token.kind = kind → Value.Related .sameText (make token) value ∧
        ∀ aside, step engine aside token = Run.push (make token) >>= fun _ => pure aside) →
      ∃ made, Value.Related .sameText made value ∧ Pushes engine tokens [made] := by
    intro kind make one pushes
    obtain ⟨token, rfl, same⟩ := List.map_eq_singleton_iff.1 one
    obtain ⟨related, steps⟩ := pushes token same
    exact ⟨make token, related, .literal steps⟩
  match value with
  | .character c =>
    apply literal (.character c) (fun _ => .character c) kinds
    intro token same
    exact ⟨.character c, fun aside => by simp only [step, same]⟩
  | .integer n =>
    apply literal (.integer n) (fun _ => .integer n) kinds
    intro token same
    exact ⟨.integer n, fun aside => by simp only [step, same]⟩
  | .decimal d =>
    apply literal (.decimal d) (fun _ => .decimal d) kinds
    intro token same
    exact ⟨.decimal d, fun aside => by simp only [step, same]⟩
  | .string t =>
    apply literal (.string t) (fun _ => .string t) kinds
    intro token same
    exact ⟨.string t, fun aside => by simp only [step, same]⟩
  | .block b =>
    apply literal (.block b.source)
      (fun token => .block ⟨b.source, token.span.position.advance '{'⟩) kinds
    intro token same
    exact ⟨.block rfl, fun aside => by simp only [step, same]⟩
  | .array elements =>
    simp only [spelling] at kinds
    obtain ⟨front, last, rfl, kindsFront, kindsLast⟩ := List.map_eq_append_iff.1 kinds
    obtain ⟨opening, middle, rfl, opens, kindsMiddle⟩ := List.map_eq_cons_iff.1 kindsFront
    obtain ⟨closing, rfl, closes⟩ := List.map_eq_singleton_iff.1 kindsLast
    obtain ⟨made, related, pushes⟩ := Value.pushes_spellingAll engine elements kindsMiddle
    exact ⟨.array made, .array related, pushes.array opens closes⟩

theorem Value.pushes_spellingAll (engine : Engine) (values : List Value) {tokens : List Token}
    (kinds : tokens.map Token.kind = spellingAll values) :
    ∃ made, List.Forall₂ (Value.Related .sameText) made values ∧ Pushes engine tokens made := by
  match values with
  | [] =>
    simp only [spellingAll, List.map_eq_nil_iff] at kinds
    subst kinds
    exact ⟨[], .nil, .nil⟩
  | value :: values =>
    simp only [spellingAll] at kinds
    obtain ⟨front, back, rfl, kindsFront, kindsBack⟩ := List.map_eq_append_iff.1 kinds
    obtain ⟨head, related, pushes⟩ := Value.pushes_spelling engine value kindsFront
    obtain ⟨tail, relatedAll, pushesAll⟩ := Value.pushes_spellingAll engine values kindsBack
    exact ⟨head :: tail, .cons related relatedAll, pushes.append pushesAll⟩

end

/-- How a program ends that has done all its work and left the given machine: only an output that
cannot be flushed makes it fail. -/
def Outcome.flushed (m : Machine) : Outcome ProgramError Unit :=
  match m.output.flushError with
  | none => .done () m
  | some message => .failed (.runtime (.ofFault (.stream message))) m

theorem Run.flush_ofTokens (m : Machine) : (Run.flush m).ofTokens = .flushed m := by
  unfold Outcome.flushed
  simp only [Run.flush, Run.machine, Run.bind_apply, Output.flush]
  cases m.output.flushError <;> rfl

/-- A program whose tokens take one machine to another does that, and then flushes the output. -/
theorem runProgram_of_runTokens {source : Text} {tokens : List Token} {last : Token} {fuel : Nat}
    {m n : Machine} (lexed : tokenize source = .ok (tokens ++ [last]))
    (ends : last.kind = .endOfText)
    (runs : ∀ rest, runTokens (engine fuel) (tokens ++ rest) [] m =
      runTokens (engine fuel) rest [] n) :
    runProgram fuel source m = .flushed n := by
  have finished : runTokens (engine fuel) [last] [] n = .done () n := by
    rw [runTokens_cons, step_endOfText ends]
    rfl
  rw [runProgram_of_tokens lexed, runFlushed, Run.bind_apply, runs, finished]
  exact Run.flush_ofTokens n

/-- A program of tokens that only put values on the stack does that, and then flushes the output. -/
theorem Pushes.runProgram {source : Text} {tokens : List Token} {last : Token} {fuel : Nat}
    {values : List Value} (lexed : tokenize source = .ok (tokens ++ [last]))
    (ends : last.kind = .endOfText) (pushes : Pushes (engine fuel) tokens values) (m : Machine) :
    runProgram fuel source m =
      .flushed { m with stack := m.stack.merge (.ofList values) } :=
  runProgram_of_runTokens lexed ends fun rest => pushes rest [] m

/-- The text of a stack for inspection, run on a fresh machine, does all its work and leaves one
value: an array that is structurally equal to the stack. -/
theorem inspect_ends {s : Stack} (legible : Value.LegibleAll s.toList) (input : Input)
    (output : Output) :
    ∃ value, value.same (.array s.toList) = true ∧
      Ends s.inspect (.initial input output)
        (.flushed { Machine.initial input output with stack := .ofList [value] }) := by
  have spells := Value.spells_inspect (.array s.toList) legible 0
  obtain ⟨tokens, last, lexed, kinds, ends⟩ := spells.tokenize
  obtain ⟨made, related, pushes⟩ := Value.pushes_spelling (engine 0) (.array s.toList) kinds
  have run := pushes.runProgram lexed ends (.initial input output)
  refine ⟨made, related.same, ?_, 0, run⟩
  unfold Outcome.flushed
  split <;> exact nofun

/-- The least integer, a bracket and a quotation mark as characters, a string with escapes, and a
block with a brace in nested arrays, one of them empty. -/
theorem inspect_ends_nested :
    ∃ value, value.same (.array [.integer Int64.minValue, .character ']', .character '"',
          .string ['"', '\n'],
          .array [.array [], .block ⟨['-', '1', '\'', '}'], ⟨7, 7⟩⟩]]) = true ∧
      Ends "[-9223372036854775808 '] '\" \"\\\"\\n\" [[] \x7b-1'\x7d\x7d]]".toList
        (.initial .empty {})
        (.done () { Machine.initial .empty {} with stack := .ofList [value] }) := by
  let values : List Value := [.integer Int64.minValue, .character ']', .character '"',
    .string ['"', '\n'], .array [.array [], .block ⟨['-', '1', '\'', '}'], ⟨7, 7⟩⟩]]
  have string : Text.Legible ['"', '\n'] := by decide
  have body : ∃ tokens, tokenize ['-', '1', '\'', '}'] = .ok tokens := ⟨_, by cbv⟩
  have legible : Value.LegibleAll (Stack.ofList values).toList := by
    simp only [Stack.toList_ofList, values, Value.LegibleAll, Value.Legible, string, body, and_self]
  exact inspect_ends legible .empty {}

end Stackscript
