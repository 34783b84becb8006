import Stackscript.Proofs.Machine.Frame
import Stackscript.Proofs.Program.Brackets
import Stackscript.Proofs.Value.Totality

set_option autoImplicit false

/- Programs and the values below those they have to do with. Where no block on the way holds one of
the two operators that an empty stack does not stop, a program that succeeds on a stack succeeds
with any values below it, does the same and leaves them where they are. Those values may hold
anything: they are never looked at. -/
namespace Stackscript

/-- A token of the given kind is in a text: one of its own, or one in the body of a block, which may
be inside another one. -/
inductive Occurs : Text → TokenKind → Prop where
  | own {t : Text} {tokens : List Token} {token : Token} (lexed : tokenize t = .ok tokens)
    (member : token ∈ tokens) : Occurs t token.kind
  | nested {t body : Text} {kind : TokenKind} {tokens : List Token} {token : Token}
    (lexed : tokenize t = .ok tokens) (member : token ∈ tokens) (block : token.kind = .block body)
    (inside : Occurs body kind) : Occurs t kind

/-- Neither of the two operators that an empty stack does not stop is in the text. -/
def Strict (t : Text) : Prop :=
  ∀ op, Occurs t (.operator op) → op ≠ .discard ∧ op ≠ .loop

/-- A block is on the live stack or in a variable. -/
inductive Machine.HasBlock (m : Machine) (b : Block) : Prop where
  | stacked {value : Value} (member : value ∈ m.stack.toList) (inside : value.HasBlock b)
  | bound {letter : Letter} {value : Value} (found : m.valueOf? letter = some value)
    (inside : value.HasBlock b)

/-- Neither of the two operators is in a block of the machine. -/
def Machine.Strict (m : Machine) : Prop :=
  ∀ b, m.HasBlock b → Stackscript.Strict b.source

def TokenKind.Strict : TokenKind → Prop
  | .block body => Stackscript.Strict body
  | .operator op => op ≠ .discard ∧ op ≠ .loop
  | _ => True

namespace Strict

/-- The tokens of a strict text, wherever it stands. -/
theorem kind {p : Position} {t : Text} {tokens : List Token} (strict : Strict t)
    (read : tokenizeAt p t = .ok tokens) {token : Token} (member : token ∈ tokens) :
    token.kind.Strict := by
  obtain ⟨moved, lexed, same⟩ := tokenizeAt_move read .start
  obtain ⟨partner, found, part⟩ := exists_related_of_mem same member
  rw [part.kind]
  cases kind : partner.kind with
  | block body => exact fun op inside => strict op (.nested lexed found kind inside)
  | operator op =>
    have occurs := Occurs.own lexed found
    rw [kind] at occurs
    exact strict op occurs
  | _ => trivial

theorem of_tokens {t : Text} {tokens : List Token} (lexed : tokenize t = .ok tokens)
    (each : ∀ token ∈ tokens, token.kind.Strict) : Strict t := by
  intro op occurs
  generalize found : TokenKind.operator op = kind at occurs
  cases occurs with
  | @own _ _ token again member =>
    obtain rfl := Except.ok.inj (lexed.symm.trans again)
    have strict := each token member
    rw [← found] at strict
    exact strict
  | @nested _ body _ _ token again member block inside =>
    obtain rfl := Except.ok.inj (lexed.symm.trans again)
    have strict := each token member
    rw [block] at strict
    rw [← found] at inside
    exact strict op inside

def pairing : Pairing :=
  ⟨fun a b => a = b ∧ Strict a.source, fun same => congrArg Block.source same.1⟩

def correspondence (flushError : Option String) : Correspondence where
  blocks := pairing
  failures _ _ := True
  flushError := flushError
  of_fault _ := trivial

def reading (flushError : Option String) : Reading (correspondence flushError) where
  tokens a b := a = b ∧ a.kind.Strict
  kind_eq same := congrArg Token.kind same.1
  block := by
    rintro a _ body ⟨rfl, strict⟩ kind
    rw [kind] at strict
    exact ⟨rfl, strict⟩
  locate _ _ _ := trivial
  code := by
    rintro a _ ⟨rfl, strict⟩
    cases code : a.code with
    | ok tokens =>
      refine .inl ⟨tokens, tokens, rfl, rfl, List.forall₂_same.2 fun token member => ?_⟩
      exact ⟨rfl, strict.kind code member⟩
    | error e => exact .inr ⟨e, e, rfl, rfl, trivial⟩

end Strict

mutual

theorem Value.related_of_strict {a : Value}
    (strict : ∀ b, a.HasBlock b → Strict b.source) : Value.Related Strict.pairing a a := by
  match a with
  | .character c => exact .character c
  | .integer n => exact .integer n
  | .decimal d => exact .decimal d
  | .string t => exact .string t
  | .array elements =>
    exact .array (Value.relatedAll_of_strict fun value member b inside =>
      strict b (.element member inside))
  | .block b => exact .block ⟨rfl, strict b (.itself b)⟩

theorem Value.relatedAll_of_strict {items : List Value}
    (strict : ∀ value ∈ items, ∀ b, value.HasBlock b → Strict b.source) :
    List.Forall₂ (Value.Related Strict.pairing) items items := by
  match items with
  | [] => exact .nil
  | item :: items =>
    have head := Value.related_of_strict (strict item List.mem_cons_self)
    exact .cons head (Value.relatedAll_of_strict fun value member =>
      strict value (List.mem_cons_of_mem item member))

end

theorem Machine.Strict.held {m : Machine} (strict : m.Strict) :
    (Strict.correspondence m.output.flushError).machines m m := by
  refine ⟨⟨?_, fun letter => ?_, rfl, rfl⟩, rfl⟩
  · apply Value.relatedAll_of_strict
    intro value member b inside
    have member : value ∈ m.stack.toList := List.mem_reverse.2 member
    exact strict b (.stacked member inside)
  · cases found : m.valueOf? letter with
    | none => exact .none
    | some value =>
      exact .some (Value.related_of_strict fun b inside => strict b (.bound found inside))

/-- The values `base` below the first of the stacks in use: that is the live one or, inside
brackets, the one that the outermost bracket has set aside. -/
inductive Frames (base : Stack) : List Stack → Machine → List Stack → Machine → Prop where
  | live (m : Machine) : Frames base [] m [] (m.onto base)
  | aside (front : List Stack) (outer : Stack) (m : Machine) :
    Frames base (front ++ [outer]) m (front ++ [base.merge outer]) m

section Execution

variable {e : Engine} {flushError : Option String} {token : Token} {m n : Machine}

/-- Outside brackets, a token that opens none does the same with values below. -/
theorem step_framedAt (framed : e.Framed (Strict.correspondence flushError))
    (held : (Strict.correspondence flushError).machines m m) (strict : token.kind.Strict)
    (notOpen : token.kind ≠ .openBracket) : (step e [] token).FramedAt m := by
  unfold step
  cases kind : token.kind with
  | «recall» letter =>
    refine .machine (fun _ => rfl) ?_
    cases m.valueOf? letter with
    | some value => exact (Run.FramedAt.push value).bind fun _ _ _ => .pure []
    | none => exact .fail _
  | assign letter =>
    refine .look (fun _ _ found => Stack.peek_merge found) fun value => ?_
    intro after n ended base
    cases ended
    rfl
  | openBracket => exact absurd kind notOpen
  | closeBracket => exact .fail _
  | operator op =>
    rw [kind] at strict
    have applied := (Operator.meaning_framed framed strict.1 strict.2).apply held
    exact applied.bind fun _ _ _ => .pure []
  | endOfText => exact .pure []
  | _ => exact (Run.FramedAt.push _).bind fun _ _ _ => .pure []

/-- A token that opens no bracket leaves none open. -/
theorem depthAfter_zero {kind : TokenKind} (notOpen : kind ≠ .openBracket) :
    kind.depthAfter 0 = 0 := by
  cases kind with
  | openBracket => exact absurd rfl notOpen
  | _ => rfl

/-- One step, with the values `base` below. -/
theorem step_frames (framed : e.Framed (Strict.correspondence flushError))
    (held : (Strict.correspondence flushError).machines m m) (strict : token.kind.Strict)
    {base : Stack} {aside aside' after : List Stack} {m' : Machine}
    (frames : Frames base aside m aside' m') (stepped : step e aside token m = .done after n) :
    ∃ after' n', step e aside' token m' = .done after' n' ∧ Frames base after n after' n' := by
  cases frames with
  | live =>
    by_cases opens : token.kind = .openBracket
    · rw [step_openBracket opens] at stepped
      cases stepped
      exact ⟨_, _, step_openBracket opens _ _, .aside [] m.stack _⟩
    · have count := step_length stepped
      rw [List.length_nil, depthAfter_zero opens] at count
      obtain rfl := List.length_eq_zero_iff.1 count
      exact ⟨_, _, step_framedAt framed held strict opens _ _ stepped base, .live n⟩
  | aside front outer =>
    by_cases closes : token.kind = .closeBracket ∧ front = []
    · obtain ⟨closes, rfl⟩ := closes
      rw [List.nil_append, step_closeBracket closes] at stepped
      cases stepped
      exact ⟨_, _, step_closeBracket closes _ _ _, .live _⟩
    · -- The first stack that was set aside is out of reach, whatever it holds.
      have opened : token.kind = .closeBracket → front ≠ [] := by
        intro close empty
        exact closes ⟨close, empty⟩
      rw [step_append opened, map_eq_pure_bind] at stepped
      obtain ⟨above, k, taken, finished⟩ := Run.bind_eq_done.1 stepped
      cases finished
      refine ⟨above ++ [base.merge outer], n, ?_, .aside above outer n⟩
      rw [step_append opened, map_eq_pure_bind]
      exact Run.bind_eq_done.2 ⟨above, n, taken, rfl⟩

theorem runTokens_cons_eq_done {tokens : List Token} {aside : List Stack} :
    runTokens e (token :: tokens) aside m = .done () n ↔
      ∃ after k, step e aside token m = .done after k ∧ runTokens e tokens after k = .done () n := by
  rw [runTokens_cons]
  cases step e aside token m <;> simp

/-- Strict tokens with balanced brackets. -/
theorem runTokens_frames (framed : e.Framed (Strict.correspondence flushError))
    {tokens : List Token} (strict : ∀ token ∈ tokens, token.kind.Strict) {base : Stack}
    {aside aside' : List Stack} {m' : Machine} (frames : Frames base aside m aside' m')
    (held : (Strict.correspondence flushError).machines m m)
    (asides : List.Forall₂ (Stack.Related Strict.pairing) aside aside)
    (balanced : Balanced aside.length tokens) (run : runTokens e tokens aside m = .done () n) :
    runTokens e tokens aside' m' = .done () (n.onto base) := by
  -- From token to token the blocks in reach stay strict, on the live stack and on those set aside,
  -- and the values below stay under the first stack in use.
  induction tokens generalizing aside aside' m m' with
  | nil =>
    cases frames with
    | live =>
      cases run
      rfl
    | aside front outer => simp [Balanced] at balanced
  | cons token tokens ih =>
    obtain ⟨after, k, stepped, rest⟩ := runTokens_cons_eq_done.1 run
    have head : token.kind.Strict := strict token List.mem_cons_self
    obtain ⟨after', k', stepped', frames'⟩ := step_frames framed held head frames stepped
    have kept := step_related (Strict.reading flushError) framed.related ⟨rfl, head⟩ asides
      balanced.1
    obtain ⟨asides', held'⟩ := kept.of_done held stepped
    have following : Balanced after.length tokens := step_length stepped ▸ balanced.2
    have tail : ∀ token ∈ tokens, token.kind.Strict :=
      fun token member => strict token (List.mem_cons_of_mem _ member)
    exact runTokens_cons_eq_done.2
      ⟨after', k', stepped', ih tail frames' held' asides' following rest⟩

end Execution

/-- Engines run strict blocks without noticing the values below. -/
theorem engine_framed (flushError : Option String) (fuel : Nat) :
    (engine fuel).Framed (Strict.correspondence flushError) := by
  refine ⟨engine_related (Strict.reading flushError) (Nat.le_refl fuel), ?_⟩
  induction fuel with
  | zero =>
    intro b m _ _ value n ended
    cases ended
  | succ fuel ih =>
    intro b m allowed held value n ended base
    -- The tokens of the block are run by the engine with less fuel.
    have framed : (engine fuel).Framed (Strict.correspondence flushError) :=
      ⟨engine_related (Strict.reading flushError) (Nat.le_refl fuel), ih⟩
    cases code : b.code with
    | ok tokens =>
      rw [code] at ended
      exact runTokens_frames framed (fun _ member => allowed.2.kind code member) (.live m) held
        .nil (lexed_iff.1 code).balanced ended
    | error error =>
      rw [code] at ended
      cases ended

/-- The frame rule: a program that succeeds, with none of the two operators that an empty stack does
not stop in it or in a block it can get at, succeeds with any values below the live stack as well.
They stay below what it leaves, and the variables and streams are the same. -/
theorem ends_onto {source : Text} (strict : Strict source) {m n : Machine} (blocks : m.Strict)
    (ends : Ends source m (.done () n)) (base : Stack) :
    Ends source (m.onto base) (.done () (n.onto base)) := by
  obtain ⟨-, fuel, run⟩ := ends
  obtain ⟨tokens, lexed, flushed⟩ := runProgram_eq_done.1 run
  have body : (runTokens (engine fuel) tokens []).FramedAt m := by
    intro _ k ended base
    exact runTokens_frames (engine_framed _ fuel) (fun _ member => strict.kind lexed member)
      (.live m) blocks.held .nil (lexed_iff.1 lexed).balanced ended
  have framed : (runFlushed fuel tokens).FramedAt m :=
    body.bind fun _ _ _ => Run.Aloof.flush.framedAt
  exact .of_done fuel (runProgram_eq_done.2 ⟨tokens, lexed, framed () n flushed base⟩)

theorem Machine.strict_initial (input : Input) (output : Output) :
    (Machine.initial input output).Strict := by
  intro b has
  cases has with
  | stacked member => cases member
  | bound found inside =>
    simp only [Machine.valueOf?, Machine.initial, Bindings.initial, Fin.getElem_fin,
      Vector.getElem_ofFn] at found
    repeat' split at found
    all_goals cases found
    all_goals cases inside

/-- A program that runs a block from the stack and one it has assigned, this one also inside
brackets and from within another block, and copies a value it has left further down. -/
theorem ends_onto_nested :
    ∃ m n : Machine, m.stack = .ofList [.integer 5, .block ⟨['1', '+'], ⟨1, 1⟩⟩] ∧
      n.stack = .ofList [.integer 36, .array [.integer 9], .integer 36] ∧
      n.valueOf? 16 = some (.block ⟨['_', '*'], ⟨1, 3⟩⟩) ∧
      Strict "~{_*}:Q~[3{Q~}~]1$".toList ∧ m.Strict ∧
      Ends "~{_*}:Q~[3{Q~}~]1$".toList m (.done () n) ∧
      ∀ base, Ends "~{_*}:Q~[3{Q~}~]1$".toList (m.onto base) (.done () (n.onto base)) := by
  have increment : Strict ['1', '+'] := by
    refine .of_tokens (by cbv) ?_
    simp [TokenKind.Strict]
  have square : Strict ['_', '*'] := by
    refine .of_tokens (by cbv) ?_
    simp [TokenKind.Strict]
  have call : Strict ['Q', '~'] := by
    refine .of_tokens (by cbv) ?_
    simp [TokenKind.Strict]
  have strict : Strict "~{_*}:Q~[3{Q~}~]1$".toList := by
    refine .of_tokens (by cbv) ?_
    simp [TokenKind.Strict, square, call]
  let m : Machine :=
    { Machine.initial .empty {} with
      stack := .ofList [.integer 5, .block ⟨['1', '+'], ⟨1, 1⟩⟩] }
  have blocks : m.Strict := by
    intro b has
    cases has with
    | stacked member inside =>
      have member : _ ∈ [Value.integer 5, .block ⟨['1', '+'], ⟨1, 1⟩⟩] := member
      simp only [List.mem_cons, List.not_mem_nil, or_false] at member
      rcases member with rfl | rfl
      · cases inside
      · cases inside
        exact increment
    | bound found inside => exact Machine.strict_initial .empty {} b (.bound found inside)
  let n : Machine :=
    { m.assign 16 (.block ⟨['_', '*'], ⟨1, 3⟩⟩) with
      stack := .ofList [.integer 36, .array [.integer 9], .integer 36] }
  have alone : Ends "~{_*}:Q~[3{Q~}~]1$".toList m (.done () n) := .of_done 3 (by cbv)
  exact ⟨m, n, rfl, rfl, rfl, strict, blocks, alone, ends_onto strict blocks alone⟩

end Stackscript
