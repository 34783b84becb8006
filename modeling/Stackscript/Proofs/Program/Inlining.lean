import Stackscript.Proofs.Program.Concatenation
import Stackscript.Proofs.Program.Place

set_option autoImplicit false

/- A block that is run where it is written. Its body has the same tokens at the same places as when
it stands there without the braces, and an inner run keeps brackets and failures to itself just as
the outer one does, so the two programs end in the same way, failures at the same places: a failure
that an inner token has placed keeps its place. Only a token whose line has wrapped around to zero
has no place to give, and leaves it to the operator. -/
namespace Stackscript

/-- Tokens that do the same: of one kind and at one place. -/
def SameStep (a b : Token) : Prop :=
  a.kind = b.kind ∧ a.span.position = b.span.position

theorem step_congr {engine : Engine} {aside : List Stack} {a b : Token} (same : SameStep a b) :
    step engine aside a = step engine aside b := by
  unfold step
  rw [same.1, same.2]

theorem runTokens_congr {engine : Engine} {xs ys : List Token} (same : List.Forall₂ SameStep xs ys)
    (aside : List Stack) : runTokens engine xs aside = runTokens engine ys aside := by
  induction same generalizing aside with
  | nil => rfl
  | cons head _ ih =>
    funext m
    rw [runTokens_cons, runTokens_cons, step_congr head, head.2]
    simp only [ih]

/-- The offset of a text in a larger one does not matter to its tokens. -/
theorem SamePart.sameStep {t : Text} {c c' : Cursor} {a b : Token} (same : SamePart t c c' a b)
    (place : c.position = c'.position) : SameStep a b := by
  obtain ⟨before, lexeme, after, -, first, second, -⟩ := same.part
  refine ⟨same.kind, ?_⟩
  rw [first, second]
  simp only [Span.between, Cursor.advanceAll_eq, place]

/-- The outcome with its failure at the given place, unless it has one. -/
def Outcome.locate (p : Position) : Outcome Failure Unit → Outcome Failure Unit
  | .failed failure m => .failed (failure.locate p) m
  | o => o

/-- The outcome but for the place of a failure. -/
def Outcome.unplaced : Outcome ProgramError Unit → Outcome ProgramError Unit
  | .failed (.runtime failure) m => .failed (.runtime (.ofFault failure.fault)) m
  | o => o

theorem Outcome.unplaced_eq_outOfFuel {o : Outcome ProgramError Unit} :
    o.unplaced = .outOfFuel ↔ o = .outOfFuel := by
  rcases o with - | ⟨error | failure⟩ | - <;> simp [unplaced]

section Body

variable {c : Text} {inner : List Token}

/-- A block and the operator that runs it. -/
theorem tokenize_expanded (code : tokenizeAt (Position.start.advance '{') c = .ok inner) :
    ∃ block operator last, tokenize ('{' :: c ++ ['}', '~']) = .ok [block, operator, last] ∧
      block.kind = .block c ∧ block.span.position = .start ∧ operator.kind = .operator .expand ∧
      last.kind = .endOfText := by
  have ends : bodyLength false 0 (c ++ '}' :: ['~']) = some c.length :=
    (lexed_iff.1 code).bodyLength_body ['~']
  have inside : Lexed (.ofPosition ((Cursor.ofPosition .start).position.advance '{')) none 0 c
      inner := lexed_iff.1 code
  have operator : ∀ cursor : Cursor, Lexed cursor (some '}') 0 ['~']
      [⟨.operator .expand, .between cursor (cursor.advance '~')⟩,
        ⟨.endOfText, .between (cursor.advance '~') (cursor.advance '~')⟩] := by
    intro cursor
    have scanned : scan (some '}') 0 cursor.position '~' ([] ++ []) = .ok (.operator .expand, 0) :=
      rfl
    exact .lexeme (by decide) (by decide) (.of_scan scanned) .finish
  have whole : Lexed (.ofPosition .start) none 0 ('{' :: (c ++ '}' :: ['~'])) _ :=
    .block ends inside (operator _)
  exact ⟨_, _, _, whole.tokenizeFrom_eq, rfl, rfl, rfl, rfl⟩

/-- Whitespace around a text changes the offsets of its tokens and the place of its end only. -/
theorem tokenize_spaced {w : Text} (apart : w ≠ []) (blank : ∀ c ∈ w, Text.isBlank c = true)
    (code : tokenizeAt (Position.start.advance '{') c = .ok inner) :
    ∃ tokens, tokenize (' ' :: c ++ w) = .ok tokens ∧
      ∀ fuel, runFlushed fuel tokens = runFlushed fuel inner := by
  let cursor := (Cursor.ofPosition .start).advance ' '
  obtain ⟨moved, lexed, same⟩ := (lexed_iff.1 code).move cursor fun cs =>
    startsNegative_blank (c := ' ') (by decide) cs
  obtain ⟨front, split, append⟩ := lexed.tokenizeFrom_append
  have tail : ∀ (cursor : Cursor) (previous : Option Char), ∃ last : Token,
      last.kind = .endOfText ∧ tokenizeFrom cursor previous 0 w = .ok [last] := by
    intro cursor previous
    have skipped := tokenizeFrom_blanks blank cursor previous 0 []
    rw [List.append_nil, tokenizeFrom_nil, if_pos rfl] at skipped
    exact ⟨_, rfl, skipped⟩
  obtain ⟨last, ends, behind⟩ := tail (cursor.advanceAll c) (c.getLast?.or (some ' '))
  have whole : tokenizeFrom cursor (some ' ') 0 (c ++ w) = .ok (front ++ [last]) := by
    obtain ⟨v, vs, rfl⟩ := List.exists_cons_of_ne_nil apart
    have joined := append vs 0 (Seam.of_blank (blank v List.mem_cons_self))
    rw [behind] at joined
    exact joined
  have balanced : Balanced 0 front := by
    have closed := lexed.balanced
    rw [split] at closed
    exact closed.of_append_end rfl
  refine ⟨front ++ [last], (tokenizeFrom_blank (by decide)).trans whole, fun fuel => ?_⟩
  have congruent : runFlushed fuel inner = runFlushed fuel moved := by
    unfold runFlushed
    rw [runTokens_congr (same.imp fun _ _ part => part.sameStep rfl)]
  rw [congruent, split, runFlushed_append_end ends balanced, runFlushed_append_end rfl balanced]

/-- Running a block from the top of the stack. -/
theorem expand_apply (engine : Engine) (m : Machine) (block : Block) :
    (Operator.expand.meaning engine).apply { m with stack := m.stack.push (.block block) } =
      engine.run block.code m := by
  rfl

/-- The failures of the body get the place of the operator that runs it, unless they have one. -/
theorem runTokens_expanded (code : tokenizeAt (Position.start.advance '{') c = .ok inner)
    {block operator last : Token} (body : block.kind = .block c)
    (place : block.span.position = .start) (runs : operator.kind = .operator .expand)
    (ends : last.kind = .endOfText) (fuel : Nat) (m : Machine) :
    runTokens (engine (fuel + 1)) [block, operator, last] [] m =
      (runTokens (engine fuel) inner [] m).locate operator.span.position := by
  have pushed : ∀ m, step (engine (fuel + 1)) [] block m = .done []
      { m with stack := m.stack.push (.block ⟨c, Position.start.advance '{'⟩) } := by
    intro m
    unfold step
    rw [body, place]
    rfl
  have ran : (engine (fuel + 1)).run (Block.code ⟨c, Position.start.advance '{'⟩) =
      runTokens (engine fuel) inner [] := by
    rw [show Block.code ⟨c, Position.start.advance '{'⟩ = .ok inner from code]
    rfl
  have expanded : ∀ m, step (engine (fuel + 1)) [] operator
      { m with stack := m.stack.push (.block ⟨c, Position.start.advance '{'⟩) } =
        (runTokens (engine fuel) inner [] >>= fun _ => pure []) m := by
    intro m
    unfold step
    rw [runs]
    dsimp only
    rw [Run.bind_apply, expand_apply, ran, Run.bind_apply]
  rw [runTokens_cons, pushed]
  dsimp only
  rw [runTokens_cons, expanded, Run.bind_apply]
  cases runTokens (engine fuel) inner [] m with
  | done _ n =>
    dsimp only [Run.pure_apply]
    rw [runTokens_cons, step_endOfText ends]
    rfl
  | failed failure n => rfl
  | outOfFuel => rfl

/-- With one more unit of fuel for the block, the programs do the same, and they place failures alike
if the lines of the text do not wrap around. -/
theorem runProgram_expanded {xs : List Token} (lexed : tokenize c = .ok xs) (fuel : Nat)
    (m : Machine) :
    (runProgram (fuel + 1) ('{' :: c ++ ['}', '~']) m).unplaced =
        (runProgram fuel (' ' :: c ++ [' ', ' ']) m).unplaced ∧
      (c.count '\n' + 1 < 2 ^ 32 →
        runProgram (fuel + 1) ('{' :: c ++ ['}', '~']) m =
          runProgram fuel (' ' :: c ++ [' ', ' ']) m) := by
  obtain ⟨inner, code, -⟩ := tokenizeAt_move lexed (Position.start.advance '{')
  obtain ⟨block, operator, last, expanded, body, place, runs, ends⟩ := tokenize_expanded code
  have blank : ∀ c ∈ [' ', ' '], Text.isBlank c = true := List.all_eq_true.1 (by decide)
  obtain ⟨tokens, spaced, same⟩ := tokenize_spaced (List.cons_ne_nil _ _) blank code
  rw [runProgram_of_tokens expanded, runProgram_of_tokens spaced, same]
  unfold runFlushed
  rw [Run.bind_apply, Run.bind_apply, runTokens_expanded code body place runs ends]
  cases run : runTokens (engine fuel) inner [] m with
  | done _ n => exact ⟨rfl, fun _ => rfl⟩
  | failed failure n =>
    refine ⟨rfl, fun short => ?_⟩
    let b : Block := ⟨c, Position.start.advance '{'⟩
    have first : b.position.line.toNat + b.source.count '\n' < 2 ^ 32 := by
      rw [Nat.add_comm]
      exact short
    have known := b.failed_known code (b.not_unplaced nofun first) run
    dsimp only [Outcome.locate]
    rw [failure.locate_of_known known]
  | outOfFuel => exact ⟨rfl, fun _ => rfl⟩

end Body

section Ends

variable {c : Text} {xs : List Token} {m : Machine} {o : Outcome ProgramError Unit}

theorem Ends.expanded (lexed : tokenize c = .ok xs) (ends : Ends (' ' :: c ++ [' ', ' ']) m o) :
    ∃ o', Ends ('{' :: c ++ ['}', '~']) m o' ∧ o'.unplaced = o.unplaced ∧
      (c.count '\n' + 1 < 2 ^ 32 → o' = o) := by
  obtain ⟨followed, fuel, rfl⟩ := ends
  obtain ⟨alike, same⟩ := runProgram_expanded lexed fuel m
  refine ⟨_, ⟨fun stopped => followed ?_, fuel + 1, rfl⟩, alike, same⟩
  rw [stopped] at alike
  exact Outcome.unplaced_eq_outOfFuel.1 alike.symm

end Ends

end Stackscript
