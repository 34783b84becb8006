import Mathlib
import Stackscript.Proofs.Program.Invariant
import Stackscript.Proofs.Token.Tiling

set_option autoImplicit false

/- Where errors point. A block carries the place of its first character, so the tokens of its body
have their places in the whole program, and a failure keeps the place of the innermost token. -/
namespace Stackscript

/-- One of the tokens of `t` is of the given kind and begins right after `before`. -/
def StartsAfter (t before : Text) (kind : TokenKind) : Prop :=
  ∃ tokens token after, tokenize t = .ok tokens ∧ token ∈ tokens ∧ token.kind = kind ∧
    t = before ++ after ∧ token.span.start = Text.byteLength before

/-- A token of the given kind begins right after `before` in a program, be it one of its own or one
in the body of a block, which may be inside another one. -/
inductive TokenAt (source : Text) : Text → TokenKind → Prop where
  | outer {before : Text} {kind : TokenKind} (starts : StartsAfter source before kind) :
    TokenAt source before kind
  | inner {before body after inside : Text} {kind : TokenKind}
    (block : TokenAt source before (.block body))
    (split : source = before ++ '{' :: body ++ '}' :: after)
    (starts : StartsAfter body inside kind) : TokenAt source (before ++ '{' :: inside) kind

/-- An error tells the place that some part of the program leads to, and a failure that of a token.
The place of a failure is exact in a program whose length fits into a counter. -/
def PointsInto (source : Text) : ProgramError → Prop
  | .lexical error =>
    ∃ before after, source = before ++ after ∧
      error.position.Tells (Place.start.advanceAll before)
  | .runtime failure =>
    ∃ before kind, TokenAt source before kind ∧ kind ≠ .endOfText ∧
      failure.position.Tells (Place.start.advanceAll before) ∧
      (source.length < 2 ^ 32 →
        1 ≤ failure.position.line.toNat ∧ failure.position.place = Place.start.advanceAll before)

/-- A token that is not the end of the text begins in front of the end. -/
theorem StartsAfter.length_lt {t before : Text} {kind : TokenKind}
    (starts : StartsAfter t before kind) (working : kind ≠ .endOfText) :
    before.length < t.length := by
  obtain ⟨tokens, token, after, read, member, rfl, rfl, start⟩ := starts
  have tiling : Tiling .start [] ([] ++ (before ++ after)) tokens :=
    (lexed_iff.1 read).tiling rfl nofun
  obtain ⟨front, lexeme, rest, split, span, -, filled⟩ := tiling.parts token member
  have wide := (filled working).1
  have inside : token.span.stop ≤ Text.byteLength (before ++ after) := by
    rw [span, show before ++ after = _ from split, Text.byteLength_append (front ++ lexeme)]
    exact Nat.le_add_right _ _
  rw [start] at wide
  rw [Text.byteLength_append] at inside
  have nonempty : after ≠ [] := by
    rintro rfl
    exact Nat.not_le.2 wide inside
  rw [List.length_append]
  exact Nat.lt_add_of_pos_right (List.length_pos_iff.2 nonempty)

theorem TokenAt.length_lt {source before : Text} {kind : TokenKind}
    (found : TokenAt source before kind) (working : kind ≠ .endOfText) :
    before.length < source.length := by
  cases found with
  | outer starts => exact starts.length_lt working
  | inner block split starts =>
    obtain ⟨_, _, rest, _, _, _, parts, _⟩ := starts
    rw [split, parts]
    simp only [List.length_append, List.length_cons]
    omega

/-- The place of such a token is in the range of the counters if the length of the program is. -/
theorem TokenAt.told {source before : Text} {kind : TokenKind} (found : TokenAt source before kind)
    (working : kind ≠ .endOfText) (short : source.length < 2 ^ 32) :
    1 ≤ (Position.start.advanceAll before).line.toNat ∧
      (Position.start.advanceAll before).place = Place.start.advanceAll before := by
  have inside := found.length_lt working
  have enough : before.length + 1 < 2 ^ 32 := by omega
  have line := Position.line_of_short enough
  exact ⟨by omega, Position.place_of_short enough⟩

theorem exists_related_of_mem {α β : Type} {R : α → β → Prop} {xs : List α} {ys : List β}
    (h : List.Forall₂ R xs ys) {a : α} (member : a ∈ xs) : ∃ b ∈ ys, R a b := by
  induction h with
  | nil => cases member
  | cons head _ ih =>
    cases member with
    | head => exact ⟨_, .head _, head⟩
    | tail _ member =>
      obtain ⟨b, found, related⟩ := ih member
      exact ⟨b, .tail _ found, related⟩

/-- The tokens of a text that stands at `p` begin where the parts of the text lead to. -/
theorem startsAfter_of_tokenizeAt {p : Position} {t : Text} {tokens : List Token}
    (read : tokenizeAt p t = .ok tokens) {token : Token} (member : token ∈ tokens) :
    ∃ before lexeme after, t = before ++ lexeme ++ after ∧ StartsAfter t before token.kind ∧
      token.span.position = p.advanceAll before ∧
      ∀ body, token.kind = .block body → lexeme = '{' :: body ++ ['}'] := by
  obtain ⟨tokens', again, same⟩ := tokenizeAt_move read .start
  obtain ⟨token', member', part⟩ := exists_related_of_mem same member
  obtain ⟨before, lexeme, after, split, span, span', block⟩ := part.part
  refine ⟨before, lexeme, after, split, ?_, ?_, block⟩
  · refine ⟨tokens', token', lexeme ++ after, again, member', part.kind.symm, ?_, ?_⟩
    · rw [split, List.append_assoc]
    · rw [span']
      exact Cursor.offset_advanceAll _ before
  · rw [span]
    exact Cursor.position_advanceAll _ before

theorem StartsAfter.body_lexed {t before body : Text}
    (starts : StartsAfter t before (.block body)) : ∃ inner, tokenize body = .ok inner := by
  obtain ⟨tokens, token, after, read, member, kind, -, -⟩ := starts
  obtain ⟨inner, code⟩ := ((lexed_iff.1 read).parts token member).body body kind
  obtain ⟨inner', moved, -⟩ := tokenizeAt_move code .start
  exact ⟨inner', moved⟩

theorem TokenAt.body_lexed {source before body : Text}
    (found : TokenAt source before (.block body)) : ∃ inner, tokenize body = .ok inner := by
  cases found with
  | outer starts => exact starts.body_lexed
  | inner _ _ starts => exact starts.body_lexed

/-- Blocks come from the program and know where they were written. -/
def Invariant.placed (source : Text) : Invariant where
  blocks b := ∃ before after, TokenAt source before (.block b.source) ∧
    source = before ++ '{' :: b.source ++ '}' :: after ∧
    b.position = Position.start.advanceAll (before ++ ['{'])
  tokens token := ∃ before, TokenAt source before token.kind ∧
    token.span.position = Position.start.advanceAll before ∧
    ∀ body, token.kind = .block body → ∃ after, source = before ++ '{' :: body ++ '}' :: after
  places p := ∃ before kind, TokenAt source before kind ∧ kind ≠ .endOfText ∧
    p = Position.start.advanceAll before
  code := by
    rintro ⟨body, p⟩ ⟨before, after, found, split, place⟩
    obtain ⟨inner, read⟩ := found.body_lexed
    obtain ⟨xs, code, -⟩ := tokenizeAt_move read p
    refine ⟨xs, code, fun token member => ?_⟩
    obtain ⟨inside, lexeme, rest, parts, starts, position, block⟩ :=
      startsAfter_of_tokenizeAt code member
    refine ⟨before ++ '{' :: inside, .inner found split starts, ?_, fun nested kind => ?_⟩
    · rw [position, show p = _ from place, ← Position.advanceAll_append]
      simp only [List.append_assoc, List.singleton_append]
    · refine ⟨rest ++ '}' :: after, ?_⟩
      rw [split, show body = _ from parts, block nested kind]
      simp only [List.append_assoc, List.cons_append, List.nil_append]
  block := by
    rintro token body ⟨before, found, place, split⟩ kind
    obtain ⟨after, split⟩ := split body kind
    refine ⟨before, after, kind ▸ found, split, ?_⟩
    rw [place, Position.advanceAll_append]
    rfl
  place := by
    rintro token ⟨before, found, place, -⟩ working
    exact ⟨before, token.kind, found, working, place⟩

/-- A failure has the place of an inner token, or that of the token that was run. -/
theorem runTokens_failed {engine : Engine} {tokens : List Token} {aside : List Stack}
    {m n : Machine} {failure : Failure}
    (run : runTokens engine tokens aside m = .failed failure n)
    (balanced : Balanced aside.length tokens) :
    failure.position.line ≠ 0 ∨
      ∃ token ∈ tokens, token.kind ≠ .endOfText ∧ failure.position = token.span.position := by
  induction tokens generalizing aside m with
  | nil =>
    obtain rfl := List.length_eq_zero_iff.1 balanced
    cases run
  | cons token tokens ih =>
    rw [runTokens_cons] at run
    cases stepped : step engine aside token m with
    | done after m' =>
      rw [stepped] at run
      have rest := balanced.2
      rw [← step_length stepped] at rest
      rcases ih run rest with known | ⟨token, member, placed⟩
      · exact .inl known
      · exact .inr ⟨token, .tail _ member, placed⟩
    | failed raised m' =>
      rw [stepped] at run
      cases run
      by_cases unplaced : raised.position.line = 0
      · have working : token.kind ≠ .endOfText := by
          intro ends
          rw [step_endOfText ends] at stepped
          cases stepped
        rw [raised.locate_of_unknown unplaced]
        exact .inr ⟨token, .head _, working, rfl⟩
      · rw [raised.locate_of_known unplaced]
        exact .inl unplaced
    | outOfFuel =>
      rw [stepped] at run
      cases run

/-- A token of the block stands at line zero, so it has no place to give to a failure. -/
def Block.Unplaced (b : Block) : Prop :=
  ∃ tokens, b.code = .ok tokens ∧
    ∃ token ∈ tokens, token.kind ≠ .endOfText ∧ token.span.position.line = 0

/-- A block that was written at a known place is placed if its lines do not wrap around. -/
theorem Block.not_unplaced {b : Block} (known : b.position.line ≠ 0)
    (short : b.position.line.toNat + b.source.count '\n' < 2 ^ 32) : ¬ b.Unplaced := by
  rintro ⟨tokens, code, token, member, -, unknown⟩
  obtain ⟨before, lexeme, after, split, -, place, -⟩ := startsAfter_of_tokenizeAt code member
  rw [split, List.append_assoc, List.count_append] at short
  rw [place] at unknown
  exact Position.line_ne_zero known (by omega) unknown

/-- The second line of this block is past the last one that can be told. -/
example : Block.Unplaced ⟨['\n', '+'], ⟨4294967295, 1⟩⟩ := by
  have code : Block.code ⟨['\n', '+'], ⟨4294967295, 1⟩⟩ =
      .ok [⟨.operator .add, ⟨1, 2, ⟨0, 1⟩⟩⟩, ⟨.endOfText, ⟨2, 2, ⟨0, 2⟩⟩⟩] := by
    cbv
  exact ⟨_, code, _, .head _, by decide, rfl⟩

/-- A block that is placed gives a place to every failure in it. -/
theorem Block.failed_known {b : Block} {tokens : List Token} (code : b.code = .ok tokens)
    (placed : ¬ b.Unplaced) {engine : Engine} {m n : Machine} {failure : Failure}
    (run : runTokens engine tokens [] m = .failed failure n) : failure.position.line ≠ 0 := by
  rcases runTokens_failed run (lexed_iff.1 code).balanced with
    known | ⟨token, member, working, place⟩
  · exact known
  · intro unknown
    exact placed ⟨tokens, code, token, member, working, place ▸ unknown⟩

theorem Invariant.placed_of_tokenize {source : Text} {tokens : List Token}
    (read : tokenize source = .ok tokens) :
    ∀ token ∈ tokens, (placed source).tokens token := by
  intro token member
  obtain ⟨before, lexeme, after, split, starts, place, block⟩ :=
    startsAfter_of_tokenizeAt read member
  refine ⟨before, .outer starts, place, fun body kind => ⟨after, ?_⟩⟩
  rw [split, block body kind]
  simp only [List.append_assoc, List.cons_append, List.nil_append]

/-- The errors of a program point into it, when it is run on a fresh machine and its output can be
flushed. -/
theorem error_pointsInto {source : Text} {input : Input} {output : Output} {error : ProgramError}
    {m : Machine} (sound : output.flushError = none)
    (ends : Ends source (.initial input output) (.failed error m)) : PointsInto source error := by
  have left := ends.leaves (Invariant.holds_initial input output)
    fun _ => Invariant.placed_of_tokenize
  obtain ⟨-, fuel, run⟩ := ends
  cases error with
  | lexical error =>
    obtain ⟨before, after, split, place, -⟩ := tokenizeFrom_eq_error (runProgram_eq_lexical run)
    exact ⟨before, after, split, place ▸ Position.start.tells_advanceAll before⟩
  | runtime failure =>
    obtain ⟨tokens, read, ended⟩ := runProgram_eq_runtime run
    rw [runFlushed_eq (lexed_iff.1 read).balanced sound] at ended
    have placed : (Invariant.placed source).places failure.position := by
      rcases runTokens_failed ended (lexed_iff.1 read).balanced with
        known | ⟨token, member, working, place⟩
      · rcases left.1.2 with unknown | place
        · rw [unknown] at known
          exact absurd rfl known
        · exact place
      · rw [place]
        exact (Invariant.placed source).place (Invariant.placed_of_tokenize read token member)
          working
    obtain ⟨before, kind, found, working, place⟩ := placed
    refine ⟨before, kind, found, working, ?_, fun short => ?_⟩
    · rw [place]
      exact Position.start.tells_advanceAll before
    · rw [place]
      exact found.told working short

/-- An operator that fails in a block inside another one, on the second line. -/
theorem error_pointsInto_nested :
    ∃ m, Ends "1\n{{[+]}~}~".toList (.initial .empty {})
        (.failed (.runtime ⟨.underflow 2 0, ⟨2, 4⟩⟩) m) ∧
      PointsInto "1\n{{[+]}~}~".toList (.runtime ⟨.underflow 2 0, ⟨2, 4⟩⟩) := by
  let m : Machine := { Machine.initial .empty {} with stack := .ofList [.integer 1] }
  have ends : Ends "1\n{{[+]}~}~".toList (.initial .empty {})
      (.failed (.runtime ⟨.underflow 2 0, ⟨2, 4⟩⟩) m) :=
    .of_failed 3 (by cbv)
  exact ⟨m, ends, error_pointsInto rfl ends⟩

end Stackscript
