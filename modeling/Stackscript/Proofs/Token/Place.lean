import Mathlib.Data.List.Forall2
import Stackscript.Proofs.Token.Lexed

set_option autoImplicit false

/- One text read from two cursors. The tokens are the same parts of the text, each at the place that
its part has from either cursor, and a fault is the same one at the same part. Only what stands
right before the text matters, and of that only whether a minus sign may start a number. -/
namespace Stackscript

/-- Tokens that cover the same part of a text which begins at one or the other cursor; the body of
a block is the text between its braces, and it has tokens. -/
structure SamePart (t : Text) (c c' : Cursor) (a b : Token) : Prop where
  kind : a.kind = b.kind
  part : ∃ before lexeme after, t = before ++ lexeme ++ after ∧
    a.span = .between (c.advanceAll before) (c.advanceAll (before ++ lexeme)) ∧
    b.span = .between (c'.advanceAll before) (c'.advanceAll (before ++ lexeme)) ∧
    ∀ body, a.kind = .block body → lexeme = '{' :: body ++ ['}']
  body : ∀ body, a.kind = .block body →
    ∃ inner, tokenizeAt (a.span.position.advance '{') body = .ok inner

theorem SamePart.prepend {t : Text} {c c' : Cursor} {a b : Token} (front : Text)
    (same : SamePart t (c.advanceAll front) (c'.advanceAll front) a b) :
    SamePart (front ++ t) c c' a b := by
  obtain ⟨before, lexeme, after, rfl, first, second, block⟩ := same.part
  refine ⟨same.kind, ⟨front ++ before, lexeme, after, ?_, ?_, ?_, block⟩, same.body⟩
  · simp only [List.append_assoc]
  · rw [first]
    simp only [Cursor.advanceAll_append]
  · rw [second]
    simp only [Cursor.advanceAll_append]

theorem SamePart.first {c c' : Cursor} {kind : TokenKind} (lexeme after : Text)
    (block : ∀ body, kind = .block body → lexeme = '{' :: body ++ ['}'] ∧
      ∃ inner, tokenizeAt (c.position.advance '{') body = .ok inner) :
    SamePart (lexeme ++ after) c c' ⟨kind, .between c (c.advanceAll lexeme)⟩
      ⟨kind, .between c' (c'.advanceAll lexeme)⟩ :=
  ⟨rfl, ⟨[], lexeme, after, rfl, rfl, rfl, fun body found => (block body found).1⟩,
    fun body found => (block body found).2⟩

/-- A text that has tokens has them wherever it stands. -/
theorem Lexed.move {c : Cursor} {previous : Option Char} {depth : Nat} {t : Text}
    {tokens : List Token} (lexed : Lexed c previous depth t tokens) (c' : Cursor)
    {previous' : Option Char}
    (start : ∀ cs, startsNegative previous' cs = startsNegative previous cs) :
    ∃ tokens', Lexed c' previous' depth t tokens' ∧
      List.Forall₂ (SamePart t c c') tokens tokens' := by
  induction lexed generalizing c' previous' with
  | @finish c =>
    refine ⟨_, .finish, .cons (SamePart.first [] [] ?_) .nil⟩
    intro body impossible
    cases impossible
  | @blank c _ _ w _ _ blank _ ih =>
    obtain ⟨tokens', moved, same⟩ := ih (c'.advance w) fun _ => rfl
    exact ⟨tokens', .blank blank moved, same.imp fun _ _ part => part.prepend [w]⟩
  | @block c _ _ body rest inner _ ends inside _ ihInside ihAfter =>
    obtain ⟨inner', movedInside, -⟩ :=
      ihInside (.ofPosition (c'.position.advance '{')) fun _ => rfl
    obtain ⟨tokens', movedAfter, same⟩ :=
      ihAfter (c'.advanceAll ('{' :: body ++ ['}'])) fun _ => rfl
    refine ⟨_, .block ends movedInside movedAfter, ?_⟩
    rw [show '{' :: (body ++ '}' :: rest) = ('{' :: body ++ ['}']) ++ rest by simp]
    refine .cons (SamePart.first _ rest ?_) (same.imp fun _ _ part => part.prepend _)
    rintro _ ⟨⟩
    exact ⟨rfl, inner, inside.tokenizeFrom_eq⟩
  | @lexeme c _ _ w tail rest _ _ dark notBlock scanned _ ih =>
    obtain ⟨tokens', moved, same⟩ := ih (c'.advanceAll (w :: tail)) fun _ => rfl
    refine ⟨_, .lexeme dark notBlock (scanned.move (start _) _) moved, ?_⟩
    rw [← List.cons_append]
    refine .cons (SamePart.first _ rest ?_) (same.imp fun _ _ part => part.prepend _)
    intro body impossible
    exact absurd impossible (scanned.kind_spec.1 body)

/-- The tokens of a text from one place are those from another, part by part. -/
theorem tokenizeAt_move {p : Position} {t : Text} {tokens : List Token}
    (read : tokenizeAt p t = .ok tokens) (q : Position) :
    ∃ tokens', tokenizeAt q t = .ok tokens' ∧
      List.Forall₂ (SamePart t (.ofPosition p) (.ofPosition q)) tokens tokens' := by
  obtain ⟨tokens', moved, same⟩ := (lexed_iff.1 read).move (.ofPosition q) fun _ => rfl
  exact ⟨tokens', moved.tokenizeFrom_eq, same⟩

theorem Lexed.parts {c : Cursor} {previous : Option Char} {depth : Nat} {t : Text}
    {tokens : List Token} (lexed : Lexed c previous depth t tokens) :
    ∀ token ∈ tokens, SamePart t c c token token := by
  obtain ⟨tokens', again, same⟩ := lexed.move c fun _ => rfl
  have unique : tokens' = tokens := by
    have read := again.tokenizeFrom_eq
    rw [lexed.tokenizeFrom_eq] at read
    cases read
    rfl
  subst unique
  exact List.forall₂_same.1 same

/-- A text that has no tokens has none wherever it stands, and always for the same fault, which is
found where the part of the text that it leaves out begins. -/
theorem tokenizeFrom_eq_error {c : Cursor} {previous : Option Char} {depth : Nat} {t : Text}
    {e : LexError} (refused : tokenizeFrom c previous depth t = .error e) :
    ∃ before after, t = before ++ after ∧ e.position = c.position.advanceAll before ∧
      e.fault.FoundAt after ∧
      ∀ (c' : Cursor) (previous' : Option Char),
        (∀ cs, startsNegative previous' cs = startsNegative previous cs) →
        tokenizeFrom c' previous' depth t =
          .error ⟨e.fault, c'.position.advanceAll before⟩ := by
  induction t using WellFounded.induction (measure List.length).wf
    generalizing c previous depth e with | _ t ih =>
  cases opening previous depth c.position t with
  | nothing =>
    rw [tokenizeFrom_nil] at refused
    split at refused
    · cases refused
    · rename_i inside
      cases refused
      refine ⟨[], [], rfl, rfl, .unclosedBracket, fun c' previous' _ => ?_⟩
      rw [tokenizeFrom_nil, if_neg inside]
      rfl
  | @blank w cs blank =>
    rw [tokenizeFrom_blank blank] at refused
    obtain ⟨before, after, rfl, place, found, again⟩ := ih cs (Nat.lt_succ_self _) refused
    refine ⟨w :: before, after, rfl, place, found, fun c' previous' _ => ?_⟩
    rw [tokenizeFrom_blank blank]
    exact again _ _ fun _ => rfl
  | @unterminated cs endless =>
    rw [tokenizeFrom_unterminated endless] at refused
    cases refused
    exact ⟨[], _, rfl, rfl, .unterminatedBlock cs,
      fun c' previous' _ => tokenizeFrom_unterminated endless⟩
  | @block body rest ends =>
    rw [tokenizeFrom_block ends] at refused
    rcases bind_eq_error.1 refused with inside | ⟨inner, inside, refused⟩
    · obtain ⟨before, after, rfl, place, found, again⟩ := ih body (body_shorter body rest) inside
      refine ⟨'{' :: before, after ++ '}' :: rest, by simp, place, found.append_brace rest,
        fun c' previous' _ => ?_⟩
      rw [tokenizeFrom_block ends, again _ _ fun _ => rfl]
      rfl
    rcases bind_eq_error.1 refused with outside | ⟨_, _, impossible⟩
    · have shorter : rest.length < ('{' :: (body ++ '}' :: rest)).length := by
        simpa using rest_shorter '{' (body ++ ['}']) rest
      obtain ⟨before, after, rfl, place, found, again⟩ := ih rest shorter outside
      refine ⟨('{' :: body ++ ['}']) ++ before, after, by simp, ?_, found,
        fun c' previous' _ => ?_⟩
      · rw [place, Cursor.advanceAll_eq, ← Position.advanceAll_append]
      · obtain ⟨inner', moved, -⟩ := (lexed_iff.1 inside).move
          (.ofPosition (c'.position.advance '{')) fun _ => rfl
        rw [tokenizeFrom_block ends, moved.tokenizeFrom_eq, again _ _ fun _ => rfl,
          Cursor.advanceAll_eq, ← Position.advanceAll_append]
        rfl
    · cases impossible
  | refused dark notBlock refusal =>
    rw [tokenizeFrom_refused dark notBlock refusal] at refused
    cases refused
    obtain ⟨before, after, split, place, found, again⟩ := scan_eq_error refusal
    exact ⟨before, after, split, place, found, fun c' previous' start =>
      tokenizeFrom_refused dark notBlock (again previous' c'.position (start _))⟩
  | @lexeme w tail rest kind dark notBlock scanned =>
    rw [tokenizeFrom_lexeme dark notBlock scanned.scan_eq] at refused
    rcases bind_eq_error.1 refused with outside | ⟨_, _, impossible⟩
    · obtain ⟨before, after, rfl, place, found, again⟩ := ih rest (rest_shorter w tail rest) outside
      refine ⟨(w :: tail) ++ before, after, by simp, ?_, found, fun c' previous' start => ?_⟩
      · rw [place, Cursor.advanceAll_eq, ← Position.advanceAll_append]
      · have moved := scanned.move (start _) c'.position
        rw [tokenizeFrom_lexeme dark notBlock moved.scan_eq, again _ _ fun _ => rfl,
          Cursor.advanceAll_eq, ← Position.advanceAll_append]
        rfl
    · cases impossible

/-- Brackets close as often as they open, and never before they were opened; at the start `depth`
of them are open. -/
def Balanced : Nat → List Token → Prop
  | depth, [] => depth = 0
  | depth, token :: tokens =>
    (token.kind = .closeBracket → depth ≠ 0) ∧ Balanced (token.kind.depthAfter depth) tokens

theorem Lexed.balanced {cursor : Cursor} {previous : Option Char} {depth : Nat} {t : Text}
    {tokens : List Token} (lexed : Lexed cursor previous depth t tokens) :
    Balanced depth tokens := by
  induction lexed with
  | finish => exact ⟨TokenKind.noConfusion, rfl⟩
  | blank _ _ ih => exact ih
  | block _ _ _ _ ih => exact ⟨TokenKind.noConfusion, ih⟩
  | lexeme _ _ scanned _ ih => exact ⟨scanned.kind_spec.2.2, ih⟩

end Stackscript
