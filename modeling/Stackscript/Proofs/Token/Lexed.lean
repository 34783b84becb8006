import Stackscript.Proofs.Token.Scan

set_option autoImplicit false

/- The texts that have tokens, by how they are made up: blanks, blocks and lexemes one after another.
A derivation of `Lexed` is a run of the tokenizer that found no fault. -/
namespace Stackscript

theorem bodyLength_true_cons {c : Char} {cs : Text} {depth : Nat} (notQuote : c ≠ '"')
    (plain : c ≠ '\\') :
    bodyLength true depth (c :: cs) = (bodyLength true depth cs).map (· + 1) := by
  rw [bodyLength]
  · exact notQuote
  · intro backslash
    exact absurd backslash plain
  · intro d ds backslash
    exact absurd backslash plain

theorem bodyLength_false_cons {c : Char} {cs : Text} {depth : Nat}
    (plain : c ≠ '"' ∧ c ≠ '\'' ∧ c ≠ '{' ∧ c ≠ '}') :
    bodyLength false depth (c :: cs) = (bodyLength false depth cs).map (· + 1) := by
  obtain ⟨notQuote, notSingle, notOpen, notClose⟩ := plain
  rw [bodyLength]
  · exact notQuote
  · intro single
    exact absurd single notSingle
  · intro d ds single
    exact absurd single notSingle
  · exact notOpen
  · intro _ close
    exact absurd close notClose
  · intro d _ close
    exact absurd close notClose

private theorem map_add_add (x : Option Nat) (m n : Nat) :
    (x.map (· + m)).map (· + n) = x.map (· + (m + n)) := by
  cases x <;> simp [Nat.add_assoc]

/-- The end of a body is found by its text alone: in front of any other text and inside further
braces, the search goes on behind it with those braces still open. -/
theorem bodyLength_eq_some {inString : Bool} {depth : Nat} {t : Text} {n : Nat}
    (found : bodyLength inString depth t = some n) :
    ∃ body rest, t = body ++ '}' :: rest ∧ body.length = n ∧ ∀ extra rest',
      bodyLength inString (depth + extra) (body ++ rest') =
        (bodyLength false extra rest').map (· + n) := by
  fun_induction bodyLength inString depth t generalizing n with
  | case1 => cases found
  | case2 depth cs ih =>
    obtain ⟨m, inner, rfl⟩ := Option.map_eq_some_iff.1 found
    obtain ⟨body, rest, rfl, rfl, again⟩ := ih inner
    refine ⟨'"' :: body, rest, rfl, rfl, fun extra rest' => ?_⟩
    simp only [List.cons_append, bodyLength, again, map_add_add]
  | case3 => cases found
  | case4 depth c cs ih =>
    obtain ⟨m, inner, rfl⟩ := Option.map_eq_some_iff.1 found
    obtain ⟨body, rest, rfl, rfl, again⟩ := ih inner
    refine ⟨'\\' :: c :: body, rest, rfl, rfl, fun extra rest' => ?_⟩
    simp only [List.cons_append, bodyLength, again, map_add_add]
  | case5 depth c cs notQuote notLone notEscape ih =>
    obtain ⟨m, inner, rfl⟩ := Option.map_eq_some_iff.1 found
    obtain ⟨body, rest, rfl, rfl, again⟩ := ih inner
    have plain : c ≠ '\\' := by
      intro backslash
      cases split : body ++ '}' :: rest with
      | nil => exact notLone backslash split
      | cons d ds => exact notEscape d ds backslash split
    refine ⟨c :: body, rest, rfl, rfl, fun extra rest' => ?_⟩
    rw [List.cons_append, bodyLength_true_cons notQuote plain, again, map_add_add]
  | case6 depth cs ih =>
    obtain ⟨m, inner, rfl⟩ := Option.map_eq_some_iff.1 found
    obtain ⟨body, rest, rfl, rfl, again⟩ := ih inner
    refine ⟨'"' :: body, rest, rfl, rfl, fun extra rest' => ?_⟩
    simp only [List.cons_append, bodyLength, again, map_add_add]
  | case7 => cases found
  | case8 depth c cs ih =>
    obtain ⟨m, inner, rfl⟩ := Option.map_eq_some_iff.1 found
    obtain ⟨body, rest, rfl, rfl, again⟩ := ih inner
    refine ⟨'\'' :: c :: body, rest, rfl, rfl, fun extra rest' => ?_⟩
    simp only [List.cons_append, bodyLength, again, map_add_add]
  | case9 depth cs ih =>
    obtain ⟨m, inner, rfl⟩ := Option.map_eq_some_iff.1 found
    obtain ⟨body, rest, rfl, rfl, again⟩ := ih inner
    refine ⟨'{' :: body, rest, rfl, rfl, fun extra rest' => ?_⟩
    rw [List.cons_append, bodyLength, show depth + extra + 1 = depth + 1 + extra by omega, again,
      map_add_add]
  | case10 cs =>
    cases found
    refine ⟨[], cs, rfl, rfl, fun extra rest' => ?_⟩
    simp
  | case11 depth cs ih =>
    obtain ⟨m, inner, rfl⟩ := Option.map_eq_some_iff.1 found
    obtain ⟨body, rest, rfl, rfl, again⟩ := ih inner
    refine ⟨'}' :: body, rest, rfl, rfl, fun extra rest' => ?_⟩
    rw [List.cons_append, show depth.succ + extra = depth + extra + 1 by omega, bodyLength, again,
      map_add_add]
  | case12 depth c cs notQuote notLone notPair notOpen notLast notClose ih =>
    obtain ⟨m, inner, rfl⟩ := Option.map_eq_some_iff.1 found
    obtain ⟨body, rest, rfl, rfl, again⟩ := ih inner
    have plain : c ≠ '"' ∧ c ≠ '\'' ∧ c ≠ '{' ∧ c ≠ '}' := by
      refine ⟨notQuote, ?_, notOpen, ?_⟩
      · intro single
        cases split : body ++ '}' :: rest with
        | nil => exact notLone single split
        | cons d ds => exact notPair d ds single split
      · intro close
        cases depth with
        | zero => exact notLast rfl close
        | succ depth => exact notClose depth rfl close
    refine ⟨c :: body, rest, rfl, rfl, fun extra rest' => ?_⟩
    rw [List.cons_append, bodyLength_false_cons plain, again, map_add_add]

theorem tokenizeFrom_nil (cursor : Cursor) (previous : Option Char) (depth : Nat) :
    tokenizeFrom cursor previous depth [] =
      if depth = 0 then .ok [⟨.endOfText, .between cursor cursor⟩]
      else .error ⟨.unclosedBracket, cursor.position⟩ := by
  rw [tokenizeFrom]

theorem tokenizeFrom_blank {cursor : Cursor} {previous : Option Char} {depth : Nat} {c : Char}
    {cs : Text} (blank : Text.isBlank c = true) :
    tokenizeFrom cursor previous depth (c :: cs) =
      tokenizeFrom (cursor.advance c) (some c) depth cs := by
  rw [tokenizeFrom.eq_def]
  exact if_pos blank

private theorem brace_dark : ¬ Text.isBlank '{' = true := by
  decide

theorem tokenizeFrom_block {cursor : Cursor} {previous : Option Char} {depth : Nat}
    {body rest : Text} (ends : bodyLength false 0 (body ++ '}' :: rest) = some body.length) :
    tokenizeFrom cursor previous depth ('{' :: (body ++ '}' :: rest)) = do
      let _ ← tokenizeFrom (.ofPosition (cursor.position.advance '{')) none 0 body
      let tokens ← tokenizeFrom (cursor.advanceAll ('{' :: body ++ ['}'])) (some '}') depth rest
      return ⟨.block body, .between cursor (cursor.advanceAll ('{' :: body ++ ['}']))⟩ ::
        tokens := by
  have takeBody : (body ++ '}' :: rest).take body.length = body := List.take_left
  have split : body ++ '}' :: rest = (body ++ ['}']) ++ rest := by simp
  have size : body.length + 1 = (body ++ ['}']).length := by simp
  have takeBrace : (body ++ '}' :: rest).take (body.length + 1) = body ++ ['}'] := by
    rw [split, size, List.take_left]
  have dropBrace : (body ++ '}' :: rest).drop (body.length + 1) = rest := by
    rw [split, size, List.drop_left]
  rw [tokenizeFrom.eq_def]
  dsimp only
  rw [if_neg brace_dark, if_pos rfl, ends]
  dsimp only
  rw [takeBody, takeBrace, dropBrace]
  rfl

theorem tokenizeFrom_lexeme {cursor : Cursor} {previous : Option Char} {depth : Nat} {c : Char}
    {tail rest : Text} {kind : TokenKind} (dark : Text.isBlank c = false) (notBlock : c ≠ '{')
    (scanned : scan previous depth cursor.position c (tail ++ rest) = .ok (kind, tail.length)) :
    tokenizeFrom cursor previous depth (c :: (tail ++ rest)) = do
      let tokens ← tokenizeFrom (cursor.advanceAll (c :: tail)) (c :: tail).getLast?
        (kind.depthAfter depth) rest
      return ⟨kind, .between cursor (cursor.advanceAll (c :: tail))⟩ :: tokens := by
  rw [tokenizeFrom.eq_def]
  dsimp only
  rw [if_neg (by simp [dark]), if_neg notBlock, scanned]
  change (do
    let tokens ← tokenizeFrom (cursor.advanceAll (c :: (tail ++ rest).take tail.length))
      (c :: (tail ++ rest).take tail.length).getLast? (kind.depthAfter depth)
      ((tail ++ rest).drop tail.length)
    return (⟨kind, .between cursor
      (cursor.advanceAll (c :: (tail ++ rest).take tail.length))⟩ : Token) :: tokens) = _
  rw [List.take_left, List.drop_left]

/-- How a text begins, for a tokenizer that has come to it. -/
inductive Opening (previous : Option Char) (depth : Nat) (p : Position) : Text → Prop where
  | nothing : Opening previous depth p []
  | blank {c : Char} {cs : Text} (blank : Text.isBlank c = true) :
    Opening previous depth p (c :: cs)
  | unterminated {cs : Text} (endless : bodyLength false 0 cs = none) :
    Opening previous depth p ('{' :: cs)
  | block {body rest : Text} (ends : bodyLength false 0 (body ++ '}' :: rest) = some body.length) :
    Opening previous depth p ('{' :: (body ++ '}' :: rest))
  | refused {c : Char} {cs : Text} {e : LexError} (dark : Text.isBlank c = false)
    (notBlock : c ≠ '{') (refused : scan previous depth p c cs = .error e) :
    Opening previous depth p (c :: cs)
  | lexeme {c : Char} {tail rest : Text} {kind : TokenKind} (dark : Text.isBlank c = false)
    (notBlock : c ≠ '{') (scanned : Scanned previous depth p c (tail ++ rest) kind tail.length) :
    Opening previous depth p (c :: (tail ++ rest))

theorem opening (previous : Option Char) (depth : Nat) (p : Position) (t : Text) :
    Opening previous depth p t := by
  cases t with
  | nil => exact .nothing
  | cons c cs =>
    by_cases blank : Text.isBlank c = true
    · exact .blank blank
    have dark := Bool.eq_false_iff.2 blank
    by_cases brace : c = '{'
    · subst c
      cases found : bodyLength false 0 cs with
      | none => exact .unterminated found
      | some length =>
        obtain ⟨body, rest, rfl, rfl, -⟩ := bodyLength_eq_some found
        exact .block found
    · cases found : scan previous depth p c cs with
      | error e => exact .refused dark brace found
      | ok result =>
        obtain ⟨kind, length⟩ := result
        have scanned := Scanned.of_scan found
        have size : (cs.take length).length = length := by
          have := scanned.length_le
          simp only [List.length_take]
          omega
        rw [← List.take_append_drop length cs] at scanned ⊢
        exact .lexeme dark brace (by rw [size]; exact scanned)

theorem tokenizeFrom_unterminated {cursor : Cursor} {previous : Option Char} {depth : Nat}
    {cs : Text} (endless : bodyLength false 0 cs = none) :
    tokenizeFrom cursor previous depth ('{' :: cs) =
      .error ⟨.unterminatedBlock, cursor.position⟩ := by
  rw [tokenizeFrom.eq_def]
  dsimp only
  rw [if_neg brace_dark, if_pos rfl, endless]

theorem tokenizeFrom_refused {cursor : Cursor} {previous : Option Char} {depth : Nat} {c : Char}
    {cs : Text} {e : LexError} (dark : Text.isBlank c = false) (notBlock : c ≠ '{')
    (refused : scan previous depth cursor.position c cs = .error e) :
    tokenizeFrom cursor previous depth (c :: cs) = .error e := by
  rw [tokenizeFrom.eq_def]
  dsimp only
  rw [if_neg (by simp [dark]), if_neg notBlock, refused]
  rfl

theorem body_shorter (body rest : Text) : body.length < ('{' :: (body ++ '}' :: rest)).length := by
  simp only [List.length_cons, List.length_append]
  omega

theorem rest_shorter (c : Char) (front rest : Text) :
    rest.length < (c :: (front ++ rest)).length := by
  simp only [List.length_cons, List.length_append]
  omega

/-- The tokens of a text, read from the cursor after the character `previous` and inside `depth`
open brackets. -/
inductive Lexed : Cursor → Option Char → Nat → Text → List Token → Prop where
  | finish {cursor : Cursor} {previous : Option Char} :
    Lexed cursor previous 0 [] [⟨.endOfText, .between cursor cursor⟩]
  | blank {cursor : Cursor} {previous : Option Char} {depth : Nat} {c : Char} {cs : Text}
    {tokens : List Token} (blank : Text.isBlank c = true)
    (rest : Lexed (cursor.advance c) (some c) depth cs tokens) :
    Lexed cursor previous depth (c :: cs) tokens
  | block {cursor : Cursor} {previous : Option Char} {depth : Nat} {body rest : Text}
    {inner tokens : List Token} (ends : bodyLength false 0 (body ++ '}' :: rest) = some body.length)
    (inside : Lexed (.ofPosition (cursor.position.advance '{')) none 0 body inner)
    (after : Lexed (cursor.advanceAll ('{' :: body ++ ['}'])) (some '}') depth rest tokens) :
    Lexed cursor previous depth ('{' :: (body ++ '}' :: rest))
      (⟨.block body, .between cursor (cursor.advanceAll ('{' :: body ++ ['}']))⟩ :: tokens)
  | lexeme {cursor : Cursor} {previous : Option Char} {depth : Nat} {c : Char} {tail rest : Text}
    {kind : TokenKind} {tokens : List Token} (dark : Text.isBlank c = false) (notBlock : c ≠ '{')
    (scanned : Scanned previous depth cursor.position c (tail ++ rest) kind tail.length)
    (after : Lexed (cursor.advanceAll (c :: tail)) (c :: tail).getLast? (kind.depthAfter depth)
      rest tokens) :
    Lexed cursor previous depth (c :: (tail ++ rest))
      (⟨kind, .between cursor (cursor.advanceAll (c :: tail))⟩ :: tokens)

theorem Lexed.of_tokenizeFrom {cursor : Cursor} {previous : Option Char} {depth : Nat} {t : Text}
    {tokens : List Token} (read : tokenizeFrom cursor previous depth t = .ok tokens) :
    Lexed cursor previous depth t tokens := by
  induction t using WellFounded.induction (measure List.length).wf
    generalizing cursor previous depth tokens with | _ t ih =>
  cases opening previous depth cursor.position t with
  | nothing =>
    rw [tokenizeFrom_nil] at read
    split at read
    · rename_i outside
      subst depth
      cases read
      exact .finish
    · cases read
  | blank blank =>
    rw [tokenizeFrom_blank blank] at read
    exact .blank blank (ih _ (Nat.lt_succ_self _) read)
  | unterminated endless =>
    rw [tokenizeFrom_unterminated endless] at read
    cases read
  | @block body rest ends =>
    rw [tokenizeFrom_block ends] at read
    obtain ⟨inner, inside, read⟩ := bind_eq_ok.1 read
    obtain ⟨tokens, after, same⟩ := bind_eq_ok.1 read
    cases same
    have shorter : rest.length < ('{' :: (body ++ '}' :: rest)).length := by
      simpa using rest_shorter '{' (body ++ ['}']) rest
    exact .block ends (ih body (body_shorter body rest) inside) (ih rest shorter after)
  | refused dark notBlock refused =>
    rw [tokenizeFrom_refused dark notBlock refused] at read
    cases read
  | @lexeme c tail rest kind dark notBlock scanned =>
    rw [tokenizeFrom_lexeme dark notBlock scanned.scan_eq] at read
    obtain ⟨tokens, after, same⟩ := bind_eq_ok.1 read
    cases same
    exact .lexeme dark notBlock scanned (ih rest (rest_shorter c tail rest) after)

theorem Lexed.tokenizeFrom_eq {cursor : Cursor} {previous : Option Char} {depth : Nat} {t : Text}
    {tokens : List Token} (lexed : Lexed cursor previous depth t tokens) :
    tokenizeFrom cursor previous depth t = .ok tokens := by
  induction lexed with
  | finish => rw [tokenizeFrom_nil, if_pos rfl]
  | blank blank _ ih => rw [tokenizeFrom_blank blank, ih]
  | block ends _ _ ihInside ihAfter =>
    rw [tokenizeFrom_block ends, ihInside, ihAfter]
    rfl
  | lexeme dark notBlock scanned _ ih =>
    rw [tokenizeFrom_lexeme dark notBlock scanned.scan_eq, ih]
    rfl

theorem lexed_iff {cursor : Cursor} {previous : Option Char} {depth : Nat} {t : Text}
    {tokens : List Token} :
    tokenizeFrom cursor previous depth t = .ok tokens ↔ Lexed cursor previous depth t tokens :=
  ⟨Lexed.of_tokenizeFrom, Lexed.tokenizeFrom_eq⟩

end Stackscript
