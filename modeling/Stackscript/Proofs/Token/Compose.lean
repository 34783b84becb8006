import Stackscript.Proofs.Token.Lexed

set_option autoImplicit false

/- Texts beside and inside one another. A text that has tokens keeps them in front of a seam, where
the tokens of what follows are added to them, and the search for the end of a block passes over it:
so it can be the body of one. -/
namespace Stackscript

theorem getLast?_or (front rest : Text) (previous : Option Char) :
    (front ++ rest).getLast?.or previous = rest.getLast?.or (front.getLast?.or previous) := by
  rw [List.getLast?_append, Option.or_assoc]

private theorem map_prepend_cons {ε α : Type} (item : α) (front : List α)
    (found : Except ε (List α)) :
    (do
      let items ← (front ++ ·) <$> found
      return item :: items) = ((item :: front) ++ ·) <$> found := by
  cases found <;> rfl

theorem TokenKind.depthAfter_add {kind : TokenKind} {depth : Nat}
    (closes : kind = .closeBracket → depth ≠ 0) (extra : Nat) :
    kind.depthAfter (depth + extra) = kind.depthAfter depth + extra := by
  cases kind with
  | closeBracket =>
    have := closes rfl
    simp only [depthAfter]
    omega
  | openBracket =>
    simp only [depthAfter]
    omega
  | _ => rfl

/-- Reading goes on behind a seam as if the text began there; brackets that were open before stay
open. -/
theorem Lexed.tokenizeFrom_append {cursor : Cursor} {previous : Option Char} {depth : Nat}
    {a : Text} {tokens : List Token} (lexed : Lexed cursor previous depth a tokens) :
    ∃ front,
      tokens = front ++ [⟨.endOfText, .between (cursor.advanceAll a) (cursor.advanceAll a)⟩] ∧
      ∀ {w : Char} (rest : Text) (extra : Nat), Seam w →
        tokenizeFrom cursor previous (depth + extra) (a ++ w :: rest) =
          (front ++ ·) <$> tokenizeFrom (cursor.advanceAll a) (a.getLast?.or previous) extra
            (w :: rest) := by
  induction lexed with
  | @finish cursor previous =>
    refine ⟨[], rfl, fun {w} rest extra _ => ?_⟩
    rw [Nat.zero_add]
    change tokenizeFrom cursor previous extra (w :: rest) =
      id <$> tokenizeFrom cursor previous extra (w :: rest)
    rw [id_map]
  | @blank cursor previous depth c cs tokens blank _ ih =>
    obtain ⟨front, rfl, compose⟩ := ih
    refine ⟨front, rfl, fun {w} rest extra seam => ?_⟩
    rw [List.cons_append, tokenizeFrom_blank blank, compose rest extra seam,
      show c :: cs = [c] ++ cs from rfl, getLast?_or]
    rfl
  | @block cursor previous depth body after inner tokens ends inside _ _ ih =>
    obtain ⟨front, rfl, compose⟩ := ih
    have split : '{' :: (body ++ '}' :: after) = ('{' :: body ++ ['}']) ++ after := by simp
    have reach : cursor.advanceAll ('{' :: (body ++ '}' :: after)) =
        (cursor.advanceAll ('{' :: body ++ ['}'])).advanceAll after := by
      rw [split, Cursor.advanceAll_append]
    have last : ('{' :: (body ++ '}' :: after)).getLast?.or previous =
        after.getLast?.or (some '}') := by
      rw [split, getLast?_or, List.getLast?_concat]
      rfl
    refine ⟨⟨.block body, .between cursor (cursor.advanceAll ('{' :: body ++ ['}']))⟩ :: front, ?_,
      fun {w} rest extra seam => ?_⟩
    · rw [reach]
      rfl
    · have ends' : bodyLength false 0 (body ++ '}' :: (after ++ w :: rest)) =
          some body.length := by
        obtain ⟨body', after', same, size, again⟩ := bodyLength_eq_some ends
        obtain rfl := (List.append_inj same size.symm).1
        simpa [bodyLength] using again 0 ('}' :: (after ++ w :: rest))
      have assoc : '{' :: (body ++ '}' :: after) ++ w :: rest =
          '{' :: (body ++ '}' :: (after ++ w :: rest)) := by simp
      rw [assoc, tokenizeFrom_block ends', inside.tokenizeFrom_eq, compose rest extra seam, reach,
        last]
      exact map_prepend_cons _ _ _
  | @lexeme cursor previous depth c tail after kind tokens dark notBlock scanned _ ih =>
    obtain ⟨front, rfl, compose⟩ := ih
    have reach : cursor.advanceAll (c :: (tail ++ after)) =
        (cursor.advanceAll (c :: tail)).advanceAll after := by
      rw [← List.cons_append, Cursor.advanceAll_append]
    have last : (c :: (tail ++ after)).getLast?.or previous =
        after.getLast?.or (c :: tail).getLast? := by
      rw [← List.cons_append, getLast?_or, List.getLast?_cons]
      rfl
    refine ⟨⟨kind, .between cursor (cursor.advanceAll (c :: tail))⟩ :: front, ?_,
      fun {w} rest extra seam => ?_⟩
    · rw [reach]
      rfl
    · have scanned' := scanned.append seam rest extra
      rw [List.append_assoc] at scanned'
      rw [List.cons_append, List.append_assoc,
        tokenizeFrom_lexeme dark notBlock scanned'.scan_eq,
        TokenKind.depthAfter_add scanned.kind_spec.2.2, compose rest extra seam, reach, last]
      exact map_prepend_cons _ _ _

theorem tokenizeFrom_blanks {w : Text} (blank : ∀ c ∈ w, Text.isBlank c = true) (cursor : Cursor)
    (previous : Option Char) (depth : Nat) (rest : Text) :
    tokenizeFrom cursor previous depth (w ++ rest) =
      tokenizeFrom (cursor.advanceAll w) (w.getLast?.or previous) depth rest := by
  induction w generalizing cursor previous with
  | nil => rfl
  | cons c cs ih =>
    rw [List.cons_append, tokenizeFrom_blank (blank c (by simp)),
      ih fun d member => blank d (by simp [member]), show c :: cs = [c] ++ cs from rfl,
      getLast?_or]
    rfl

/-- Inside a string the search for the end of a block stops being inside where the string ends. -/
theorem bodyLength_string {opening p : Position} {t value : Text} {n : Nat}
    (scanned : scanString opening p t = .ok (value, n)) (depth : Nat) (rest : Text) :
    bodyLength true depth (t ++ rest) =
      (bodyLength false depth (t.drop n ++ rest)).map (· + n) := by
  fun_induction scanString opening p t generalizing value n with
  | case1 => cases scanned
  | case2 =>
    cases scanned
    rw [List.cons_append, bodyLength]
    rfl
  | case3 => cases scanned
  | case4 => cases scanned
  | case5 p c cs escaped found ih =>
    obtain ⟨⟨tail, length⟩, inner, same⟩ := bind_eq_ok.1 scanned
    cases same
    rw [List.cons_append, List.cons_append, bodyLength, ih inner, Option.map_map]
    rfl
  | case6 p c cs notQuote notLone notEscape ih =>
    obtain ⟨⟨tail, length⟩, inner, same⟩ := bind_eq_ok.1 scanned
    cases same
    have plain : c ≠ '\\' := by
      intro backslash
      cases cs with
      | nil => exact notLone backslash rfl
      | cons d ds => exact notEscape d ds backslash rfl
    rw [List.cons_append, bodyLength_true_cons notQuote plain, ih inner, Option.map_map]
    rfl

/-- Characters that the search for the end of a block passes over one by one. -/
def Plain (c : Char) : Prop :=
  c ≠ '"' ∧ c ≠ '\'' ∧ c ≠ '{' ∧ c ≠ '}'

theorem bodyLength_plain {front : Text} (plain : ∀ c ∈ front, Plain c) (depth : Nat) (rest : Text) :
    bodyLength false depth (front ++ rest) =
      (bodyLength false depth rest).map (· + front.length) := by
  induction front with
  | nil => simp
  | cons c cs ih =>
    rw [List.cons_append, bodyLength_false_cons (plain c (by simp)),
      ih fun d member => plain d (by simp [member]), Option.map_map]
    rfl

private theorem plain_of_isDigit {c : Char} (digit : c.isDigit = true) : Plain c := by
  refine ⟨?_, ?_, ?_, ?_⟩
  all_goals
    rintro rfl
    cases digit

private theorem plain_of_isBlank {c : Char} (blank : Text.isBlank c = true) : Plain c := by
  refine ⟨?_, ?_, ?_, ?_⟩
  all_goals
    rintro rfl
    revert blank
    decide

private theorem plain_of_letter {c : Char} {letter : Letter}
    (name : Letter.ofChar? c = some letter) : Plain c := by
  refine ⟨?_, ?_, ?_, ?_⟩
  all_goals
    rintro rfl
    cases name

theorem Operator.symbol_plain (op : Operator) : ∀ c ∈ op.symbol, Plain c := by
  cases op <;> simp [Operator.symbol, Plain]

theorem scanNumber_plain {p : Position} {c : Char} {cs : Text} {kind : TokenKind} {n : Nat}
    (scanned : scanNumber p c cs = .ok (kind, n)) : ∀ d ∈ cs.take n, Plain d := by
  intro d member
  rw [scanNumber_text scanned, List.mem_append] at member
  rcases member with member | member
  · exact plain_of_isDigit (isDigit_of_mem_takeWhile member)
  · split at member
    · cases member
    · rcases List.mem_cons.1 member with rfl | member
      · simp [Plain]
      · exact plain_of_isDigit (isDigit_of_mem_fractionDigits member)

theorem scanSymbol_plain {p : Position} {c : Char} {cs : Text} {kind : TokenKind} {n : Nat}
    (scanned : scanSymbol p c cs = .ok (kind, n)) : ∀ d ∈ c :: cs.take n, Plain d := by
  unfold scanSymbol at scanned
  split at scanned
  · rename_i op pair
    cases scanned
    cases cs with
    | nil => cases pair
    | cons d ds =>
      have symbol := Operator.symbol_of_ofSymbol? pair
      rw [List.take_succ_cons, List.take_zero, ← symbol]
      exact op.symbol_plain
  · split at scanned
    · rename_i letter name
      cases scanned
      simpa using plain_of_letter name
    · split at scanned
      · rename_i op single
        cases scanned
        have symbol := Operator.symbol_of_ofSymbol? single
        rw [List.take_zero, ← symbol]
        exact op.symbol_plain
      · cases scanned

theorem Scanned.bodyLength_eq {previous : Option Char} {depth : Nat} {p : Position} {c : Char}
    {cs : Text} {kind : TokenKind} {n : Nat} (scanned : Scanned previous depth p c cs kind n)
    (notBlock : c ≠ '{') (braces : Nat) (more : Text) :
    bodyLength false braces (c :: cs ++ more) =
      (bodyLength false braces (cs.drop n ++ more)).map (· + (n + 1)) := by
  -- Strings and characters are passed over as such, all other lexemes character by character.
  have ofPlain : (∀ d ∈ c :: cs.take n, Plain d) →
      bodyLength false braces (c :: cs ++ more) =
        (bodyLength false braces (cs.drop n ++ more)).map (· + (n + 1)) := by
    intro plain
    have size : (c :: cs.take n).length = n + 1 := by
      have := scanned.length_le
      simp only [List.length_cons, List.length_take]
      omega
    have split : c :: cs ++ more = c :: cs.take n ++ (cs.drop n ++ more) := by
      change c :: (cs ++ more) = c :: (cs.take n ++ (cs.drop n ++ more))
      rw [← List.append_assoc, List.take_append_drop]
    rw [split, bodyLength_plain plain, size]
  cases scanned with
  | openBracket => exact ofPlain (by simp [Plain])
  | closeBracket => exact ofPlain (by simp [Plain])
  | string body =>
    rw [List.cons_append, bodyLength, bodyLength_string body, Option.map_map]
    rfl
  | character => rw [List.cons_append, List.cons_append, bodyLength]; rfl
  | assign name =>
    refine ofPlain ?_
    simpa [Plain] using plain_of_letter name
  | number starts digits =>
    refine ofPlain (List.forall_mem_cons.2 ⟨?_, scanNumber_plain digits⟩)
    rw [Bool.or_eq_true, Bool.and_eq_true, beq_iff_eq] at starts
    rcases starts with digit | ⟨rfl, -⟩
    · exact plain_of_isDigit digit
    · simp [Plain]
  | symbol plain _ found => exact ofPlain (scanSymbol_plain found)

/-- The search for the end of a block passes over a text that has tokens. -/
theorem Lexed.bodyLength_append {cursor : Cursor} {previous : Option Char} {depth : Nat} {t : Text}
    {tokens : List Token} (lexed : Lexed cursor previous depth t tokens) (braces : Nat)
    (more : Text) :
    bodyLength false braces (t ++ more) =
      (bodyLength false braces more).map (· + t.length) := by
  induction lexed generalizing braces with
  | finish => simp
  | blank blank _ ih =>
    rw [List.cons_append, bodyLength_false_cons (plain_of_isBlank blank), ih, Option.map_map]
    rfl
  | @block _ _ _ body rest _ _ ends _ _ _ ih =>
    obtain ⟨body', rest', same, size, again⟩ := bodyLength_eq_some ends
    obtain rfl := (List.append_inj same size.symm).1
    have inside := again (braces + 1) ('}' :: (rest ++ more))
    rw [Nat.zero_add] at inside
    rw [List.cons_append, List.append_assoc, List.cons_append, bodyLength, inside, bodyLength, ih]
    simp only [Option.map_map, List.length_cons, List.length_append]
    congr 1
    funext n
    simp only [Function.comp_apply]
    omega
  | @lexeme _ _ _ c tail rest _ _ _ notBlock scanned _ ih =>
    rw [scanned.bodyLength_eq notBlock, List.drop_left, ih, Option.map_map, ← List.cons_append,
      List.length_append]
    congr 1
    funext n
    simp only [Function.comp_apply, List.length_cons]
    omega

/-- A text that has tokens can be the body of a block. -/
theorem Lexed.bodyLength_body {cursor : Cursor} {previous : Option Char} {depth : Nat} {t : Text}
    {tokens : List Token} (lexed : Lexed cursor previous depth t tokens) (rest : Text) :
    bodyLength false 0 (t ++ '}' :: rest) = some t.length := by
  rw [lexed.bodyLength_append, bodyLength]
  simp

end Stackscript
