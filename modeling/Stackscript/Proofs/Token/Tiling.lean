import Mathlib
import Stackscript.Proofs.Token.Compose
import Stackscript.Proofs.Token.Count

set_option autoImplicit false

/- The tokens of a text tile it: one after another they cover all of it but whitespace, and each tells
where its part lies. Where a lexeme ends depends on what follows and how it begins on what stands
before, but neither changes what the lexeme is once it is cut out: read alone, it is the same token
again. -/
namespace Stackscript

theorem Text.byteLength_pos {t : Text} (nonempty : t ≠ []) : 0 < byteLength t := by
  cases t with
  | nil => exact absurd rfl nonempty
  | cons c cs => exact Nat.lt_of_lt_of_le c.utf8Size_pos (Nat.le_add_right _ _)

/-- The span of `lexeme` after `before` in a text that begins at `p`. -/
def Span.covering (p : Position) (before lexeme : Text) : Span :=
  ⟨Text.byteLength before, Text.byteLength (before ++ lexeme), p.advanceAll before⟩

theorem Span.between_advanceAll (p : Position) (before lexeme : Text) :
    between ((Cursor.ofPosition p).advanceAll before)
      (((Cursor.ofPosition p).advanceAll before).advanceAll lexeme) = covering p before lexeme := by
  rw [← Cursor.advanceAll_append]
  simp only [between, covering, Cursor.advanceAll_eq, Cursor.ofPosition, Nat.zero_add]

theorem Span.between_self (p : Position) (before : Text) :
    between ((Cursor.ofPosition p).advanceAll before) ((Cursor.ofPosition p).advanceAll before) =
      covering p before [] :=
  between_advanceAll p before []

theorem Span.covering_nil (p : Position) (before : Text) :
    covering p before [] =
      ⟨Text.byteLength before, Text.byteLength before, p.advanceAll before⟩ := by
  rw [covering, List.append_nil]

/-- The tokens of a text that is a single lexeme. -/
def TokenKind.alone (kind : TokenKind) (p : Position) (lexeme : Text) : List Token :=
  [⟨kind, .covering p [] lexeme⟩, ⟨.endOfText, .covering p lexeme []⟩]

theorem TokenKind.alone_eq (kind : TokenKind) (p : Position) (lexeme : Text) :
    kind.alone p lexeme =
      [⟨kind, .between (.ofPosition p) ((Cursor.ofPosition p).advanceAll lexeme)⟩,
        ⟨.endOfText, .between ((Cursor.ofPosition p).advanceAll lexeme)
          ((Cursor.ofPosition p).advanceAll lexeme)⟩] := by
  rw [Span.between_self, alone, ← Span.between_advanceAll]
  rfl

section Alone

variable {previous : Option Char} {depth : Nat} {p : Position} {c : Char} {cs : Text}
  {kind : TokenKind} {n : Nat}

theorem takeWhile_digits_point {ds : Text} (digits : ∀ d ∈ ds, d.isDigit = true) (rest : Text) :
    (ds ++ '.' :: rest).takeWhile Char.isDigit = ds := by
  rw [List.takeWhile_append_of_pos digits]
  exact List.append_nil ds

theorem fractionDigits_digits_point {ds fs : Text} (digits : ∀ d ∈ ds, d.isDigit = true)
    (fraction : ∀ d ∈ fs, d.isDigit = true) : fractionDigits (ds ++ '.' :: fs) = fs := by
  unfold fractionDigits
  rw [takeWhile_digits_point digits, List.drop_left]
  exact List.takeWhile_eq_self_iff.2 fraction

/-- A number that is cut out has the same digits. -/
theorem scanNumber_alone (scanned : scanNumber p c cs = .ok (kind, n)) (q : Position) :
    scanNumber q c (cs.take n) = .ok (kind, n) := by
  have whole : ∀ d ∈ cs.takeWhile Char.isDigit, d.isDigit = true :=
    fun d => isDigit_of_mem_takeWhile
  have same : (cs.take n).takeWhile Char.isDigit = cs.takeWhile Char.isDigit ∧
      fractionDigits (cs.take n) = fractionDigits cs := by
    rw [scanNumber_text scanned]
    split
    · rename_i none
      rw [List.append_nil, List.isEmpty_iff.1 none]
      exact ⟨List.takeWhile_eq_self_iff.2 whole, fractionDigits_digits whole⟩
    · exact ⟨takeWhile_digits_point whole _,
        fractionDigits_digits_point whole fun d => isDigit_of_mem_fractionDigits⟩
  rw [scanNumber_eq, same.1, same.2, ← scanNumber_eq]
  exact (scanNumber_eq_ok scanned).2 q

/-- A minus sign starts a number if it is cut out together with the digits behind it. -/
theorem startsNegative_alone (starts : startsNegative previous cs = true) (rest : Text) :
    startsNegative none (cs.takeWhile Char.isDigit ++ rest) = true := by
  cases cs with
  | nil => simp [startsNegative] at starts
  | cons d ds =>
    have digit : d.isDigit = true := (Bool.and_eq_true_iff.1 starts).2
    rw [List.takeWhile_cons_of_pos digit]
    exact digit

/-- The second character of a symbol starts no number. -/
theorem Operator.startsNegative_second {op : Operator} {d : Char} (pair : op.symbol = [c, d])
    (previous : Option Char) : startsNegative previous [d] = false := by
  have notDigit : d.isDigit = false := by
    cases op <;> cases pair <;> rfl
  simp only [startsNegative, notDigit, Bool.and_false]

/-- A symbol that is cut out is the same one, and after a minus sign it is no number. -/
theorem scanSymbol_alone (found : scanSymbol p c cs = .ok (kind, n)) (q : Position)
    (previous : Option Char) :
    scanSymbol q c (cs.take n) = .ok (kind, n) ∧ startsNegative previous (cs.take n) = false := by
  unfold scanSymbol at found ⊢
  split at found
  · rename_i op pair
    cases found
    cases cs with
    | nil => cases pair
    | cons d ds =>
      have pair : Operator.ofSymbol? [c, d] = some op := pair
      refine ⟨?_, Operator.startsNegative_second (Operator.symbol_of_ofSymbol? pair) previous⟩
      simp only [List.take_succ_cons, List.take_zero, List.head?_cons, Option.bind_some, pair]
  · split at found
    · cases found
      exact ⟨rfl, Bool.and_false _⟩
    · split at found
      · cases found
        exact ⟨rfl, Bool.and_false _⟩
      · cases found

/-- A lexeme that is cut out is the same one, unless it closes a bracket. -/
theorem Scanned.alone (scanned : Scanned previous depth p c cs kind n)
    (opened : kind ≠ .closeBracket) (q : Position) : Scanned none 0 q c (cs.take n) kind n := by
  cases scanned with
  | openBracket => exact .openBracket
  | closeBracket => exact absurd rfl opened
  | string body =>
    obtain ⟨inside, rest, rfl, rfl, again⟩ := scanString_eq_ok body
    rw [List.take_left]
    have alone := again q (q.advance '"') []
    rw [List.append_nil] at alone
    exact .string alone
  | character => exact .character
  | assign name => exact .assign name
  | number starts digits =>
    refine .number ?_ (scanNumber_alone digits q)
    rw [Bool.or_eq_true, Bool.and_eq_true] at starts ⊢
    rcases starts with digit | ⟨minus, negative⟩
    · exact .inl digit
    · rw [scanNumber_text digits]
      exact .inr ⟨minus, startsNegative_alone negative _⟩
  | symbol plain starts found =>
    obtain ⟨found, notNumber⟩ := scanSymbol_alone found q none
    refine .symbol plain ?_ found
    rw [Bool.or_eq_false_iff] at starts
    rw [starts.1, notNumber, Bool.and_false, Bool.or_self]

end Alone

/-- A text that is one lexeme has its token alone. -/
theorem Scanned.tokenizeAt_alone {c : Char} {tail : Text} {kind : TokenKind} {p : Position}
    (scanned : Scanned none 0 p c tail kind tail.length) (dark : Text.isBlank c = false)
    (notBlock : c ≠ '{') (notBracket : kind.depthAfter 0 = 0) :
    tokenizeAt p (c :: tail) = .ok (kind.alone p (c :: tail)) := by
  have found : scan none 0 (Cursor.ofPosition p).position c (tail ++ []) =
      .ok (kind, tail.length) := by
    rw [List.append_nil]
    exact scanned.scan_eq
  have read := tokenizeFrom_lexeme dark notBlock found
  rw [List.append_nil, notBracket, tokenizeFrom_nil, if_pos rfl] at read
  rw [TokenKind.alone_eq]
  exact read

/-- A text that is one block has its token alone. -/
theorem Lexed.tokenizeAt_alone {body : Text} {inner : List Token} {p : Position}
    (inside : Lexed (.ofPosition (p.advance '{')) none 0 body inner) :
    tokenizeAt p ('{' :: body ++ ['}']) =
      .ok ((TokenKind.block body).alone p ('{' :: body ++ ['}'])) := by
  have code : tokenizeFrom (.ofPosition ((Cursor.ofPosition p).position.advance '{')) none 0 body =
      .ok inner := inside.tokenizeFrom_eq
  have read : tokenizeFrom (.ofPosition p) none 0 ('{' :: (body ++ '}' :: [])) = _ :=
    tokenizeFrom_block (inside.bodyLength_body [])
  rw [code, tokenizeFrom_nil, if_pos rfl] at read
  rw [TokenKind.alone_eq]
  exact read

/-- What tokens tile of a text that begins at `p`, from behind `before` on: gaps of whitespace, and
lexemes that have their tokens alone unless they are brackets. -/
inductive Tiling (p : Position) : (before t : Text) → List Token → Prop where
  | finish {before gap : Text} (blank : ∀ c ∈ gap, Text.isBlank c = true) :
    Tiling p before gap [⟨.endOfText, .covering p (before ++ gap) []⟩]
  | token {before gap lexeme rest : Text} {kind : TokenKind} {tokens : List Token}
    (blank : ∀ c ∈ gap, Text.isBlank c = true) (nonempty : lexeme ≠ [])
    (notEnd : kind ≠ .endOfText)
    (alone : kind ≠ .openBracket → kind ≠ .closeBracket →
      tokenizeAt (p.advanceAll (before ++ gap)) lexeme =
        .ok (kind.alone (p.advanceAll (before ++ gap)) lexeme))
    (after : Tiling p (before ++ gap ++ lexeme) rest tokens) :
    Tiling p before (gap ++ lexeme ++ rest) (⟨kind, .covering p (before ++ gap) lexeme⟩ :: tokens)

theorem TokenKind.depthAfter_of_notBracket {kind : TokenKind} (notOpen : kind ≠ .openBracket)
    (notClose : kind ≠ .closeBracket) (depth : Nat) : kind.depthAfter depth = depth := by
  cases kind with
  | openBracket => exact absurd rfl notOpen
  | closeBracket => exact absurd rfl notClose
  | _ => rfl

/-- Behind a lexeme the next gap is empty at first. -/
private theorem advanceAll_append_lexeme {cursor : Cursor} {p : Position} {before gap : Text}
    (place : cursor = (Cursor.ofPosition p).advanceAll (before ++ gap)) (lexeme : Text) :
    cursor.advanceAll lexeme =
      (Cursor.ofPosition p).advanceAll ((before ++ gap ++ lexeme) ++ []) := by
  rw [List.append_nil, place, ← Cursor.advanceAll_append]

/-- The tokens that are read behind a gap tile the text from before the gap on. -/
theorem Lexed.tiling {cursor : Cursor} {previous : Option Char} {depth : Nat} {t : Text}
    {tokens : List Token} (lexed : Lexed cursor previous depth t tokens) {p : Position}
    {before gap : Text} (place : cursor = (Cursor.ofPosition p).advanceAll (before ++ gap))
    (blank : ∀ c ∈ gap, Text.isBlank c = true) : Tiling p before (gap ++ t) tokens := by
  induction lexed generalizing before gap with
  | finish =>
    rw [place, List.append_nil, Span.between_self]
    exact .finish blank
  | @blank _ _ _ c cs _ first _ ih =>
    rw [List.append_cons]
    apply ih
    · rw [place, ← List.append_assoc, Cursor.advanceAll_append _ (before ++ gap) [c]]
      rfl
    · intro d member
      rcases List.mem_append.1 member with inside | last
      · exact blank d inside
      · rw [List.mem_singleton.1 last]
        exact first
  | @block _ _ _ body rest _ _ _ inside _ _ ih =>
    have split : gap ++ '{' :: (body ++ '}' :: rest) =
        gap ++ ('{' :: body ++ ['}']) ++ rest := by simp
    have reach := advanceAll_append_lexeme place ('{' :: body ++ ['}'])
    rw [split, place, Span.between_advanceAll]
    rw [place, Cursor.position_advanceAll] at inside
    refine .token blank (List.cons_ne_nil _ _) TokenKind.noConfusion ?_ (ih reach nofun)
    intro _ _
    exact inside.tokenizeAt_alone
  | @lexeme _ _ _ c tail rest _ _ dark notBlock scanned _ ih =>
    have split : gap ++ c :: (tail ++ rest) = gap ++ (c :: tail) ++ rest := by simp
    have reach := advanceAll_append_lexeme place (c :: tail)
    rw [split, place, Span.between_advanceAll]
    refine .token blank (List.cons_ne_nil _ _) scanned.kind_spec.2.1 ?_ (ih reach nofun)
    intro notOpen notClose
    have alone := scanned.alone notClose (p.advanceAll (before ++ gap))
    rw [List.take_left] at alone
    exact alone.tokenizeAt_alone dark notBlock
      (TokenKind.depthAfter_of_notBracket notOpen notClose 0)

/-- The token covers a part of a text that begins at `p`: its span counts the bytes before the part
and those up to its end, and tells the place of its first character, exactly if no counter has
wrapped around on the way there. Unless the token is the end of the text, the part is not empty, and
it has that token alone unless it is a bracket. -/
def Token.Covers (p : Position) (t : Text) (token : Token) : Prop :=
  ∃ before lexeme after, t = before ++ lexeme ++ after ∧
    token.span = .covering p before lexeme ∧
    token.span.position.Tells (p.place.advanceAll before) ∧
    (token.kind ≠ .endOfText → token.span.start < token.span.stop ∧
      (token.kind ≠ .openBracket → token.kind ≠ .closeBracket →
        tokenizeAt token.span.position lexeme =
          .ok (token.kind.alone token.span.position lexeme)))

/-- The second of two spans of a text follows the first, with nothing but whitespace between them. -/
def Span.Follows (t : Text) (a b : Span) : Prop :=
  ∃ before gap after, t = before ++ gap ++ after ∧ a.stop = Text.byteLength before ∧
    b.start = Text.byteLength (before ++ gap) ∧ ∀ c ∈ gap, Text.isBlank c = true

/-- The tokens lose nothing of a text that begins at `p`. -/
structure Lossless (p : Position) (t : Text) (tokens : List Token) : Prop where
  /-- The last token is the end of the text, where that is, and no other one is. -/
  ends : ∃ front, tokens = front ++
      [⟨.endOfText, ⟨Text.byteLength t, Text.byteLength t, p.advanceAll t⟩⟩] ∧
    ∀ token ∈ front, token.kind ≠ .endOfText
  parts : ∀ token ∈ tokens, token.Covers p t
  ordered : tokens.Pairwise fun a b => a.span.stop ≤ b.span.start
  /-- The gaps between the tokens, and the one before the first. -/
  gaps : (Span.covering p [] [] :: tokens.map Token.span).IsChain (Span.Follows t)

namespace Tiling

variable {p : Position} {before t : Text} {tokens : List Token}

theorem ends (tiling : Tiling p before t tokens) :
    ∃ front, tokens = front ++ [⟨.endOfText, .covering p (before ++ t) []⟩] ∧
      ∀ token ∈ front, token.kind ≠ .endOfText := by
  induction tiling with
  | finish => exact ⟨[], rfl, nofun⟩
  | @token before gap lexeme rest kind tokens _ _ notEnd _ _ ih =>
    obtain ⟨front, rfl, others⟩ := ih
    refine ⟨⟨kind, .covering p (before ++ gap) lexeme⟩ :: front, ?_, ?_⟩
    · simp only [List.cons_append, List.append_assoc]
    · exact List.forall_mem_cons.2 ⟨notEnd, others⟩

theorem parts (tiling : Tiling p before t tokens) :
    ∀ token ∈ tokens, token.Covers p (before ++ t) := by
  induction tiling with
  | @finish before gap _ =>
    intro token member
    rw [List.mem_singleton.1 member]
    refine ⟨before ++ gap, [], [], ?_, rfl, p.tells_advanceAll _, fun notEnd => absurd rfl notEnd⟩
    rw [List.append_nil, List.append_nil]
  | @token before gap lexeme rest kind tokens _ nonempty _ alone _ ih =>
    have split : before ++ (gap ++ lexeme ++ rest) = before ++ gap ++ lexeme ++ rest := by
      simp only [List.append_assoc]
    rw [split]
    refine List.forall_mem_cons.2 ⟨?_, ih⟩
    refine ⟨before ++ gap, lexeme, rest, rfl, rfl, p.tells_advanceAll _, fun _ => ⟨?_, alone⟩⟩
    have positive := Text.byteLength_pos nonempty
    simp only [Span.covering, Text.byteLength_append (before ++ gap) lexeme]
    omega

/-- What is before has no part in the tokens. -/
theorem byteLength_le (tiling : Tiling p before t tokens) :
    ∀ token ∈ tokens, Text.byteLength before ≤ token.span.start := by
  induction tiling with
  | @finish before gap _ =>
    intro token member
    rw [List.mem_singleton.1 member]
    simp only [Span.covering, Text.byteLength_append]
    omega
  | @token before gap lexeme rest kind tokens _ _ _ _ _ ih =>
    simp only [Text.byteLength_append] at ih
    refine List.forall_mem_cons.2 ⟨?_, fun token member => ?_⟩
    · simp only [Span.covering, Text.byteLength_append]
      omega
    · have behind := ih token member
      omega

theorem ordered (tiling : Tiling p before t tokens) :
    tokens.Pairwise fun a b => a.span.stop ≤ b.span.start := by
  induction tiling with
  | finish => exact List.pairwise_singleton _ _
  | token _ _ _ _ after ih => exact List.pairwise_cons.2 ⟨after.byteLength_le, ih⟩

theorem gaps (tiling : Tiling p before t tokens) {span : Span}
    (reached : span.stop = Text.byteLength before) :
    (span :: tokens.map Token.span).IsChain (Span.Follows (before ++ t)) := by
  induction tiling generalizing span with
  | @finish before gap blank =>
    refine List.isChain_pair.2 ⟨before, gap, [], ?_, reached, rfl, blank⟩
    rw [List.append_nil]
  | @token before gap lexeme rest kind tokens blank _ _ _ _ ih =>
    have split : before ++ (gap ++ lexeme ++ rest) = before ++ gap ++ lexeme ++ rest := by
      simp only [List.append_assoc]
    refine List.isChain_cons_cons.2 ⟨⟨before, gap, lexeme ++ rest, ?_, reached, rfl, blank⟩, ?_⟩
    · simp only [List.append_assoc]
    · rw [split]
      exact ih rfl

end Tiling

/-- Reading loses nothing. The tokens of a text lie in it one after another with only whitespace in
the gaps, each tells which bytes it covers and where it begins, and the part of each that is no
bracket has that token, read alone from where it stands. Places are told by the counters: modulo
their range wherever the text begins, and as they are where they fit. -/
theorem tokenizeAt_lossless {p : Position} {t : Text} {tokens : List Token}
    (read : tokenizeAt p t = .ok tokens) : Lossless p t tokens := by
  have tiling : Tiling p [] ([] ++ t) tokens := (lexed_iff.1 read).tiling rfl nofun
  refine ⟨?_, tiling.parts, tiling.ordered, tiling.gaps rfl⟩
  obtain ⟨front, split, others⟩ := tiling.ends
  rw [Span.covering_nil] at split
  exact ⟨front, split, others⟩

/-- Behind the last column that can be told, columns begin anew. -/
example : tokenizeAt ⟨1, 4294967295⟩ ['1', ' ', '2'] =
    .ok [⟨.integer 1, ⟨0, 1, ⟨1, 4294967295⟩⟩⟩, ⟨.integer 2, ⟨2, 3, ⟨1, 1⟩⟩⟩,
      ⟨.endOfText, ⟨3, 3, ⟨1, 2⟩⟩⟩] := by
  cbv

/-- A string and a block that go on over a line each, and between them a negative number with a symbol
of two characters right behind it. -/
theorem tokenizeAt_lossless_lines :
    let t : Text :=
      ['"', 'é', '\n', '"', '\n', '-', '5', 'S', '/', '{', '\'', '}', '\n', '}']
    let tokens : List Token :=
      [⟨.string ['é', '\n'], ⟨0, 5, ⟨3, 7⟩⟩⟩, ⟨.integer (-5), ⟨6, 8, ⟨5, 1⟩⟩⟩,
        ⟨.operator .words, ⟨8, 10, ⟨5, 3⟩⟩⟩, ⟨.block ['\'', '}', '\n'], ⟨10, 15, ⟨5, 5⟩⟩⟩,
        ⟨.endOfText, ⟨15, 15, ⟨6, 2⟩⟩⟩]
    tokenizeAt ⟨3, 7⟩ t = .ok tokens ∧ Lossless ⟨3, 7⟩ t tokens := by
  intro t tokens
  have read : tokenizeAt ⟨3, 7⟩ t = .ok tokens := by cbv
  exact ⟨read, tokenizeAt_lossless read⟩

end Stackscript
