import Mathlib
import Stackscript.Proofs.Token.Compose
import Stackscript.Proofs.Token.Place

set_option autoImplicit false

/- Tokens as they are written. Apart from decimals, whose text can be that of an integer, a token is
read back from its own text where nothing or a seam follows it and a minus sign may start a number.
Texts that spell tokens can be put beside one another with a space between them, or between
brackets. -/
namespace Stackscript

namespace Text

theorem digitsValue_eq_ofDigitChars (digits : Text) :
    digitsValue digits = Nat.ofDigitChars 10 digits 0 := by
  simp only [Nat.ofDigitChars_eq_foldl, digitsValue, Nat.mul_comm]

theorem digitsValue_ofNat (n : Nat) : digitsValue (ofNat n) = n := by
  rw [digitsValue_eq_ofDigitChars, ofNat, Nat.ofDigitChars_ten_toDigits]

theorem isDigit_of_mem_ofNat {n : Nat} {c : Char} (member : c ∈ ofNat n) : c.isDigit = true :=
  Nat.isDigit_of_mem_toDigits (by decide) (by decide) member

theorem ofNat_eq_cons (n : Nat) : ∃ d ds, ofNat n = d :: ds ∧ d.isDigit = true := by
  obtain ⟨d, ds, split⟩ := List.exists_cons_of_ne_nil (Nat.toDigits_ne_nil (n := n) (b := 10))
  have member : d ∈ ofNat n := by
    rw [ofNat, split]
    exact List.mem_cons_self
  exact ⟨d, ds, split, isDigit_of_mem_ofNat member⟩

/-- A digit is no sign. -/
theorem splitSign_digit {d : Char} (digit : d.isDigit = true) (ds : Text) :
    splitSign (d :: ds) = (false, d :: ds) := by
  rw [splitSign]
  · rintro rest same
    cases same
    cases digit
  · rintro rest same
    cases same
    cases digit

theorem splitSign_ofInt (n : Int) : splitSign (ofInt n) = (decide (n < 0), ofNat n.natAbs) := by
  by_cases negative : n < 0
  · simp only [ofInt, negative, ↓reduceIte, splitSign, decide_true]
  · obtain ⟨d, ds, split, digit⟩ := ofNat_eq_cons n.natAbs
    simp only [ofInt, negative, ↓reduceIte, split, decide_false, splitSign_digit digit]

theorem toInt?_ofInt (n : Int) : toInt? (ofInt n) = some n := by
  have digits : (ofNat n.natAbs).all Char.isDigit = true :=
    List.all_eq_true.2 fun _ member => isDigit_of_mem_ofNat member
  have some : (ofNat n.natAbs).isEmpty = false := by
    obtain ⟨d, ds, split, -⟩ := ofNat_eq_cons n.natAbs
    rw [split]
    rfl
  simp only [toInt?, splitSign_ofInt, digits, some, digitsValue_ofNat, decide_eq_true_eq]
  by_cases negative : n < 0
  · simp only [negative, ↓reduceIte, Bool.not_true, Bool.or_self, Bool.false_eq_true,
      Option.some.injEq]
    omega
  · simp only [negative, ↓reduceIte, Bool.not_true, Bool.or_self, Bool.false_eq_true,
      Option.some.injEq]
    omega

end Text

/-- Every integer is read back from its text, the least one too. -/
theorem Integer.read?_render (n : Int64) : read? (render n) = some n := by
  have low := n.le_toInt
  have high := n.toInt_lt
  have short : (Text.ofNat n.toInt.natAbs).length ≤ 19 :=
    (Nat.length_toDigits_le_iff (by decide) (by decide)).2 (by omega)
  have trimmed : ¬ 19 < ((Text.ofNat n.toInt.natAbs).dropWhile (· == '0')).length := by
    have fewer := (List.dropWhile_sublist (l := Text.ofNat n.toInt.natAbs) (· == '0')).length_le
    omega
  have inside : least ≤ n.toInt ∧ n.toInt ≤ greatest := by
    simp only [least, greatest]
    omega
  simp only [read?, render, Text.splitSign_ofInt, trimmed, ↓reduceIte, Text.toInt?_ofInt,
    Option.bind_some, fit?, inside, and_self, Int64.ofInt_toInt]

namespace Text

/-- Characters that stand in quoted text as they are, or as one of the escapes for the line feed,
the tab, the backslash and the quotation mark. -/
def IsLegible (c : Char) : Prop :=
  escape c = [c] ∨ escape c ∈ [['\\', 'n'], ['\\', 't'], ['\\', '\\'], ['\\', '"']]

/-- Texts whose quoted form has no other escapes. -/
def Legible (t : Text) : Prop := ∀ c ∈ t, IsLegible c

instance (c : Char) : Decidable (IsLegible c) :=
  inferInstanceAs (Decidable (_ ∨ _))

instance (t : Text) : Decidable t.Legible :=
  List.decidableBAll IsLegible t

end Text

/-- A backslash and one character stand for a character that is read back, unless they stand for the
null character or a carriage return. -/
theorem unescape?_of_escape {c e : Char} (pair : Text.escape c = ['\\', e]) (notNull : e ≠ '0')
    (notReturn : e ≠ 'r') : unescape? e = some c := by
  unfold Text.escape at pair
  split at pair
  · simp only [List.cons.injEq, true_and, and_true] at pair
    exact absurd pair.symm notNull
  split at pair
  · subst c
    cases pair
    rfl
  split at pair
  · simp only [List.cons.injEq, true_and, and_true] at pair
    exact absurd pair.symm notReturn
  split at pair
  · subst c
    cases pair
    rfl
  split at pair
  · subst c
    cases pair
    rfl
  split at pair
  · subst c
    cases pair
    rfl
  split at pair
  · simp [Text.codeEscape] at pair
  · cases pair

theorem scanString_escape {c : Char} (legible : Text.IsLegible c) (opening p : Position)
    (rest : Text) :
    scanString opening p (Text.escape c ++ rest) = do
      let (value, length) ← scanString opening (p.advanceAll (Text.escape c)) rest
      return (c :: value, length + (Text.escape c).length) := by
  have escaped : ∀ e, Text.escape c = ['\\', e] → unescape? e = some c →
      scanString opening p (Text.escape c ++ rest) = do
        let (value, length) ← scanString opening (p.advanceAll (Text.escape c)) rest
        return (c :: value, length + (Text.escape c).length) := by
    intro e pair stands
    simp only [pair, List.cons_append, List.nil_append, scanString, stands]
    rfl
  rcases legible with plain | pair
  · have notQuote : c ≠ '"' := by
      rintro rfl
      revert plain
      decide
    have notBackslash : c ≠ '\\' := by
      rintro rfl
      revert plain
      decide
    rw [plain]
    exact scanString_cons notQuote notBackslash
  · simp only [List.mem_cons, List.not_mem_nil, or_false] at pair
    rcases pair with pair | pair | pair | pair
    all_goals exact escaped _ pair (unescape?_of_escape pair (by decide) (by decide))

/-- A string literal is read back from its quoted form. -/
theorem scanString_quoted {t : Text} (legible : t.Legible) (opening p : Position) (rest : Text) :
    scanString opening p (t.flatMap Text.escape ++ '"' :: rest) =
      .ok (t, (t.flatMap Text.escape).length + 1) := by
  induction t generalizing p with
  | nil => simp [scanString]
  | cons c cs ih =>
    have head := legible c List.mem_cons_self
    have tail : Text.Legible cs := fun d member => legible d (List.mem_cons_of_mem c member)
    have length : (cs.flatMap Text.escape).length + 1 + (Text.escape c).length =
        ((c :: cs).flatMap Text.escape).length + 1 := by
      simp only [List.flatMap_cons, List.length_append]
      omega
    rw [← length, List.flatMap_cons, List.append_assoc, scanString_escape head, ih tail]
    rfl

/-- The kinds of tokens that are read back from their texts: all but decimals and the end of the
text, where strings are legible and the bodies of blocks have tokens. -/
def TokenKind.Legible : TokenKind → Prop
  | .string t => t.Legible
  | .block body => ∃ tokens, tokenize body = .ok tokens
  | .decimal _ | .endOfText => False
  | _ => True

/-- Characters before which a minus sign may start a number, as it may at the start of a text. -/
def Apart (previous : Option Char) : Prop :=
  ∀ cs, startsNegative previous cs = startsNegative none cs

theorem Apart.start : Apart none := fun _ => rfl

theorem Apart.space : Apart (some ' ') := fun _ => rfl

theorem Apart.openBracket : Apart (some '[') := fun _ => rfl

theorem Apart.of_blank {c : Char} (blank : Text.isBlank c = true) : Apart (some c) :=
  startsNegative_blank blank

theorem Seam.space : Seam ' ' := Seam.of_blank (by decide)

theorem Seam.closeBracket : Seam ']' := by
  have notSecond : ∀ c, Operator.ofSymbol? [c, ']'] = none := by
    intro c
    cases found : Operator.ofSymbol? [c, ']'] with
    | none => rfl
    | some op =>
      have symbol := Operator.symbol_of_ofSymbol? found
      cases op <;> simp [Operator.symbol] at symbol
  exact ⟨by decide, by decide, notSecond⟩

theorem isBlank_of_isDigit {c : Char} (digit : c.isDigit = true) : Text.isBlank c = false := by
  cases blank : Text.isBlank c with
  | false => rfl
  | true =>
    have notDigit := (Seam.of_blank blank).notDigit
    rw [digit] at notDigit
    cases notDigit

theorem scanNumber_digits {n : Int64} {c : Char} {tail : Text} (text : Integer.render n = c :: tail)
    (digits : ∀ d ∈ tail, d.isDigit = true) (p : Position) :
    scanNumber p c tail = .ok (.integer n, tail.length) := by
  have whole : tail.takeWhile Char.isDigit = tail := List.takeWhile_eq_self_iff.2 digits
  have value := Integer.read?_render n
  rw [text] at value
  rw [scanNumber_eq, whole, fractionDigits_digits digits, value]
  rfl

/-- A lexeme of the given kind is the whole of a text that begins with `c`. -/
structure Lexeme (kind : TokenKind) (c : Char) (tail : Text) : Prop where
  dark : Text.isBlank c = false
  notBlock : c ≠ '{'
  scanned : ∀ {previous : Option Char} {depth : Nat} (p : Position), Apart previous →
    (kind = .closeBracket → depth ≠ 0) → Scanned previous depth p c tail kind tail.length

theorem Lexeme.integer (n : Int64) :
    ∃ c tail, Integer.render n = c :: tail ∧ Lexeme (.integer n) c tail := by
  by_cases negative : n.toInt < 0
  · have text : Integer.render n = '-' :: Text.ofNat n.toInt.natAbs := by
      simp only [Integer.render, Text.ofInt, negative, ↓reduceIte]
    refine ⟨_, _, text, by decide, by decide, fun p apart _ => ?_⟩
    have starts : startsNegative none (Text.ofNat n.toInt.natAbs) = true := by
      obtain ⟨d, ds, split, digit⟩ := Text.ofNat_eq_cons n.toInt.natAbs
      simp only [split, startsNegative, digit, Bool.and_self]
    apply Scanned.number
    · simp only [apart _, starts, beq_self_eq_true, Bool.and_self, Bool.or_true]
    · exact scanNumber_digits text (fun _ member => Text.isDigit_of_mem_ofNat member) p
  · obtain ⟨d, ds, split, digit⟩ := Text.ofNat_eq_cons n.toInt.natAbs
    have text : Integer.render n = d :: ds := by
      simp only [Integer.render, Text.ofInt, negative, ↓reduceIte, split]
    have notBrace : d ≠ '{' := by
      rintro rfl
      cases digit
    have digits : ∀ e ∈ ds, e.isDigit = true := by
      intro e member
      apply Text.isDigit_of_mem_ofNat (n := n.toInt.natAbs)
      rw [split]
      exact List.mem_cons_of_mem d member
    refine ⟨_, _, text, isBlank_of_isDigit digit, notBrace, fun p _ _ => ?_⟩
    apply Scanned.number
    · simp only [digit, Bool.true_or]
    · exact scanNumber_digits text digits p

theorem Lexeme.string {t : Text} (legible : t.Legible) :
    Lexeme (.string t) '"' (t.flatMap Text.escape ++ ['"']) := by
  refine ⟨by decide, by decide, fun p _ _ => ?_⟩
  have body := scanString_quoted legible p (p.advance '"') []
  rw [List.length_append]
  exact .string body

theorem Lexeme.recall (letter : Letter) : Lexeme (.recall letter) letter.toChar [] := by
  have plain : ∀ letter : Letter, Text.isBlank letter.toChar = false ∧ letter.toChar ≠ '{' ∧
      (letter.toChar ≠ '[' ∧ letter.toChar ≠ ']' ∧ letter.toChar ≠ '}' ∧ letter.toChar ≠ '"' ∧
        letter.toChar ≠ '\'' ∧ letter.toChar ≠ ':') ∧
      letter.toChar.isDigit = false ∧ letter.toChar ≠ '-' := by
    decide
  obtain ⟨dark, notBrace, marks, notDigit, notMinus⟩ := plain letter
  refine ⟨dark, notBrace, fun p _ _ => ?_⟩
  apply Scanned.symbol marks
  · simp [notDigit, notMinus]
  · simp [scanSymbol, Letter.ofChar?_toChar]

theorem Lexeme.operator (op : Operator) :
    ∃ c tail, op.symbol = c :: tail ∧ Lexeme (.operator op) c tail := by
  cases op
  all_goals
    refine ⟨_, _, rfl, by decide, by decide, fun p _ _ => ?_⟩
    apply Scanned.symbol (by decide)
    · simp [startsNegative]
    · rfl

/-- Blocks apart, the text of a legible kind is one lexeme. -/
theorem Lexeme.of_legible {kind : TokenKind} (legible : kind.Legible)
    (notBlock : ∀ body, kind ≠ .block body) :
    ∃ c tail, kind.render = c :: tail ∧ Lexeme kind c tail := by
  cases kind with
  | integer n => exact Lexeme.integer n
  | decimal d => exact legible.elim
  | string t => exact ⟨_, _, rfl, Lexeme.string legible⟩
  | character c => exact ⟨_, _, rfl, by decide, by decide, fun _ _ _ => .character⟩
  | block body => exact absurd rfl (notBlock body)
  | «recall» letter => exact ⟨_, _, rfl, Lexeme.recall letter⟩
  | assign letter =>
    exact ⟨_, _, rfl, by decide, by decide, fun _ _ _ => .assign (Letter.ofChar?_toChar letter)⟩
  | openBracket => exact ⟨_, _, rfl, by decide, by decide, fun _ _ _ => .openBracket⟩
  | closeBracket =>
    exact ⟨_, _, rfl, by decide, by decide, fun _ _ inside => .closeBracket (inside rfl)⟩
  | operator op => exact Lexeme.operator op
  | endOfText => exact legible.elim

/-- A text that is empty or begins with a seam. -/
def SeamFirst (rest : Text) : Prop := ∀ w ∈ rest.head?, Seam w

theorem Scanned.append_seamFirst {previous : Option Char} {depth : Nat} {p : Position} {c : Char}
    {cs : Text} {kind : TokenKind} {n : Nat} (scanned : Scanned previous depth p c cs kind n)
    {rest : Text} (seam : SeamFirst rest) : Scanned previous depth p c (cs ++ rest) kind n := by
  cases rest with
  | nil =>
    rw [List.append_nil]
    exact scanned
  | cons w ws => exact scanned.append (seam w rfl) ws 0

/-- A text spells tokens of the given kinds, which lead from `depth` open brackets to `depth'`: in
front of a seam they are read from it before the tokens of what follows. -/
structure Spells (text : Text) (kinds : List TokenKind) (depth depth' : Nat) : Prop where
  lexed : ∀ {cursor : Cursor} {previous : Option Char} {rest : Text} {tokens : List Token},
    Apart previous → SeamFirst rest →
    Lexed (cursor.advanceAll text) (text.getLast?.or previous) depth' rest tokens →
    ∃ front, front.map Token.kind = kinds ∧
      Lexed cursor previous depth (text ++ rest) (front ++ tokens)

namespace Spells

variable {text text' : Text} {kinds kinds' : List TokenKind} {depth depth' depth'' : Nat}

theorem nil (depth : Nat) : Spells [] [] depth depth := by
  constructor
  intro cursor previous rest tokens _ _ after
  exact ⟨[], rfl, after⟩

/-- Every legible kind is spelled by its own text. -/
theorem render {kind : TokenKind} (legible : kind.Legible)
    (inside : kind = .closeBracket → depth ≠ 0) :
    Spells kind.render [kind] depth (kind.depthAfter depth) := by
  constructor
  intro cursor previous rest tokens apart seam after
  by_cases isBlock : ∃ body, kind = .block body
  · obtain ⟨body, rfl⟩ := isBlock
    obtain ⟨inner, code⟩ := legible
    obtain ⟨moved, inside', -⟩ := tokenizeAt_move code (cursor.position.advance '{')
    have ends := (lexed_iff.1 inside').bodyLength_body rest
    have last : (TokenKind.block body).render.getLast?.or previous = some '}' := by
      simp only [TokenKind.render, List.getLast?_concat, Option.some_or]
    rw [last] at after
    have whole : Lexed cursor previous depth ('{' :: (body ++ '}' :: rest)) _ :=
      .block ends (lexed_iff.1 inside') after
    have split : (TokenKind.block body).render ++ rest = '{' :: (body ++ '}' :: rest) := by
      simp [TokenKind.render]
    rw [split]
    exact ⟨[⟨.block body, .between cursor _⟩], rfl, whole⟩
  · have notBlock : ∀ body, kind ≠ .block body := fun body same => isBlock ⟨body, same⟩
    obtain ⟨c, tail, split, lexeme⟩ := Lexeme.of_legible legible notBlock
    rw [split] at after ⊢
    have last : (c :: tail).getLast?.or previous = (c :: tail).getLast? := by
      rw [List.getLast?_cons, Option.some_or]
    rw [last] at after
    have scanned := (lexeme.scanned cursor.position apart inside).append_seamFirst seam
    exact ⟨[_], rfl, .lexeme lexeme.dark lexeme.notBlock scanned after⟩

/-- Whitespace in front of a text is passed over. -/
theorem behind_blanks {w : Text} (blank : ∀ c ∈ w, Text.isBlank c = true)
    (spells : Spells text kinds depth depth') : Spells (w ++ text) kinds depth depth' := by
  induction w with
  | nil => exact spells
  | cons c w ih =>
    have head := blank c List.mem_cons_self
    have others := ih fun d member => blank d (List.mem_cons_of_mem c member)
    constructor
    intro cursor previous rest tokens _ seam after
    rw [List.cons_append, ← List.singleton_append, getLast?_or] at after
    obtain ⟨front, kindsFront, lexed⟩ := others.lexed (Apart.of_blank head) seam after
    exact ⟨front, kindsFront, .blank head lexed⟩

/-- A space keeps the tokens of two texts apart. -/
theorem spaced (first : Spells text kinds depth depth')
    (second : Spells text' kinds' depth' depth'') :
    Spells (text ++ ' ' :: text') (kinds ++ kinds') depth depth'' := by
  constructor
  intro cursor previous rest tokens apart seam after
  have reach : cursor.advanceAll (text ++ ' ' :: text') =
      ((cursor.advanceAll text).advance ' ').advanceAll text' := by
    rw [Cursor.advanceAll_append]
    rfl
  have last : (text ++ ' ' :: text').getLast?.or previous = text'.getLast?.or (some ' ') := by
    rw [show text ++ ' ' :: text' = (text ++ [' ']) ++ text' by simp, getLast?_or,
      List.getLast?_concat, Option.some_or]
  rw [reach, last] at after
  obtain ⟨back, kindsBack, lexedBack⟩ := second.lexed Apart.space seam after
  have between : SeamFirst (' ' :: (text' ++ rest)) := by
    rintro w ⟨⟩
    exact Seam.space
  have blank : Text.isBlank ' ' = true := by decide
  obtain ⟨front, kindsFront, lexed⟩ := first.lexed apart between (.blank blank lexedBack)
  refine ⟨front ++ back, ?_, ?_⟩
  · rw [List.map_append, kindsFront, kindsBack]
  · simpa using lexed

/-- Brackets need no space beside what they enclose. -/
theorem bracketed (inner : Spells text kinds (depth + 1) (depth + 1)) :
    Spells ('[' :: text ++ [']']) (.openBracket :: kinds ++ [.closeBracket]) depth depth := by
  constructor
  intro cursor previous rest tokens _ seam after
  have reach : cursor.advanceAll ('[' :: text ++ [']']) =
      ((cursor.advance '[').advanceAll text).advanceAll [']'] := by
    rw [List.cons_append, ← Cursor.advanceAll_append]
    rfl
  have last : ('[' :: text ++ [']']).getLast?.or previous = [']'].getLast? := by
    rw [List.getLast?_concat, Option.some_or]
    rfl
  rw [reach, last] at after
  let opening : Token := ⟨.openBracket, .between cursor (cursor.advance '[')⟩
  let closing : Token := ⟨.closeBracket, .between ((cursor.advance '[').advanceAll text)
    (((cursor.advance '[').advanceAll text).advance ']')⟩
  have closed : Lexed ((cursor.advance '[').advanceAll text) (text.getLast?.or (some '['))
      (depth + 1) (']' :: ([] ++ rest)) (closing :: tokens) :=
    .lexeme (by decide) (by decide) (.closeBracket (by omega)) after
  have before : SeamFirst (']' :: ([] ++ rest)) := by
    rintro w ⟨⟩
    exact Seam.closeBracket
  obtain ⟨front, kindsFront, lexed⟩ := inner.lexed Apart.openBracket before closed
  have whole : Lexed cursor previous depth ('[' :: ([] ++ (text ++ ']' :: ([] ++ rest))))
      (opening :: (front ++ closing :: tokens)) :=
    .lexeme (by decide) (by decide) .openBracket lexed
  refine ⟨opening :: (front ++ [closing]), ?_, ?_⟩
  · simp only [List.map_cons, List.map_append, kindsFront, List.map_nil, List.cons_append, opening,
      closing]
  · simpa using whole

/-- Tokens that close all brackets are the tokens of a program. -/
theorem tokenize (spells : Spells text kinds 0 0) :
    ∃ tokens last, tokenize text = .ok (tokens ++ [last]) ∧ tokens.map Token.kind = kinds ∧
      last.kind = .endOfText := by
  have nothing : SeamFirst [] := by
    rintro w ⟨⟩
  have finished :
      Lexed ((Cursor.ofPosition .start).advanceAll text) (text.getLast?.or none) 0 [] _ := .finish
  obtain ⟨front, kindsFront, lexed⟩ := spells.lexed Apart.start nothing finished
  rw [List.append_nil] at lexed
  exact ⟨front, _, lexed.tokenizeFrom_eq, kindsFront, rfl⟩

end Spells

/-- Brackets match: inside `depth` open brackets, all of them are closed, and none is closed before
it was opened. -/
structure Matched (depth : Nat) (kinds : List TokenKind) : Prop where
  closed : kinds.count .closeBracket = depth + kinds.count .openBracket
  ordered : ∀ front, front <+: kinds →
    front.count .closeBracket ≤ depth + front.count .openBracket

instance (depth : Nat) (kinds : List TokenKind) : Decidable (Matched depth kinds) :=
  decidable_of_iff
    (kinds.count .closeBracket = depth + kinds.count .openBracket ∧
      ∀ front ∈ kinds.inits, front.count .closeBracket ≤ depth + front.count .openBracket)
    ⟨fun both => ⟨both.1, fun front first => both.2 front ((List.mem_inits front kinds).2 first)⟩,
      fun matched => ⟨matched.closed, fun front first =>
        matched.ordered front ((List.mem_inits front kinds).1 first)⟩⟩

theorem Matched.of_notMem {kinds : List TokenKind} (noneOpened : .openBracket ∉ kinds)
    (noneClosed : .closeBracket ∉ kinds) : Matched 0 kinds := by
  constructor
  · rw [List.count_eq_zero_of_not_mem noneOpened, List.count_eq_zero_of_not_mem noneClosed]
  · intro front first
    have absent : .closeBracket ∉ front := fun member => noneClosed (first.subset member)
    rw [List.count_eq_zero_of_not_mem absent]
    exact Nat.zero_le _

theorem Matched.inside {depth : Nat} {kind : TokenKind} {kinds : List TokenKind}
    (matched : Matched depth (kind :: kinds)) : kind = .closeBracket → depth ≠ 0 := by
  rintro rfl rfl
  have first := matched.ordered [.closeBracket] (by simp)
  simp at first

theorem Matched.tail {depth : Nat} {kind : TokenKind} {kinds : List TokenKind}
    (matched : Matched depth (kind :: kinds)) : Matched (kind.depthAfter depth) kinds := by
  have inside := matched.inside
  -- What the first kind adds to the counts of a text is what it adds to the depth of the rest.
  have shift : ∀ front : List TokenKind,
      (kind :: front).count .closeBracket + (kind.depthAfter depth + front.count .openBracket) =
        front.count .closeBracket + (depth + (kind :: front).count .openBracket) := by
    intro front
    cases kind with
    | openBracket =>
      simp only [List.count_cons_self, TokenKind.depthAfter, ne_eq, reduceCtorEq,
        not_false_eq_true, List.count_cons_of_ne]
      omega
    | closeBracket =>
      have opened := inside rfl
      simp only [List.count_cons_self, TokenKind.depthAfter, ne_eq, reduceCtorEq,
        not_false_eq_true, List.count_cons_of_ne]
      omega
    | _ => simp [TokenKind.depthAfter]
  constructor
  · have := shift kinds
    have := matched.closed
    omega
  · intro front first
    have := shift front
    have := matched.ordered (kind :: front) (List.cons_prefix_cons.2 ⟨rfl, first⟩)
    omega

theorem Spells.intercalate {depth : Nat} {kinds : List TokenKind}
    (legible : ∀ kind ∈ kinds, kind.Legible) (matched : Matched depth kinds) :
    Spells ([' '].intercalate (kinds.map TokenKind.render)) kinds depth 0 := by
  induction kinds generalizing depth with
  | nil =>
    have closed : depth = 0 := by
      have := matched.closed
      simpa using this.symm
    subst depth
    exact .nil 0
  | cons kind kinds ih =>
    have head : Spells kind.render [kind] depth (kind.depthAfter depth) :=
      .render (legible kind List.mem_cons_self) matched.inside
    have tail := ih (fun kind member => legible kind (List.mem_cons_of_mem _ member)) matched.tail
    cases kinds with
    | nil =>
      have closed : kind.depthAfter depth = 0 := by
        have := matched.tail.closed
        simpa using this.symm
      rw [closed] at head
      simpa using head
    | cons next kinds =>
      have text : [' '].intercalate ((kind :: next :: kinds).map TokenKind.render) =
          kind.render ++ ' ' :: [' '].intercalate ((next :: kinds).map TokenKind.render) := by
        rw [List.map_cons, List.intercalate_cons_of_ne_nil (by simp)]
        simp
      rw [text]
      exact head.spaced tail

/-- Tokens with matching brackets that are written with spaces between them are read back. -/
theorem tokenize_intercalate_render {kinds : List TokenKind}
    (legible : ∀ kind ∈ kinds, kind.Legible) (matched : Matched 0 kinds) :
    ∃ tokens, tokenize ([' '].intercalate (kinds.map TokenKind.render)) = .ok tokens ∧
      tokens.map Token.kind = kinds ++ [.endOfText] := by
  obtain ⟨tokens, last, read, same, ends⟩ := (Spells.intercalate legible matched).tokenize
  refine ⟨tokens ++ [last], read, ?_⟩
  rw [List.map_append, same, List.map_singleton, ends]

/-- The least integer, a minus sign that is an operator, a letter that a slash follows, a bracket
that is a character, and braces in a string and in a block. -/
theorem tokenize_intercalate_render_mixed :
    ∃ tokens,
      tokenize "[ -9223372036854775808 - 5 S / S/ '] \"\x7d\\n\" \x7b[-1'\x7d]\x7d :P ]".toList =
        .ok tokens ∧
      tokens.map Token.kind =
        [.openBracket, .integer Int64.minValue, .operator .subtract, .integer 5, .recall 18,
          .operator .divide, .operator .words, .character ']', .string ['}', '\n'],
          .block ['[', '-', '1', '\'', '}', ']'], .assign 15, .closeBracket, .endOfText] := by
  let kinds : List TokenKind :=
    [.openBracket, .integer Int64.minValue, .operator .subtract, .integer 5, .recall 18,
      .operator .divide, .operator .words, .character ']', .string ['}', '\n'],
      .block ['[', '-', '1', '\'', '}', ']'], .assign 15, .closeBracket]
  have body : ∃ tokens, tokenize ['[', '-', '1', '\'', '}', ']'] = .ok tokens := ⟨_, by cbv⟩
  have string : Text.Legible ['}', '\n'] := by decide
  have legible : ∀ kind ∈ kinds, kind.Legible := by
    simp only [kinds, List.forall_mem_cons, TokenKind.Legible, string, body]
    simp
  have matched : Matched 0 kinds := by decide
  exact tokenize_intercalate_render legible matched

end Stackscript
