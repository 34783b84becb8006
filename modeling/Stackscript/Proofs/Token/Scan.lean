import Mathlib.Data.List.TakeWhile
import Stackscript.Token.Lexer

set_option autoImplicit false

/- What one lexeme depends on. A scan that succeeds is repeated by every scan that starts with the
same character and sees the same text as far as it looks, wherever the text stands; a scan that
fails does so at a place inside the text it was given. -/
namespace Stackscript

theorem bind_eq_ok {ε α β : Type} {first : Except ε α} {next : α → Except ε β} {b : β} :
    (first >>= next) = .ok b ↔ ∃ a, first = .ok a ∧ next a = .ok b := by
  cases first <;> simp [bind, Except.bind]

theorem bind_eq_error {ε α β : Type} {first : Except ε α} {next : α → Except ε β} {e : ε} :
    (first >>= next) = .error e ↔
      first = .error e ∨ ∃ a, first = .ok a ∧ next a = .error e := by
  cases first <;> simp [bind, Except.bind]

theorem scanString_cons {opening p : Position} {c : Char} {cs : Text} (notQuote : c ≠ '"')
    (plain : c ≠ '\\') :
    scanString opening p (c :: cs) = do
      let (rest, length) ← scanString opening (p.advance c) cs
      return (c :: rest, length + 1) := by
  rw [scanString]
  · exact notQuote
  · intro backslash
    exact absurd backslash plain
  · intro d ds backslash
    exact absurd backslash plain

/-- The text of a string literal decides its value: what follows it and where it stands do not. -/
theorem scanString_eq_ok {opening p : Position} {t value : Text} {n : Nat}
    (scanned : scanString opening p t = .ok (value, n)) :
    ∃ body rest, t = body ++ rest ∧ body.length = n ∧
      ∀ opening' p' rest', scanString opening' p' (body ++ rest') = .ok (value, n) := by
  fun_induction scanString opening p t generalizing value n with
  | case1 => cases scanned
  | case2 p rest =>
    cases scanned
    exact ⟨['"'], rest, rfl, rfl, fun _ _ _ => by simp [scanString]⟩
  | case3 => cases scanned
  | case4 => cases scanned
  | case5 p c cs escaped found ih =>
    obtain ⟨⟨tail, length⟩, inner, same⟩ := bind_eq_ok.1 scanned
    cases same
    obtain ⟨body, rest, rfl, rfl, again⟩ := ih inner
    refine ⟨'\\' :: c :: body, rest, rfl, rfl, fun opening' p' rest' => ?_⟩
    simp only [List.cons_append, scanString, found, again]
    rfl
  | case6 p c cs notQuote notLone notEscape ih =>
    obtain ⟨⟨tail, length⟩, inner, same⟩ := bind_eq_ok.1 scanned
    cases same
    obtain ⟨body, rest, rfl, rfl, again⟩ := ih inner
    refine ⟨c :: body, rest, rfl, rfl, fun opening' p' rest' => ?_⟩
    have plain : c ≠ '\\' := by
      intro backslash
      cases split : body ++ rest with
      | nil => exact notLone backslash split
      | cons d ds => exact notEscape d ds backslash split
    rw [List.cons_append, scanString_cons notQuote plain, again]
    rfl

/-- What stands where a fault is found. An open bracket is missed at the end of the text or at the
brace that ends a body. -/
inductive LexFault.FoundAt : LexFault → Text → Prop where
  | unclosedBracket : FoundAt .unclosedBracket []
  | unclosedBracketInside (rest : Text) : FoundAt .unclosedBracket ('}' :: rest)
  | unmatchedBracket (rest : Text) : FoundAt .unmatchedBracket (']' :: rest)
  | unmatchedBrace (rest : Text) : FoundAt .unmatchedBrace ('}' :: rest)
  | unterminatedBlock (rest : Text) : FoundAt .unterminatedBlock ('{' :: rest)
  | unterminatedString (rest : Text) : FoundAt .unterminatedString ('"' :: rest)
  | invalidEscape (c : Char) (rest : Text) : FoundAt (.invalidEscape c) (c :: rest)
  | missingCharacter (rest : Text) : FoundAt .missingCharacter ('\'' :: rest)
  | missingName (rest : Text) : FoundAt .missingName (':' :: rest)
  | invalidInteger {c : Char} {digits : Text} (first : c.isDigit = true ∨ c = '-')
    (each : ∀ d ∈ digits, d.isDigit = true) (rest : Text) :
    FoundAt (.invalidInteger (c :: digits)) (c :: digits ++ rest)
  | unexpected (c : Char) (rest : Text) : FoundAt (.unexpected c) (c :: rest)

/-- A fault in a body is found in front of the brace that ends it. -/
theorem LexFault.FoundAt.append_brace {fault : LexFault} {t : Text} (found : fault.FoundAt t)
    (rest : Text) : fault.FoundAt (t ++ '}' :: rest) := by
  cases found with
  | unclosedBracket => exact .unclosedBracketInside rest
  | invalidInteger first each more =>
    rw [List.append_assoc]
    exact .invalidInteger first each _
  | _ => constructor

theorem scanString_eq_error {opening p : Position} {t : Text} {e : LexError}
    (refused : scanString opening p t = .error e) :
    (e.position = opening ∧ e.fault = .unterminatedString ∧ ∀ opening' p',
        scanString opening' p' t = .error ⟨e.fault, opening'⟩) ∨
      ∃ before after, t = before ++ after ∧ e.position = p.advanceAll before ∧
        e.fault.FoundAt after ∧
        ∀ opening' p', scanString opening' p' t = .error ⟨e.fault, p'.advanceAll before⟩ := by
  fun_induction scanString opening p t with
  | case1 =>
    cases refused
    exact Or.inl ⟨rfl, rfl, fun _ _ => by simp [scanString]⟩
  | case2 => cases refused
  | case3 =>
    cases refused
    exact Or.inl ⟨rfl, rfl, fun _ _ => by simp [scanString]⟩
  | case4 p c cs unknown =>
    cases refused
    exact Or.inr ⟨['\\'], c :: cs, rfl, rfl, .invalidEscape c cs,
      fun _ _ => by simp [scanString, unknown]⟩
  | case5 p c cs escaped value ih =>
    rcases bind_eq_error.1 refused with inner | ⟨_, _, impossible⟩
    · rcases ih inner with ⟨place, fault, again⟩ | ⟨before, after, rfl, place, found, again⟩
      · refine Or.inl ⟨place, fault, fun opening' p' => ?_⟩
        simp only [scanString, value, again]
        rfl
      · refine Or.inr ⟨'\\' :: c :: before, after, rfl, place, found, fun opening' p' => ?_⟩
        simp only [scanString, value, again]
        rfl
    · cases impossible
  | case6 p c cs notQuote notLone notEscape ih =>
    have plain : c ≠ '\\' := by
      intro backslash
      cases cs with
      | nil => exact notLone backslash rfl
      | cons d ds => exact notEscape d ds backslash rfl
    rcases bind_eq_error.1 refused with inner | ⟨_, _, impossible⟩
    · rcases ih inner with ⟨place, fault, again⟩ | ⟨before, after, rfl, place, found, again⟩
      · refine Or.inl ⟨place, fault, fun opening' p' => ?_⟩
        rw [scanString_cons notQuote plain, again]
        rfl
      · refine Or.inr ⟨c :: before, after, rfl, place, found, fun opening' p' => ?_⟩
        rw [scanString_cons notQuote plain, again]
        rfl
    · cases impossible

/-- The digits after the point of a number whose text after the first character is given. -/
def fractionDigits (cs : Text) : Text :=
  match cs.drop (cs.takeWhile Char.isDigit).length with
  | '.' :: rest => rest.takeWhile Char.isDigit
  | _ => []

theorem fractionDigits_split {cs : Text} (found : (fractionDigits cs).isEmpty = false) :
    ∃ rest, cs = (cs.takeWhile Char.isDigit ++ '.' :: fractionDigits cs) ++ rest := by
  have whole : cs.takeWhile Char.isDigit = cs.take (cs.takeWhile Char.isDigit).length :=
    List.prefix_iff_eq_take.1 (List.takeWhile_prefix _)
  have split : cs.takeWhile Char.isDigit ++ cs.drop (cs.takeWhile Char.isDigit).length = cs :=
    calc
      _ = cs.take (cs.takeWhile Char.isDigit).length ++
          cs.drop (cs.takeWhile Char.isDigit).length := congrArg (· ++ _) whole
      _ = cs := List.take_append_drop _ _
  unfold fractionDigits at found ⊢
  split at found
  · rename_i tail point
    refine ⟨tail.dropWhile Char.isDigit, ?_⟩
    rw [List.append_assoc, List.cons_append, List.takeWhile_append_dropWhile, ← point, split]
  · cases found

theorem scanNumber_eq (p : Position) (c : Char) (cs : Text) :
    scanNumber p c cs =
      if (fractionDigits cs).isEmpty then
        match Integer.read? (c :: cs.takeWhile Char.isDigit) with
        | some n => .ok (.integer n, (cs.takeWhile Char.isDigit).length)
        | none => .error ⟨.invalidInteger (c :: cs.takeWhile Char.isDigit), p⟩
      else
        .ok (.decimal (Decimal.ofDigits (c == '-')
            ((if c == '-' then cs.takeWhile Char.isDigit else c :: cs.takeWhile Char.isDigit) ++
              fractionDigits cs) (-(fractionDigits cs).length)),
          (cs.takeWhile Char.isDigit).length + 1 + (fractionDigits cs).length) :=
  rfl

theorem scanNumber_eq_ok {p : Position} {c : Char} {cs : Text} {kind : TokenKind} {n : Nat}
    (scanned : scanNumber p c cs = .ok (kind, n)) :
    n ≤ cs.length ∧ ∀ p', scanNumber p' c cs = .ok (kind, n) := by
  simp only [scanNumber_eq] at scanned ⊢
  split at scanned
  · rename_i whole
    split at scanned
    · cases scanned
      exact ⟨(List.takeWhile_sublist _).length_le, fun _ => if_pos whole⟩
    · cases scanned
  · rename_i fraction
    cases scanned
    obtain ⟨rest, split⟩ := fractionDigits_split (Bool.eq_false_iff.2 fraction)
    have size := congrArg List.length split
    simp only [List.length_append, List.length_cons] at size
    exact ⟨by omega, fun _ => if_neg fraction⟩

/-- Digits alone have no fraction. -/
theorem fractionDigits_digits {ds : Text} (digits : ∀ d ∈ ds, d.isDigit = true) :
    fractionDigits ds = [] := by
  unfold fractionDigits
  rw [List.takeWhile_eq_self_iff.2 digits, List.drop_length]

theorem isDigit_of_mem_takeWhile {cs : Text} {d : Char} (member : d ∈ cs.takeWhile Char.isDigit) :
    d.isDigit = true :=
  List.all_eq_true.1 List.all_takeWhile d member

theorem isDigit_of_mem_fractionDigits {cs : Text} {d : Char} (member : d ∈ fractionDigits cs) :
    d.isDigit = true := by
  unfold fractionDigits at member
  split at member
  · exact isDigit_of_mem_takeWhile member
  · cases member

/-- The text of a number after its first character: digits, and if it has a fraction, a point and the
digits of that. -/
theorem scanNumber_text {p : Position} {c : Char} {cs : Text} {kind : TokenKind} {n : Nat}
    (scanned : scanNumber p c cs = .ok (kind, n)) :
    cs.take n = cs.takeWhile Char.isDigit ++
      if (fractionDigits cs).isEmpty then [] else '.' :: fractionDigits cs := by
  rw [scanNumber_eq] at scanned
  split at scanned
  · rename_i whole
    split at scanned
    · cases scanned
      rw [if_pos whole, List.append_nil]
      exact (List.prefix_iff_eq_take.1 (List.takeWhile_prefix _)).symm
    · cases scanned
  · rename_i fraction
    cases scanned
    obtain ⟨rest, split⟩ := fractionDigits_split (Bool.eq_false_iff.2 fraction)
    have size : (cs.takeWhile Char.isDigit).length + 1 + (fractionDigits cs).length =
        (cs.takeWhile Char.isDigit ++ '.' :: fractionDigits cs).length := by
      simp only [List.length_append, List.length_cons]
      omega
    rw [if_neg fraction, size]
    exact (List.prefix_iff_eq_take.1 ⟨rest, split.symm⟩).symm

theorem scanNumber_eq_error {p : Position} {c : Char} {cs : Text} {e : LexError}
    (refused : scanNumber p c cs = .error e) :
    e.position = p ∧ e.fault = .invalidInteger (c :: cs.takeWhile Char.isDigit) ∧
      ∀ p', scanNumber p' c cs = .error ⟨e.fault, p'⟩ := by
  simp only [scanNumber_eq] at refused ⊢
  split at refused
  · rename_i whole
    split at refused
    · cases refused
    · cases refused
      exact ⟨rfl, rfl, fun _ => if_pos whole⟩
  · cases refused

theorem scanNumber_kind {p : Position} {c : Char} {cs : Text} {kind : TokenKind} {n : Nat}
    (scanned : scanNumber p c cs = .ok (kind, n)) :
    (∃ value, kind = .integer value) ∨ ∃ value, kind = .decimal value := by
  rw [scanNumber_eq] at scanned
  split at scanned
  · split at scanned
    · cases scanned
      exact Or.inl ⟨_, rfl⟩
    · cases scanned
  · cases scanned
    exact Or.inr ⟨_, rfl⟩

theorem scanSymbol_eq_ok {p : Position} {c : Char} {cs : Text} {kind : TokenKind} {n : Nat}
    (scanned : scanSymbol p c cs = .ok (kind, n)) :
    n ≤ cs.length ∧ ∀ p', scanSymbol p' c cs = .ok (kind, n) := by
  unfold scanSymbol at scanned ⊢
  split at scanned
  · rename_i op pair
    cases scanned
    cases cs with
    | nil => cases pair
    | cons d ds => exact ⟨Nat.le_add_left 1 ds.length, fun _ => rfl⟩
  · split at scanned
    · cases scanned
      exact ⟨Nat.zero_le _, fun _ => rfl⟩
    · split at scanned
      · cases scanned
        exact ⟨Nat.zero_le _, fun _ => rfl⟩
      · cases scanned

theorem scanSymbol_kind {p : Position} {c : Char} {cs : Text} {kind : TokenKind} {n : Nat}
    (scanned : scanSymbol p c cs = .ok (kind, n)) :
    (∃ op, kind = .operator op) ∨ ∃ letter, kind = .recall letter := by
  unfold scanSymbol at scanned
  split at scanned
  · cases scanned
    exact Or.inl ⟨_, rfl⟩
  · split at scanned
    · cases scanned
      exact Or.inr ⟨_, rfl⟩
    · split at scanned
      · cases scanned
        exact Or.inl ⟨_, rfl⟩
      · cases scanned

theorem scanSymbol_eq_error {p : Position} {c : Char} {cs : Text} {e : LexError}
    (refused : scanSymbol p c cs = .error e) :
    e.position = p ∧ e.fault = .unexpected c ∧
      ∀ p', scanSymbol p' c cs = .error ⟨e.fault, p'⟩ := by
  unfold scanSymbol at refused ⊢
  split at refused
  · cases refused
  · split at refused
    · cases refused
    · split at refused
      · cases refused
      · cases refused
        exact ⟨rfl, rfl, fun _ => rfl⟩

/-- The lexemes by what they start with, and what each of them needs of the text after that
character. -/
inductive Scanned (previous : Option Char) (depth : Nat) (p : Position) :
    Char → Text → TokenKind → Nat → Prop where
  | openBracket {cs : Text} : Scanned previous depth p '[' cs .openBracket 0
  | closeBracket {cs : Text} (inside : depth ≠ 0) : Scanned previous depth p ']' cs .closeBracket 0
  | string {cs value : Text} {n : Nat} (body : scanString p (p.advance '"') cs = .ok (value, n)) :
    Scanned previous depth p '"' cs (.string value) n
  | character {cs : Text} {value : Char} :
    Scanned previous depth p '\'' (value :: cs) (.character value) 1
  | assign {cs : Text} {d : Char} {letter : Letter} (name : Letter.ofChar? d = some letter) :
    Scanned previous depth p ':' (d :: cs) (.assign letter) 1
  | number {c : Char} {cs : Text} {kind : TokenKind} {n : Nat}
    (starts : (c.isDigit || (c == '-' && startsNegative previous cs)) = true)
    (digits : scanNumber p c cs = .ok (kind, n)) : Scanned previous depth p c cs kind n
  | symbol {c : Char} {cs : Text} {kind : TokenKind} {n : Nat}
    (plain : c ≠ '[' ∧ c ≠ ']' ∧ c ≠ '}' ∧ c ≠ '"' ∧ c ≠ '\'' ∧ c ≠ ':')
    (starts : (c.isDigit || (c == '-' && startsNegative previous cs)) = false)
    (found : scanSymbol p c cs = .ok (kind, n)) : Scanned previous depth p c cs kind n

theorem Scanned.of_scan {previous : Option Char} {depth : Nat} {p : Position} {c : Char}
    {cs : Text} {kind : TokenKind} {n : Nat}
    (scanned : scan previous depth p c cs = .ok (kind, n)) :
    Scanned previous depth p c cs kind n := by
  unfold scan at scanned
  split at scanned
  · subst c
    cases scanned
    exact .openBracket
  rename_i notOpen
  split at scanned
  · subst c
    split at scanned
    · cases scanned
    · rename_i inside
      cases scanned
      exact .closeBracket inside
  rename_i notClose
  split at scanned
  · cases scanned
  rename_i notBrace
  split at scanned
  · subst c
    obtain ⟨⟨value, length⟩, body, same⟩ := bind_eq_ok.1 scanned
    cases same
    exact .string body
  rename_i notQuote
  split at scanned
  · subst c
    cases cs with
    | nil => cases scanned
    | cons value rest =>
      cases scanned
      exact .character
  rename_i notSingle
  split at scanned
  · subst c
    split at scanned
    · rename_i letter name
      cases scanned
      cases cs with
      | nil => cases name
      | cons d rest => exact .assign name
    · cases scanned
  rename_i notColon
  split at scanned
  · rename_i starts
    exact .number starts scanned
  · rename_i starts
    exact .symbol ⟨notOpen, notClose, notBrace, notQuote, notSingle, notColon⟩
      (Bool.eq_false_iff.2 starts) scanned

/-- A digit, or a minus sign that may, starts a number. -/
theorem scan_number {previous : Option Char} {c : Char} {cs : Text}
    (starts : (c.isDigit || (c == '-' && startsNegative previous cs)) = true) (depth : Nat)
    (p : Position) : scan previous depth p c cs = scanNumber p c cs := by
  have plain : c ≠ '[' ∧ c ≠ ']' ∧ c ≠ '}' ∧ c ≠ '"' ∧ c ≠ '\'' ∧ c ≠ ':' := by
    refine ⟨?_, ?_, ?_, ?_, ?_, ?_⟩ <;> (rintro rfl; cases starts)
  simp only [scan, plain, starts, ↓reduceIte]

theorem Scanned.scan_eq {previous : Option Char} {depth : Nat} {p : Position} {c : Char}
    {cs : Text} {kind : TokenKind} {n : Nat} (scanned : Scanned previous depth p c cs kind n) :
    scan previous depth p c cs = .ok (kind, n) := by
  cases scanned with
  | openBracket => simp [scan]
  | closeBracket inside => simp [scan, inside]
  | string body =>
    simp only [scan, Char.reduceEq, ↓reduceIte, body]
    rfl
  | character => simp [scan]
  | assign name => simp [scan, name]
  | number starts digits => rw [scan_number starts, digits]
  | symbol plain starts found =>
    simp only [scan, plain, starts, Bool.false_eq_true, ↓reduceIte, found]

/-- A lexeme takes no more than there is. -/
theorem Scanned.length_le {previous : Option Char} {depth : Nat} {p : Position} {c : Char}
    {cs : Text} {kind : TokenKind} {n : Nat} (scanned : Scanned previous depth p c cs kind n) :
    n ≤ cs.length := by
  cases scanned with
  | openBracket => exact Nat.zero_le _
  | closeBracket => exact Nat.zero_le _
  | string body =>
    obtain ⟨inside, rest, rfl, rfl, -⟩ := scanString_eq_ok body
    simp
  | character => simp
  | assign => simp
  | number _ digits => exact (scanNumber_eq_ok digits).1
  | symbol _ _ found => exact (scanSymbol_eq_ok found).1

/-- Blocks and the end of the text are no lexemes, and a closing bracket needs an open one. -/
theorem Scanned.kind_spec {previous : Option Char} {depth : Nat} {p : Position} {c : Char}
    {cs : Text} {kind : TokenKind} {n : Nat} (scanned : Scanned previous depth p c cs kind n) :
    (∀ body, kind ≠ .block body) ∧ kind ≠ .endOfText ∧ (kind = .closeBracket → depth ≠ 0) := by
  cases scanned with
  | closeBracket inside =>
    exact ⟨fun _ => TokenKind.noConfusion, TokenKind.noConfusion, fun _ => inside⟩
  | number _ digits =>
    rcases scanNumber_kind digits with ⟨value, rfl⟩ | ⟨value, rfl⟩
    · exact ⟨fun _ => TokenKind.noConfusion, TokenKind.noConfusion, TokenKind.noConfusion⟩
    · exact ⟨fun _ => TokenKind.noConfusion, TokenKind.noConfusion, TokenKind.noConfusion⟩
  | symbol _ _ found =>
    rcases scanSymbol_kind found with ⟨op, rfl⟩ | ⟨letter, rfl⟩
    · exact ⟨fun _ => TokenKind.noConfusion, TokenKind.noConfusion, TokenKind.noConfusion⟩
    · exact ⟨fun _ => TokenKind.noConfusion, TokenKind.noConfusion, TokenKind.noConfusion⟩
  | _ => exact ⟨fun _ => TokenKind.noConfusion, TokenKind.noConfusion, TokenKind.noConfusion⟩

/-- Where a text stands is no matter to its first lexeme. -/
theorem Scanned.move {previous previous' : Option Char} {depth : Nat} {p : Position} {c : Char}
    {cs : Text} {kind : TokenKind} {n : Nat} (scanned : Scanned previous depth p c cs kind n)
    (start : startsNegative previous' cs = startsNegative previous cs) (p' : Position) :
    Scanned previous' depth p' c cs kind n := by
  cases scanned with
  | openBracket => exact .openBracket
  | closeBracket inside => exact .closeBracket inside
  | string body =>
    obtain ⟨inside, rest, rfl, rfl, again⟩ := scanString_eq_ok body
    exact .string (again _ _ rest)
  | character => exact .character
  | assign name => exact .assign name
  | number starts digits =>
    exact .number (by rw [start]; exact starts) ((scanNumber_eq_ok digits).2 p')
  | symbol plain starts found =>
    exact .symbol plain (by rw [start]; exact starts) ((scanSymbol_eq_ok found).2 p')

/-- A lexeme that is refused is refused at a place in its text, for what stands there, wherever that
text stands. -/
theorem scan_eq_error {previous : Option Char} {depth : Nat} {p : Position} {c : Char} {cs : Text}
    {e : LexError} (refused : scan previous depth p c cs = .error e) :
    ∃ before after, c :: cs = before ++ after ∧ e.position = p.advanceAll before ∧
      e.fault.FoundAt after ∧
      ∀ previous' p', startsNegative previous' cs = startsNegative previous cs →
        scan previous' depth p' c cs = .error ⟨e.fault, p'.advanceAll before⟩ := by
  -- All but an invalid escape are reported at the first character.
  have atStart : ∀ fault, e = ⟨fault, p⟩ → fault.FoundAt (c :: cs) →
      (∀ previous' p', scan previous' depth p' c cs = .error ⟨fault, p'⟩) →
      ∃ before after, c :: cs = before ++ after ∧ e.position = p.advanceAll before ∧
        e.fault.FoundAt after ∧
        ∀ previous' p', startsNegative previous' cs = startsNegative previous cs →
          scan previous' depth p' c cs = .error ⟨e.fault, p'.advanceAll before⟩ := by
    rintro fault rfl found again
    exact ⟨[], c :: cs, rfl, rfl, found, fun previous' p' _ => again previous' p'⟩
  unfold scan at refused
  split at refused
  · cases refused
  rename_i notOpen
  split at refused
  · subst c
    split at refused
    · rename_i outside
      cases refused
      exact atStart .unmatchedBracket rfl (.unmatchedBracket cs) fun _ _ => by simp [scan, outside]
    · cases refused
  rename_i notClose
  split at refused
  · subst c
    cases refused
    exact atStart .unmatchedBrace rfl (.unmatchedBrace cs) fun _ _ => by simp [scan]
  rename_i notBrace
  split at refused
  · subst c
    rcases bind_eq_error.1 refused with inner | ⟨_, _, impossible⟩
    · rcases scanString_eq_error inner with
        ⟨place, fault, again⟩ | ⟨before, after, rfl, place, found, again⟩
      · refine ⟨[], _, rfl, place, fault ▸ .unterminatedString cs, fun previous' p' _ => ?_⟩
        simp only [scan, Char.reduceEq, ↓reduceIte, again]
        rfl
      · refine ⟨'"' :: before, after, rfl, place, found, fun previous' p' _ => ?_⟩
        simp only [scan, Char.reduceEq, ↓reduceIte, again]
        rfl
    · cases impossible
  rename_i notQuote
  split at refused
  · subst c
    cases cs with
    | nil =>
      cases refused
      exact atStart .missingCharacter rfl (.missingCharacter []) fun _ _ => by simp [scan]
    | cons => cases refused
  rename_i notSingle
  split at refused
  · subst c
    split at refused
    · cases refused
    · rename_i unnamed
      cases refused
      exact atStart .missingName rfl (.missingName cs) fun _ _ => by simp [scan, unnamed]
  rename_i notColon
  have again : ∀ previous' p', startsNegative previous' cs = startsNegative previous cs →
      scan previous' depth p' c cs =
        if (c.isDigit || (c == '-' && startsNegative previous cs)) = true then scanNumber p' c cs
        else scanSymbol p' c cs := by
    intro previous' p' start
    simp only [scan, notOpen, notClose, notBrace, notQuote, notSingle, notColon, start, ↓reduceIte]
  split at refused
  · rename_i starts
    obtain ⟨place, fault, number⟩ := scanNumber_eq_error refused
    have found : e.fault.FoundAt (c :: cs) := by
      have first : c.isDigit = true ∨ c = '-' := by
        simp only [Bool.or_eq_true, Bool.and_eq_true, beq_iff_eq] at starts
        exact starts.imp_right And.left
      have split : c :: cs = c :: cs.takeWhile Char.isDigit ++ cs.dropWhile Char.isDigit := by
        rw [List.cons_append, List.takeWhile_append_dropWhile]
      rw [fault, split]
      exact .invalidInteger first (fun _ => isDigit_of_mem_takeWhile) _
    refine ⟨[], c :: cs, rfl, place, found, fun previous' p' start => ?_⟩
    rw [again previous' p' start, if_pos starts, number]
    rfl
  · rename_i starts
    obtain ⟨place, fault, symbol⟩ := scanSymbol_eq_error refused
    refine ⟨[], c :: cs, rfl, place, fault ▸ .unexpected c cs, fun previous' p' start => ?_⟩
    rw [again previous' p' start, if_neg starts, symbol]
    rfl

/-- A character that ends every lexeme before it, except strings and characters: it continues no
number and is the second character of no symbol. -/
structure Seam (w : Char) : Prop where
  notDigit : w.isDigit = false
  notPoint : w ≠ '.'
  notSecond : ∀ c, Operator.ofSymbol? [c, w] = none

theorem Seam.of_blank {w : Char} (blank : Text.isBlank w = true) : Seam w := by
  refine ⟨?_, ?_, ?_⟩
  · simp only [Text.isBlank, Bool.or_eq_true, Bool.and_eq_true, decide_eq_true_eq,
      beq_iff_eq] at blank
    simp only [Char.isDigit, Bool.and_eq_false_iff, decide_eq_false_iff_not, ge_iff_le,
      UInt32.le_iff_toNat_le]
    have value : w.val.toNat = w.toNat := rfl
    have low : '0'.val.toNat = 48 := rfl
    have high : '9'.val.toNat = 57 := rfl
    omega
  · rintro rfl
    revert blank
    decide
  · intro c
    cases found : Operator.ofSymbol? [c, w] with
    | none => rfl
    | some op =>
      have symbol := Operator.symbol_of_ofSymbol? found
      cases op <;> simp only [Operator.symbol, List.cons.injEq, reduceCtorEq, and_false,
        and_true] at symbol
      all_goals
        obtain ⟨-, rfl⟩ := symbol
        revert blank
        decide

theorem startsNegative_blank {c : Char} (blank : Text.isBlank c = true) (cs : Text) :
    startsNegative (some c) cs = startsNegative none cs := by
  simp [startsNegative, blank]

theorem startsNegative_append {previous : Option Char} {cs rest : Text} {w : Char} (seam : Seam w) :
    startsNegative previous (cs ++ w :: rest) = startsNegative previous cs := by
  cases cs with
  | nil => simp [startsNegative, seam.notDigit]
  | cons d ds => rfl

theorem takeWhile_digits_append {cs rest : Text} {w : Char} (seam : Seam w) :
    (cs ++ w :: rest).takeWhile Char.isDigit = cs.takeWhile Char.isDigit := by
  induction cs with
  | nil => simp [seam.notDigit]
  | cons d ds ih => simp only [List.cons_append, List.takeWhile_cons, ih]

theorem fractionDigits_append {cs rest : Text} {w : Char} (seam : Seam w) :
    fractionDigits (cs ++ w :: rest) = fractionDigits cs := by
  have whole : (cs.takeWhile Char.isDigit).length ≤ cs.length :=
    (List.takeWhile_sublist _).length_le
  unfold fractionDigits
  rw [takeWhile_digits_append seam, List.drop_append_of_le_length whole]
  cases cs.drop (cs.takeWhile Char.isDigit).length with
  | nil => simp [seam.notPoint]
  | cons d ds =>
    by_cases point : d = '.'
    · subst d
      exact takeWhile_digits_append seam
    · simp [point]

/-- A lexeme that was found before the end of a text is found before a seam. -/
theorem Scanned.append {previous : Option Char} {depth : Nat} {p : Position} {c : Char} {cs : Text}
    {kind : TokenKind} {n : Nat} (scanned : Scanned previous depth p c cs kind n) {w : Char}
    (seam : Seam w) (rest : Text) (extra : Nat) :
    Scanned previous (depth + extra) p c (cs ++ w :: rest) kind n := by
  cases scanned with
  | openBracket => exact .openBracket
  | closeBracket inside => exact .closeBracket (by omega)
  | string body =>
    obtain ⟨inside, tail, rfl, rfl, again⟩ := scanString_eq_ok body
    rw [List.append_assoc]
    exact .string (again _ _ (tail ++ w :: rest))
  | character => exact .character
  | assign name => exact .assign name
  | number starts digits =>
    refine .number (by rw [startsNegative_append seam]; exact starts) ?_
    rw [scanNumber_eq, takeWhile_digits_append seam, fractionDigits_append seam, ← scanNumber_eq]
    exact digits
  | symbol plain starts found =>
    refine .symbol plain (by rw [startsNegative_append seam]; exact starts) ?_
    cases cs with
    | nil =>
      simp only [scanSymbol, List.nil_append, List.head?_cons, Option.bind_some, seam.notSecond]
      exact found
    | cons d ds => exact found

end Stackscript
