import Stackscript.Decimal.Reader
import Stackscript.Token.Basic
import Stackscript.Token.LexError

set_option autoImplicit false

/- Program text into tokens. A lexeme is found from its first character and the text after it, and
is measured by how many characters it takes of that text. Only a minus sign looks back: it starts a
number when it stands before a digit and after whitespace, an opening bracket or nothing. -/
namespace Stackscript

/-- Characters that may follow a backslash in a string, and what they stand for. -/
def unescape? : Char → Option Char
  | 'n' => some '\n'
  | 't' => some '\t'
  | '\\' => some '\\'
  | '"' => some '"'
  | _ => none

/-- The value of a string literal and the length of its text after the opening quotation mark. -/
def scanString (opening : Position) : Position → Text → Except LexError (Text × Nat)
  | _, [] => .error ⟨.unterminatedString, opening⟩
  | _, '"' :: _ => .ok ([], 1)
  | _, '\\' :: [] => .error ⟨.unterminatedString, opening⟩
  | p, '\\' :: c :: cs =>
    match unescape? c with
    | none => .error ⟨.invalidEscape c, p.advance '\\'⟩
    | some value => do
      let (rest, length) ← scanString opening ((p.advance '\\').advance c) cs
      return (value :: rest, length + 2)
  | p, c :: cs => do
    let (rest, length) ← scanString opening (p.advance c) cs
    return (c :: rest, length + 1)

/-- The value of a number literal and the length of its text after the first character, which is a
digit or a minus sign. A point belongs to it only when a digit follows. -/
def scanNumber (p : Position) (c : Char) (cs : Text) : Except LexError (TokenKind × Nat) :=
  let whole := cs.takeWhile Char.isDigit
  let fraction := match cs.drop whole.length with
    | '.' :: rest => rest.takeWhile Char.isDigit
    | _ => []
  if fraction.isEmpty then
    match Integer.read? (c :: whole) with
    | some n => .ok (.integer n, whole.length)
    | none => .error ⟨.invalidInteger (c :: whole), p⟩
  else
    let negative := c == '-'
    let digits := (if negative then whole else c :: whole) ++ fraction
    .ok (.decimal (Decimal.ofDigits negative digits (-fraction.length)),
      whole.length + 1 + fraction.length)

/-- Whether a minus sign starts a number: a digit follows, and what stands before it separates. -/
def startsNegative (previous : Option Char) (cs : Text) : Bool :=
  (match previous with
    | none => true
    | some c => Text.isBlank c || c == '[' || c == '{') &&
  (match cs with
    | [] => false
    | d :: _ => d.isDigit)

/-- An operator or a variable. Two-character symbols come first, then letters, then the other
symbols. -/
def scanSymbol (p : Position) (c : Char) (cs : Text) : Except LexError (TokenKind × Nat) :=
  match cs.head?.bind fun d => Operator.ofSymbol? [c, d] with
  | some op => .ok (.operator op, 1)
  | none =>
    match Letter.ofChar? c with
    | some letter => .ok (.recall letter, 0)
    | none =>
      match Operator.ofSymbol? [c] with
      | some op => .ok (.operator op, 0)
      | none => .error ⟨.unexpected c, p⟩

/-- The token that starts with the character `c` at `p`, blocks apart, and the length of its text
after that character. `depth` counts the brackets that are open. -/
def scan (previous : Option Char) (depth : Nat) (p : Position) (c : Char) (cs : Text) :
    Except LexError (TokenKind × Nat) :=
  if c = '[' then .ok (.openBracket, 0)
  else if c = ']' then
    if depth = 0 then .error ⟨.unmatchedBracket, p⟩ else .ok (.closeBracket, 0)
  else if c = '}' then .error ⟨.unmatchedBrace, p⟩
  else if c = '"' then do
    let (value, length) ← scanString p (p.advance c) cs
    return (.string value, length)
  else if c = '\'' then
    match cs with
    | [] => .error ⟨.missingCharacter, p⟩
    | value :: _ => .ok (.character value, 1)
  else if c = ':' then
    match cs.head?.bind Letter.ofChar? with
    | some letter => .ok (.assign letter, 1)
    | none => .error ⟨.missingName, p⟩
  else if c.isDigit || (c == '-' && startsNegative previous cs) then scanNumber p c cs
  else scanSymbol p c cs

/-- Length of a block's body: up to the brace that closes it, where braces in strings and after a
single quotation mark do not count. `depth` counts the inner braces that are open. -/
def bodyLength : (inString : Bool) → (depth : Nat) → Text → Option Nat
  | _, _, [] => none
  | true, depth, '"' :: cs => (bodyLength false depth cs).map (· + 1)
  | true, _, '\\' :: [] => none
  | true, depth, '\\' :: _ :: cs => (bodyLength true depth cs).map (· + 2)
  | true, depth, _ :: cs => (bodyLength true depth cs).map (· + 1)
  | false, depth, '"' :: cs => (bodyLength true depth cs).map (· + 1)
  | false, _, '\'' :: [] => none
  | false, depth, '\'' :: _ :: cs => (bodyLength false depth cs).map (· + 2)
  | false, depth, '{' :: cs => (bodyLength false (depth + 1) cs).map (· + 1)
  | false, 0, '}' :: _ => some 0
  | false, depth + 1, '}' :: cs => (bodyLength false depth cs).map (· + 1)
  | false, depth, _ :: cs => (bodyLength false depth cs).map (· + 1)

def TokenKind.depthAfter (depth : Nat) : TokenKind → Nat
  | .openBracket => depth + 1
  | .closeBracket => depth - 1
  | _ => depth

/-- The tokens of a text whose first character is at the cursor, after the character `previous`
and inside `depth` open brackets. The body of a block is read for its errors only. -/
def tokenizeFrom (cursor : Cursor) (previous : Option Char) (depth : Nat) :
    Text → Except LexError (List Token)
  | [] =>
    if depth = 0 then .ok [⟨.endOfText, .between cursor cursor⟩]
    else .error ⟨.unclosedBracket, cursor.position⟩
  | c :: cs =>
    if Text.isBlank c then tokenizeFrom (cursor.advance c) (some c) depth cs
    else if c = '{' then
      match bodyLength false 0 cs with
      | none => .error ⟨.unterminatedBlock, cursor.position⟩
      | some length => do
        let body := cs.take length
        let after := cursor.advanceAll (c :: cs.take (length + 1))
        let _ ← tokenizeFrom (.ofPosition (cursor.advance c).position) none 0 (cs.take length)
        let tokens ← tokenizeFrom after (some '}') depth (cs.drop (length + 1))
        return ⟨.block body, .between cursor after⟩ :: tokens
    else do
      let (kind, length) ← scan previous depth cursor.position c cs
      let lexeme := c :: cs.take length
      let after := cursor.advanceAll lexeme
      let tokens ← tokenizeFrom after lexeme.getLast? (kind.depthAfter depth) (cs.drop length)
      return ⟨kind, .between cursor after⟩ :: tokens
termination_by text => text.length
decreasing_by all_goals simp only [List.length_cons, List.length_take, List.length_drop]; omega

def tokenizeAt (p : Position) (t : Text) : Except LexError (List Token) :=
  tokenizeFrom (.ofPosition p) none 0 t

def tokenize (t : Text) : Except LexError (List Token) :=
  tokenizeAt .start t

end Stackscript
