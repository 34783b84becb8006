import Mathlib
import Stackscript.Proofs.Token.Compose
import Stackscript.Proofs.Token.Place

set_option autoImplicit false

/- A text as part of a larger one. Behind another text and whitespace it has the tokens that it has
alone, or the fault, and only the places are others: they count on from where the text begins.
Between braces it is the body of one block exactly if it has tokens alone. -/
namespace Stackscript

/-- Whether what begins at the offset is in the first line of the text. -/
def Text.inFirstLine (t : Text) (offset : Nat) : Bool :=
  offset ≤ byteLength (t.takeWhile (· != '\n'))

theorem Text.inFirstLine_append (before after : Text) :
    (before ++ after).inFirstLine (byteLength before) = before.all (· != '\n') := by
  induction before with
  | nil => exact decide_eq_true (Nat.zero_le _)
  | cons c before ih =>
    rw [List.all_cons, ← ih]
    unfold inFirstLine
    by_cases feed : c = '\n'
    · have wide := c.utf8Size_pos
      subst feed
      exact decide_eq_false (Nat.not_le.2 (Nat.lt_of_lt_of_le wide (Nat.le_add_right _ _)))
    · have other : (c != '\n') = true := bne_iff_ne.2 feed
      rw [List.cons_append, other, Bool.true_and]
      rw [List.takeWhile_cons_of_pos (p := fun c => c != '\n') other]
      exact decide_eq_decide.2 Nat.add_le_add_iff_left

namespace Position

/-- The place that is `p` in a text of its own, when the text begins at the origin: lines are counted
on, and in the first line columns are. -/
def translate (origin : Position) (inFirst : Bool) (p : Position) : Position :=
  ⟨origin.line + (p.line - 1), if inFirst then origin.column + (p.column - 1) else p.column⟩

theorem translate_advance (origin : Position) (inFirst : Bool) (p : Position) (c : Char) :
    (translate origin inFirst p).advance c =
      translate origin (inFirst && c != '\n') (p.advance c) := by
  have next (n m : UInt32) : n + (m - 1) + 1 = n + (m + 1 - 1) := by
    rw [UInt32.add_assoc, UInt32.sub_add_cancel, UInt32.add_sub_cancel]
  unfold advance translate
  by_cases feed : c = '\n'
  · rw [if_pos feed, if_pos feed, feed, next, bne_self_eq_false, Bool.and_false]
    rfl
  · have other : (c != '\n') = true := bne_iff_ne.2 feed
    rw [if_neg feed, if_neg feed, other, Bool.and_true]
    cases inFirst
    · rfl
    · exact congrArg (mk _) (next _ _)

theorem translate_advanceAll_from (origin : Position) (inFirst : Bool) (p : Position) (t : Text) :
    (translate origin inFirst p).advanceAll t =
      translate origin (inFirst && t.all (· != '\n')) (p.advanceAll t) := by
  induction t generalizing inFirst p with
  | nil =>
    rw [List.all_nil, Bool.and_true]
    rfl
  | cons c t ih =>
    rw [advanceAll_cons, translate_advance, ih, advanceAll_cons, List.all_cons, Bool.and_assoc]

/-- What a text leads to from its start, it leads to from any origin. -/
theorem translate_advanceAll (origin : Position) (t : Text) :
    translate origin (t.all (· != '\n')) (start.advanceAll t) = origin.advanceAll t := by
  have counted := translate_advanceAll_from origin true start t
  rw [Bool.true_and] at counted
  have begins : translate origin true start = origin := by
    change (⟨origin.line + (1 - 1), origin.column + (1 - 1)⟩ : Position) = origin
    rw [UInt32.sub_self, UInt32.add_zero, UInt32.add_zero]
  rw [← counted, begins]

end Position

def Span.translate (origin : Cursor) (inFirst : Bool) (span : Span) : Span :=
  ⟨origin.offset + span.start, origin.offset + span.stop,
    origin.position.translate inFirst span.position⟩

/-- The token of a text of its own, when the text begins at the origin. -/
def Token.translate (origin : Cursor) (t : Text) (token : Token) : Token :=
  { token with span := token.span.translate origin (t.inFirstLine token.span.start) }

theorem Span.translate_between (origin : Cursor) (before lexeme : Text) :
    translate origin (before.all (· != '\n')) (between ((Cursor.ofPosition .start).advanceAll before)
      ((Cursor.ofPosition .start).advanceAll (before ++ lexeme))) =
      between (origin.advanceAll before) (origin.advanceAll (before ++ lexeme)) := by
  simp only [between, translate, Cursor.advanceAll_eq, Cursor.ofPosition, Nat.zero_add,
    Position.translate_advanceAll]

theorem SamePart.eq_translate {t : Text} {origin : Cursor} {a b : Token}
    (same : SamePart t (.ofPosition .start) origin a b) : b = a.translate origin t := by
  obtain ⟨before, lexeme, after, rfl, first, second, -⟩ := same.part
  have begins : a.span.start = Text.byteLength before := by
    rw [first]
    exact Cursor.offset_advanceAll _ before
  rw [← Span.translate_between, ← first] at second
  calc
    b = ⟨b.kind, b.span⟩ := rfl
    _ = a.translate origin (before ++ lexeme ++ after) := by
      rw [Token.translate, begins, List.append_assoc, Text.inFirstLine_append, second, same.kind]

section Origin

variable {t : Text} {tokens : List Token} {e : LexError} {previous : Option Char}

/-- A text that does not begin at the start has its own tokens, counted on. -/
theorem tokenizeFrom_translate (read : tokenize t = .ok tokens) (origin : Cursor)
    (apart : ∀ cs, startsNegative previous cs = startsNegative none cs) :
    tokenizeFrom origin previous 0 t = .ok (tokens.map (Token.translate origin t)) := by
  obtain ⟨tokens', moved, same⟩ := (lexed_iff.1 read).move origin apart
  have translated : tokens.map (Token.translate origin t) = tokens' := by
    rw [← List.forall₂_eq_eq_eq, List.forall₂_map_left_iff]
    exact same.imp fun _ _ part => part.eq_translate.symm
  rw [translated]
  exact moved.tokenizeFrom_eq

theorem tokenizeFrom_translate_error (refused : tokenize t = .error e) (origin : Cursor)
    (apart : ∀ cs, startsNegative previous cs = startsNegative none cs) :
    ∃ before after, t = before ++ after ∧ e.position = Position.start.advanceAll before ∧
      tokenizeFrom origin previous 0 t =
        .error ⟨e.fault, origin.position.translate (before.all (· != '\n')) e.position⟩ := by
  obtain ⟨before, after, split, place, -, again⟩ := tokenizeFrom_eq_error refused
  have place : e.position = Position.start.advanceAll before := place
  refine ⟨before, after, split, place, ?_⟩
  rw [again origin previous apart, place, Position.translate_advanceAll]

end Origin

section Beside

variable {a w : Text} {xs : List Token}

/-- In front of whitespace a text keeps its tokens but the last, and those of what follows are read
as if brackets had never been open. -/
theorem tokenize_append_blanks (first : tokenize a = .ok xs) (apart : w ≠ [])
    (blank : ∀ c ∈ w, Text.isBlank c = true) (b : Text) :
    ∃ front last, xs = front ++ [last] ∧ last.kind = .endOfText ∧
      tokenize (a ++ w ++ b) =
        (front ++ ·) <$> tokenizeFrom ((Cursor.ofPosition .start).advanceAll (a ++ w))
          w.getLast? 0 b := by
  obtain ⟨front, split, append⟩ := (lexed_iff.1 first).tokenizeFrom_append
  refine ⟨front, _, split, rfl, ?_⟩
  have skipped := tokenizeFrom_blanks blank ((Cursor.ofPosition .start).advanceAll a)
    (a.getLast?.or none) 0 b
  have last : w.getLast?.or (a.getLast?.or none) = w.getLast? := by
    rw [List.getLast?_eq_some_getLast apart, Option.some_or]
  rw [last, ← Cursor.advanceAll_append] at skipped
  obtain ⟨c, cs, rfl⟩ := List.exists_cons_of_ne_nil apart
  have whole := append (cs ++ b) 0 (Seam.of_blank (blank c List.mem_cons_self))
  rw [← List.cons_append, skipped] at whole
  rw [List.append_assoc]
  exact whole

theorem startsNegative_getLast? (apart : w ≠ []) (blank : ∀ c ∈ w, Text.isBlank c = true)
    (cs : Text) : startsNegative w.getLast? cs = startsNegative none cs := by
  rw [List.getLast?_eq_some_getLast apart]
  exact startsNegative_blank (blank _ (List.getLast_mem apart)) cs

/-- Reading is compositional over whitespace: a text, whitespace and a second text have the tokens of
the first without its end, and those of the second, or its fault, at the places that count on from
the end of the whitespace. The fault is in the first line if no line feed is before it. -/
theorem tokenize_append_translate (first : tokenize a = .ok xs) (apart : w ≠ [])
    (blank : ∀ c ∈ w, Text.isBlank c = true) (b : Text) :
    let origin : Cursor := ⟨Text.byteLength (a ++ w), Position.start.advanceAll (a ++ w)⟩
    ∃ front last, xs = front ++ [last] ∧ last.kind = .endOfText ∧
      (∀ ys, tokenize b = .ok ys →
        tokenize (a ++ w ++ b) = .ok (front ++ ys.map (Token.translate origin b))) ∧
      ∀ e, tokenize b = .error e →
        ∃ before after, b = before ++ after ∧ e.position = Position.start.advanceAll before ∧
          tokenize (a ++ w ++ b) =
            .error ⟨e.fault, origin.position.translate (before.all (· != '\n')) e.position⟩ := by
  intro origin
  have reach : (Cursor.ofPosition .start).advanceAll (a ++ w) = origin := by
    rw [Cursor.advanceAll_eq]
    simp only [Cursor.ofPosition, Nat.zero_add, origin]
  have separated := startsNegative_getLast? apart blank
  obtain ⟨front, last, split, ends, whole⟩ := tokenize_append_blanks first apart blank b
  rw [reach] at whole
  refine ⟨front, last, split, ends, fun ys read => ?_, fun e refused => ?_⟩
  · rw [whole, tokenizeFrom_translate read origin separated]
    rfl
  · obtain ⟨before, after, rest, place, failed⟩ :=
      tokenizeFrom_translate_error refused origin separated
    rw [whole, failed]
    exact ⟨before, after, rest, place, rfl⟩

/-- A bracketed text over two lines, and behind a line feed and a space a negative number and a letter
in the next line, or an escape in the next line that is none. -/
theorem tokenize_append_translate_lines :
    let a : Text := ['[', '\n', '\'', 'é', ']']
    let w : Text := ['\n', ' ']
    tokenize (a ++ w ++ ['-', '1', '\n', 'A']) =
        .ok [⟨.openBracket, ⟨0, 1, ⟨1, 1⟩⟩⟩, ⟨.character 'é', ⟨2, 5, ⟨2, 1⟩⟩⟩,
          ⟨.closeBracket, ⟨5, 6, ⟨2, 3⟩⟩⟩, ⟨.integer (-1), ⟨8, 10, ⟨3, 2⟩⟩⟩,
          ⟨.recall 0, ⟨11, 12, ⟨4, 1⟩⟩⟩, ⟨.endOfText, ⟨12, 12, ⟨4, 2⟩⟩⟩] ∧
      tokenize (a ++ w ++ ['-', '1', ' ', '"', '\n', '\\', 'q']) =
        .error ⟨.invalidEscape 'q', ⟨4, 2⟩⟩ := by
  intro a w
  have first : tokenize a =
      .ok [⟨.openBracket, ⟨0, 1, ⟨1, 1⟩⟩⟩, ⟨.character 'é', ⟨2, 5, ⟨2, 1⟩⟩⟩,
        ⟨.closeBracket, ⟨5, 6, ⟨2, 3⟩⟩⟩, ⟨.endOfText, ⟨6, 6, ⟨2, 4⟩⟩⟩] := by
    cbv
  have second : tokenize ['-', '1', '\n', 'A'] =
      .ok [⟨.integer (-1), ⟨0, 2, ⟨1, 1⟩⟩⟩, ⟨.recall 0, ⟨3, 4, ⟨2, 1⟩⟩⟩,
        ⟨.endOfText, ⟨4, 4, ⟨2, 2⟩⟩⟩] := by
    cbv
  have refused : tokenize ['-', '1', ' ', '"', '\n', '\\', 'q'] =
      .error ⟨.invalidEscape 'q', ⟨2, 2⟩⟩ := by
    cbv
  have apart : w ≠ [] := List.cons_ne_nil _ _
  have blank : ∀ c ∈ w, Text.isBlank c = true := List.all_eq_true.1 (by decide)
  constructor
  · obtain ⟨front, last, split, -, read, -⟩ :=
      tokenize_append_translate first apart blank ['-', '1', '\n', 'A']
    have kept := congrArg List.dropLast split
    rw [List.dropLast_concat] at kept
    rw [read _ second, ← kept]
    rfl
  · obtain ⟨front, last, -, -, -, failed⟩ :=
      tokenize_append_translate first apart blank ['-', '1', ' ', '"', '\n', '\\', 'q']
    obtain ⟨before, after, parts, place, failed⟩ := failed _ refused
    have part := (List.mem_inits _ _).2 ⟨after, parts.symm⟩
    have inSecond : ∀ front ∈ ['-', '1', ' ', '"', '\n', '\\', 'q'].inits,
        ⟨2, 2⟩ = Position.start.advanceAll front → front.all (· != '\n') = false := by
      decide
    rw [failed, inSecond before part place]
    rfl

end Beside

section Inside

variable {c : Text}

/-- The search for the end of a block finds the brace behind a text that has tokens, and so the text
is read as one block in front of any other. -/
theorem tokenizeFrom_braced {inner : List Token} (code : tokenize c = .ok inner) (cursor : Cursor)
    (previous : Option Char) (depth : Nat) (rest : Text) :
    tokenizeFrom cursor previous depth ('{' :: (c ++ '}' :: rest)) =
      (⟨.block c, .between cursor (cursor.advanceAll ('{' :: c ++ ['}']))⟩ :: ·) <$>
        tokenizeFrom (cursor.advanceAll ('{' :: c ++ ['}'])) (some '}') depth rest := by
  have ends := (lexed_iff.1 code).bodyLength_body rest
  rw [tokenizeFrom_block ends, tokenizeFrom_translate code _ fun _ => rfl]
  cases tokenizeFrom (cursor.advanceAll ('{' :: c ++ ['}'])) (some '}') depth rest <;> rfl

/-- A text between braces is read as one block of that text exactly if it has tokens alone: the block
ends at the brace where reading the body would come to its end. -/
theorem tokenize_braced_iff (c : Text) :
    (∃ tokens, tokenize ('{' :: c ++ ['}']) = .ok tokens ∧
      tokens.map Token.kind = [.block c, .endOfText]) ↔
    ∃ inner, tokenize c = .ok inner := by
  constructor
  · rintro ⟨tokens, read, kinds⟩
    obtain ⟨block, others, rfl, body, -⟩ := List.map_eq_cons_iff.1 kinds
    obtain ⟨inner, code⟩ := ((lexed_iff.1 read).parts block List.mem_cons_self).body c body
    obtain ⟨moved, alone, -⟩ := tokenizeAt_move code .start
    exact ⟨moved, alone⟩
  · rintro ⟨inner, code⟩
    have read := tokenizeFrom_braced code (.ofPosition .start) none 0 []
    rw [tokenizeFrom_nil, if_pos rfl] at read
    exact ⟨_, read, rfl⟩

end Inside

end Stackscript
