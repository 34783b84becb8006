import Mathlib
import Stackscript.Text.Basic

set_option autoImplicit false

/- The lines of a text. A line feed ends each of them but the last, which lacks it if there is more
behind the last line feed; so there are as many lines as line feeds, or one more. -/
namespace Stackscript.Text

theorem dropTerminator_lineFeed (line : Text) :
    dropTerminator (line ++ ['\n']) = dropTrailing '\r' line := by
  rw [dropTerminator, List.getLast?_concat, if_pos rfl, List.dropLast_concat]

theorem dropTerminator_of_notMem {line : Text} (single : '\n' ∉ line) :
    dropTerminator line = line := by
  refine if_neg fun last => single (List.mem_of_getLast? last)

theorem mem_of_mem_dropTrailing {c d : Char} {t : Text} (member : d ∈ dropTrailing c t) :
    d ∈ t := by
  unfold dropTrailing at member
  split at member
  · exact List.mem_of_mem_dropLast member
  · exact member

/-- The lines with their line feeds, by the pieces between line feeds. -/
theorem rawLines_splitOn (t : Text) :
    ∃ front last, t.splitOn '\n' = front ++ [last] ∧ '\n' ∉ last ∧
      rawLines t = front.map (· ++ ['\n']) ++ if last.isEmpty then [] else [last] := by
  unfold List.splitOn
  -- A line feed begins a piece and a line; any other character goes in front of the first of each,
  -- which are the same but for the line feed, unless the last piece is the only one.
  induction t with
  | nil => exact ⟨[], [], List.splitOnP_nil, List.not_mem_nil, rfl⟩
  | cons c cs ih =>
    obtain ⟨front, last, pieces, single, lines⟩ := ih
    rw [List.splitOnP_cons_eq_if_modifyHead, pieces, rawLines, lines]
    by_cases feed : c = '\n'
    · subst feed
      exact ⟨[] :: front, last, rfl, single, rfl⟩
    · have other : (c == '\n') = false := beq_false_of_ne feed
      rw [other, if_neg feed, if_neg Bool.false_ne_true]
      cases front with
      | nil =>
        refine ⟨[], c :: last, rfl, ?_, ?_⟩
        · rw [List.mem_cons, not_or]
          exact ⟨Ne.symm feed, single⟩
        · cases last <;> rfl
      | cons line front => exact ⟨(c :: line) :: front, last, rfl, single, rfl⟩

/-- The lines of a text are the pieces between line feeds. Those that a line feed ends lose one
carriage return before it; the last piece keeps all of its characters, and is no line if it has
none. -/
theorem lines_splitOn (t : Text) :
    ∃ front last, t.splitOn '\n' = front ++ [last] ∧
      lines t = front.map (dropTrailing '\r') ++ if last.isEmpty then [] else [last] := by
  obtain ⟨front, last, pieces, single, raw⟩ := rawLines_splitOn t
  refine ⟨front, last, pieces, ?_⟩
  rw [lines, raw, List.map_append, List.map_map]
  congr 1
  · exact List.map_congr_left fun line _ => dropTerminator_lineFeed line
  · split
    · rfl
    · exact congrArg (fun line => [line]) (dropTerminator_of_notMem single)

/-- A text has no line feed, or it goes on behind the first one. -/
@[elab_as_elim]
theorem lineInduction {motive : Text → Prop} (t : Text)
    (last : ∀ t, '\n' ∉ t → motive t)
    (next : ∀ line rest, '\n' ∉ line → motive rest → motive (line ++ '\n' :: rest)) : motive t := by
  induction t using WellFounded.induction (measure List.length).wf with | _ t ih =>
  by_cases feed : '\n' ∈ t
  · obtain ⟨line, rest, rfl, single⟩ := List.eq_append_cons_of_mem feed
    refine next line rest single (ih rest ?_)
    change rest.length < (line ++ '\n' :: rest).length
    rw [List.length_append, List.length_cons]
    omega
  · exact last t feed

theorem rawLines_of_notMem {t : Text} (single : '\n' ∉ t) :
    rawLines t = if t.isEmpty then [] else [t] := by
  induction t with
  | nil => rfl
  | cons c cs ih =>
    obtain ⟨other, single⟩ := not_or.1 (mt List.mem_cons.2 single)
    rw [rawLines, if_neg (Ne.symm other), ih single]
    cases cs <;> rfl

theorem rawLines_lineFeed {line : Text} (single : '\n' ∉ line) (rest : Text) :
    rawLines (line ++ '\n' :: rest) = (line ++ ['\n']) :: rawLines rest := by
  induction line with
  | nil => rfl
  | cons c cs ih =>
    obtain ⟨other, single⟩ := not_or.1 (mt List.mem_cons.2 single)
    rw [List.cons_append, rawLines, if_neg (Ne.symm other), ih single]
    rfl

theorem lines_of_notMem {t : Text} (single : '\n' ∉ t) :
    lines t = if t.isEmpty then [] else [t] := by
  rw [lines, rawLines_of_notMem single]
  split
  · rfl
  · rw [List.map_singleton, dropTerminator_of_notMem single]

theorem lines_lineFeed {line : Text} (single : '\n' ∉ line) (rest : Text) :
    lines (line ++ '\n' :: rest) = dropTrailing '\r' line :: lines rest := by
  rw [lines, rawLines_lineFeed single, List.map_cons, dropTerminator_lineFeed]
  rfl

/-- The lines of a text that ends with a line feed are followed by those of what comes behind. -/
theorem rawLines_append {s : Text} (ended : s.getLast? = some '\n') (t : Text) :
    rawLines (s ++ t) = rawLines s ++ rawLines t := by
  induction s using lineInduction with
  | last s single => exact absurd (List.mem_of_getLast? ended) single
  | next line rest single ih =>
    rw [List.append_assoc, List.cons_append, rawLines_lineFeed single, rawLines_lineFeed single]
    cases rest with
    | nil => rfl
    | cons c cs =>
      rw [List.getLast?_append_of_ne_nil _ (List.cons_ne_nil _ _), List.getLast?_cons_cons] at ended
      rw [ih ended, List.cons_append]

/-- There are as many lines as line feeds, and one more unless the text ends with one of them. -/
theorem length_lines (t : Text) :
    (lines t).length = t.count '\n' + if t = [] ∨ t.getLast? = some '\n' then 0 else 1 := by
  induction t using lineInduction with
  | last t single =>
    rw [lines_of_notMem single, List.count_eq_zero_of_not_mem single]
    cases t with
    | nil => rfl
    | cons c cs =>
      rw [if_neg (not_or.2 ⟨List.cons_ne_nil c cs, fun feed => single (List.mem_of_getLast? feed)⟩)]
      rfl
  | next line rest single ih =>
    rw [lines_lineFeed single, List.length_cons, ih, List.count_append,
      List.count_eq_zero_of_not_mem single, List.count_cons_self]
    cases rest with
    | nil => simp
    | cons c cs =>
      rw [List.getLast?_append_of_ne_nil _ (List.cons_ne_nil _ _), List.getLast?_cons_cons]
      simp only [List.append_eq_nil_iff, List.cons_ne_nil, and_false, false_or]
      omega

theorem lineFeed_notMem_lines {t line : Text} (member : line ∈ lines t) : '\n' ∉ line := by
  induction t using lineInduction with
  | last t single =>
    rw [lines_of_notMem single] at member
    split at member
    · cases member
    · rwa [List.mem_singleton.1 member]
  | next front rest single ih =>
    rw [lines_lineFeed single] at member
    rcases List.mem_cons.1 member with rfl | later
    · exact mt mem_of_mem_dropTrailing single
    · exact ih later

end Stackscript.Text
