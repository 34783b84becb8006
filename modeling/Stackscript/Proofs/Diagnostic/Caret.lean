import Stackscript.Diagnostic
import Stackscript.Proofs.Text.Lines
import Stackscript.Proofs.Token.Count
import Stackscript.Proofs.Token.Place
import Stackscript.Proofs.Token.Spelling

set_option autoImplicit false

/- The report of a text that has no tokens. One line of it begins with an arrow and is the source
line of the error, and a caret stands under its column. Only a bracket that is still open at the end
of a text has a place where no character stands, and when the text ends with a line feed, no line
either: then the report shows the last lines without a mark. -/
namespace Stackscript

/-- One character of a message may be a line feed. -/
theorem Text.split_lineFeed {front : Text} (single : '\n' ∉ front) (c : Char) {back : Text}
    (plain : back ∈ [[], ['\'']]) :
    ∃ line rest, front ++ c :: back = line ++ rest ∧ '\n' ∉ line ∧
      rest ∈ [[], ['\n'], ['\n', '\'']] := by
  by_cases feed : c = '\n'
  · refine ⟨front, c :: back, rfl, single, ?_⟩
    fin_cases plain <;> simp [feed]
  · refine ⟨front ++ c :: back, [], (List.append_nil _).symm, ?_, List.mem_cons_self⟩
    fin_cases plain <;> simp [single, Ne.symm feed]

/-- A line feed in a message is its end, or has only a quotation mark behind it. -/
theorem LexFault.FoundAt.message_split {fault : LexFault} {t : Text} (found : fault.FoundAt t) :
    ∃ line rest, fault.message.toList = line ++ rest ∧ '\n' ∉ line ∧
      rest ∈ [[], ['\n'], ['\n', '\'']] := by
  have character (c : Char) : (toString c).toList = [c] := String.toList_singleton c
  cases found with
  | invalidEscape c rest =>
    have text : (LexFault.invalidEscape c).message.toList =
        "Invalid escape sequence: \\".toList ++ [c] := by
      change ("Invalid escape sequence: \\" ++ toString c).toList = _
      rw [String.toList_append, character]
    rw [text]
    exact Text.split_lineFeed (by decide) c (by decide)
  | @invalidInteger c digits first each rest =>
    have text : (LexFault.invalidInteger (c :: digits)).message.toList =
        "Invalid integer literal: ".toList ++ c :: digits := by
      change (toString _ ++ String.ofList (c :: digits)).toList = _
      rw [String.toList_append, String.toList_ofList]
      rfl
    refine ⟨_, [], (List.append_nil _).symm, ?_, List.mem_cons_self⟩
    rw [text, List.mem_append, List.mem_cons]
    rintro (impossible | rfl | digit)
    · exact absurd impossible (by decide)
    · exact absurd first (by decide)
    · exact absurd (each _ digit) (by decide)
  | unexpected c rest =>
    have text : (LexFault.unexpected c).message.toList =
        "Unexpected character: '".toList ++ [c, '\''] := by
      change ("Unexpected character: '" ++ toString c ++ "'").toList = _
      rw [String.toList_append, String.toList_append, character, List.append_assoc]
      rfl
    rw [text]
    exact Text.split_lineFeed (by decide) c (by decide)
  | _ => exact ⟨_, [], (List.append_nil _).symm, by decide, by decide⟩

theorem Text.lineFeed_notMem_ofNat (n : Nat) : '\n' ∉ ofNat n := fun digit =>
  absurd (isDigit_of_mem_ofNat digit) (by decide)

/-- Lines and columns count from one. -/
structure Position.Counted (p : Position) : Prop where
  line : 1 ≤ p.line.toNat
  column : 1 ≤ p.column.toNat

theorem Position.Counted.column_ne_zero {p : Position} (counted : p.Counted) : p.column ≠ 0 := by
  intro none
  have column := counted.column
  rw [none] at column
  cases column

theorem Position.counted_of_short {t : Text} (short : t.length + 1 < 2 ^ 32) :
    (start.advanceAll t).Counted := by
  have line := line_of_short short
  have column : (start.advanceAll t).column.toNat = (Place.start.advanceAll t).column :=
    congrArg Place.column (place_of_short short)
  refine ⟨by omega, ?_⟩
  rw [column]
  exact (Place.column_advanceAll (Nat.le_refl 1) t).1

/-- What the source line of an error begins with. -/
def arrow : Text := [' ', '→', ' ']

namespace ReportLine

theorem lineFeed_notMem_margin (number : Nat) : '\n' ∉ margin number := by
  rw [margin, Text.padStart, List.mem_append, List.mem_append]
  rintro ((pad | digit) | bar)
  · cases List.eq_of_mem_replicate pad
  · exact Text.lineFeed_notMem_ofNat number digit
  · exact absurd bar (by decide)

theorem lineFeed_notMem_numbered {sign content : Text} (clear : '\n' ∉ sign) (number : Nat)
    (single : '\n' ∉ content) : '\n' ∉ sign ++ margin number ++ content := by
  rw [List.mem_append, List.mem_append, not_or, not_or]
  exact ⟨⟨clear, lineFeed_notMem_margin number⟩, single⟩

/-- The source line of a report, if it shows one, has no line feed. -/
def Single : ReportLine → Prop
  | .marked _ content | .plain _ content => '\n' ∉ content
  | .caret _ => True

theorem Single.render {r : ReportLine} (single : r.Single) :
    ∃ line, '\n' ∉ line ∧ r.render = line ++ ['\n'] := by
  cases r with
  | marked number content => exact ⟨_, lineFeed_notMem_numbered (by decide) number single, rfl⟩
  | caret column =>
    refine ⟨List.replicate 8 ' ' ++ ['|', ' '] ++ List.replicate (column - 1) ' ' ++ ['^'], ?_, ?_⟩
    · rw [List.mem_append, List.mem_append]
      rintro ((bar | pad) | sign)
      · exact absurd bar (by decide)
      · cases List.eq_of_mem_replicate pad
      · exact absurd sign (by decide)
    · rw [List.append_assoc]
      rfl
  | plain number content => exact ⟨_, lineFeed_notMem_numbered (by decide) number single, rfl⟩

/-- The lines of a report are its report lines. -/
theorem rawLines_render {rs : List ReportLine} (single : ∀ r ∈ rs, r.Single) :
    Text.rawLines (rs.flatMap ReportLine.render) = rs.map ReportLine.render := by
  induction rs with
  | nil => rfl
  | cons r rs ih =>
    obtain ⟨line, none, text⟩ := (single r (.head _)).render
    rw [List.flatMap_cons, List.map_cons, text, List.append_assoc, List.singleton_append,
      Text.rawLines_lineFeed none, ih fun r member => single r (.tail _ member)]

/-- A source line that is shown without a mark. -/
def Nearby (source : Text) (r : ReportLine) : Prop :=
  ∃ number, ∃ content ∈ Text.lines source, r = .plain number content

theorem Nearby.not_arrow {source : Text} {r : ReportLine} (nearby : r.Nearby source) :
    ¬ arrow <+: r.render := by
  obtain ⟨number, content, -, rfl⟩ := nearby
  simp [arrow, ReportLine.render]

end ReportLine

namespace Diagnostic

theorem reportLines_single (d : Diagnostic) (source : Text) :
    ∀ r ∈ d.reportLines source, r.Single := by
  intro r member
  obtain ⟨⟨content, i⟩, shown, one⟩ := List.mem_flatMap.1 member
  have line : '\n' ∉ content := Text.lineFeed_notMem_lines
    (List.fst_mem_of_mem_zipIdx (List.mem_of_mem_take (List.mem_of_mem_drop shown)))
  have one : r ∈ d.reportLine content i := one
  unfold reportLine at one
  split at one
  · rwa [List.mem_singleton.1 one]
  split at one
  · rwa [List.mem_singleton.1 one]
  · rcases List.mem_pair.1 one with rfl | rfl
    · exact line
    · trivial

/-- Lines other than that of the error are shown without a mark. -/
theorem nearby_of_other {d : Diagnostic} {source : Text} {numbered : List (Text × Nat)}
    (shown : ∀ x ∈ numbered, x.1 ∈ Text.lines source)
    (other : ∀ x ∈ numbered, x.2 ≠ d.position.line.toNat - 1) :
    ∀ r ∈ numbered.flatMap fun (content, i) => d.reportLine content i, r.Nearby source := by
  intro r member
  obtain ⟨⟨content, i⟩, line, one⟩ := List.mem_flatMap.1 member
  have plain : d.reportLine content i = [.plain (i + 1) content] := if_pos (other _ line)
  have one : r ∈ d.reportLine content i := one
  rw [plain, List.mem_singleton] at one
  exact ⟨i + 1, content, shown _ line, one⟩

/-- No line is marked if the source ends before that of the error. -/
theorem reportLines_of_past {d : Diagnostic} {source : Text}
    (past : (Text.lines source).length ≤ d.position.line.toNat - 1) :
    ∀ r ∈ d.reportLines source, r.Nearby source := by
  refine nearby_of_other (fun x member => ?_) fun x member => ?_
  · exact List.fst_mem_of_mem_zipIdx (List.mem_of_mem_take (List.mem_of_mem_drop member))
  · have below := List.snd_lt_of_mem_zipIdx (List.mem_of_mem_take (List.mem_of_mem_drop member))
    omega

theorem exists_split_of_getElem? {α : Type} {xs : List α} {i : Nat} {x : α}
    (found : xs[i]? = some x) : ∃ before after, xs = before ++ x :: after ∧ before.length = i := by
  obtain ⟨inside, rfl⟩ := List.getElem?_eq_some_iff.1 found
  refine ⟨xs.take i, xs.drop (i + 1), ?_, List.length_take_of_le (Nat.le_of_lt inside)⟩
  rw [← List.drop_eq_getElem_cons inside, List.take_append_drop]

/-- The line of the error is marked, and the lines around it are not. -/
theorem reportLines_of_line {d : Diagnostic} {source content : Text}
    (counted : d.position.Counted)
    (line : (Text.lines source)[d.position.line.toNat - 1]? = some content) :
    ∃ front back, d.reportLines source =
        front ++ .marked d.position.line.toNat content :: .caret d.position.column.toNat :: back ∧
      ∀ r ∈ front ++ back, r.Nearby source := by
  obtain ⟨before, after, split, length⟩ := exists_split_of_getElem? line
  -- The window begins in front of the line and ends behind it, so neither cut touches it.
  have window : ((Text.lines source).zipIdx.take (before.length + 3)).drop (before.length - 2) =
      before.zipIdx.drop (before.length - 2) ++
        (content, before.length) :: (after.zipIdx (before.length + 1)).take 2 := by
    have numbered := (List.length_zipIdx : (before.zipIdx).length = before.length)
    rw [split, List.zipIdx_append, List.zipIdx_cons, Nat.zero_add]
    nth_rewrite 2 [← numbered]
    rw [List.take_length_add_append, List.drop_append_of_le_length (by omega)]
    rfl
  have chosen : d.reportLine content before.length =
      [.marked d.position.line.toNat content, .caret d.position.column.toNat] := by
    have number : before.length + 1 = d.position.line.toNat := by
      have first := counted.line
      omega
    rw [reportLine, if_neg (not_not.2 length), if_neg counted.column_ne_zero, number]
  refine ⟨(before.zipIdx.drop (before.length - 2)).flatMap fun (content, i) =>
      d.reportLine content i,
    ((after.zipIdx (before.length + 1)).take 2).flatMap fun (content, i) =>
      d.reportLine content i, ?_, ?_⟩
  · rw [reportLines, ← length]
    dsimp only
    rw [window, List.flatMap_append, List.flatMap_cons]
    dsimp only
    rw [chosen]
    rfl
  · rw [← List.flatMap_append]
    refine nearby_of_other ?_ ?_
    · intro x shown
      rw [split, List.mem_append, List.mem_cons]
      rcases List.mem_append.1 shown with above | below
      · exact .inl (List.fst_mem_of_mem_zipIdx (List.mem_of_mem_drop above))
      · exact .inr (.inr (List.fst_mem_of_mem_zipIdx (List.mem_of_mem_take below)))
    · intro x shown
      rcases List.mem_append.1 shown with above | below
      · have := List.snd_lt_of_mem_zipIdx (List.mem_of_mem_drop above)
        omega
      · have := List.le_snd_of_mem_zipIdx (List.mem_of_mem_take below)
        omega

/-- The heading has an empty line before it and another one behind it. -/
theorem header_ofLexError {e : LexError} (counted : e.position.Counted) :
    ∃ place, (ofLexError e).header.toList =
        ['\n'] ++ place ++ e.fault.message.toList ++ ['\n', '\n'] ∧
      '\n' ∉ place ∧ place.head? = some 'L' := by
  have line : (toString e.position.line).toList = Text.ofNat e.position.line.toNat :=
    Nat.toList_repr
  have column : (toString e.position.column).toList = Text.ofNat e.position.column.toNat :=
    Nat.toList_repr
  have chosen : (ofLexError e).header = _ := if_neg counted.column_ne_zero
  refine ⟨"Lexical error".toList ++ " at line ".toList ++ Text.ofNat e.position.line.toNat ++
    ", column ".toList ++ Text.ofNat e.position.column.toNat ++ ": ".toList, ?_, ?_, rfl⟩
  · rw [chosen]
    simp only [String.toList_append]
    change _ ++ (toString e.position.line).toList ++ _ ++ (toString e.position.column).toList ++
      _ ++ e.fault.message.toList ++ _ = _
    rw [line, column]
    simp only [List.append_assoc]
    rfl
  · simp only [List.mem_append, Text.lineFeed_notMem_ofNat, or_false]
    decide

/-- No line of the heading begins with an arrow, and the last one is complete. -/
theorem header_lines {e : LexError} {t : Text} (counted : e.position.Counted)
    (found : e.fault.FoundAt t) :
    (ofLexError e).header.toList.getLast? = some '\n' ∧
      ∀ line ∈ Text.rawLines (ofLexError e).header.toList, ¬ arrow <+: line := by
  obtain ⟨place, header, noFeed, initial⟩ := header_ofLexError counted
  obtain ⟨front, back, message, single, ending⟩ := found.message_split
  have last : (ofLexError e).header.toList.getLast? = some '\n' := by
    rw [header, List.getLast?_append_of_ne_nil _ (List.cons_ne_nil _ _)]
    rfl
  refine ⟨last, ?_⟩
  obtain ⟨tail, ending, low⟩ : ∃ tail, back ++ ['\n', '\n'] = '\n' :: tail ∧
      ∀ line ∈ Text.rawLines tail, ¬ arrow <+: line := by
    fin_cases ending
    · exact ⟨['\n'], rfl, by decide⟩
    · exact ⟨['\n', '\n'], rfl, by decide⟩
    · exact ⟨['\'', '\n', '\n'], rfl, by decide⟩
  have middle : '\n' ∉ place ++ front := by
    rw [List.mem_append, not_or]
    exact ⟨noFeed, single⟩
  have lines : Text.rawLines (ofLexError e).header.toList =
      ['\n'] :: (place ++ front ++ ['\n']) :: Text.rawLines tail := by
    calc
      Text.rawLines (ofLexError e).header.toList
      _ = Text.rawLines ([] ++ '\n' :: (place ++ front ++ '\n' :: tail)) := by
        rw [header, message, ← ending]
        simp only [List.append_assoc]
        rfl
      _ = ['\n'] :: (place ++ front ++ ['\n']) :: Text.rawLines tail := by
        rw [Text.rawLines_lineFeed List.not_mem_nil, Text.rawLines_lineFeed middle]
        rfl
  intro line member
  rw [lines, List.mem_cons, List.mem_cons] at member
  rcases member with rfl | rfl | member
  · decide
  · obtain ⟨rest, rfl⟩ := List.head?_eq_some_iff.1 initial
    simp [arrow]
  · exact low line member

theorem rawLines_report {e : LexError} {t : Text} (counted : e.position.Counted)
    (found : e.fault.FoundAt t) (source : Text) :
    Text.rawLines ((ofLexError e).report source) = Text.rawLines (ofLexError e).header.toList ++
      ((ofLexError e).reportLines source).map ReportLine.render := by
  rw [report, Text.rawLines_append (header_lines counted found).1,
    ReportLine.rawLines_render (reportLines_single _ source)]

/-- A report points at a place of a source: exactly one of its lines begins with an arrow, this is
the source line of the place, and the line below has a caret under the column. -/
structure PointsAt (report source : Text) (p : Position) : Prop where
  counted : p.Counted
  marked : ∃ front content back, (Text.lines source)[p.line.toNat - 1]? = some content ∧
    Text.rawLines report =
      front ++ (arrow ++ ReportLine.margin p.line.toNat ++ content ++ ['\n']) ::
        (List.replicate 8 ' ' ++ ['|', ' '] ++ List.replicate (p.column.toNat - 1) ' ' ++
          ['^', '\n']) :: back ∧
    ∀ line ∈ front ++ back, ¬ arrow <+: line

theorem PointsAt.inside {report source : Text} {p : Position} (points : PointsAt report source p) :
    p.line.toNat - 1 < (Text.lines source).length := by
  obtain ⟨_, content, _, line, -⟩ := points.marked
  exact (List.getElem?_eq_some_iff.1 line).1

/-- A place is behind the line feed that ends a source, where no line begins. -/
def BehindLast (source : Text) (p : Position) : Prop :=
  source.getLast? = some '\n' ∧ p = Position.start.advanceAll source

theorem BehindLast.past {source : Text} {p : Position} (behind : BehindLast source p)
    (short : source.length + 1 < 2 ^ 32) : (Text.lines source).length ≤ p.line.toNat - 1 := by
  obtain ⟨ended, rfl⟩ := behind
  rw [Text.length_lines, if_pos (.inr ended), Position.line_of_short short]
  omega

/-- A text has a line where a part of it ends, unless the part is all of it and ends with a line
feed. -/
theorem eq_nil_of_past {before after : Text} (filled : before ++ after ≠ [])
    (past : (Text.lines (before ++ after)).length ≤ before.count '\n') :
    after = [] ∧ before.getLast? = some '\n' := by
  rw [Text.length_lines, List.count_append] at past
  have ended : (before ++ after).getLast? = some '\n' := by
    by_contra other
    rw [if_neg (not_or.2 ⟨filled, other⟩)] at past
    omega
  cases after with
  | nil => exact ⟨rfl, List.append_nil before ▸ ended⟩
  | cons c cs =>
    rw [List.getLast?_append_of_ne_nil _ (List.cons_ne_nil c cs)] at ended
    have feeds := List.count_pos_iff.2 (List.mem_of_getLast? ended)
    omega

section LexError

variable {e : LexError} {t source : Text}

theorem not_arrow_of_nearby (counted : e.position.Counted) (found : e.fault.FoundAt t)
    {rs : List ReportLine} (nearby : ∀ r ∈ rs, r.Nearby source) :
    ∀ line ∈ Text.rawLines (ofLexError e).header.toList ++ rs.map ReportLine.render,
      ¬ arrow <+: line := by
  intro line member
  rcases List.mem_append.1 member with heading | around
  · exact (header_lines counted found).2 line heading
  · obtain ⟨r, part, rfl⟩ := List.mem_map.1 around
    exact (nearby r part).not_arrow

theorem pointsAt_of_inside (counted : e.position.Counted) (found : e.fault.FoundAt t)
    (inside : e.position.line.toNat - 1 < (Text.lines source).length) :
    PointsAt ((ofLexError e).report source) source e.position := by
  have line := List.getElem?_eq_getElem inside
  obtain ⟨front, back, shown, nearby⟩ := reportLines_of_line (d := ofLexError e) counted line
  refine ⟨counted, Text.rawLines (ofLexError e).header.toList ++ front.map ReportLine.render, _,
    back.map ReportLine.render, line, ?_, ?_⟩
  · rw [rawLines_report counted found, shown, List.map_append, List.map_cons, List.map_cons,
      List.append_assoc]
    rfl
  · rw [List.append_assoc, ← List.map_append]
    exact not_arrow_of_nearby counted found nearby

theorem not_arrow_of_past (counted : e.position.Counted) (found : e.fault.FoundAt t)
    (past : (Text.lines source).length ≤ e.position.line.toNat - 1) :
    ∀ line ∈ Text.rawLines ((ofLexError e).report source), ¬ arrow <+: line := by
  rw [rawLines_report counted found]
  exact not_arrow_of_nearby counted found (reportLines_of_past past)

/-- The report of a text without tokens points at the error if the counters tell a line of it. A
text that is too short for them to wrap around has that line, unless the error is behind the line
feed that ends the text: then a bracket is still open, and no line of the report begins with an
arrow. -/
theorem report_pointsAt_iff (refused : tokenize source = .error e) :
    (PointsAt ((ofLexError e).report source) source e.position ↔
      e.position.Counted ∧ e.position.line.toNat - 1 < (Text.lines source).length) ∧
    (source.length + 1 < 2 ^ 32 →
      (PointsAt ((ofLexError e).report source) source e.position ↔
        ¬ BehindLast source e.position) ∧
      (BehindLast source e.position → e.fault = .unclosedBracket ∧
        ∀ line ∈ Text.rawLines ((ofLexError e).report source), ¬ arrow <+: line)) := by
  have filled : source ≠ [] := by
    rintro rfl
    rw [tokenize, tokenizeAt, tokenizeFrom_nil] at refused
    cases refused
  obtain ⟨before, after, rfl, place, found, -⟩ := tokenizeFrom_eq_error refused
  have place : e.position = Position.start.advanceAll before := place
  constructor
  · refine ⟨fun points => ⟨points.counted, points.inside⟩, fun told => ?_⟩
    exact pointsAt_of_inside told.1 found told.2
  intro short
  have prefixShort : before.length + 1 < 2 ^ 32 := by
    rw [List.length_append] at short
    omega
  have counted : e.position.Counted := place ▸ Position.counted_of_short prefixShort
  have index : e.position.line.toNat - 1 = before.count '\n' := by
    rw [place, Position.line_of_short prefixShort]
    omega
  have part (past : (Text.lines (before ++ after)).length ≤ e.position.line.toNat - 1) :=
    eq_nil_of_past filled (index ▸ past)
  refine ⟨⟨fun points behind => ?_, fun inside => ?_⟩, fun behind => ⟨?_, ?_⟩⟩
  · exact Nat.not_le.2 points.inside (behind.past short)
  · refine pointsAt_of_inside counted found (Nat.not_le.1 fun past => inside ?_)
    obtain ⟨rfl, ended⟩ := part past
    rw [BehindLast, List.append_nil]
    exact ⟨ended, place⟩
  · obtain ⟨rfl, -⟩ := part (behind.past short)
    generalize e.fault = fault at found
    cases found
    rfl
  · exact not_arrow_of_past counted found (behind.past short)

/-- A bracket that is still open where the body of a block ends. -/
theorem report_pointsAt_body :
    tokenize "1\n{[2}\n".toList = .error ⟨.unclosedBracket, ⟨2, 4⟩⟩ ∧
      PointsAt ((ofLexError ⟨.unclosedBracket, ⟨2, 4⟩⟩).report "1\n{[2}\n".toList)
        "1\n{[2}\n".toList ⟨2, 4⟩ := by
  have refused : tokenize "1\n{[2}\n".toList = .error ⟨.unclosedBracket, ⟨2, 4⟩⟩ := by cbv
  have short : "1\n{[2}\n".toList.length + 1 < 2 ^ 32 := by decide
  refine ⟨refused, ((report_pointsAt_iff refused).2 short).1.2 fun behind => ?_⟩
  exact absurd behind.2 (by decide)

/-- A bracket that is still open behind the last line feed. -/
theorem report_not_pointsAt :
    tokenize "[\n".toList = .error ⟨.unclosedBracket, ⟨2, 1⟩⟩ ∧
      ¬ PointsAt ((ofLexError ⟨.unclosedBracket, ⟨2, 1⟩⟩).report "[\n".toList) "[\n".toList
        ⟨2, 1⟩ := by
  refine ⟨by cbv, fun points => ?_⟩
  exact absurd points.inside (by decide)

end LexError

end Diagnostic

end Stackscript
