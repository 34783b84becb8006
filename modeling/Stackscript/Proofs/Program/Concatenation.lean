import Mathlib
import Stackscript.Proofs.Program.Ends
import Stackscript.Proofs.Token.Translation

set_option autoImplicit false

/- Programs one after another. Whitespace between two programs keeps their tokens apart, the
brackets of the first are closed at the seam, and nothing that a program does depends on the places
of its tokens, so running both at once or in turn differs in the places of blocks and failures
only. -/
namespace Stackscript

theorem Balanced.of_append_end {depth : Nat} {front : List Token} {last : Token}
    (ends : last.kind = .endOfText) (balanced : Balanced depth (front ++ [last])) :
    Balanced depth front := by
  induction front generalizing depth with
  | nil =>
    have closed := balanced.2
    rw [ends] at closed
    exact closed
  | cons token front ih => exact ⟨balanced.1, ih balanced.2⟩

theorem Balanced.of_same_kinds {depth : Nat} {xs ys : List Token}
    (same : List.Forall₂ (fun x y => x.kind = y.kind) xs ys) (balanced : Balanced depth xs) :
    Balanced depth ys := by
  induction same generalizing depth with
  | nil => exact balanced
  | cons kind _ ih =>
    rw [Balanced, ← kind]
    exact ⟨balanced.1, ih balanced.2⟩

/-- Tokens with balanced brackets leave nothing set aside for those that follow. -/
theorem runTokens_append {engine : Engine} {front : List Token} {aside : List Stack}
    (balanced : Balanced aside.length front) (rest : List Token) :
    runTokens engine (front ++ rest) aside =
      runTokens engine front aside >>= fun _ => runTokens engine rest [] := by
  funext m
  induction front generalizing aside m with
  | nil =>
    obtain rfl := List.length_eq_zero_iff.1 balanced
    rfl
  | cons token front ih =>
    rw [List.cons_append, Run.bind_apply, runTokens_cons, runTokens_cons]
    cases stepped : step engine aside token m with
    | done after n =>
      have following := balanced.2
      rw [← step_length stepped] at following
      exact ih following n
    | failed failure n => rfl
    | outOfFuel => rfl

theorem runFlushed_append {fuel : Nat} {front : List Token} (balanced : Balanced 0 front)
    (rest : List Token) :
    runFlushed fuel (front ++ rest) =
      runTokens (engine fuel) front [] >>= fun _ => runFlushed fuel rest := by
  have closed : Balanced ([] : List Stack).length front := balanced
  unfold runFlushed
  rw [runTokens_append closed, bind_assoc]

/-- The end of the text adds nothing. -/
theorem runTokens_append_end {engine : Engine} {front : List Token} {last : Token}
    (ends : last.kind = .endOfText) (balanced : Balanced 0 front) :
    runTokens engine (front ++ [last]) [] = runTokens engine front [] := by
  have closed : Balanced ([] : List Stack).length front := balanced
  have nothing : runTokens engine [last] [] = pure () := by
    funext m
    rw [runTokens_cons, step_endOfText ends]
    rfl
  rw [runTokens_append closed, nothing]
  exact bind_pure _

theorem runFlushed_append_end {fuel : Nat} {front : List Token} {last : Token}
    (ends : last.kind = .endOfText) (balanced : Balanced 0 front) :
    runFlushed fuel (front ++ [last]) = runFlushed fuel front := by
  unfold runFlushed
  rw [runTokens_append_end ends balanced]

/-- The tokens of two programs with whitespace between them: those of the first without its end,
and those of the second from where it stands. -/
theorem tokenize_append {a w b : Text} {xs ys : List Token} (first : tokenize a = .ok xs)
    (second : tokenize b = .ok ys) (apart : w ≠ []) (blank : ∀ c ∈ w, Text.isBlank c = true) :
    ∃ front last ys', xs = front ++ [last] ∧ last.kind = .endOfText ∧
      tokenize (a ++ w ++ b) = .ok (front ++ ys') ∧
      List.Forall₂ (fun x y => x.kind = y.kind) ys ys' := by
  obtain ⟨front, last, split, ends, whole⟩ := tokenize_append_blanks first apart blank b
  rw [tokenizeFrom_translate second _ (startsNegative_getLast? apart blank)] at whole
  refine ⟨front, last, _, split, ends, whole, ?_⟩
  rw [List.forall₂_map_right_iff]
  exact List.forall₂_same.2 fun _ _ => rfl

def Pairing.sameText : Pairing := ⟨fun a b => a.source = b.source, id⟩

def Correspondence.sameText (flushError : Option String) : Correspondence where
  blocks := .sameText
  failures f g := f.fault = g.fault
  flushError := flushError
  of_fault _ := rfl

def Reading.sameText (flushError : Option String) : Reading (.sameText flushError) where
  tokens a b := a.kind = b.kind
  kind_eq := id
  block _ _ := rfl
  locate _ _ same := same
  code := by
    rintro ⟨t, p⟩ ⟨_, q⟩ rfl
    cases code : tokenizeAt p t with
    | ok xs =>
      obtain ⟨ys, moved, same⟩ := tokenizeAt_move code q
      exact .inl ⟨xs, ys, code, moved, same.imp fun _ _ part => part.kind⟩
    | error e =>
      obtain ⟨before, -, -, -, -, again⟩ := tokenizeFrom_eq_error code
      exact .inr ⟨e, _, code, again (.ofPosition q) none fun _ => rfl, rfl⟩

/-- Machines that differ in the places of their blocks only. -/
def Machine.Alike (m n : Machine) : Prop :=
  m.Related .sameText n

/-- The same outcome up to places: errors are shown with the same category and wording. -/
inductive Outcome.Alike : Outcome ProgramError Unit → Outcome ProgramError Unit → Prop where
  | done {m n : Machine} (machines : m.Alike n) : Alike (.done () m) (.done () n)
  | failed {error error' : ProgramError} {m n : Machine}
    (stage : error.diagnostic.stage = error'.diagnostic.stage)
    (kind : error.diagnostic.kind = error'.diagnostic.kind)
    (message : error.diagnostic.message = error'.diagnostic.message) (machines : m.Alike n) :
    Alike (.failed error m) (.failed error' n)
  | outOfFuel : Alike .outOfFuel .outOfFuel

theorem Outcome.Alike.refl (o : Outcome ProgramError Unit) : o.Alike o := by
  cases o with
  | done _ m => exact .done (.refl (fun _ => rfl) m)
  | failed error m => exact .failed rfl rfl rfl (.refl (fun _ => rfl) m)
  | outOfFuel => exact .outOfFuel

theorem Outcome.Alike.outOfFuel_iff {o o' : Outcome ProgramError Unit} (alike : o.Alike o') :
    o = .outOfFuel ↔ o' = .outOfFuel := by
  cases alike <;> simp

/-- Runs in step both ways end alike. -/
theorem Outcome.Related.alike {flushError : Option String} {o o' : Outcome Failure Unit}
    (forth : Related (.sameText flushError) Eq o o')
    (back : Related (.sameText flushError) Eq o' o) : o.ofTokens.Alike o'.ofTokens := by
  cases forth with
  | done _ machines => exact .done machines.1
  | failed failure machines =>
    have same : _ = _ := failure
    refine .failed rfl ?_ ?_ machines.1
    · exact congrArg Fault.kind same
    · exact congrArg Fault.message same
  | outOfFuel =>
    cases back
    exact .outOfFuel

/-- Programs with tokens of the same kinds end alike. -/
theorem runFlushed_alike {xs ys : List Token}
    (same : List.Forall₂ (fun x y => x.kind = y.kind) xs ys) (balanced : Balanced 0 xs)
    (fuel : Nat) (m : Machine) :
    (runFlushed fuel ys m).ofTokens.Alike (runFlushed fuel xs m).ofTokens := by
  let reading := Reading.sameText m.output.flushError
  have machines : (Correspondence.sameText m.output.flushError).machines m m :=
    ⟨.refl (fun _ => rfl) m, rfl⟩
  have forth := runFlushed_related reading (Nat.le_refl fuel) same balanced m m machines
  have back := runFlushed_related reading (Nat.le_refl fuel)
    (same.flip.imp fun _ _ kind => kind.symm) (balanced.of_same_kinds same) m m machines
  exact back.alike forth

/-- Running a program and then, unless it failed, another one. -/
inductive EndsInTurn (a b : Text) (m : Machine) : Outcome ProgramError Unit → Prop where
  | first {error : ProgramError} {n : Machine} (ends : Ends a m (.failed error n)) :
    EndsInTurn a b m (.failed error n)
  | second {n : Machine} {o : Outcome ProgramError Unit} (ends : Ends a m (.done () n))
    (next : Ends b n o) : EndsInTurn a b m o

theorem EndsInTurn.unique {a b : Text} {m : Machine} {o o' : Outcome ProgramError Unit}
    (first : EndsInTurn a b m o) (second : EndsInTurn a b m o') : o = o' := by
  cases first with
  | first ends =>
    cases second with
    | first ends' => exact ends.unique ends'
    | second ends' _ => cases ends.unique ends'
  | second ends next =>
    cases second with
    | first ends' => cases ends.unique ends'
    | second ends' next' =>
      cases ends.unique ends'
      exact next.unique next'

section Append

variable {a w b : Text} {xs ys : List Token} {m : Machine}

/-- With the same fuel, two programs at once go on with the second where the first is done, and end
as the first does where it is not. -/
theorem runProgram_append (first : tokenize a = .ok xs) (second : tokenize b = .ok ys)
    (apart : w ≠ []) (blank : ∀ c ∈ w, Text.isBlank c = true) (sound : m.output.flushError = none)
    (fuel : Nat) :
    (∃ n, runProgram fuel a m = .done () n ∧
      (runProgram fuel (a ++ w ++ b) m).Alike (runProgram fuel b n)) ∨
    (∀ n, runProgram fuel a m ≠ .done () n) ∧
      runProgram fuel (a ++ w ++ b) m = runProgram fuel a m := by
  obtain ⟨front, last, ys', rfl, ends, both, same⟩ := tokenize_append first second apart blank
  have balanced := (lexed_iff.1 first).balanced.of_append_end ends
  rw [runProgram_of_tokens first, runProgram_of_tokens both,
    runFlushed_append_end ends balanced, runFlushed_eq balanced sound, runFlushed_append balanced,
    Run.bind_apply]
  cases runTokens (engine fuel) front [] m with
  | done _ n =>
    refine .inl ⟨n, rfl, ?_⟩
    rw [runProgram_of_tokens second]
    exact runFlushed_alike same (lexed_iff.1 second).balanced fuel n
  | failed failure n => exact .inr ⟨nofun, rfl⟩
  | outOfFuel => exact .inr ⟨nofun, rfl⟩

theorem Ends.inTurn (first : tokenize a = .ok xs) (second : tokenize b = .ok ys) (apart : w ≠ [])
    (blank : ∀ c ∈ w, Text.isBlank c = true) (sound : m.output.flushError = none)
    {o : Outcome ProgramError Unit} (ends : Ends (a ++ w ++ b) m o) :
    ∃ o', EndsInTurn a b m o' ∧ o.Alike o' := by
  obtain ⟨followed, fuel, rfl⟩ := ends
  rcases runProgram_append first second apart blank sound fuel with
    ⟨n, done, alike⟩ | ⟨undone, same⟩
  · have followed' : runProgram fuel b n ≠ .outOfFuel := fun stopped =>
      followed (alike.outOfFuel_iff.2 stopped)
    exact ⟨_, .second (.of_done fuel done) ⟨followed', fuel, rfl⟩, alike⟩
  · rw [same] at followed ⊢
    cases run : runProgram fuel a m with
    | done _ n => exact absurd run (undone n)
    | failed error n => exact ⟨_, .first (.of_failed fuel run), .refl _⟩
    | outOfFuel => exact absurd run followed

theorem EndsInTurn.append (first : tokenize a = .ok xs) (second : tokenize b = .ok ys)
    (apart : w ≠ []) (blank : ∀ c ∈ w, Text.isBlank c = true) (sound : m.output.flushError = none)
    {o : Outcome ProgramError Unit} (inTurn : EndsInTurn a b m o) :
    ∃ o', Ends (a ++ w ++ b) m o' := by
  have both := runProgram_append first second apart blank sound
  cases inTurn with
  | first ends =>
    obtain ⟨followed, fuel, run⟩ := ends
    rcases both fuel with ⟨n, done, -⟩ | ⟨-, same⟩
    · rw [run] at done
      cases done
    · exact ⟨_, followed, fuel, same.trans run⟩
  | second ends next =>
    obtain ⟨enough, run⟩ := ends.of_more
    obtain ⟨enough', run'⟩ := next.of_more
    have fst := run (max enough enough') (Nat.le_max_left _ _)
    have snd := run' (max enough enough') (Nat.le_max_right _ _)
    rcases both (max enough enough') with ⟨n, done, alike⟩ | ⟨undone, -⟩
    · rw [fst] at done
      cases done
      rw [snd] at alike
      exact ⟨_, fun stopped => next.1 (alike.outOfFuel_iff.1 stopped), _, rfl⟩
    · exact absurd fst (undone _)

/-- Two programs with whitespace between them terminate exactly if they do so one after the other,
and they end alike. -/
theorem append_endsInTurn (first : tokenize a = .ok xs) (second : tokenize b = .ok ys)
    (apart : w ≠ []) (blank : ∀ c ∈ w, Text.isBlank c = true)
    (sound : m.output.flushError = none) :
    ((∃ o, Ends (a ++ w ++ b) m o) ↔ ∃ o, EndsInTurn a b m o) ∧
      ∀ o o', Ends (a ++ w ++ b) m o → EndsInTurn a b m o' → o.Alike o' := by
  refine ⟨⟨?_, ?_⟩, ?_⟩
  · rintro ⟨o, ends⟩
    obtain ⟨o', inTurn, -⟩ := ends.inTurn first second apart blank sound
    exact ⟨o', inTurn⟩
  · rintro ⟨o', inTurn⟩
    exact inTurn.append first second apart blank sound
  · intro o o' ends inTurn
    obtain ⟨found, inTurn', alike⟩ := ends.inTurn first second apart blank sound
    exact inTurn.unique inTurn' ▸ alike

end Append

/-- A negative number right after the seam, and a block that is written in two places. -/
theorem append_endsInTurn_negative :
    ∃ o o', Ends ("1:P".toList ++ ['\n', ' '] ++ "-2{P+}".toList) (.initial .empty {}) o ∧
      EndsInTurn "1:P".toList "-2{P+}".toList (.initial .empty {}) o' ∧ o.Alike o' := by
  let middle : Machine :=
    { (Machine.initial .empty {}).assign 15 (.integer 1) with stack := .ofList [.integer 1] }
  let after (p : Position) : Machine :=
    { middle with stack := .ofList [.integer 1, .integer (-2), .block ⟨"P+".toList, p⟩] }
  have together : Ends ("1:P".toList ++ ['\n', ' '] ++ "-2{P+}".toList) (.initial .empty {})
      (.done () (after ⟨2, 5⟩)) :=
    .of_done 1 (by cbv)
  have first : Ends "1:P".toList (.initial .empty {}) (.done () middle) :=
    .of_done 1 (by cbv)
  have second : Ends "-2{P+}".toList middle (.done () (after ⟨1, 4⟩)) :=
    .of_done 1 (by cbv)
  have inTurn : EndsInTurn "1:P".toList "-2{P+}".toList (.initial .empty {}) _ :=
    .second first second
  refine ⟨_, _, together, inTurn, ?_⟩
  have blank : ∀ c ∈ ['\n', ' '], Text.isBlank c = true := List.all_eq_true.1 (by decide)
  exact (append_endsInTurn (a := "1:P".toList) (b := "-2{P+}".toList) (by cbv) (by cbv)
    (List.cons_ne_nil _ _) blank rfl).2 _ _ together inTurn

end Stackscript
