import Stackscript.Program
import Stackscript.Proofs.Correspondence.Execution

set_option autoImplicit false

/- How programs end. Fuel decides only whether a run is followed to its end: two amounts that both
suffice give the same outcome, so a program has at most one. -/
namespace Stackscript

def runFlushed (fuel : Nat) (tokens : List Token) : Run Unit :=
  runTokens (engine fuel) tokens [] >>= fun _ => Run.flush

def Outcome.ofTokens : Outcome Failure Unit → Outcome ProgramError Unit
  | .done _ m => .done () m
  | .failed failure m => .failed (.runtime failure) m
  | .outOfFuel => .outOfFuel

theorem runProgram_of_tokens {source : Text} {tokens : List Token}
    (lexed : tokenize source = .ok tokens) (fuel : Nat) (m : Machine) :
    runProgram fuel source m = (runFlushed fuel tokens m).ofTokens := by
  unfold runProgram
  rw [lexed]
  rfl

theorem runProgram_of_error {source : Text} {error : LexError}
    (refused : tokenize source = .error error) (fuel : Nat) (m : Machine) :
    runProgram fuel source m = .failed (.lexical error) m := by
  unfold runProgram
  rw [refused]

theorem runProgram_eq_lexical {fuel : Nat} {source : Text} {m n : Machine} {error : LexError}
    (run : runProgram fuel source m = .failed (.lexical error) n) :
    tokenize source = .error error := by
  cases lexed : tokenize source with
  | error found =>
    rw [runProgram_of_error lexed] at run
    cases run
    rfl
  | ok tokens =>
    rw [runProgram_of_tokens lexed] at run
    cases ended : runFlushed fuel tokens m <;> rw [ended] at run <;> cases run

theorem runProgram_eq_runtime {fuel : Nat} {source : Text} {m n : Machine} {failure : Failure}
    (run : runProgram fuel source m = .failed (.runtime failure) n) :
    ∃ tokens, tokenize source = .ok tokens ∧ runFlushed fuel tokens m = .failed failure n := by
  cases lexed : tokenize source with
  | error found =>
    rw [runProgram_of_error lexed] at run
    cases run
  | ok tokens =>
    rw [runProgram_of_tokens lexed] at run
    refine ⟨tokens, rfl, ?_⟩
    cases ended : runFlushed fuel tokens m with
    | failed raised left =>
      rw [ended] at run
      cases run
      rfl
    | _ =>
      rw [ended] at run
      cases run

theorem runProgram_eq_done {fuel : Nat} {source : Text} {m n : Machine} :
    runProgram fuel source m = .done () n ↔
      ∃ tokens, tokenize source = .ok tokens ∧ runFlushed fuel tokens m = .done () n := by
  cases lexed : tokenize source with
  | error found => simp [runProgram_of_error lexed]
  | ok tokens =>
    simp only [runProgram_of_tokens lexed, Except.ok.injEq, exists_eq_left']
    cases runFlushed fuel tokens m <;> simp [Outcome.ofTokens]

/-- Programs with corresponding tokens run in step. -/
theorem runFlushed_related {C : Correspondence} (reading : Reading C) {fuel fuel' : Nat}
    (more : fuel ≤ fuel') {xs ys : List Token} (same : List.Forall₂ reading.tokens xs ys)
    (balanced : Balanced 0 xs) :
    Run.Related C Eq (runFlushed fuel xs) (runFlushed fuel' ys) :=
  (runTokens_related reading (engine_related reading more) same .nil balanced).bind
    fun _ _ _ => .flush

section Equality

variable (flushError : Option String)

def Correspondence.equality : Correspondence where
  blocks := ⟨Eq, congrArg Block.source⟩
  failures := Eq
  flushError := flushError
  of_fault _ := rfl

def Reading.equality : Reading (.equality flushError) where
  tokens := Eq
  kind_eq := congrArg Token.kind
  block := by
    rintro a _ body rfl _
    rfl
  locate := by
    rintro a _ f _ rfl _ rfl
    rfl
  code := by
    rintro a _ rfl
    cases code : a.code with
    | ok tokens => exact .inl ⟨tokens, tokens, rfl, rfl, List.forall₂_refl tokens⟩
    | error e => exact .inr ⟨e, e, rfl, rfl, rfl⟩

variable {flushError}

mutual

theorem Value.Related.refl {B : Pairing} (same : ∀ block, B.holds block block) (a : Value) :
    Value.Related B a a := by
  match a with
  | .character c => exact .character c
  | .integer n => exact .integer n
  | .decimal d => exact .decimal d
  | .string t => exact .string t
  | .array elements => exact .array (Value.Related.reflAll same elements)
  | .block b => exact .block (same b)

theorem Value.Related.reflAll {B : Pairing} (same : ∀ block, B.holds block block)
    (items : List Value) : List.Forall₂ (Value.Related B) items items := by
  match items with
  | [] => exact .nil
  | item :: items => exact .cons (Value.Related.refl same item) (Value.Related.reflAll same items)

end

theorem Machine.Related.refl {B : Pairing} (same : ∀ block, B.holds block block) (m : Machine) :
    m.Related B m := by
  refine ⟨Value.Related.reflAll same _, fun letter => ?_, rfl, rfl⟩
  cases m.valueOf? letter with
  | none => exact .none
  | some value => exact .some (.refl same value)

mutual

theorem Value.Related.eq {a b : Value}
    (h : Value.Related (Correspondence.equality flushError).blocks a b) : a = b := by
  match a, b, h with
  | .array _, .array _, .array elements => exact congrArg Value.array (Value.Related.eqAll elements)
  | .block _, .block _, .block blocks => exact congrArg Value.block blocks
  | _, _, .character _ | _, _, .integer _ | _, _, .decimal _ | _, _, .string _ => rfl

theorem Value.Related.eqAll {xs ys : List Value}
    (h : List.Forall₂ (Value.Related (Correspondence.equality flushError).blocks) xs ys) :
    xs = ys := by
  match xs, ys, h with
  | [], [], .nil => rfl
  | _ :: _, _ :: _, .cons head tail =>
    rw [Value.Related.eq head, Value.Related.eqAll tail]

end

theorem Machine.Related.eq {m n : Machine}
    (h : m.Related (Correspondence.equality flushError).blocks n) : m = n := by
  obtain ⟨⟨xs⟩, bindings, input, output⟩ := m
  obtain ⟨⟨ys⟩, bindings', input', output'⟩ := n
  obtain ⟨stack, named, rfl, rfl⟩ := h
  obtain rfl : xs = ys := Value.Related.eqAll stack
  have same : bindings = bindings' := by
    apply Vector.ext
    intro i inside
    have found := named ⟨i, inside⟩
    simp only [Machine.valueOf?, Fin.getElem_fin] at found
    generalize bindings[i] = x, bindings'[i] = y at found
    cases found with
    | none => rfl
    | some value => rw [value.eq]
  rw [same]

/-- Outcomes in step, when everything corresponds to itself only and the first has been followed to
its end. -/
theorem Outcome.Related.eq_of_ended {α : Type} {o o' : Outcome Failure α}
    (h : Outcome.Related (.equality flushError) Eq o o') (enough : o ≠ .outOfFuel) : o' = o := by
  cases h with
  | done value machines => rw [value, machines.1.eq]
  | failed failure machines => rw [show _ = _ from failure, machines.1.eq]
  | outOfFuel => exact absurd rfl enough

end Equality

theorem forall₂_eq_self {α : Type} (items : List α) : List.Forall₂ Eq items items :=
  List.forall₂_refl items

theorem runTokens_flushError {fuel : Nat} {tokens : List Token} (balanced : Balanced 0 tokens)
    {m n : Machine} (run : runTokens (engine fuel) tokens [] m = .done () n) :
    n.output.flushError = m.output.flushError := by
  let reading := Reading.equality m.output.flushError
  have ended := runTokens_related reading (engine_related reading (Nat.le_refl fuel))
    (forall₂_eq_self tokens) .nil balanced m m ⟨.refl (fun _ => rfl) m, rfl⟩
  rw [run] at ended
  cases ended with | done _ machines => exact machines.2

/-- Flushing an output that is not broken changes nothing. -/
theorem runFlushed_eq {fuel : Nat} {tokens : List Token} (balanced : Balanced 0 tokens)
    {m : Machine} (sound : m.output.flushError = none) :
    runFlushed fuel tokens m = runTokens (engine fuel) tokens [] m := by
  unfold runFlushed
  rw [Run.bind_apply]
  cases run : runTokens (engine fuel) tokens [] m with
  | done _ n =>
    have sound : n.output.flushError = none := (runTokens_flushError balanced run).trans sound
    simp only [Run.flush, Run.machine, Run.bind_apply, Output.flush, sound]
    rfl
  | failed failure n => rfl
  | outOfFuel => rfl

/-- More fuel does not change how tokens end. -/
theorem runFlushed_mono {fuel fuel' : Nat} (more : fuel ≤ fuel') {tokens : List Token}
    (balanced : Balanced 0 tokens) {m : Machine} (enough : runFlushed fuel tokens m ≠ .outOfFuel) :
    runFlushed fuel' tokens m = runFlushed fuel tokens m := by
  have ended := runFlushed_related (.equality m.output.flushError) more (forall₂_eq_self tokens)
    balanced m m ⟨.refl (fun _ => rfl) m, rfl⟩
  exact ended.eq_of_ended enough

/-- More fuel does not change how a program ends. -/
theorem runProgram_mono {fuel fuel' : Nat} (more : fuel ≤ fuel') {source : Text} {m : Machine}
    (enough : runProgram fuel source m ≠ .outOfFuel) :
    runProgram fuel' source m = runProgram fuel source m := by
  cases lexed : tokenize source with
  | error error => rw [runProgram_of_error lexed, runProgram_of_error lexed]
  | ok tokens =>
    rw [runProgram_of_tokens lexed] at enough
    have followed : runFlushed fuel tokens m ≠ .outOfFuel := by
      intro stopped
      rw [stopped] at enough
      exact enough rfl
    rw [runProgram_of_tokens lexed, runProgram_of_tokens lexed,
      runFlushed_mono more (lexed_iff.1 lexed).balanced followed]

/-- A program terminates with the given outcome: it does so for some amount of fuel. -/
def Ends (source : Text) (m : Machine) (o : Outcome ProgramError Unit) : Prop :=
  o ≠ .outOfFuel ∧ ∃ fuel, runProgram fuel source m = o

theorem Ends.of_done {source : Text} {m n : Machine} (fuel : Nat)
    (run : runProgram fuel source m = .done () n) : Ends source m (.done () n) :=
  ⟨nofun, fuel, run⟩

theorem Ends.of_failed {source : Text} {m n : Machine} {error : ProgramError} (fuel : Nat)
    (run : runProgram fuel source m = .failed error n) : Ends source m (.failed error n) :=
  ⟨nofun, fuel, run⟩

theorem Ends.of_more {source : Text} {m : Machine} {o : Outcome ProgramError Unit}
    (ends : Ends source m o) : ∃ enough, ∀ fuel, enough ≤ fuel → runProgram fuel source m = o := by
  obtain ⟨followed, enough, rfl⟩ := ends
  exact ⟨enough, fun _ more => runProgram_mono more followed⟩

theorem Ends.unique {source : Text} {m : Machine} {o o' : Outcome ProgramError Unit}
    (first : Ends source m o) (second : Ends source m o') : o = o' := by
  obtain ⟨enough, run⟩ := first.of_more
  obtain ⟨enough', run'⟩ := second.of_more
  have left := run (max enough enough') (Nat.le_max_left _ _)
  have right := run' (max enough enough') (Nat.le_max_right _ _)
  exact left.symm.trans right

end Stackscript
