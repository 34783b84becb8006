import Stackscript.Proofs.Program.Ends

set_option autoImplicit false

/- What programs keep true of their blocks, and where they fail. A property of blocks that the
tokens of a block hand on to the blocks they make is kept by every run: it is the case of
corresponding runs where both sides are the same. -/
namespace Stackscript

theorem Failure.locate_of_known {failure : Failure} (known : failure.position.line ≠ 0)
    (p : Position) : failure.locate p = failure := by
  simp only [locate, Position.orElse, known, ↓reduceIte]

theorem Failure.locate_of_unknown {failure : Failure} (unknown : failure.position.line = 0)
    (p : Position) : failure.locate p = ⟨failure.fault, p⟩ := by
  simp only [locate, Position.orElse, unknown, ↓reduceIte]

/-- Properties of blocks, of their tokens and of the places of those; code that has them has tokens
that have them. -/
structure Invariant where
  blocks : Block → Prop
  tokens : Token → Prop
  places : Position → Prop
  code : ∀ {b : Block}, blocks b → ∃ xs, b.code = .ok xs ∧ ∀ token ∈ xs, tokens token
  block : ∀ {token : Token} {body : Text}, tokens token → token.kind = .block body →
    blocks ⟨body, token.span.position.advance '{'⟩
  place : ∀ {token : Token}, tokens token → token.kind ≠ .endOfText → places token.span.position

namespace Invariant

variable (I : Invariant)

/-- Failures that are not of syntax, and have no place yet or one of those allowed. -/
def Allows (failure : Failure) : Prop :=
  failure.fault.kind ≠ .syntaxError ∧ (failure.position = .unknown ∨ I.places failure.position)

theorem Allows.locate {I : Invariant} {failure : Failure} (allowed : I.Allows failure)
    {p : Position} (place : I.places p) : I.Allows (failure.locate p) := by
  by_cases unplaced : failure.position.line = 0
  · rw [failure.locate_of_unknown unplaced]
    exact ⟨allowed.1, .inr place⟩
  · rw [failure.locate_of_known unplaced]
    exact allowed

def pairing : Pairing :=
  ⟨fun a b => a = b ∧ I.blocks a, fun same => congrArg Block.source same.1⟩

def correspondence (flushError : Option String) : Correspondence where
  blocks := I.pairing
  failures f _ := I.Allows f
  flushError := flushError
  of_fault semantic := ⟨semantic, .inl rfl⟩

def reading (flushError : Option String) : Reading (I.correspondence flushError) where
  tokens a b := a = b ∧ I.tokens a
  kind_eq same := congrArg Token.kind same.1
  block := by
    rintro a _ body ⟨rfl, had⟩ kind
    exact ⟨rfl, I.block had kind⟩
  locate := by
    rintro a _ f _ ⟨rfl, had⟩ working allowed
    exact allowed.locate (I.place had working)
  code := by
    rintro a _ ⟨rfl, had⟩
    obtain ⟨xs, code, all⟩ := I.code had
    exact .inl ⟨xs, xs, code, code, List.forall₂_same.2 fun token member => ⟨rfl, all token member⟩⟩

/-- A machine all of whose blocks have the property. -/
def Holds (m : Machine) : Prop :=
  m.Related I.pairing m

variable {I}

theorem holds_initial (input : Input) (output : Output) : I.Holds (.initial input output) := by
  refine ⟨.nil, fun letter => ?_, rfl, rfl⟩
  simp only [Machine.valueOf?, Machine.initial, Bindings.initial, Fin.getElem_fin,
    Vector.getElem_ofFn]
  split
  · exact .some (.character _)
  split
  · exact .some (.character _)
  split
  · exact .some (.integer _)
  split
  · exact .some (.integer _)
  · exact .none

/-- What programs leave: blocks that have the property, and failures that are allowed. -/
def Leaves (I : Invariant) : Outcome ProgramError Unit → Prop
  | .done _ m => I.Holds m
  | .failed (.lexical _) m => I.Holds m
  | .failed (.runtime failure) m => I.Allows failure ∧ I.Holds m
  | .outOfFuel => True

/-- A program whose tokens have the properties keeps them. -/
theorem runProgram_leaves (I : Invariant) {source : Text} {m : Machine} (held : I.Holds m)
    (all : ∀ tokens, tokenize source = .ok tokens → ∀ token ∈ tokens, I.tokens token)
    (fuel : Nat) : I.Leaves (runProgram fuel source m) := by
  cases lexed : tokenize source with
  | error error =>
    rw [runProgram_of_error lexed]
    exact held
  | ok tokens =>
    rw [runProgram_of_tokens lexed]
    have same : List.Forall₂ (I.reading m.output.flushError).tokens tokens tokens :=
      List.forall₂_same.2 fun token member => ⟨rfl, all tokens lexed token member⟩
    have ended := runFlushed_related (I.reading _) (Nat.le_refl fuel) same
      (lexed_iff.1 lexed).balanced m m ⟨held, rfl⟩
    cases run : runFlushed fuel tokens m with
    | done _ n =>
      rw [run] at ended
      cases ended with | done _ machines => exact machines.1
    | failed failure n =>
      rw [run] at ended
      cases ended with | failed allowed machines => exact ⟨allowed, machines.1⟩
    | outOfFuel => trivial

end Invariant

theorem Ends.leaves {I : Invariant} {source : Text} {m : Machine} {o : Outcome ProgramError Unit}
    (ends : Ends source m o) (held : I.Holds m)
    (all : ∀ tokens, tokenize source = .ok tokens → ∀ token ∈ tokens, I.tokens token) :
    I.Leaves o := by
  obtain ⟨-, fuel, rfl⟩ := ends
  exact I.runProgram_leaves held all fuel

end Stackscript
