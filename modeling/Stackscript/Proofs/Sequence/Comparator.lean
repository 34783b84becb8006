import Stackscript.Proofs.Sequence.Inquiry
import Stackscript.Proofs.Token.Spelling
import Stackscript.Proofs.Token.Tiling
import Stackscript.Proofs.Value.Order

set_option autoImplicit false

/- Sorting by the block that compares. A block of one operator answers as the operator does on the two
elements, so that merge sort is told the same by the block and by the order of values, and ends in
the same way. Only a failure has a place if it is the block's. A sequence and an integer have to be
kept apart, since for them the operator means something else. -/
namespace Stackscript

namespace Run

variable {α β : Type}

/-- A result that does not need the machine; if it is a failure, it has the given place. -/
def settled (p : Position) : Except Fault α → Run α
  | .ok value => pure value
  | .error fault => fun m => .failed ⟨fault, p⟩ m

theorem settled_bind (p : Position) (first : Except Fault α) (next : α → Except Fault β) :
    settled p (first >>= next) = settled p first >>= fun value => settled p (next value) := by
  cases first <;> rfl

theorem settled_map (p : Position) (f : α → β) (result : Except Fault α) :
    settled p (f <$> result) = f <$> settled p result := by
  cases result <;> rfl

end Run

/-- An inquiry is settled with all answers. -/
theorem Inquiry.EndsWithin.answeredBy_settled {α β : Type} {items : List α} {P : β → Prop}
    {limit : Nat} {inquiry : Inquiry α β} (ends : inquiry.EndsWithin items P limit) {p : Position}
    {asks : α → α → Run Bool} {less : α → α → Except Fault Bool}
    (answers : ∀ a ∈ items, ∀ b ∈ items, asks a b = Run.settled p (less a b)) :
    inquiry.answeredBy asks = Run.settled p (inquiry.answeredBy less) := by
  induction ends with
  | done holds => rfl
  | ask first second _ ih =>
    rw [answeredBy, answeredBy, answers _ first _ second, Run.settled_bind]
    congr 1
    funext answer
    exact ih answer

/-- Sorting is settled with all answers about two elements. -/
theorem Sequence.mergeSort_settled {α : Type} {items : List α} {p : Position}
    {asks : α → α → Run Bool} {less : α → α → Except Fault Bool}
    (answers : ∀ a ∈ items, ∀ b ∈ items, asks a b = Run.settled p (less a b)) :
    mergeSort asks items = Run.settled p (mergeSort less items) := by
  rw [← mergeSort_answeredBy asks, ← mergeSort_answeredBy less]
  exact (mergeSort_endsWithin (List.Subset.refl items)).answeredBy_settled answers

theorem Operator.tokenizeAt_symbol (op : Operator) (p : Position) :
    tokenizeAt p op.symbol = .ok ((TokenKind.operator op).alone p op.symbol) := by
  obtain ⟨c, tail, text, lexeme⟩ := Lexeme.operator op
  rw [text]
  exact (lexeme.scanned p Apart.start nofun).tokenizeAt_alone lexeme.dark lexeme.notBlock rfl

namespace Engine

/-- Running a block of one operator is applying the operator; a failure that has no place yet is
given that of the block. -/
theorem run_symbol (op : Operator) (p : Position) (fuel : Nat) (m : Machine) :
    (engine (fuel + 1)).run (Block.code ⟨op.symbol, p⟩) m =
      match (op.meaning (engine fuel)).apply m with
      | .done _ n => .done () n
      | .failed failure n => .failed (failure.locate p) n
      | .outOfFuel => .outOfFuel := by
  have code : Block.code ⟨op.symbol, p⟩ = .ok ((TokenKind.operator op).alone p op.symbol) :=
    op.tokenizeAt_symbol p
  simp only [engine, code, TokenKind.alone, runTokens_cons, step, Run.bind_apply]
  cases (op.meaning (engine fuel)).apply m <;> rfl

section Symbol

variable {op : Operator} {fuel : Nat}

/-- A block whose operator takes all the values of a stack leaves only the result on it. -/
theorem runOn_symbol {s : Stack} {result : Except Fault Value}
    (applied : ∀ m : Machine, (op.meaning (engine fuel)).apply { m with stack := s } =
      (Run.ofExcept result >>= Run.push) { m with stack := .empty }) (p : Position) :
    (engine (fuel + 1)).runOn (Block.code ⟨op.symbol, p⟩) s =
      Run.settled p ((fun value => .ofList [value]) <$> result) := by
  funext m
  simp only [runOn, Run.onStack, run_symbol, applied, Run.bind_apply]
  cases result <;> rfl

theorem runOn_unary {f : Value → Except Fault Value}
    (meaning : op.meaning (engine fuel) = .unary f) (p : Position) (a : Value) :
    (engine (fuel + 1)).runOn (Block.code ⟨op.symbol, p⟩) (.ofList [a]) =
      Run.settled p ((fun value => .ofList [value]) <$> f a) := by
  refine runOn_symbol (fun m => ?_) p
  rw [meaning]
  rfl

theorem runOn_binary {f : Value → Value → Except Fault Value}
    (meaning : op.meaning (engine fuel) = .binary f) (p : Position) (a b : Value) :
    (engine (fuel + 1)).runOn (Block.code ⟨op.symbol, p⟩) (.ofList [a, b]) =
      Run.settled p ((fun value => .ofList [value]) <$> f a b) := by
  refine runOn_symbol (fun m => ?_) p
  rw [meaning]
  rfl

/-- A block of one operator gives what the operator computes from the two values it is run on. -/
theorem valueOn_symbol {f : Value → Value → Except Fault Value}
    (meaning : op.meaning (engine fuel) = .binary f) (p : Position) (a b : Value) :
    (engine (fuel + 1)).valueOn (Block.code ⟨op.symbol, p⟩) (.ofList [a, b]) =
      Run.settled p (f a b) := by
  unfold valueOn
  rw [runOn_binary meaning]
  cases f a b <;> rfl

end Symbol

/-- The block of the comparison asks the order of values, unless it is run on a sequence and an
integer. -/
theorem asks_less {fuel : Nat} (p : Position) {left right : Value}
    (apart : left.isSequence = true → ∀ n, right ≠ .integer n) :
    (engine (fuel + 1)).asks (Block.code ⟨['<'], p⟩) left right =
      Run.settled p (Value.less left right) := by
  have compared : Arithmetic.less left right =
      (do return .ofBool ((← left.compare right) == .lt)) := by
    unfold Arithmetic.less
    split
    · rename_i n sequence
      exact absurd rfl (apart sequence n)
    · rfl
  have answer : Value.isTruthy <$> Arithmetic.less left right = Value.less left right := by
    rw [compared, Value.less]
    cases left.compare right with
    | error fault => rfl
    | ok order => cases order <;> rfl
  have meaning : Operator.less.meaning (engine fuel) = .binary Arithmetic.less := rfl
  rw [← answer, Run.settled_map, ← valueOn_symbol meaning]
  rfl

/-- Sorting a sequence by the order of values. -/
theorem sort_apply (engine : Engine) {q : Value} (sequence : q.isSequence = true) (base : Stack)
    (m : Machine) :
    (Operator.sort.meaning engine).apply { m with stack := base.push q } =
      (Run.ofExcept (Sequence.sort q) >>= Run.push) { m with stack := base } := by
  cases q with
  | string t => rfl
  | array elements => rfl
  | _ => cases sequence

end Engine

theorem Sequence.sort_eq {q : Value} (sequence : q.isSequence = true) :
    sort q = (restore · (isText q)) <$> mergeSort Value.less q.items := by
  cases q with
  | string t => rfl
  | array elements => rfl
  | _ => cases sequence

/-- Sorting a sequence by the block of the comparison is sorting it by the order of values, unless
both an integer and a sequence are among its elements. Both ways terminate and put the same value on
the stack, or fail for the same cause, and leave all else as it was. -/
theorem Operator.sort_ends_comparator {q : Value} (sequence : q.isSequence = true)
    (unmixed : ¬((∃ n, .integer n ∈ q.items) ∧ ∃ value ∈ q.items, value.isSequence = true))
    (p : Position) (base : Stack) (m : Machine) :
    match Sequence.sort q with
    | .ok sorted =>
      sort.Ends { m with stack := base.push q } (.done () { m with stack := base.push sorted }) ∧
      sort.Ends { m with stack := (base.push q).push (.block ⟨['<'], p⟩) }
        (.done () { m with stack := base.push sorted })
    | .error fault =>
      sort.Ends { m with stack := base.push q }
        (.failed ⟨fault, .unknown⟩ { m with stack := base }) ∧
      sort.Ends { m with stack := (base.push q).push (.block ⟨['<'], p⟩) }
        (.failed ⟨fault, p⟩ { m with stack := base }) := by
  have asked : ∀ a ∈ q.items, ∀ b ∈ q.items,
      (engine 1).asks (Block.code ⟨['<'], p⟩) a b = Run.settled p (Value.less a b) := by
    intro a first b second
    refine Engine.asks_less p fun inside n same => ?_
    rw [same] at second
    exact unmixed ⟨⟨n, second⟩, a, first, inside⟩
  have plain := (engine 1).sort_apply sequence base m
  have byBlock : (sort.meaning (engine 1)).apply
      { m with stack := (base.push q).push (.block ⟨['<'], p⟩) } =
        (Run.settled p (Sequence.sort q) >>= Run.push) { m with stack := base } := by
    rw [Engine.sort_block_apply _ (Value.toArray_of_isSequence sequence), Engine.sortBy_eq,
      Sequence.mergeSort_settled asked, Sequence.sort_eq sequence, Run.settled_map, bind_map_left]
  generalize Sequence.sort q = result at plain byBlock
  cases result with
  | ok sorted => exact ⟨⟨nofun, 1, plain⟩, nofun, 1, byBlock⟩
  | error fault => exact ⟨⟨nofun, 1, plain⟩, nofun, 1, byBlock⟩

/-- Texts, a character and an array of characters, two of which are equal in the order. -/
theorem sort_ends_comparator_texts :
    let q : Value := .array [.string ['b', 'a'], .character 'b', .array [.character 'b'], .string []]
    let sorted : Value :=
      .array [.string [], .character 'b', .array [.character 'b'], .string ['b', 'a']]
    let m := Machine.initial .empty {}
    q.isSequence = true ∧
      ¬((∃ n, .integer n ∈ q.items) ∧ ∃ value ∈ q.items, value.isSequence = true) ∧
      Operator.sort.Ends { m with stack := .ofList [.integer 7, q] }
        (.done () { m with stack := .ofList [.integer 7, sorted] }) ∧
      Operator.sort.Ends { m with stack := .ofList [.integer 7, q, .block ⟨['<'], ⟨1, 2⟩⟩] }
        (.done () { m with stack := .ofList [.integer 7, sorted] }) := by
  intro q sorted m
  have unmixed :
      ¬((∃ n, .integer n ∈ q.items) ∧ ∃ value ∈ q.items, value.isSequence = true) := by
    rintro ⟨⟨n, member⟩, -⟩
    simp [q, Value.items] at member
  have result : Sequence.sort q = .ok sorted := by cbv
  have ends := Operator.sort_ends_comparator rfl unmixed ⟨1, 2⟩ (.ofList [.integer 7]) m
  rw [result] at ends
  exact ⟨rfl, unmixed, ends⟩

end Stackscript
