import Mathlib.Data.Nat.Log
import Stackscript.Proofs.Machine.Sandbox
import Stackscript.Proofs.Sequence.Characters

set_option autoImplicit false

/- Sorting by a comparison of which nothing is known: it may change the machine, fail, not return,
or contradict itself. Merge sort does nothing with a comparison but put questions to it, so it is an
inquiry, which is settled before any answer is known: how many questions it can ask, of which
elements, and that it ends with a permutation whatever the answers are. -/
namespace Stackscript

/-- A computation that asks questions about two elements at a time and goes on from each answer. -/
inductive Inquiry (α β : Type) where
  | done (result : β)
  | ask (left right : α) (next : Bool → Inquiry α β)

namespace Inquiry

variable {α β γ : Type}

def andThen : Inquiry α β → (β → Inquiry α γ) → Inquiry α γ
  | .done result, rest => rest result
  | .ask left right next, rest => .ask left right fun answer => (next answer).andThen rest

instance : Monad (Inquiry α) where
  pure := .done
  bind := andThen

def question (left right : α) : Inquiry α Bool :=
  .ask left right .done

section Answering

variable {m : Type → Type} [Monad m] (less : α → α → m Bool)

/-- Puts the questions to a comparison, each when it comes up. -/
def answeredBy : Inquiry α β → m β
  | .done result => pure result
  | .ask left right next => do (next (← less left right)).answeredBy

variable [LawfulMonad m]

theorem answeredBy_bind (inquiry : Inquiry α β) (rest : β → Inquiry α γ) :
    (inquiry >>= rest).answeredBy less =
      inquiry.answeredBy less >>= fun result => (rest result).answeredBy less := by
  induction inquiry with
  | done result =>
    change (rest result).answeredBy less = (pure result : m β) >>= _
    rw [pure_bind]
  | ask left right next ih =>
    change (less left right >>= fun answer => (next answer >>= rest).answeredBy less) =
      (less left right >>= fun answer => (next answer).answeredBy less) >>= _
    simp only [bind_assoc, ih]

theorem answeredBy_question (left right : α) :
    (question left right).answeredBy less = less left right :=
  bind_pure _

end Answering

/-- The inquiry is over after at most `limit` questions, all of them about `items`, and whatever the
answers are, its result is as told. -/
inductive EndsWithin (items : List α) (P : β → Prop) : Nat → Inquiry α β → Prop where
  | done {limit : Nat} {result : β} (holds : P result) : EndsWithin items P limit (.done result)
  | ask {limit : Nat} {left right : α} {next : Bool → Inquiry α β} (first : left ∈ items)
    (second : right ∈ items) (rest : ∀ answer, EndsWithin items P limit (next answer)) :
    EndsWithin items P (limit + 1) (.ask left right next)

namespace EndsWithin

variable {items : List α} {P : β → Prop} {Q : γ → Prop} {limit limit' : Nat}

theorem imp {P' : β → Prop} {inquiry : Inquiry α β} (ends : inquiry.EndsWithin items P limit)
    (weaker : ∀ result, P result → P' result) : inquiry.EndsWithin items P' limit := by
  induction ends with
  | done holds => exact .done (weaker _ holds)
  | ask first second _ ih => exact .ask first second ih

theorem mono {inquiry : Inquiry α β} (ends : inquiry.EndsWithin items P limit)
    (more : limit ≤ limit') : inquiry.EndsWithin items P limit' := by
  induction ends generalizing limit' with
  | done holds => exact .done holds
  | ask first second _ ih =>
    obtain ⟨limit', rfl⟩ := Nat.exists_eq_add_of_le' (Nat.le_of_add_left_le more)
    exact .ask first second fun answer => ih answer (by omega)

theorem bind {inquiry : Inquiry α β} {rest : β → Inquiry α γ}
    (ends : inquiry.EndsWithin items P limit)
    (next : ∀ result, P result → (rest result).EndsWithin items Q limit') :
    (inquiry >>= rest).EndsWithin items Q (limit + limit') := by
  induction ends with
  | done holds => exact (next _ holds).mono (Nat.le_add_left _ _)
  | ask first second _ ih =>
    rw [Nat.add_right_comm]
    exact .ask first second ih

theorem returning {inquiry : Inquiry α β} (ends : inquiry.EndsWithin items P limit) {f : β → γ}
    (holds : ∀ result, P result → Q (f result)) :
    (inquiry >>= fun result => pure (f result)).EndsWithin items Q limit := by
  rw [← Nat.add_zero limit]
  exact ends.bind fun result known => .done (holds result known)

/-- The result is as told where no answer fails. -/
theorem of_answeredBy_eq_ok {ε : Type} {less : α → α → Except ε Bool} {inquiry : Inquiry α β}
    {result : β} (ends : inquiry.EndsWithin items P limit)
    (answered : inquiry.answeredBy less = .ok result) : P result := by
  induction ends with
  | done holds =>
    cases answered
    exact holds
  | ask _ _ _ ih =>
    obtain ⟨answer, -, answered⟩ := bind_eq_ok.1 answered
    exact ih answer answered

end EndsWithin

end Inquiry

namespace Sequence

open Inquiry (question)

variable {α : Type}

theorem leftFirst_endsWithin {items : List α} {left right : α} (first : left ∈ items)
    (second : right ∈ items) :
    (leftFirst question left right).EndsWithin items (fun _ => True) 2 := by
  refine .ask first second fun answer => ?_
  cases answer with
  | true => exact .done trivial
  | false => exact .ask second first fun reverse => .done trivial

/-- A merge asks at most twice before each element it gives. -/
theorem mergeRuns_endsWithin {items left right : List α} (lower : left ⊆ items)
    (upper : right ⊆ items) :
    (mergeRuns question left right).EndsWithin items (·.Perm (left ++ right))
      (2 * (left.length + right.length)) := by
  fun_induction mergeRuns question left right with
  | case1 right => exact .done (.refl right)
  | case2 left => exact .done (by rw [List.append_nil])
  | case3 x xs y ys takeLeft takeRight =>
    obtain ⟨first, lower'⟩ := List.cons_subset.1 lower
    obtain ⟨second, upper'⟩ := List.cons_subset.1 upper
    have size : 2 * ((x :: xs).length + (y :: ys).length) =
        2 + 2 * (xs.length + (y :: ys).length) := by
      simp only [List.length_cons]
      omega
    have size' : xs.length + (y :: ys).length = (x :: xs).length + ys.length := by
      simp only [List.length_cons]
      omega
    rw [size]
    refine (leftFirst_endsWithin first second).bind fun answer _ => ?_
    cases answer with
    | true => exact (takeLeft lower' upper).returning fun merged permuted => permuted.cons x
    | false =>
      rw [size']
      refine (takeRight lower upper').returning fun merged permuted => ?_
      exact (permuted.cons y).trans List.perm_middle.symm

/-- How many questions it can take to sort a list of the given size: two for each element, each
time the list is halved. -/
def questionLimit (size : Nat) : Nat :=
  2 * (size * Nat.clog 2 size)

/-- The questions about both halves, and those of the merge. -/
theorem questionLimit_halves {size : Nat} (long : 2 ≤ size) :
    questionLimit (size - size / 2) + (questionLimit (size / 2) + 2 * size) ≤
      questionLimit size := by
  have ceiling : (size + 2 - 1) / 2 = size - size / 2 := by omega
  have halved : Nat.clog 2 size = Nat.clog 2 (size - size / 2) + 1 := by
    rw [Nat.clog_of_two_le (by omega) long, ceiling]
  have smaller : Nat.clog 2 (size / 2) ≤ Nat.clog 2 (size - size / 2) :=
    Nat.clog_mono_right 2 (by omega)
  have lower : size / 2 * Nat.clog 2 (size / 2) ≤ size / 2 * Nat.clog 2 (size - size / 2) :=
    Nat.mul_le_mul_left _ smaller
  have whole : size * Nat.clog 2 (size - size / 2) =
      (size - size / 2) * Nat.clog 2 (size - size / 2) +
        size / 2 * Nat.clog 2 (size - size / 2) := by
    rw [← Nat.add_mul]
    congr 1
    omega
  simp only [questionLimit, halved, Nat.mul_add, Nat.mul_one, whole]
  omega

theorem mergeSort_endsWithin {items part : List α} (inside : part ⊆ items) :
    (mergeSort question part).EndsWithin items (·.Perm part) (questionLimit part.length) := by
  fun_induction mergeSort question part with
  | case1 part short => exact .done (.refl part)
  | case2 part long half sortLeft sortRight =>
    have lower : (part.take half).length = part.length - part.length / 2 := by
      simp only [half, List.length_take]
      omega
    have upper : (part.drop half).length = part.length / 2 := by
      simp only [half, List.length_drop]
      omega
    have left := sortLeft (List.Subset.trans (List.take_subset half part) inside)
    have right := sortRight (List.Subset.trans (List.drop_subset half part) inside)
    rw [lower] at left
    rw [upper] at right
    refine Inquiry.EndsWithin.mono ?_ (questionLimit_halves (Nat.le_of_not_lt long))
    refine left.bind fun xs permuted => right.bind fun ys permuted' => ?_
    have joined : (xs ++ ys).Perm part := by
      have halves := permuted.append permuted'
      rwa [List.take_append_drop] at halves
    have size : part.length = xs.length + ys.length := by
      rw [← joined.length_eq, List.length_append]
    obtain ⟨lower, upper⟩ := List.append_subset.1 (List.Subset.trans joined.subset inside)
    rw [size]
    exact (mergeRuns_endsWithin lower upper).imp fun _ reordered => reordered.trans joined

section Answering

variable {m : Type → Type} [Monad m] [LawfulMonad m] (less : α → α → m Bool)

theorem leftFirst_answeredBy (left right : α) :
    (leftFirst question left right).answeredBy less = leftFirst less left right := by
  unfold leftFirst
  rw [Inquiry.answeredBy_bind, Inquiry.answeredBy_question]
  congr 1
  funext answer
  cases answer with
  | true => rfl
  | false =>
    refine (Inquiry.answeredBy_bind less _ _).trans ?_
    rw [Inquiry.answeredBy_question]
    rfl

theorem mergeRuns_answeredBy (left right : List α) :
    (mergeRuns question left right).answeredBy less = mergeRuns less left right := by
  fun_induction mergeRuns less left right with
  | case1 right =>
    rw [mergeRuns]
    rfl
  | case2 left nonempty =>
    rw [mergeRuns]
    · rfl
    · exact nonempty
  | case3 x xs y ys takeLeft takeRight =>
    rw [mergeRuns, Inquiry.answeredBy_bind, leftFirst_answeredBy]
    congr 1
    funext answer
    cases answer with
    | true =>
      refine (Inquiry.answeredBy_bind less _ _).trans ?_
      rw [takeLeft]
      rfl
    | false =>
      refine (Inquiry.answeredBy_bind less _ _).trans ?_
      rw [takeRight]
      rfl

/-- Any comparison, whatever else it does, is only asked the questions of the inquiry. -/
theorem mergeSort_answeredBy (items : List α) :
    (mergeSort question items).answeredBy less = mergeSort less items := by
  fun_induction mergeSort less items with
  | case1 items short =>
    rw [mergeSort, dif_pos short]
    rfl
  | case2 items long half sortLeft sortRight =>
    rw [mergeSort, dif_neg long, Inquiry.answeredBy_bind, sortLeft]
    congr 1
    funext left
    rw [Inquiry.answeredBy_bind, sortRight]
    congr 1
    funext right
    exact mergeRuns_answeredBy less left right

end Answering

end Sequence

namespace Inquiry

variable {α β : Type} (less : α → α → Run Bool)

/-- The comparison answers questions one after another, each on the machine that the one before it
has left. -/
inductive Answers : Machine → List (α × α) → Machine → Prop where
  | nil (m : Machine) : Answers m [] m
  | cons {m after n : Machine} {left right : α} {answer : Bool} {calls : List (α × α)}
    (call : less left right m = .done answer after) (rest : Answers after calls n) :
    Answers m ((left, right) :: calls) n

/-- How an inquiry ends on a machine: with a result as told, after all calls of the comparison were
answered, or as the first call ends that was not. -/
inductive Concludes (items : List α) (P : β → Prop) (limit : Nat) (m : Machine) :
    Outcome Failure β → Prop where
  | done {result : β} {n : Machine} {calls : List (α × α)} (answers : Answers less m calls n)
    (few : calls.length ≤ limit) (holds : P result) : Concludes items P limit m (.done result n)
  | failed {failure : Failure} {after n : Machine} {left right : α} {calls : List (α × α)}
    (answers : Answers less m calls after) (few : calls.length < limit) (first : left ∈ items)
    (second : right ∈ items) (call : less left right after = .failed failure n) :
    Concludes items P limit m (.failed failure n)
  | outOfFuel {after : Machine} {left right : α} {calls : List (α × α)}
    (answers : Answers less m calls after) (few : calls.length < limit) (first : left ∈ items)
    (second : right ∈ items) (call : less left right after = .outOfFuel) :
    Concludes items P limit m .outOfFuel

theorem EndsWithin.concludes {items : List α} {P : β → Prop} {limit : Nat}
    {inquiry : Inquiry α β} (ends : inquiry.EndsWithin items P limit) (m : Machine) :
    Concludes less items P limit m (inquiry.answeredBy less m) := by
  induction ends generalizing m with
  | done holds => exact .done (.nil m) (Nat.zero_le _) holds
  | @ask limit left right next first second _ ih =>
    rw [answeredBy, Run.bind_apply]
    cases call : less left right m with
    | failed failure n => exact .failed (.nil m) (Nat.succ_pos _) first second call
    | outOfFuel => exact .outOfFuel (.nil m) (Nat.succ_pos _) first second call
    | done answer after =>
      dsimp only
      generalize ended : (next answer).answeredBy less after = o
      have rest := ih answer after
      rw [ended] at rest
      cases rest with
      | done answers few holds => exact .done (.cons call answers) (Nat.succ_le_succ few) holds
      | failed answers few first second last =>
        exact .failed (.cons call answers) (Nat.succ_lt_succ few) first second last
      | outOfFuel answers few first second last =>
        exact .outOfFuel (.cons call answers) (Nat.succ_lt_succ few) first second last

end Inquiry

/-- However it ends, what is aloof leaves the live stack in place. -/
theorem Run.Aloof.stack_eq {α : Type} {run : Run α} (aloof : run.Aloof) (m : Machine) :
    match run m with
    | .done _ n | .failed _ n => n.stack = m.stack
    | .outOfFuel => True := by
  have moved : Outcome.Moved m.stack Eq (run { m with stack := .empty }) (run m) :=
    aloof { m with stack := .empty } m.stack
  generalize run { m with stack := .empty } = o, run m = o' at moved
  cases moved with
  | done _ n => rfl
  | failed _ n => rfl
  | outOfFuel => trivial

namespace Engine

/-- The answer of a block to the question whether one element goes before another. -/
def asks (engine : Engine) (code : Code) (left right : Value) : Run Bool := do
  return (← engine.valueOn code (.ofList [left, right])).isTruthy

theorem sortBy_eq (engine : Engine) (code : Code) (items : List Value) :
    engine.sortBy code items = Sequence.mergeSort (engine.asks code) items :=
  rfl

/-- Sorting a sequence by a block. -/
theorem sort_block_apply (engine : Engine) {q : Value} {items : List Value}
    (elements : q.toArray = .ok items) (b : Block) (base : Stack) (m : Machine) :
    (Operator.sort.meaning engine).apply { m with stack := (base.push q).push (.block b) } =
      (engine.sortBy b.code items >>= fun sorted =>
        Run.push (Sequence.restore sorted (Sequence.isText q))) { m with stack := base } := by
  cases q <;> cases elements <;> rfl

theorem asks_eq_failed {engine : Engine} {code : Code} {left right : Value} {m n : Machine}
    {failure : Failure} (call : engine.asks code left right m = .failed failure n) :
    engine.valueOn code (.ofList [left, right]) m = .failed failure n := by
  rw [asks, Run.bind_apply] at call
  generalize engine.valueOn code (.ofList [left, right]) m = o at call ⊢
  cases o with
  | failed _ _ =>
    cases call
    rfl
  | _ => cases call

theorem asks_eq_outOfFuel {engine : Engine} {code : Code} {left right : Value} {m : Machine}
    (call : engine.asks code left right m = .outOfFuel) :
    engine.valueOn code (.ofList [left, right]) m = .outOfFuel := by
  rw [asks, Run.bind_apply] at call
  generalize engine.valueOn code (.ofList [left, right]) m = o at call ⊢
  cases o with
  | outOfFuel => rfl
  | _ => cases call

end Engine

namespace Sequence

open Inquiry (question)

/-- A permutation of characters is the characters of a permuted text. -/
theorem exists_characters_of_perm {t : Text} {sorted : List Value}
    (permuted : sorted.Perm (t.map .character)) :
    ∃ u : Text, sorted = u.map .character ∧ u.Perm t := by
  have each : sorted ∈ Set.range (List.map Value.character) := by
    rw [Set.range_list_map]
    intro value member
    obtain ⟨c, -, same⟩ := List.mem_map.1 (permuted.subset member)
    exact ⟨c, same⟩
  obtain ⟨u, rfl⟩ := each
  have injective : Function.Injective Value.character := fun c d same => Value.character.inj same
  exact ⟨u, rfl, (List.map_perm_map_iff injective).1 permuted⟩

/-- A string that is sorted by a block: it is a string of the same characters, or one of the calls
of the block on two of its characters has failed or not returned. -/
theorem sort_string_concludes (engine : Engine) (t : Text) (b : Block) (base : Stack)
    (m : Machine) :
    match (Operator.sort.meaning engine).apply
      { m with stack := (base.push (.string t)).push (.block b) } with
    | .done _ n => ∃ u : Text, u.Perm t ∧ n.stack = base.push (.string u)
    | .failed failure n => n.stack = base ∧ ∃ c ∈ t, ∃ d ∈ t, ∃ before,
      engine.valueOn b.code (.ofList [.character c, .character d]) before = .failed failure n
    | .outOfFuel => ∃ c ∈ t, ∃ d ∈ t, ∃ before,
      engine.valueOn b.code (.ofList [.character c, .character d]) before = .outOfFuel := by
  have asked := (mergeSort_endsWithin (List.Subset.refl (t.map Value.character))).concludes
    (engine.asks b.code) { m with stack := base }
  have kept := (engine.sortBy_aloof b.code (t.map .character)).stack_eq { m with stack := base }
  rw [mergeSort_answeredBy, ← engine.sortBy_eq] at asked
  have elements : (Value.string t).toArray = .ok (t.map .character) := rfl
  rw [engine.sort_block_apply elements, Run.bind_apply]
  generalize engine.sortBy b.code (t.map .character) { m with stack := base } = o at asked kept
  cases asked with
  | done answers few permuted =>
    obtain ⟨u, rfl, same⟩ := exists_characters_of_perm permuted
    refine ⟨u, same, ?_⟩
    rw [show isText (.string t) = true from rfl, restore_characters]
    exact congrArg (Stack.push · (.string u)) kept
  | failed answers few first second call =>
    obtain ⟨c, inside, rfl⟩ := List.mem_map.1 first
    obtain ⟨d, inside', rfl⟩ := List.mem_map.1 second
    exact ⟨kept, c, inside, d, inside', _, Engine.asks_eq_failed call⟩
  | outOfFuel answers few first second call =>
    obtain ⟨c, inside, rfl⟩ := List.mem_map.1 first
    obtain ⟨d, inside', rfl⟩ := List.mem_map.1 second
    exact ⟨c, inside, d, inside', _, Engine.asks_eq_outOfFuel call⟩

/-- Merge sort never loses or doubles an element, whatever it is told. It is an inquiry that ends
within a number of questions which depends on the size of the list only, and with a permutation for
all answers; any comparison in any monad just answers its questions. So a comparison that acts on
the machine is called so many times at most, and sorting ends with a permutation or as the call does
that did not answer. In particular, a block that sorts a string leaves a string of the same
characters. -/
theorem mergeSort_permutes :
    (∀ {α : Type} (items : List α), ∃ inquiry : Inquiry α (List α),
      inquiry.EndsWithin items (·.Perm items) (questionLimit items.length) ∧
      ∀ {m : Type → Type} [Monad m] [LawfulMonad m] (less : α → α → m Bool),
        mergeSort less items = inquiry.answeredBy less) ∧
    (∀ {α : Type} (items : List α) (less : α → α → Run Bool) (m : Machine),
      Inquiry.Concludes less items (·.Perm items) (questionLimit items.length) m
        (mergeSort less items m)) ∧
    ∀ (engine : Engine) (t : Text) (b : Block) (base : Stack) (m : Machine),
      match (Operator.sort.meaning engine).apply
        { m with stack := (base.push (.string t)).push (.block b) } with
      | .done _ n => ∃ u : Text, u.Perm t ∧ n.stack = base.push (.string u)
      | .failed failure n => n.stack = base ∧ ∃ c ∈ t, ∃ d ∈ t, ∃ before,
        engine.valueOn b.code (.ofList [.character c, .character d]) before = .failed failure n
      | .outOfFuel => ∃ c ∈ t, ∃ d ∈ t, ∃ before,
        engine.valueOn b.code (.ofList [.character c, .character d]) before = .outOfFuel := by
  refine ⟨?_, ?_, ?_⟩
  · intro α items
    refine ⟨mergeSort question items, mergeSort_endsWithin (List.Subset.refl items), ?_⟩
    intro m _ _ less
    exact (mergeSort_answeredBy less items).symm
  · intro α items less m
    rw [← mergeSort_answeredBy less items]
    exact (mergeSort_endsWithin (List.Subset.refl items)).concludes less m
  · intro engine t b base m
    exact sort_string_concludes engine t b base m

end Sequence

end Stackscript
