import Stackscript.Proofs.Machine.Frame
import Stackscript.Proofs.Sequence.Characters
import Stackscript.Proofs.Value.Order

set_option autoImplicit false

/- Filtering. The block judges the elements one after another, each alone on a stack, and what it
does to the variables and the streams it finds there for the next. What is kept are the elements
themselves, in their order and in a sequence of the same type. -/
namespace Stackscript

/-- The block, run on the live stack, ends and leaves the machine `n`. -/
def Block.Runs (b : Block) (m n : Machine) : Prop :=
  ∃ fuel, (engine fuel).run b.code m = .done () n

/-- With more fuel a block does the same. -/
theorem engine_run_mono {fuel fuel' : Nat} (more : fuel ≤ fuel') {b : Block} {m n : Machine}
    (ran : (engine fuel).run b.code m = .done () n) :
    (engine fuel').run b.code m = .done () n := by
  have engines := engine_related (.equality m.output.flushError) more
  have ended := engines.run (a := b) rfl m m ⟨.refl (fun _ => rfl) m, rfl⟩
  rw [← ran]
  refine ended.eq_of_ended ?_
  rw [ran]
  exact nofun

/-- Judging elements: for each in turn there is a run on that element alone, in the state that the
runs before it have left, and its verdict is the top of what that run leaves. -/
inductive Judged (runs : Machine → Machine → Prop) :
    Machine → List Value → List Value → Machine → Prop
  | nil (m : Machine) : Judged runs m [] [] m
  | cons {m n after : Machine} {item verdict : Value} {items verdicts : List Value}
    (ran : runs { m with stack := .ofList [item] } n) (top : n.stack.top? = some verdict)
    (rest : Judged runs { n with stack := m.stack } items verdicts after) :
    Judged runs m (item :: items) (verdict :: verdicts) after

def accepted (items verdicts : List Value) : List Value :=
  ((items.zip verdicts).filter (·.2.isTruthy)).map Prod.fst

theorem accepted_cons (item verdict : Value) (items verdicts : List Value) :
    accepted (item :: items) (verdict :: verdicts) =
      if verdict.isTruthy then item :: accepted items verdicts else accepted items verdicts := by
  unfold accepted
  rw [List.zip_cons_cons, List.filter_cons]
  split <;> rfl

namespace Judged

variable {runs runs' : Machine → Machine → Prop} {m after : Machine} {items verdicts : List Value}

theorem imp (judged : Judged runs m items verdicts after)
    (each : ∀ m n, runs m n → runs' m n) : Judged runs' m items verdicts after := by
  induction judged with
  | nil m => exact .nil m
  | cons ran top _ ih => exact .cons (each _ _ ran) top ih

theorem stack_eq (judged : Judged runs m items verdicts after) : after.stack = m.stack := by
  induction judged with
  | nil m => rfl
  | cons _ _ _ ih => exact ih

theorem length_eq (judged : Judged runs m items verdicts after) :
    verdicts.length = items.length := by
  induction judged with
  | nil m => rfl
  | cons _ _ _ ih => rw [List.length_cons, List.length_cons, ih]

theorem accepted_sublist (judged : Judged runs m items verdicts after) :
    (accepted items verdicts).Sublist items := by
  have all : (items.zip verdicts).map Prod.fst = items :=
    List.map_fst_zip (Nat.le_of_eq judged.length_eq.symm)
  have some : (accepted items verdicts).Sublist ((items.zip verdicts).map Prod.fst) :=
    List.filter_sublist.map Prod.fst
  rwa [all] at some

/-- Some amount of fuel is enough for all the runs. -/
theorem bounded {b : Block} (judged : Judged b.Runs m items verdicts after) :
    ∃ fuel, Judged (fun m n => (engine fuel).run b.code m = .done () n) m items verdicts after := by
  induction judged with
  | nil m => exact ⟨0, .nil m⟩
  | cons ran top _ ih =>
    obtain ⟨fuel, ran⟩ := ran
    obtain ⟨fuel', rest⟩ := ih
    refine ⟨max fuel fuel', .cons (engine_run_mono (Nat.le_max_left _ _) ran) top ?_⟩
    exact rest.imp fun m n => engine_run_mono (Nat.le_max_right _ _)

end Judged

namespace Engine

theorem valueOn_eq_done {engine : Engine} {code : Code} {s : Stack} {m n : Machine}
    {verdict : Value} :
    engine.valueOn code s m = .done verdict n ↔
      ∃ left, engine.run code { m with stack := s } = .done () left ∧
        left.stack.top? = some verdict ∧ n = { left with stack := m.stack } := by
  unfold valueOn runOn
  rw [Run.bind_apply, Run.onStack]
  cases engine.run code { m with stack := s } with
  | done _ left =>
    obtain ⟨⟨values⟩, bindings, input, output⟩ := left
    cases values with
    | nil => simp [Stack.pop, Run.ofExcept, Stack.top?, Run.bind_apply, Run.fail]
    | cons value rest =>
      simp [Stack.pop, Run.ofExcept, Stack.top?, Run.bind_apply, eq_comm]
  | failed failure left => simp
  | outOfFuel => simp

theorem filter_eq_done {engine : Engine} {code : Code} {items kept : List Value} {m n : Machine} :
    engine.filter code items m = .done kept n ↔
      ∃ verdicts, Judged (fun m n => engine.run code m = .done () n) m items verdicts n ∧
        kept = accepted items verdicts := by
  induction items generalizing kept m n with
  | nil =>
    constructor
    · intro done
      cases done
      exact ⟨[], .nil _, rfl⟩
    · rintro ⟨_, judged, rfl⟩
      cases judged
      rfl
  | cons item items ih =>
    have parts : engine.filter code (item :: items) =
        engine.valueOn code (.ofList [item]) >>= fun verdict =>
          engine.filter code items >>= fun kept =>
            pure (if verdict.isTruthy then item :: kept else kept) := rfl
    simp only [parts, Run.bind_eq_done, valueOn_eq_done, ih]
    constructor
    · rintro ⟨verdict, _, ⟨left, ran, top, rfl⟩, _, _, ⟨verdicts, judged, rfl⟩, done⟩
      cases done
      exact ⟨verdict :: verdicts, .cons ran top judged, (accepted_cons ..).symm⟩
    · rintro ⟨_, judged, rfl⟩
      cases judged with
      | cons ran top rest =>
        rw [accepted_cons]
        exact ⟨_, _, ⟨_, ran, top, rfl⟩, _, _, ⟨_, rest, rfl⟩, rfl⟩

/-- Filtering a sequence by a block. -/
theorem count_block_apply (engine : Engine) {q : Value} (sequence : q.isSequence = true) (b : Block)
    (base : Stack) (m : Machine) :
    (Operator.count.meaning engine).apply { m with stack := (base.push q).push (.block b) } =
      (engine.filter b.code q.items >>= fun kept =>
        Run.push (Sequence.restore kept (Sequence.isText q))) { m with stack := base } := by
  cases q with
  | string t => rfl
  | array elements => rfl
  | _ => cases sequence

end Engine

namespace Sequence

/-- A sequence is determined by its type and its elements. -/
theorem eq_of_items {q r : Value} (sequence : q.isSequence = true) (type : r.type = q.type)
    (items : r.items = q.items) : r = q := by
  cases q with
  | string t =>
    cases r with
    | string u =>
      have injective : Function.Injective Value.character := fun _ _ same => Value.character.inj same
      exact congrArg Value.string (List.map_injective_iff.2 injective items)
    | _ => cases type
  | array elements =>
    cases r with
    | array others => exact congrArg Value.array items
    | _ => cases type
  | _ => cases sequence

/-- Some elements of a sequence are made a sequence of its type again. -/
theorem restore_of_sublist {q : Value} {kept : List Value} (sequence : q.isSequence = true)
    (some : kept.Sublist q.items) :
    (restore kept (isText q)).isSequence = true ∧ (restore kept (isText q)).type = q.type ∧
      (restore kept (isText q)).items = kept := by
  cases q with
  | string t =>
    obtain ⟨u, -, rfl⟩ := List.sublist_map_iff.1 some
    rw [show isText (.string t) = true from rfl, restore_characters]
    exact ⟨rfl, rfl, rfl⟩
  | array elements => exact ⟨rfl, rfl, rfl⟩
  | _ => cases sequence

end Sequence

/-- Filtering a sequence `q` by a block succeeds exactly if the block has a verdict on each element,
run on it alone in the state that the runs before have left. The result is a sequence of the same
type whose elements are those of `q`, in their order and as they were, with a verdict that counts as
true; the values below stay, and the state is the one that the last run leaves. -/
theorem Operator.filter_ends_iff {q : Value} (sequence : q.isSequence = true) (b : Block)
    (m n : Machine) (base : Stack) :
    count.Ends { m with stack := (base.push q).push (.block b) } (.done () n) ↔
      ∃ verdicts after r, Judged b.Runs { m with stack := base } q.items verdicts after ∧
        r.type = q.type ∧ r.items = accepted q.items verdicts ∧
        n = { after with stack := base.push r } := by
  constructor
  · rintro ⟨-, fuel, applied⟩
    rw [Engine.count_block_apply _ sequence, Run.bind_eq_done] at applied
    obtain ⟨_, after, filtered, pushed⟩ := applied
    obtain ⟨verdicts, judged, rfl⟩ := Engine.filter_eq_done.1 filtered
    obtain ⟨-, type, items⟩ := Sequence.restore_of_sublist sequence judged.accepted_sublist
    have below : after.stack = base := judged.stack_eq
    cases pushed
    refine ⟨verdicts, after, _, judged.imp fun _ _ ran => ⟨fuel, ran⟩, type, items, ?_⟩
    rw [below]
  · rintro ⟨verdicts, after, r, judged, type, items, rfl⟩
    obtain ⟨fuel, judged⟩ := judged.bounded
    obtain ⟨made, type', items'⟩ := Sequence.restore_of_sublist sequence judged.accepted_sublist
    have same : r = Sequence.restore (accepted q.items verdicts) (Sequence.isText q) :=
      Sequence.eq_of_items made (type.trans type'.symm) (items.trans items'.symm)
    have below : after.stack = base := judged.stack_eq
    refine ⟨nofun, fuel, ?_⟩
    rw [Engine.count_block_apply _ sequence, Run.bind_eq_done]
    refine ⟨_, after, Engine.filter_eq_done.2 ⟨verdicts, judged, rfl⟩, ?_⟩
    rw [same, Run.push, below]

/-- A block that drops the element and reads a line instead: which characters are kept is decided by
the input, and the lines that were read are gone. -/
theorem Operator.filter_ends_iff_lines :
    (Value.string ['a', 'X', 'b']).isSequence = true ∧
      ∀ base : Stack,
        count.Ends
          { Machine.initial ⟨[some ['y', '\n'], some ['\n'], some ['y', '\n'], some ['z']]⟩ {} with
            stack := (base.push (.string ['a', 'X', 'b'])).push (.block ⟨[';', 'l'], ⟨1, 1⟩⟩) }
          (.done ()
            { Machine.initial ⟨[some ['z']]⟩ {} with stack := base.push (.string ['a', 'b']) }) := by
  have sequence : (Value.string ['a', 'X', 'b']).isSequence = true := rfl
  let b : Block := ⟨[';', 'l'], ⟨1, 1⟩⟩
  have reads (item : Value) (line : Text) (rest : List (Option Text)) (m : Machine) :
      b.Runs { m with stack := .ofList [item], input := ⟨some line :: rest⟩ }
        { m with stack := .ofList [.string (Text.dropTerminator line)], input := ⟨rest⟩ } :=
    ⟨1, by cbv⟩
  refine ⟨sequence, fun base => ?_⟩
  have judged : Judged b.Runs
      { Machine.initial ⟨[some ['y', '\n'], some ['\n'], some ['y', '\n'], some ['z']]⟩ {} with
        stack := base }
      [.character 'a', .character 'X', .character 'b'] [.string ['y'], .string [], .string ['y']]
      { Machine.initial ⟨[some ['z']]⟩ {} with stack := base } :=
    .cons (reads ..) rfl (.cons (reads ..) rfl (.cons (reads ..) rfl (.nil _)))
  exact (filter_ends_iff sequence b _ _ base).2
    ⟨_, _, .string ['a', 'b'], judged, rfl, rfl, rfl⟩

end Stackscript
