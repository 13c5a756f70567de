/-
**Runs of a handler.**

* `run`: the state after some events and all that was done at them, in order. Events after events
  continue a run (`run_append`);
* `run_induction` — what holds of the empty history and is kept by **every step** holds of every run,
  as a statement about the history and the state it leads to;
* `histories`, `run_told`: every event with those before it; what a run does is told **event by event**;
* `finals`: how many events of a history end the reply of a shard;
* `written_append`, `savepoints_append`, `written_writes`, …: the effects of one kind, of effects
  one after the other and of chunks that are written.
-/
import Mathlib.Data.List.Induction
import ScatterGather.Reply.Event

namespace ScatterGather

open Wire

/-! ### Runs -/

section Run

variable {State : Type} (step : State → Event → State × List Effect)

/-- The state after some events, and what was done at them. -/
def run (state : State) : List Event → State × List Effect
  | [] => (state, [])
  | event :: rest =>
    let (next, effects) := step state event
    let (final, more) := run next rest
    (final, effects ++ more)

theorem run_cons (state : State) (event : Event) (rest : List Event) :
    run step state (event :: rest) =
      ((run step (step state event).1 rest).1,
        (step state event).2 ++ (run step (step state event).1 rest).2) :=
  rfl

theorem run_singleton (state : State) (event : Event) : run step state [event] = step state event := by
  rw [run_cons]
  simp only [run, List.append_nil]

theorem run_append (state : State) (before after : List Event) :
    run step state (before ++ after) =
      ((run step (run step state before).1 after).1,
        (run step state before).2 ++ (run step (run step state before).1 after).2) := by
  induction before generalizing state with
  | nil => rfl
  | cons event rest ih =>
    simp only [List.cons_append, run_cons, ih, List.append_assoc]

theorem run_concat (state : State) (before : List Event) (event : Event) :
    run step state (before ++ [event]) =
      ((step (run step state before).1 event).1,
        (run step state before).2 ++ (step (run step state before).1 event).2) := by
  rw [run_append]
  simp only [run, List.append_nil]

/-- A run seen otherwise is a run of the steps seen so. -/
theorem run_view {Other : Type} {other : Other → Event → Other × List Effect}
    (view : State → Other)
    (same : ∀ state event, other (view state) event =
      (view (step state event).1, (step state event).2)) (events : List Event) :
    ∀ state, run other (view state) events =
      (view (run step state events).1, (run step state events).2) := by
  induction events with
  | nil => exact fun _ => rfl
  | cons event rest ih =>
    intro state
    rw [run_cons, run_cons, same, ih]

/-- **What every step keeps, every run keeps.** -/
theorem run_induction {start : State} {motive : List Event → State → Prop} (empty : motive [] start)
    (kept : ∀ history state event, motive history state →
      motive (history ++ [event]) (step state event).1) (events : List Event) :
    motive events (run step start events).1 := by
  induction events using List.reverseRecOn with
  | nil => exact empty
  | append_singleton history event ih =>
    rw [run_concat]
    exact kept history _ event ih

end Run

/-! ### Events and what came before them -/

/-- Every event of a history with the events before it. -/
def histories (events : List Event) : List (List Event × Event) :=
  events.mapIdx fun place event => (events.take place, event)

theorem histories_concat (events : List Event) (event : Event) :
    histories (events ++ [event]) = histories events ++ [(events, event)] := by
  unfold histories
  rw [List.mapIdx_concat, List.take_left']
  · refine congrArg (· ++ _) (List.mapIdx_eq_mapIdx_iff.mpr fun place inside => ?_)
    rw [List.take_append_of_le_length (Nat.le_of_lt inside)]
  · rfl

/-- **What a run does is told event by event**, if that of each step is told by the event and those
before it. -/
theorem run_told {State β : Type} {step : State → Event → State × List Effect} {start : State}
    {kind : List Effect → List β}
    (more : ∀ first second, kind (first ++ second) = kind first ++ kind second)
    {told : List Event × Event → List β}
    (same : ∀ before event, kind (step (run step start before).1 event).2 = told (before, event))
    (events : List Event) : kind (run step start events).2 = (histories events).flatMap told := by
  induction events using List.reverseRecOn with
  | nil => exact List.self_eq_append_left.mp (more [] [])
  | append_singleton before event ih =>
    rw [run_concat, more, ih, same, histories_concat, List.flatMap_append, List.flatMap_singleton]

/-! ### Ends of replies -/

/-- How many events end the reply of a shard. -/
def finals (events : List Event) : Nat :=
  events.countP Event.isFinal

theorem finals_append (before after : List Event) :
    finals (before ++ after) = finals before + finals after :=
  List.countP_append

theorem finals_concat (before : List Event) (event : Event) :
    finals (before ++ [event]) = finals before + if event.isFinal then 1 else 0 := by
  rw [finals_append]
  exact congrArg _ List.countP_singleton

/-! ### Effects of one kind -/

theorem written_append (first second : List Effect) :
    written (first ++ second) = written first ++ written second :=
  List.filterMap_append

theorem savepoints_append (first second : List Effect) :
    savepoints (first ++ second) = savepoints first ++ savepoints second :=
  List.filterMap_append

theorem released_append (first second : List Effect) :
    released (first ++ second) = released first ++ released second :=
  List.filterMap_append

theorem recorded_append (first second : List Effect) :
    recorded (first ++ second) = recorded first ++ recorded second :=
  List.filterMap_append

@[simp]
theorem written_writes (chunks : List Chunk) : written (Effect.writes chunks) = chunks := by
  unfold written Effect.writes
  rw [List.filterMap_map]
  exact List.filterMap_some

@[simp]
theorem savepoints_writes (chunks : List Chunk) : savepoints (Effect.writes chunks) = [] := by
  unfold savepoints Effect.writes
  rw [List.filterMap_map]
  exact List.filterMap_eq_nil_iff.mpr fun _ _ => rfl

@[simp]
theorem released_writes (chunks : List Chunk) : released (Effect.writes chunks) = [] := by
  unfold released Effect.writes
  rw [List.filterMap_map]
  exact List.filterMap_eq_nil_iff.mpr fun _ _ => rfl

@[simp]
theorem recorded_writes (chunks : List Chunk) : recorded (Effect.writes chunks) = [] := by
  unfold recorded Effect.writes
  rw [List.filterMap_map]
  exact List.filterMap_eq_nil_iff.mpr fun _ _ => rfl

end ScatterGather
