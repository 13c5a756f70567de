/-
**The barrier of the coordinator.**

Nothing reaches the client until every shard has replied, the last reply is answered with one response,
and nothing follows it. The events may come in any order, be malformed, or be more than were asked for.

* `remaining_after` — the count after a run is the number of shards **less the ends of replies**,
  and never below zero;
* `told_by_run` — what a whole run tells the client is what the **end of the last reply** tells it;
* `one_response_at_last_reply` — every step of every run: silence before the last reply and after
  it, and **exactly one response** with it.
-/
import ScatterGather.Proofs.Reply.Step

namespace ScatterGather

open Wire

namespace Coordinator

variable (session : Session) (sql : String) (shards : Nat) (window : Window)
  (orderBy : List OrderKey)

theorem remaining_after (events : List Event) :
    (run (step session) (awaiting sql shards window orderBy) events).1.remaining =
      shards - finals events := by
  refine run_induction (step session)
    (motive := fun history state => state.remaining = shards - finals history) rfl ?_ events
  intro history state event counted
  rw [step_remaining, counted, finals_concat, Nat.sub_sub]

/-- Before the end of the last reply one is missing. -/
theorem remaining_before_last {before : List Event} {event : Event} (final : event.isFinal = true)
    (last : finals (before ++ [event]) = shards) :
    (run (step session) (awaiting sql shards window orderBy) before).1.remaining = 1 := by
  have total := finals_concat before event
  rw [if_pos final] at total
  rw [remaining_after]
  omega

/-- A run that does not come to the end of the last reply is silent, and so is one that begins behind
it. -/
theorem run_silent (events : List Event) :
    ∀ state : Coordinator, finals events < state.remaining ∨ state.remaining = 0 →
      written (run (step session) state events).2 = [] ∧
        savepoints (run (step session) state events).2 = [] := by
  induction events with
  | nil => exact fun state _ => ⟨rfl, rfl⟩
  | cons event rest ih =>
    intro state silent
    have total : finals (event :: rest) = (if event.isFinal then 1 else 0) + finals rest :=
      (finals_append [event] rest).trans (congrArg (· + finals rest) List.countP_singleton)
    have counted := step_remaining session state event
    have here := step_silent session state event fun final => by
      rw [if_pos final] at total
      omega
    have later := ih (state.step session event).1 (by omega)
    rw [run_cons, written_append, savepoints_append, here.1, here.2, later.1, later.2]
    exact ⟨rfl, rfl⟩

/-- **What a whole run tells the client** is what the end of the last reply tells it. -/
theorem told_by_run {before : List Event} {event : Event} (after : List Event)
    (final : event.isFinal = true) (last : finals (before ++ [event]) = shards) :
    let start := awaiting sql shards window orderBy
    let effects := ((run (step session) start before).1.step session event).2
    written (run (step session) start (before ++ event :: after)).2 = written effects ∧
      savepoints (run (step session) start (before ++ event :: after)).2 = savepoints effects := by
  intro start effects
  have total := finals_concat before event
  rw [if_pos final] at total
  have earlier : finals before < start.remaining := by
    show finals before < shards
    omega
  have none : ((run (step session) start before).1.step session event).1.remaining = 0 := by
    rw [step_remaining, remaining_before_last session sql shards window orderBy final last,
      if_pos final]
  have first := run_silent session before start (Or.inl earlier)
  have rest := run_silent session after _ (Or.inr none)
  rw [run_append, run_cons]
  simp only [written_append, savepoints_append, first.1, first.2, rest.1, rest.2,
    List.nil_append, List.append_nil]
  exact ⟨rfl, rfl⟩

/-- That is the response to the last reply, once this is taken in. -/
theorem response_at_last {before : List Event} {event : Event} (after : List Event)
    (final : event.isFinal = true) (last : finals (before ++ [event]) = shards) :
    let start := awaiting sql shards window orderBy
    let taken := (run (step session) start before).1.absorb event
    (response event { taken with remaining := 0 }).Reaches session
      (run (step session) start (before ++ event :: after)).2 :=
  (step_last session _ final
    (remaining_before_last session sql shards window orderBy final last)).congr
      (told_by_run session sql shards window orderBy after final last)

/-- **One response, with the last reply.** Whatever came before, a step counts an end of a reply and
nothing else; it is silent as long as replies are missing; the end of the last reply is told as one
response, either deferred or written; and once all replies are in every step is silent. -/
theorem one_response_at_last_reply (before : List Event) (event : Event) :
    let state := (run (step session) (awaiting sql shards window orderBy) before).1
    let effects := (state.step session event).2
    (state.step session event).1.remaining = shards - finals (before ++ [event]) ∧
      (finals (before ++ [event]) < shards → written effects = [] ∧ savepoints effects = []) ∧
      (event.isFinal = true → finals (before ++ [event]) = shards →
        ((∃ reply, savepoints effects = [(reply, 1)]) ∧ written effects = []) ∨
          (savepoints effects = [] ∧ written effects ≠ [] ∧
            ∃ response : Response, (written effects).flatten = response.bytes)) ∧
      (shards ≤ finals before → written effects = [] ∧ savepoints effects = []) := by
  intro state effects
  have counted : state.remaining = shards - finals before :=
    remaining_after session sql shards window orderBy before
  have total := finals_concat before event
  refine ⟨?_, fun missing => ?_, fun final last => ?_, fun answered => ?_⟩
  · rw [step_remaining, counted, total, Nat.sub_sub]
  · refine step_silent session state event fun final => ?_
    rw [if_pos final] at total
    omega
  · have one := remaining_before_last session sql shards window orderBy final last
    refine (step_last session state final one).one.imp_right fun told => ?_
    exact ⟨told.1, told.2.1, _, told.2.2⟩
  · refine step_silent session state event fun _ => ?_
    omega

end Coordinator

end ScatterGather
