/-
**The response to the last reply.**

Up to the last reply nothing is told. What is told then depends on all that came in, and it is said here
without the coordinator, by the events alone:

* `Due`: **the response that is due** after some events — the first failure if there is one, or else the
  totals of all successes, or the merged rows, by what the last event is;
* `Due.isFailure_iff`, `Due.eq_failure`, `Due.eq_totals` — a failure is due **exactly where one was
  found**, and which response it is;
* `due_at_last` — every run **tells the response that is due** with the end of the last reply;
* `first_failure_is_response` — the recorded failure never changes, and it is the whole response, in one
  packet; without one the response is what is due otherwise.
-/
import ScatterGather.Proofs.Reply.ResultSet
import ScatterGather.Proofs.Reply.Totals

namespace ScatterGather

open Wire

namespace Coordinator

/-! ### What is due -/

/-- **The response that is due** after some events, of which the last is given, in one of three ways that
exclude each other:

* where a failure was found, the first one;
* where none was and the last event is a success, this success with the totals of all;
* where none was and the last event is an end of rows, the columns that came first, the window of the
  merged rows, and this end of rows as it came. -/
inductive Due (window : Window) (orderBy : List OrderKey) (events : List Event) :
    Event → Response → Prop where
  | failure {last : Event} {reply : ErrReply}
      (first : firstFailure? orderBy none events = some reply) :
      Due window orderBy events last (.failure reply)
  | totals {packet : Packet} {connection : Connection} {last : OkReply} {insertId : UInt64}
      (sound : firstFailure? orderBy none events = none)
      (read : OkReply.read packet.payload = .ok last)
      (least : IsLeastId ((successes events).map OkReply.insertId) insertId) :
      Due window orderBy events (.ok packet connection)
        (.totals { last with
          affectedRows := UInt64.ofNat (affectedTotal (successes events)), insertId })
  | result {ending : Packet} {connection : Connection} {rows merged : List Row}
      (sound : firstFailure? orderBy none events = none)
      (read : List.Forall₂ (ReadBy (firstColumns? events)) (offered events) rows)
      (mergedBy : MergedBy ((firstColumns? events).elim [] fun set => sortKeysOf orderBy set.fields)
        rows merged) :
      Due window orderBy events (.eof ending connection)
        (.result (firstColumns? events) (window.cut merged) ending)

namespace Due

variable {window : Window} {orderBy : List OrderKey} {events : List Event} {last : Event}
  {response : Response}

/-- **A failure is due exactly where one was found.** -/
theorem isFailure_iff (due : Due window orderBy events last response) :
    response.isFailure = true ↔ (firstFailure? orderBy none events).isSome = true := by
  cases due with
  | failure first => exact iff_of_true rfl (Option.isSome_of_eq_some first)
  | totals sound =>
    rw [sound]
    exact iff_of_false Bool.false_ne_true Bool.false_ne_true
  | result sound =>
    rw [sound]
    exact iff_of_false Bool.false_ne_true Bool.false_ne_true

/-- Where one was found, the first one is due. -/
theorem eq_failure (due : Due window orderBy events last response) {reply : ErrReply}
    (first : firstFailure? orderBy none events = some reply) : response = .failure reply := by
  cases due with
  | failure other =>
    rw [first] at other
    rw [Option.some.inj other]
  | totals sound =>
    rw [first] at sound
    cases sound
  | result sound =>
    rw [first] at sound
    cases sound

/-- Where none was found, a last success is told with the totals of all. -/
theorem eq_totals {packet : Packet} {connection : Connection}
    (due : Due window orderBy events (.ok packet connection) response)
    (sound : firstFailure? orderBy none events = none) {last : OkReply}
    (read : OkReply.read packet.payload = .ok last) :
    ∃ insertId, IsLeastId ((successes events).map OkReply.insertId) insertId ∧
      response = .totals { last with
        affectedRows := UInt64.ofNat (affectedTotal (successes events)), insertId } := by
  cases due with
  | failure first =>
    rw [sound] at first
    cases first
  | @totals _ _ other insertId _ readOther least =>
    obtain rfl : last = other := Except.ok.inj (read.symm.trans readOther)
    exact ⟨insertId, least, rfl⟩

end Due

/-! ### The response -/

/-- **The response is what is due**, where all is known, added up and gathered of what came in. -/
theorem response_due {window : Window} {orderBy : List OrderKey} {before : List Event} {last : Event}
    {state : Coordinator} (final : last.isFinal = true)
    (failure : state.failure = firstFailure? orderBy none (before ++ [last]))
    (summed : state.failure = none → state.Summed (before ++ [last]))
    (gathered : state.failure = none → state.Gathered window orderBy (before ++ [last])) :
    Due window orderBy (before ++ [last]) last (response last state) := by
  cases found : firstFailure? orderBy none (before ++ [last]) with
  | some reply =>
    rw [response_broken (failure.trans found) last]
    exact .failure found
  | none =>
    have whole := failure.trans found
    have fine : fault? orderBy (firstColumns? before) last = none := by
      rw [firstFailure?_concat, Option.none_or] at found
      exact (Option.or_eq_none_iff.mp found).2
    cases last with
    | ok packet connection =>
      obtain ⟨reply, success⟩ := Option.isSome_iff_exists.mp ((fault?_of_brief rfl orderBy _).mp fine)
      rw [response_of_success whole success, totals, (summed whole).affected]
      exact .totals found (success?_eq_some.mp success) (summed whole).insertId
    | eof ending connection =>
      have all := gathered whole
      have mergedBy := state.gathering.merged_mergedBy
      rw [all.sortKeys] at mergedBy
      unfold response
      rw [failed_of_whole whole, if_neg Bool.false_ne_true, all.columns, all.window]
      exact .result found all.rows mergedBy
    -- A failure and the end of a connection are failures themselves.
    | error packet connection => cases (fault?_of_brief rfl orderBy _).mp fine
    | close reason => cases (fault?_of_brief rfl orderBy _).mp fine
    | field header fields ending connection => cases final
    | row packet connection => cases final
    | setSql sql => cases final

variable (session : Session) (sql : String) (shards : Nat) (window : Window)
  (orderBy : List OrderKey)

/-- **Every run tells the response that is due** with the end of the last reply, whatever follows. -/
theorem due_at_last {before : List Event} {event : Event} (after : List Event)
    (final : event.isFinal = true) (counted : finals (before ++ [event]) = shards) :
    ∃ response : Response, Due window orderBy (before ++ [event]) event response ∧
      response.Reaches session
        (run (step session) (awaiting sql shards window orderBy) (before ++ event :: after)).2 := by
  have one := remaining_before_last session sql shards window orderBy final counted
  have knows := knows_after session sql shards window orderBy before
  refine ⟨_, response_due final (knows.absorb event).failure (fun whole => ?_) (fun whole => ?_),
    response_at_last session sql shards window orderBy after final counted⟩
  · have summed := summed_after session sql window orderBy shards before (whole_of_absorb whole)
    exact (summed.absorb event whole).congr rfl rfl
  · have gathered := gathered_after session sql shards window orderBy before (by omega)
      (whole_of_absorb whole)
    have all := gathered.absorb knows event whole
    exact ⟨all.window, all.columns, all.sortKeys, all.rows⟩

/-- **The first failure is the whole response.** What is recorded is the first failure, and it stays.
All that a run tells the client is the response that is due with the end of the last reply. That is a
failure exactly if there is one up to this event; then it is the first one, in a single packet with the
first id. -/
theorem first_failure_is_response (before : List Event) (event : Event) (after : List Event) :
    let start := awaiting sql shards window orderBy
    let state := (run (step session) start before).1
    let final := run (step session) start (before ++ event :: after)
    let first := firstFailure? orderBy none (before ++ [event])
    state.failure = firstFailure? orderBy none before ∧
      (∀ reply, state.failure = some reply → final.1.failure = some reply) ∧
      (event.isFinal = true → finals (before ++ [event]) = shards →
        ∃ response : Response, Due window orderBy (before ++ [event]) event response ∧
          response.Reaches session final.2 ∧
          (response.isFailure = true ↔ first.isSome = true) ∧
          ∀ reply, first = some reply → savepoints final.2 = [] ∧
            (written final.2).flatten = (Packet.mk 1 reply.payload).bytes) := by
  intro start state final first
  have knows : state.Knows orderBy before :=
    knows_after session sql shards window orderBy before
  refine ⟨knows.failure, fun reply recorded => ?_, fun ends counted => ?_⟩
  · have later := knows_after session sql shards window orderBy (before ++ event :: after)
    rw [show final.1.failure = _ from later.failure]
    exact firstFailure?_append (knows.failure.symm.trans recorded) _
  · obtain ⟨response, due, reaches⟩ :=
      due_at_last session sql shards window orderBy after ends counted
    refine ⟨response, due, reaches, due.isFailure_iff, fun reply found => ?_⟩
    obtain rfl := due.eq_failure found
    exact ⟨reaches.1, reaches.2.trans (wire_numbered_singleton _)⟩

/-- A row that came ahead of its columns is told although both shards succeed; without it they are told
in one success. -/
theorem row_ahead_of_columns_is_told :
    let session : Session := { front := { threshold := 16 } }
    let packet : Packet := ⟨1, OkReply.payload { affectedRows := 3, message := "done" }⟩
    let done : Event := .ok packet default
    let early : Event := .row ⟨1, []⟩ default
    let reply := foundHere "rows offered before the column layout was known"
    let effects (events : List Event) := (run (step session) (awaiting "" 2 {} []) events).2
    (written (effects [early, done, done])).flatten = (Packet.mk 1 reply.payload).bytes ∧
      ∃ total : OkReply, (Response.totals total).Reaches session (effects [done, done]) ∧
        total.affectedRows = 6 ∧ total.message = "done" := by
  intro session packet done early reply effects
  constructor
  · have all := first_failure_is_response session "" 2 {} [] [early, done] done []
    obtain ⟨response, -, -, -, alone⟩ := all.2.2 rfl rfl
    exact (alone reply rfl).2
  · have all := first_failure_is_response session "" 2 {} [] [done] done []
    obtain ⟨response, due, reaches, -, -⟩ := all.2.2 rfl rfl
    have read : OkReply.read packet.payload = .ok { affectedRows := 3, message := "done" } := by
      decide +kernel
    have rows : UInt64.ofNat (affectedTotal (successes ([done] ++ [done]))) = 6 := by decide +kernel
    obtain ⟨insertId, -, rfl⟩ := due.eq_totals (by decide +kernel) read
    exact ⟨_, reaches, rows, rfl⟩

end Coordinator

end ScatterGather
