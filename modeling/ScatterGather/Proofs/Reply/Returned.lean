/-
**Connections given back, statements recorded, columns made known once.**

Whatever comes in, in whatever order, before a failure or after one, for a statement that is under way or
for one that is done with:

* `Event.returned?`, `Event.completed?`: the connection that a reply came to its end on, and the one that it
  came to its end on without a failure;
* `SetupFails`, `returns`, `completion?`: what is given back and recorded at an event, told by **the event
  and those before it**;
* `Coordinator.call?`, `Coordinator.calls`: how a coordinator uses its gathering, at each event at most
  once (`follows_step`);
* `connections_returned` — **no connection is lost** or given back twice, every reply is recorded **once**,
  and columns are made known at most once.
-/
import ScatterGather.Proofs.Gather.Calls
import ScatterGather.Proofs.Reply.OneShard
import ScatterGather.Proofs.Sequence

namespace ScatterGather

open Wire

/-! ### Connections -/

/-- The connection that an event came on. -/
def Event.connection? : Event → Option Connection
  | .ok _ connection => some connection
  | .error _ connection => some connection
  | .field _ _ _ connection => some connection
  | .row _ connection => some connection
  | .eof _ connection => some connection
  | _ => none

/-- The connection that is done with at an event: a success, a failure or the end of rows came on it. -/
def Event.returned? : Event → Option Connection
  | .ok _ connection => some connection
  | .error _ connection => some connection
  | .eof _ connection => some connection
  | _ => none

/-- The connection on which a statement came to its end without a failure. -/
def Event.completed? : Event → Option Connection
  | .ok _ connection => some connection
  | .eof _ connection => some connection
  | _ => none

/-- The text that an event brings. -/
def Event.text? : Event → Option String
  | .setSql sql => some sql
  | _ => none

/-- The text of the statement: the latest one, or the one that was known before. -/
def latestText (sql : String) (before : List Event) : String :=
  (before.filterMap Event.text?).getLastD sql

theorem latestText_concat (sql : String) (before : List Event) (event : Event) :
    latestText sql (before ++ [event]) = event.text?.getD (latestText sql before) := by
  unfold latestText
  rw [filterMap_concat]
  cases event.text? with
  | none => rw [Option.toList_none, List.append_nil, Option.getD_none]
  | some text => rw [Option.toList_some, List.getLastD_concat, Option.getD_some]

/-! ### Columns that come first -/

/-- Columns come in at an event, and none have before. -/
def FirstColumns (history : List Event × Event) : Prop :=
  firstColumns? history.1 = none ∧ history.2.columns?.isSome = true

instance : DecidablePred FirstColumns :=
  fun history => inferInstanceAs (Decidable (firstColumns? history.1 = none ∧ _))

/-- **Columns come first only once.** -/
theorem countP_firstColumns (events : List Event) :
    (histories events).countP FirstColumns = (firstColumns? events).toList.length := by
  induction events using List.reverseRecOn with
  | nil => rfl
  | append_singleton before event ih =>
    rw [histories_concat, List.countP_append, ih, List.countP_singleton, firstColumns?_concat]
    cases known : firstColumns? before with
    | some set =>
      rw [if_neg (by simp [FirstColumns, known])]
      rfl
    | none =>
      cases brings : event.columns? with
      | none =>
        rw [if_neg (by simp [FirstColumns, brings])]
        rfl
      | some set =>
        rw [if_pos (by simp [FirstColumns, known, brings])]
        rfl

theorem countP_le_of_firstColumns {kind : List Event × Event → Bool}
    (first : ∀ history, kind history = true → FirstColumns history) (events : List Event) :
    (histories events).countP kind ≤ 1 := by
  refine Nat.le_trans (List.countP_mono_left fun history _ holds =>
    decide_eq_true (first history holds)) ?_
  rw [countP_firstColumns]
  cases firstColumns? events with
  | none => exact Nat.zero_le 1
  | some set => exact Nat.le_refl 1

/-! ### What is done at an event -/

/-- **Columns fail at an event**: they do not fit, they are the first ones, and nothing has failed before
them. -/
def SetupFails (orderBy : List OrderKey) (history : List Event × Event) : Prop :=
  FirstColumns history ∧ firstFailure? orderBy none history.1 = none ∧
    ∃ set ∈ history.2.columns?, (Coordinator.misfit? orderBy set.fields).isSome = true

instance (orderBy : List OrderKey) : DecidablePred (SetupFails orderBy) :=
  fun history => inferInstanceAs (Decidable (FirstColumns history ∧ _ ∧
    ∃ set ∈ history.2.columns?, (Coordinator.misfit? orderBy set.fields).isSome = true))

/-- The connections that are given back at an event: the one that is done with, or the one whose columns
fail. -/
def returns (orderBy : List OrderKey) (history : List Event × Event) : List Connection :=
  if SetupFails orderBy history then history.2.connection?.toList else history.2.returned?.toList

/-- What is recorded at an event: where the statement came to its end, and the latest text of it. -/
def completion? (sql : String) (history : List Event × Event) : Option (Datasource × String) :=
  history.2.completed?.map fun connection => (connection.source, latestText sql history.1)

/-- Tells whether a call makes columns known. -/
def Gathering.Call.isLearn : Gathering.Call → Bool
  | learn .. => true
  | _ => false

namespace Coordinator

/-! ### Steps -/

variable (session : Session)

/-- A step keeps the text, unless the event brings one. -/
theorem step_sql (state : Coordinator) (event : Event) :
    (state.step session event).1.sql = event.text?.getD state.sql := by
  have absorbed : (state.absorb event).sql = event.text?.getD state.sql := by
    cases event with
    | ok packet connection =>
      simp only [absorb]
      split
      · rfl
      · cases OkReply.read packet.payload <;> rfl
    | field header fields eof connection =>
      rw [absorb, onFields_eq]
      split
      · rfl
      · split <;> rfl
    | row packet connection =>
      rw [absorb, onRow]
      split
      · rfl
      · cases state.gathering.add packet.payload <;> rfl
    | error packet connection => rfl
    | eof packet connection => rfl
    | close reason => rfl
    | setSql sql => rfl
  exact (congrArg Coordinator.sql (step_lasting session state event) :).trans absorbed

/-- **Columns fail** if they do not fit and the coordinator takes them in at all. -/
theorem setupFails_iff {orderBy : List OrderKey} {before : List Event} {state : Coordinator}
    (knows : state.Knows orderBy before) (set : FieldSet) (connection : Connection) :
    SetupFails orderBy (before, .field set.header set.fields set.eof connection) ↔
      (state.failed || state.fieldsSeen) = false ∧
        (misfit? state.gathering.orderBy set.fields).isSome = true := by
  have shape : SetupFails orderBy (before, .field set.header set.fields set.eof connection) ↔
      (firstColumns? before = none ∧ firstFailure? orderBy none before = none) ∧
        (misfit? orderBy set.fields).isSome = true := by
    simp [SetupFails, FirstColumns, Event.columns?, and_assoc]
  rw [shape, ← knows.failure]
  cases broken : state.failure with
  | some reply =>
    rw [failed_of_broken broken]
    exact iff_of_false (fun fails => Option.some_ne_none _ fails.1.2)
      (fun fails => Bool.false_ne_true fails.1.symm)
  | none =>
    have layout := knows.layout broken
    rw [failed_of_whole broken, Bool.false_or, layout.seen, layout.orderBy, Option.isSome_eq_false_iff,
      Option.isNone_iff_eq_none]
    exact and_congr_left fun _ => and_iff_left rfl

/-- **What a step gives back** is told by what came before it. -/
theorem step_returns {orderBy : List OrderKey} {before : List Event} {state : Coordinator}
    (knows : state.Knows orderBy before) (event : Event) :
    released (state.step session event).2 = returns orderBy (before, event) := by
  rw [(step_notes session state event).1]
  cases event with
  | field header fields eof connection =>
    have fails := setupFails_iff knows ⟨header, fields, eof⟩ connection
    rw [notes, onFields_eq, returns]
    split
    · next early =>
      rw [if_neg (fun failing => Bool.false_ne_true ((fails.mp failing).1.symm.trans early))]
      rfl
    · next taken =>
      have taken := Bool.eq_false_iff.mpr taken
      cases misfit : misfit? state.gathering.orderBy fields with
      | some text =>
        rw [if_pos (fails.mpr ⟨taken, by rw [misfit]; rfl⟩)]
        rfl
      | none =>
        have fine : ¬ SetupFails orderBy (before, .field header fields eof connection) := fun failing => by
          have misfits := (fails.mp failing).2
          rw [misfit] at misfits
          cases misfits
        rw [if_neg fine]
        rfl
  | ok packet connection => exact (if_neg fun fails => Bool.false_ne_true fails.1.2).symm
  | error packet connection => exact (if_neg fun fails => Bool.false_ne_true fails.1.2).symm
  | row packet connection => exact (if_neg fun fails => Bool.false_ne_true fails.1.2).symm
  | eof packet connection => exact (if_neg fun fails => Bool.false_ne_true fails.1.2).symm
  | close reason => exact (if_neg fun fails => Bool.false_ne_true fails.1.2).symm
  | setSql sql => exact (if_neg fun fails => Bool.false_ne_true fails.1.2).symm

/-- A step records the end of a statement with the text that is known. -/
theorem step_records (state : Coordinator) (event : Event) :
    recorded (state.step session event).2 =
      (event.completed?.map fun connection => (connection.source, state.sql)).toList := by
  rw [(step_notes session state event).2]
  cases event with
  | field header fields eof connection =>
    rw [notes, onFields_eq]
    split
    · rfl
    · split <;> rfl
  | ok packet connection => rfl
  | error packet connection => rfl
  | row packet connection => rfl
  | eof packet connection => rfl
  | close reason => rfl
  | setSql sql => rfl

/-! ### How the gathering is used -/

/-- The call that an event comes to: columns are made known, as the first ones and if they can be read; a
row is added; all rows are taken at the end of the last reply. Nothing is called once something has
failed. -/
def call? (state : Coordinator) : Event → Option Gathering.Call
  | .field _ fields _ _ =>
    if state.failed || state.fieldsSeen then none
    else
      match columnsOf fields with
      | .ok columns => some (.learn columns fields.length)
      | .error _ => none
  | .row packet _ => if state.failed then none else some (.add packet.payload)
  | .eof .. => if state.failed || state.remaining != 1 then none else some .take
  | _ => none

/-- Taking in the end of a reply leaves the gathering as it is. -/
theorem absorb_gathering (state : Coordinator) {event : Event} (final : event.isFinal = true) :
    (state.absorb event).gathering = state.gathering := by
  cases event with
  | ok packet connection =>
    simp only [absorb]
    split
    · rfl
    · cases OkReply.read packet.payload <;> rfl
  | error packet connection => rfl
  | eof packet connection => rfl
  | close reason => rfl
  | field header fields eof connection => cases final
  | row packet connection => cases final
  | setSql sql => cases final

/-- An answer takes the rows if it is that of the end of rows, and nothing has failed. -/
theorem respond_gathering (state : Coordinator) (event : Event) :
    (respond session event state).1.gathering =
      match event with
      | .eof .. => if state.failed then state.gathering else state.gathering.take.2
      | _ => state.gathering := by
  unfold respond
  by_cases broken : state.failed = true
  · rw [if_pos broken]
    cases event with
    | eof packet connection => exact (if_pos broken).symm
    | _ => rfl
  · rw [if_neg broken]
    cases event with
    | eof packet connection => exact (if_neg broken).symm
    | ok packet connection =>
      dsimp only
      cases OkReply.read packet.payload <;> rfl
    | _ => rfl

/-- A failure of the coordinator's own is the failure, where there is none before it. -/
theorem failure_failWith {state : Coordinator} (sound : state.failed = false) (text : String) :
    (state.failWith text).failure = some (foundHere text) := by
  have whole : state.failure = none := Option.isNone_iff_eq_none.mp (Option.isSome_eq_false_iff.mp sound)
  rw [failWith, fail, whole]
  rfl

/-- What a step owes the call that its event comes to: what the call leaves of the gathering, and the
failure if the call is refused. -/
def Follows (call? : Option Gathering.Call) (state next : Coordinator) : Prop :=
  next.gathering = state.gathering.after call?.toList ∧
    ∀ call ∈ call?, ∀ cause, (state.gathering.call call).1 = .refused cause →
      next.failure = some (foundHere cause.message)

section Follows

variable {state next : Coordinator} {call : Gathering.Call}

theorem follows_none (kept : next.gathering = state.gathering) : Follows none state next :=
  ⟨kept, fun call called => absurd called (Option.not_mem_none call)⟩

theorem follows_done (done : state.gathering.call call = (.done, next.gathering)) :
    Follows (some call) state next := by
  refine ⟨(congrArg Prod.snd done).symm, fun other called cause refused => ?_⟩
  obtain rfl := Option.mem_some_iff.mp called
  rw [done] at refused
  cases refused

theorem follows_refused {cause : GatherError}
    (refused : state.gathering.call call = (.refused cause, next.gathering))
    (fails : next.failure = some (foundHere cause.message)) : Follows (some call) state next := by
  refine ⟨(congrArg Prod.snd refused).symm, fun other called why same => ?_⟩
  obtain rfl := Option.mem_some_iff.mp called
  rw [refused] at same
  obtain rfl := Gathering.Answer.refused.inj same
  exact fails

end Follows

/-- Columns that come first are made known to the gathering, if they can be read. -/
theorem follows_onFields (state : Coordinator) (set : FieldSet) (connection : Connection) :
    Follows (state.call? (.field set.header set.fields set.eof connection)) state
      (state.onFields set connection).1 := by
  rw [onFields, call?]
  split
  · exact follows_none rfl
  · next taken =>
    have sound : state.failed = false := (Bool.or_eq_false_iff.mp (Bool.eq_false_iff.mpr taken)).1
    dsimp only
    unfold setFields
    cases columnsOf set.fields with
    | error cause => exact follows_none rfl
    | ok columns =>
      dsimp only
      cases learnt : state.gathering.learn columns set.fields.length with
      | ok gathering => exact follows_done (by rw [Gathering.call, learnt, Gathering.attempt])
      | error cause =>
        refine follows_refused ?_ (failure_failWith sound cause.message)
        rw [Gathering.call, learnt, Gathering.attempt]
        rfl

/-- A row is added to the gathering unless something has failed. -/
theorem follows_onRow (state : Coordinator) (packet : Packet) (connection : Connection) :
    Follows (state.call? (.row packet connection)) state (state.onRow packet) := by
  rw [onRow, call?]
  split
  · exact follows_none rfl
  · next whole =>
    have sound : state.failed = false := Bool.eq_false_iff.mpr whole
    cases added : state.gathering.add packet.payload with
    | ok gathering => exact follows_done (by rw [Gathering.call, added, Gathering.attempt])
    | error cause =>
      refine follows_refused ?_ (failure_failWith sound cause.message)
      rw [Gathering.call, added, Gathering.attempt]
      rfl

/-- **A step uses the gathering by the call its event comes to**, and not otherwise; where the call is
refused, that is the failure. -/
theorem follows_step (state : Coordinator) (event : Event) :
    Follows (state.call? event) state (state.step session event).1 := by
  cases final : event.isFinal with
  | false =>
    rw [step_other session state final]
    cases event with
    | field header fields eof connection => exact follows_onFields state ⟨header, fields, eof⟩ connection
    | row packet connection => exact follows_onRow state packet connection
    | setSql sql => exact follows_none rfl
    | _ => cases final
  | true =>
    -- Only the end of rows comes to a call, which is never refused.
    have kept := absorb_gathering state final
    have ends : ∀ call ∈ state.call? event, ∀ cause, (state.gathering.call call).1 ≠ .refused cause := by
      cases event with
      | eof packet connection =>
        intro call called cause refused
        rw [call?] at called
        split at called
        · cases called
        · cases called
          cases refused
      | field header fields eof connection => cases final
      | row packet connection => cases final
      | _ => exact fun call called => absurd called (Option.not_mem_none call)
    refine ⟨?_, fun call called cause refused => absurd refused (ends call called cause)⟩
    rw [step_final session state final]
    by_cases last : (state.absorb event).remaining = 1
    · rw [countDown_last _ _ last, respond_gathering]
      cases event with
      | eof packet connection =>
        have last : state.remaining = 1 := last
        rw [call?, last, bne_self_eq_false, Bool.or_false]
        by_cases broken : state.failed = true
        · rw [if_pos broken]
          exact if_pos broken
        · rw [if_neg broken]
          exact if_neg broken
      | field header fields eof connection => cases final
      | row packet connection => cases final
      | _ => exact kept
    · rw [countDown_other _ _ last]
      cases event with
      | eof packet connection =>
        have more : (state.remaining != 1) = true := bne_iff_ne.mpr last
        rw [call?, more, Bool.or_true, if_pos rfl]
        rfl
      | field header fields eof connection => cases final
      | row packet connection => cases final
      | _ => exact kept

/-! ### Runs -/

variable (sql : String) (shards : Nat) (window : Window) (orderBy : List OrderKey)

theorem sql_after (events : List Event) :
    (run (step session) (awaiting sql shards window orderBy) events).1.sql = latestText sql events := by
  refine run_induction (step session) (motive := fun history state => state.sql = latestText sql history)
    rfl ?_ events
  intro history state event known
  rw [step_sql, latestText_concat, known]

/-- The calls of the gathering in a run. -/
def calls (start : Coordinator) (events : List Event) : List Gathering.Call :=
  (histories events).filterMap fun history => (run (step session) start history.1).1.call? history.2

theorem calls_concat (start : Coordinator) (before : List Event) (event : Event) :
    calls session start (before ++ [event]) = calls session start before ++
      ((run (step session) start before).1.call? event).toList := by
  unfold calls
  rw [histories_concat, filterMap_concat]

/-- What the calls of a run leave of the gathering is what the run leaves of it. -/
theorem gathering_after (start : Coordinator) (events : List Event) :
    (run (step session) start events).1.gathering =
      start.gathering.after (calls session start events).reverse := by
  induction events using List.reverseRecOn with
  | nil => rfl
  | append_singleton before event ih =>
    rw [run_concat, (follows_step session _ event).1, ih, calls_concat, List.reverse_append]
    cases (run (step session) start before).1.call? event <;> rfl

/-- Columns are made known with the columns that come first. -/
theorem firstColumns_of_learn {before : List Event} {event : Event} {call : Gathering.Call}
    (called : (run (step session) (awaiting sql shards window orderBy) before).1.call? event = some call)
    (learns : call.isLearn = true) : FirstColumns (before, event) := by
  have knows := knows_after session sql shards window orderBy before
  cases event with
  | field header fields eof connection =>
    rw [call?] at called
    split at called
    · cases called
    · next taken =>
      obtain ⟨sound, unseen⟩ := Bool.or_eq_false_iff.mp (Bool.eq_false_iff.mpr taken)
      have whole := Option.isNone_iff_eq_none.mp (Option.isSome_eq_false_iff.mp sound)
      rw [(knows.layout whole).seen, Option.isSome_eq_false_iff, Option.isNone_iff_eq_none] at unseen
      exact ⟨unseen, rfl⟩
  | row packet connection =>
    rw [call?] at called
    split at called <;> cases called
    cases learns
  | eof packet connection =>
    rw [call?] at called
    split at called <;> cases called
    cases learns
  | _ => cases called

/-- **No connection is lost, and every reply is recorded once.** Whatever comes in: the connections given
back are those of successes, failures and ends of rows, in order, and in its place the one whose columns
fail, of which there is one at most; what is recorded is one statement for every success and every end of
rows, in order, where it came from and with the latest text; and the gathering, which nothing but its calls
changes, is told of columns once at most. -/
theorem connections_returned (events : List Event) :
    let start := awaiting sql shards window orderBy
    let final := run (step session) start events
    released final.2 = (histories events).flatMap (returns orderBy) ∧
      (histories events).countP (SetupFails orderBy) ≤ 1 ∧
      recorded final.2 = (histories events).filterMap (completion? sql) ∧
      final.1.gathering = start.gathering.after (calls session start events).reverse ∧
      (calls session start events).countP Gathering.Call.isLearn ≤ 1 := by
  intro start final
  refine ⟨?_, ?_, ?_, gathering_after session start events, ?_⟩
  · exact run_told released_append (fun before event =>
      step_returns session (knows_after session sql shards window orderBy before) event) events
  · exact countP_le_of_firstColumns (fun history fails => (of_decide_eq_true fails).1) events
  · rw [List.filterMap_eq_flatMap_toList]
    refine run_told recorded_append (fun before event => ?_) events
    rw [step_records, sql_after, completion?]
  · rw [calls, List.countP_filterMap]
    refine countP_le_of_firstColumns (fun history learns => ?_) events
    cases called : (run (step session) start history.1).1.call? history.2 with
    | none =>
      rw [called] at learns
      cases learns
    | some call =>
      rw [called] at learns
      exact firstColumns_of_learn session sql shards window orderBy called learns

/-- Columns that cannot be read give their connection back, and later ones do not. -/
example :
    let connection := fun id => Connection.mk id ⟨"db", 3306, "shop", 0⟩
    let unreadable := fun id => Event.field ⟨1, [1]⟩ [⟨2, [3]⟩] ⟨3, [0xfe]⟩ (connection id)
    released (run (step ⟨⟨8⟩, false⟩) (awaiting "" 2 {} [])
      [unreadable 1, unreadable 2, .error ⟨1, []⟩ (connection 2)]).2 = [connection 1, connection 2] := by
  decide +kernel

end Coordinator

end ScatterGather
