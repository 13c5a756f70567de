/-
**The first failure, and what becomes of it.**

Failures come from five kinds of events, and three of these end no reply. Which of them is the first one
is said here without the coordinator, by what shards send alone:

* `fault?`: the failure that an event is, where none came before it, as code, state and text;
* `firstFailure?`: the failure of the first such event of a history;
* `Knows`: **the invariant** — the coordinator has recorded exactly the first failure, and while there
  is none it knows the columns that came first;
* `knows_after` — every run keeps it; and a recorded failure is the response (`response_broken`),
  whatever the last reply is.
-/
import ScatterGather.Proofs.Reply.Barrier

namespace ScatterGather

open Wire

/-! ### Failures as shards send them -/

/-- A failure that is found here: code 1003. -/
def foundHere (text : String) : ErrReply :=
  ⟨1003, "HY000", "internal error: " ++ text⟩

/-- A connection that went away: code 2013. -/
def connectionLost (reason : String) : ErrReply :=
  ⟨2013, "HY000", "connection error: " ++ reason⟩

/-- The columns that an event brings. -/
def Event.columns? : Event → Option FieldSet
  | .field header fields ending _ => some ⟨header, fields, ending⟩
  | _ => none

/-- The columns that came first. -/
def firstColumns? (events : List Event) : Option FieldSet :=
  events.findSome? Event.columns?

/-- The failure that an event is, where no failure and, at most, the columns `known` came before it.
Columns after the first are passed over, and so they are no failure whatever they are. -/
def fault? (orderBy : List OrderKey) (known : Option FieldSet) : Event → Option ErrReply
  | .ok packet _ =>
    match OkReply.read packet.payload with
    | .ok _ => none
    | .error cause => some (foundHere ("malformed OK packet: " ++ cause.message))
  | .error packet _ =>
    match ErrReply.read packet.payload with
    | .ok reply => some reply
    | .error cause => some (foundHere ("malformed error packet: " ++ cause.message))
  | .field _ fields _ _ =>
    if known.isSome then none else (Coordinator.misfit? orderBy fields).map foundHere
  | .row packet _ =>
    (Gathering.refused? (known.map fun set => set.fields.length) packet.payload).map foundHere
  | .close reason => some (connectionLost reason)
  | _ => none

/-- The first failure of some events, where no failure and, at most, the columns `known` came before
them. -/
def firstFailure? (orderBy : List OrderKey) : Option FieldSet → List Event → Option ErrReply
  | _, [] => none
  | known, event :: rest =>
    (fault? orderBy known event).or (firstFailure? orderBy (known.or event.columns?) rest)

theorem firstColumns?_concat (events : List Event) (event : Event) :
    firstColumns? (events ++ [event]) = (firstColumns? events).or event.columns? := by
  unfold firstColumns?
  rw [List.findSome?_append, List.findSome?_singleton]

/-- The first failure of a history is an earlier one, or else that of its last event. -/
theorem firstFailure?_concat (orderBy : List OrderKey) (known : Option FieldSet)
    (events : List Event) (event : Event) :
    firstFailure? orderBy known (events ++ [event]) =
      (firstFailure? orderBy known events).or
        (fault? orderBy (known.or (firstColumns? events)) event) := by
  induction events generalizing known with
  | nil =>
    show (fault? orderBy known event).or none = none.or (fault? orderBy (known.or none) event)
    rw [Option.or_none, Option.none_or, Option.or_none]
  | cons earlier rest ih =>
    have columns : (known.or earlier.columns?).or (firstColumns? rest) =
        known.or (firstColumns? (earlier :: rest)) := by
      rw [Option.or_assoc]
      congr 1
      unfold firstColumns?
      rw [List.findSome?_cons]
      cases earlier.columns? <;> rfl
    rw [List.cons_append, firstFailure?, firstFailure?, ih, columns, Option.or_assoc]

/-- The first failure stays the first, whatever follows. -/
theorem firstFailure?_append {orderBy : List OrderKey} {events : List Event} {reply : ErrReply}
    (found : firstFailure? orderBy none events = some reply) (more : List Event) :
    firstFailure? orderBy none (events ++ more) = some reply := by
  induction more using List.reverseRecOn with
  | nil => rw [List.append_nil, found]
  | append_singleton more event ih =>
    rw [← List.append_assoc, firstFailure?_concat, ih, Option.some_or]

namespace Coordinator

/-! ### What the coordinator records -/

theorem failed_of_broken {state : Coordinator} {reply : ErrReply}
    (broken : state.failure = some reply) : state.failed = true := by
  rw [failed, broken]
  rfl

theorem failed_of_whole {state : Coordinator} (whole : state.failure = none) :
    state.failed = false := by
  rw [failed, whole]
  rfl

theorem absorb_failed {state : Coordinator} {reply : ErrReply}
    (broken : state.failure = some reply) (event : Event) :
    (state.absorb event).failure = some reply := by
  have failed := failed_of_broken broken
  cases event with
  | ok packet connection =>
    rw [absorb, if_pos failed]
    exact broken
  | error packet connection => simp only [absorb, fail, broken, Option.getD_some]
  | field header fields eof connection =>
    rw [absorb, onFields_eq, failed, Bool.true_or, if_pos rfl]
    exact broken
  | row packet connection =>
    rw [absorb, onRow, if_pos failed]
    exact broken
  | eof packet connection => exact broken
  | close reason => simp only [absorb, fail, broken, Option.getD_some]
  | setSql sql => exact broken

/-- Where nothing has failed after an event, nothing had before it. -/
theorem whole_of_absorb {state : Coordinator} {event : Event}
    (whole : (state.absorb event).failure = none) : state.failure = none := by
  cases broken : state.failure with
  | none => rfl
  | some reply =>
    rw [absorb_failed broken event] at whole
    cases whole

/-- What the coordinator knows of the columns: the order, and how many columns came first. -/
structure Layout (orderBy : List OrderKey) (known : Option FieldSet) (state : Coordinator) :
    Prop where
  orderBy : state.gathering.orderBy = orderBy
  seen : state.fieldsSeen = known.isSome
  count : state.gathering.fieldCount = known.map fun set => set.fields.length

/-- **A failure is recorded where an event is one**, and then alone. -/
theorem absorb_whole {orderBy : List OrderKey} {known : Option FieldSet} {state : Coordinator}
    (whole : state.failure = none) (layout : state.Layout orderBy known) (event : Event) :
    (state.absorb event).failure = fault? orderBy known event ∧
      (fault? orderBy known event = none →
        (state.absorb event).Layout orderBy (known.or event.columns?)) := by
  have sound := failed_of_whole whole
  have same : state.Layout orderBy (known.or none) := by rw [Option.or_none]; exact layout
  cases event with
  | ok packet connection =>
    cases read : OkReply.read packet.payload with
    | ok reply =>
      simp only [absorb, sound, fault?, read, Bool.false_eq_true, if_false]
      exact ⟨whole, fun _ => ⟨same.orderBy, same.seen, same.count⟩⟩
    | error cause =>
      simp only [absorb, sound, fault?, read, failWith, fail, whole, Bool.false_eq_true, if_false]
      exact ⟨rfl, fun none => absurd none (Option.some_ne_none _)⟩
  | error packet connection =>
    cases read : ErrReply.read packet.payload with
    | ok reply =>
      simp only [absorb, fault?, shardError, read, fail, whole]
      exact ⟨rfl, fun none => absurd none (Option.some_ne_none _)⟩
    | error cause =>
      simp only [absorb, fault?, shardError, read, fail, whole]
      exact ⟨rfl, fun none => absurd none (Option.some_ne_none _)⟩
  | field header fields eof connection =>
    rw [absorb, onFields_eq, sound, Bool.false_or, layout.seen]
    cases known with
    | some set =>
      simp only [fault?, Option.isSome_some, if_true]
      exact ⟨whole, fun _ => ⟨layout.orderBy, layout.seen, layout.count⟩⟩
    | none =>
      simp only [fault?, Option.isSome_none, layout.orderBy, Bool.false_eq_true, if_false]
      cases misfit? orderBy fields with
      | some text =>
        simp only [failWith, fail, whole]
        exact ⟨rfl, fun none => absurd none (Option.some_ne_none _)⟩
      | none => exact ⟨whole, fun _ => ⟨layout.orderBy, rfl, rfl⟩⟩
  | row packet connection =>
    rw [absorb, onRow, sound, if_neg Bool.false_ne_true, fault?, ← layout.count]
    rcases state.gathering.add_eq packet.payload with
      ⟨count, row, -, -, fine, added⟩ | ⟨cause, refused, rejected⟩
    · simp only [added, fine]
      exact ⟨whole, fun _ => ⟨same.orderBy, same.seen, same.count⟩⟩
    · simp only [rejected, refused, failWith, fail, whole]
      exact ⟨rfl, fun none => absurd none (Option.some_ne_none _)⟩
  | eof packet connection => exact ⟨whole, fun _ => same⟩
  | close reason =>
    simp only [absorb, fail, whole]
    exact ⟨rfl, fun none => absurd none (Option.some_ne_none _)⟩
  | setSql sql => exact ⟨whole, fun _ => ⟨same.orderBy, same.seen, same.count⟩⟩

/-- **What the coordinator knows after a history**: its first failure, or else the columns that came
first. -/
structure Knows (orderBy : List OrderKey) (history : List Event) (state : Coordinator) : Prop where
  failure : state.failure = firstFailure? orderBy none history
  layout : state.failure = none → state.Layout orderBy (firstColumns? history)

theorem Knows.absorb {orderBy : List OrderKey} {history : List Event} {state : Coordinator}
    (knows : state.Knows orderBy history) (event : Event) :
    (state.absorb event).Knows orderBy (history ++ [event]) := by
  have first := firstFailure?_concat orderBy none history event
  rw [Option.none_or, ← knows.failure] at first
  cases broken : state.failure with
  | some reply =>
    rw [broken, Option.some_or] at first
    have stays := absorb_failed broken event
    exact ⟨stays.trans first.symm, fun whole => absurd (stays.symm.trans whole) nofun⟩
  | none =>
    rw [broken, Option.none_or] at first
    obtain ⟨recorded, known⟩ := absorb_whole broken (knows.layout broken) event
    refine ⟨recorded.trans first.symm, fun whole => ?_⟩
    rw [firstColumns?_concat]
    exact known (recorded.symm.trans whole)

theorem Knows.of_lasting {orderBy : List OrderKey} {history : List Event}
    {state other : Coordinator} (knows : state.Knows orderBy history)
    (same : other.lasting = state.lasting) : other.Knows orderBy history := by
  have failure : other.failure = state.failure := (congrArg Coordinator.failure same :)
  have gathering : other.lasting.gathering = state.lasting.gathering :=
    congrArg Coordinator.gathering same
  refine ⟨failure.trans knows.failure, fun whole => ?_⟩
  obtain ⟨ordered, seen, count⟩ := knows.layout (failure.symm.trans whole)
  exact ⟨(congrArg Gathering.orderBy gathering :).trans ordered,
    (congrArg Coordinator.fieldsSeen same :).trans seen,
    (congrArg Gathering.fieldCount gathering :).trans count⟩

variable (session : Session) (sql : String) (shards : Nat) (window : Window)
  (orderBy : List OrderKey)

/-- **Every run keeps what it knows.** -/
theorem knows_after (events : List Event) :
    (run (step session) (awaiting sql shards window orderBy) events).1.Knows orderBy events := by
  refine run_induction (step session) (motive := fun history state => state.Knows orderBy history)
    ⟨rfl, fun _ => ⟨rfl, rfl, rfl⟩⟩ ?_ events
  intro history state event knows
  exact (knows.absorb event).of_lasting (step_lasting session state event)

/-! ### The response -/

theorem response_broken {state : Coordinator} {reply : ErrReply}
    (broken : state.failure = some reply) (event : Event) :
    response event state = .failure reply := by
  have failed := failed_of_broken broken
  unfold response
  rw [if_pos failed, reason, broken, Option.getD_some]

end Coordinator

end ScatterGather
