/-
**One step of the coordinator, in three parts.**

Every event is first *taken in*: totals, columns, rows or a failure change what is known. An event
that ends a reply is then *counted*, and the last one counted is *answered*. Later modules speak about
these parts and leave the step itself closed:

* `Coordinator.absorb`, `Coordinator.notes`, `Coordinator.respond`: what an event changes, what is done
  at it whatever the count, and the answer if it is the last one;
* `step_final`, `step_other` — the step is made of **these parts and nothing else**;
* `step_remaining`, `step_lasting` — an end of a reply counts down, no other event does; and what is
  known in the long run is what the event has changed;
* `Response`, `Response.Reaches`: what the client can be told, and how effects tell it; every answer
  tells the client one response (`respond_reaches`).
-/
import ScatterGather.Proofs.Gather.Columns
import ScatterGather.Proofs.Reply.Run
import ScatterGather.Proofs.Wire.Numbered

namespace ScatterGather

open Wire

/-! ### Responses -/

/-- What a client is told of a statement. -/
inductive Response where
  /-- A failure. -/
  | failure (reply : ErrReply)
  /-- The totals of all successes. -/
  | totals (reply : OkReply)
  /-- The columns, where any have come in, the rows and their end. -/
  | result (columns : Option FieldSet) (rows : List Row) (eof : Packet)
  deriving DecidableEq, Repr

namespace FieldSet

/-- The packets of the columns in order. -/
def packets (set : FieldSet) : List Packet :=
  [set.header] ++ set.fields ++ [set.eof]

end FieldSet

namespace Response

/-- The packets of a response, whose ids are yet to come. -/
def packets : Response → List Packet
  | failure reply => [⟨0, reply.payload⟩]
  | totals reply => [⟨0, reply.payload⟩]
  | result columns rows eof =>
    columns.elim [] FieldSet.packets ++ rows.map Coordinator.rowPacket ++ [eof]

/-- A response on the wire, with ids from one on. -/
def bytes (response : Response) : List UInt8 :=
  wire (numbered response.packets)

/-- Tells whether a response tells of a failure. -/
def isFailure : Response → Bool
  | failure _ => true
  | _ => false

/-- Effects that tell the client one response. Totals in a transaction are deferred under the id
they would have had; all else is written. -/
def Reaches (session : Session) (effects : List Effect) : Response → Prop
  | totals reply =>
    if session.inTransaction then savepoints effects = [(reply, 1)] ∧ written effects = []
    else savepoints effects = [] ∧ (written effects).flatten = (totals reply).bytes
  | response => savepoints effects = [] ∧ (written effects).flatten = response.bytes

theorem bytes_ne_nil (response : Response) : response.bytes ≠ [] := by
  refine wire_numbered_ne_nil ?_
  cases response with
  | failure reply => exact List.cons_ne_nil _ _
  | totals reply => exact List.cons_ne_nil _ _
  | result columns rows eof =>
    exact List.append_ne_nil_of_right_ne_nil _ (List.cons_ne_nil _ _)

/-- A response is either deferred or written, and never both. -/
theorem Reaches.one {session : Session} {effects : List Effect} {response : Response}
    (reaches : response.Reaches session effects) :
    ((∃ reply, savepoints effects = [(reply, 1)]) ∧ written effects = []) ∨
      (savepoints effects = [] ∧ written effects ≠ [] ∧
        (written effects).flatten = response.bytes) := by
  have told : ∀ other : Response, (written effects).flatten = other.bytes →
      written effects ≠ [] := by
    intro other same none
    rw [none, List.flatten_nil] at same
    exact other.bytes_ne_nil same.symm
  cases response with
  | failure reply => exact Or.inr ⟨reaches.1, told _ reaches.2, reaches.2⟩
  | result columns rows eof => exact Or.inr ⟨reaches.1, told _ reaches.2, reaches.2⟩
  | totals reply =>
    by_cases deferred : session.inTransaction = true
    · simp only [Reaches, if_pos deferred] at reaches
      exact Or.inl ⟨⟨reply, reaches.1⟩, reaches.2⟩
    · simp only [Reaches, if_neg deferred] at reaches
      exact Or.inr ⟨reaches.1, told _ reaches.2, reaches.2⟩

/-- What a client is told depends only on what is written and what is deferred. -/
theorem Reaches.congr {session : Session} {effects other : List Effect} {response : Response}
    (reaches : response.Reaches session effects)
    (same : written other = written effects ∧ savepoints other = savepoints effects) :
    response.Reaches session other := by
  cases response <;> simp only [Reaches, same.1, same.2] <;> exact reaches

end Response

namespace Coordinator

/-! ### The parts of a step -/

/-- The coordinator of some shards before any event. -/
def awaiting (sql : String) (shards : Nat) (window : Window) (orderBy : List OrderKey) :
    Coordinator :=
  { sql, remaining := shards, gathering := { window, orderBy } }

/-- What is known once an event is taken in, the count aside. -/
def absorb (state : Coordinator) : Event → Coordinator
  | .ok packet _ =>
    if state.failed then state
    else
      match OkReply.read packet.payload with
      | .ok reply => state.addOk reply
      | .error cause => state.failWith ("malformed OK packet: " ++ cause.message)
  | .error packet _ => state.fail (shardError packet).toReply
  | .field header fields eof connection => (state.onFields ⟨header, fields, eof⟩ connection).1
  | .row packet _ => state.onRow packet
  | .eof .. => state
  | .close reason => state.fail (ClientError.connection reason).toReply
  | .setSql sql => { state with sql }

/-- What is done at an event whatever the count. -/
def notes (state : Coordinator) : Event → List Effect
  | .ok _ connection => state.completed connection
  | .error _ connection => [.release connection]
  | .field header fields eof connection => (state.onFields ⟨header, fields, eof⟩ connection).2
  | .eof _ connection => state.completed connection
  | _ => []

/-- The answer when an event, which has been taken in, ends the last reply. -/
def respond (session : Session) (event : Event) (state : Coordinator) :
    Coordinator × List Effect :=
  if state.failed then respondFailure session state
  else
    match event with
    | .ok packet _ =>
      match OkReply.read packet.payload with
      | .ok reply => (state, okResponse session state reply)
      | .error _ => respondFailure session state
    | .eof packet _ => rowsResponse session state packet
    | _ => respondFailure session state

/-- The failure that is told where there is one, or should be. -/
def reason (state : Coordinator) : ErrReply :=
  state.failure.getD (ClientError.internal "statement failed without an error").toReply

/-- The totals, with what else the last success says. -/
def totals (state : Coordinator) (last : OkReply) : OkReply :=
  { last with affectedRows := state.affectedRows, insertId := state.insertId }

/-- What the client is told when an event ends the last reply. -/
def response (event : Event) (state : Coordinator) : Response :=
  if state.failed then .failure state.reason
  else
    match event with
    | .ok packet _ =>
      match OkReply.read packet.payload with
      | .ok last => .totals (state.totals last)
      | .error _ => .failure state.reason
    | .eof packet _ =>
      .result state.fields (state.gathering.window.cut state.gathering.merged) packet
    | _ => .failure state.reason

/-! ### The count -/

theorem countDown_last (state : Coordinator) (answer : Coordinator → Coordinator × List Effect)
    (last : state.remaining = 1) :
    state.countDown answer = answer { state with remaining := 0 } := by
  simp only [countDown, last]

/-- Any other reply is counted, and that is all. -/
theorem countDown_other (state : Coordinator) (answer : Coordinator → Coordinator × List Effect)
    (other : state.remaining ≠ 1) :
    state.countDown answer = ({ state with remaining := state.remaining - 1 }, []) := by
  unfold countDown
  split
  · next none =>
    have same : state.remaining - 1 = state.remaining := by omega
    rw [same]
  · next last => exact absurd last other
  · next remaining _ more => simp only [more, Nat.succ_sub_one]

/-- Counting depends on the answer only for the last reply. -/
theorem countDown_congr (state : Coordinator)
    {first second : Coordinator → Coordinator × List Effect}
    (same : first { state with remaining := 0 } = second { state with remaining := 0 }) :
    state.countDown first = state.countDown second := by
  by_cases last : state.remaining = 1
  · rw [countDown_last state _ last, countDown_last state _ last, same]
  · rw [countDown_other state _ last, countDown_other state _ last]

/-- **An end of a reply** is taken in and then counted. -/
theorem step_final (session : Session) (state : Coordinator) {event : Event}
    (final : event.isFinal = true) :
    state.step session event =
      (((state.absorb event).countDown (respond session event)).1,
        state.notes event ++ ((state.absorb event).countDown (respond session event)).2) := by
  cases event with
  | ok packet connection =>
    have onOk_eq : state.onOk session packet =
        (state.absorb (.ok packet connection)).countDown
          (respond session (.ok packet connection)) := by
      by_cases broken : state.failed = true
      · simp only [onOk, absorb, if_pos broken]
        exact countDown_congr state (if_pos broken).symm
      · cases read : OkReply.read packet.payload with
        | ok reply =>
          simp only [onOk, absorb, if_neg broken, read]
          refine countDown_congr _ ?_
          unfold respond
          rw [if_neg (show ¬ Coordinator.failed { state.addOk reply with remaining := 0 } = true from broken)]
          simp only [read]
        | error cause =>
          simp only [onOk, absorb, if_neg broken, read]
          exact countDown_congr _ (if_pos rfl).symm
    show ((state.onOk session packet).1, state.completed connection ++
      (state.onOk session packet).2) = _
    rw [onOk_eq]
    rfl
  | error packet connection =>
    have same : (state.fail (shardError packet).toReply).countDown (respondFailure session) =
        (state.absorb (.error packet connection)).countDown
          (respond session (.error packet connection)) :=
      countDown_congr _ (if_pos rfl).symm
    simp only [step, same]
    rfl
  | eof packet connection => rfl
  | close reason =>
    exact countDown_congr _ (if_pos rfl).symm
  | field header fields eof connection => cases final
  | row packet connection => cases final
  | setSql sql => cases final

/-- **Any other event** is taken in, and that is all. -/
theorem step_other (session : Session) (state : Coordinator) {event : Event}
    (other : event.isFinal = false) :
    state.step session event = (state.absorb event, state.notes event) := by
  cases event with
  | field header fields eof connection => rfl
  | row packet connection => rfl
  | setSql sql => rfl
  | ok packet connection => cases other
  | error packet connection => cases other
  | eof packet connection => cases other
  | close reason => cases other

/-! ### What the parts leave alone -/

/-- Columns are taken in without a look at the count. -/
theorem onFields_remaining (state : Coordinator) (set : FieldSet) (connection : Connection) :
    (state.onFields set connection).1.remaining = state.remaining := by
  rw [onFields_eq]
  split
  · rfl
  · split <;> rfl

theorem onRow_remaining (state : Coordinator) (packet : Packet) :
    (state.onRow packet).remaining = state.remaining := by
  unfold onRow
  split
  · rfl
  · cases state.gathering.add packet.payload <;> rfl

/-- Taking in an event does not count it. -/
@[simp]
theorem absorb_remaining (state : Coordinator) (event : Event) :
    (state.absorb event).remaining = state.remaining := by
  cases event with
  | ok packet connection =>
    simp only [absorb]
    split
    · rfl
    · cases OkReply.read packet.payload <;> rfl
  | field header fields eof connection => exact onFields_remaining state _ connection
  | row packet connection => exact onRow_remaining state packet
  | error packet connection => rfl
  | eof packet connection => rfl
  | close reason => rfl
  | setSql sql => rfl

/-- What is known apart from the count, and apart from what an answer uses up. -/
def lasting (state : Coordinator) : Coordinator :=
  { state with remaining := 0, fields := none, gathering := { state.gathering with rows := [] } }

/-- Answering counts nothing, and uses up the columns and rows at most. -/
theorem respond_keeps (session : Session) (event : Event) (state : Coordinator) :
    (respond session event state).1.remaining = state.remaining ∧
      (respond session event state).1.lasting = state.lasting := by
  unfold respond
  split
  · exact ⟨rfl, rfl⟩
  · split
    · split <;> exact ⟨rfl, rfl⟩
    · exact ⟨rfl, rfl⟩
    · exact ⟨rfl, rfl⟩

/-- **The count.** An end of a reply counts down, no other event does. -/
theorem step_remaining (session : Session) (state : Coordinator) (event : Event) :
    (state.step session event).1.remaining =
      state.remaining - if event.isFinal then 1 else 0 := by
  cases final : event.isFinal with
  | true =>
    rw [step_final session state final, if_pos rfl, ← absorb_remaining state event]
    by_cases last : (state.absorb event).remaining = 1
    · rw [countDown_last _ _ last, (respond_keeps session event _).1, last]
    · rw [countDown_other _ _ last]
  | false =>
    rw [step_other session state final, absorb_remaining]
    rfl

/-- **What lasts.** Whatever is counted and answered, a step leaves what taking in the event does. -/
theorem step_lasting (session : Session) (state : Coordinator) (event : Event) :
    (state.step session event).1.lasting = (state.absorb event).lasting := by
  cases final : event.isFinal with
  | true =>
    rw [step_final session state final]
    by_cases last : (state.absorb event).remaining = 1
    · rw [countDown_last _ _ last]
      exact (respond_keeps session event _).2
    · rw [countDown_other _ _ last]
      rfl
  | false => rw [step_other session state final]

/-- As long as replies are missing, a step takes the event in and counts it at most. -/
theorem step_waiting (session : Session) (state : Coordinator) {event : Event}
    (waiting : 0 < (state.step session event).1.remaining) :
    ∃ remaining, (state.step session event).1 = { state.absorb event with remaining } := by
  have counted := step_remaining session state event
  cases final : event.isFinal with
  | true =>
    have other : (state.absorb event).remaining ≠ 1 := by
      rw [if_pos final] at counted
      rw [absorb_remaining]
      omega
    rw [step_final session state final, countDown_other _ _ other]
    exact ⟨_, rfl⟩
  | false =>
    rw [step_other session state final]
    exact ⟨_, rfl⟩

/-- What is done at every event reaches no client. -/
theorem notes_silent (state : Coordinator) (event : Event) :
    written (state.notes event) = [] ∧ savepoints (state.notes event) = [] := by
  cases event with
  | field header fields eof connection =>
    simp only [notes, onFields_eq]
    split
    · exact ⟨rfl, rfl⟩
    · split <;> exact ⟨rfl, rfl⟩
  | _ => exact ⟨rfl, rfl⟩

/-! ### Answers -/

theorem failure_reaches (session : Session) (reply : ErrReply) :
    (Response.failure reply).Reaches session
      (Effect.writes (session.front.write reply.packet)) := by
  refine ⟨savepoints_writes _, ?_⟩
  rw [written_writes, Front.flatten_write]
  exact (wire_numbered_singleton ⟨0, reply.payload⟩).symm

/-- Totals are told in one packet, or deferred. -/
theorem okResponse_reaches (session : Session) (state : Coordinator) (last : OkReply) :
    (Response.totals (state.totals last)).Reaches session (okResponse session state last) := by
  by_cases deferred : session.inTransaction = true
  · simp only [Response.Reaches, okResponse, if_pos deferred]
    exact ⟨rfl, rfl⟩
  · simp only [Response.Reaches, okResponse, if_neg deferred, savepoints_writes, written_writes,
      Front.flatten_write, true_and]
    exact (wire_numbered_singleton ⟨0, (state.totals last).payload⟩).symm

/-- What is done to tell the rows. -/
theorem rowsResponse_effects (session : Session) (state : Coordinator) (eof : Packet) :
    (rowsResponse session state eof).2 =
      Effect.writes (session.front.finish {} (state.fieldPackets ++
        (state.gathering.window.cut state.gathering.merged).map rowPacket ++ [eof])).2 :=
  rfl

/-- Rows are told between their columns and their end. -/
theorem rowsResponse_reaches (session : Session) (state : Coordinator) (eof : Packet) :
    (Response.result state.fields (state.gathering.window.cut state.gathering.merged) eof).Reaches
      session (rowsResponse session state eof).2 := by
  have columns : state.fieldPackets = state.fields.elim [] FieldSet.packets := by
    unfold fieldPackets
    cases state.fields <;> rfl
  rw [rowsResponse_effects, columns]
  refine ⟨savepoints_writes _, ?_⟩
  rw [written_writes, finish_fresh]
  rfl

/-- **Every answer tells the client one response.** -/
theorem respond_reaches (session : Session) (event : Event) (state : Coordinator) :
    (response event state).Reaches session (respond session event state).2 := by
  have failure := failure_reaches session state.reason
  unfold response respond
  by_cases broken : state.failed = true
  · rw [if_pos broken, if_pos broken]
    exact failure
  · rw [if_neg broken, if_neg broken]
    cases event with
    | ok packet connection =>
      cases read : OkReply.read packet.payload with
      | ok last =>
        simp only [read]
        exact okResponse_reaches session state last
      | error cause =>
        simp only [read]
        exact failure
    | eof packet connection => exact rowsResponse_reaches session state packet
    | error packet connection => exact failure
    | field header fields eof connection => exact failure
    | row packet connection => exact failure
    | close reason => exact failure
    | setSql sql => exact failure

/-- **The last reply** is answered, and all that reaches the client is the answer. -/
theorem step_last (session : Session) (state : Coordinator) {event : Event}
    (final : event.isFinal = true) (last : state.remaining = 1) :
    (response event { state.absorb event with remaining := 0 }).Reaches session
      (state.step session event).2 := by
  have reaches := respond_reaches session event { state.absorb event with remaining := 0 }
  rw [step_final session state final,
    countDown_last _ _ ((absorb_remaining state event).trans last)]
  refine reaches.congr ?_
  rw [written_append, savepoints_append, (notes_silent state event).1, (notes_silent state event).2]
  exact ⟨List.nil_append _, List.nil_append _⟩

/-- **Any other step** is silent: the count is not down to the last reply, or the event ends none. -/
theorem step_silent (session : Session) (state : Coordinator) (event : Event)
    (silent : event.isFinal = true → state.remaining ≠ 1) :
    written (state.step session event).2 = [] ∧ savepoints (state.step session event).2 = [] := by
  cases final : event.isFinal with
  | true =>
    have other : (state.absorb event).remaining ≠ 1 := by
      rw [absorb_remaining]
      exact silent final
    rw [step_final session state final, countDown_other _ _ other, List.append_nil]
    exact notes_silent state event
  | false =>
    rw [step_other session state final]
    exact notes_silent state event

end Coordinator

end ScatterGather
