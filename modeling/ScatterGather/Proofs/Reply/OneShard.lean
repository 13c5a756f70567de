/-
**One shard, relayed or coordinated.**

The relay sends packets on as they come; a coordinator of one shard takes the reply in, puts it together
again and answers at its end. Seen from outside there is no difference, whatever is buffered on the way:

* `Agree`: two lists of effects that send the client the same bytes, defer the same successes, give the
  same connections back and record the same statements;
* `Canonical`: a complete reply of one shard, in packets that are written as this library writes them;
* `Delivers`: effects that deliver a reply of rows, as those of the relay do, and those of a coordinator;
* `relay_agrees` — on every canonical reply the relay and the coordinator of one shard **agree**.
-/
import ScatterGather.Proofs.Reply.Relayed
import ScatterGather.Proofs.Reply.ResultSet
import ScatterGather.Proofs.Wire.Written

namespace ScatterGather

open Text Wire

/-! ### Effects that agree -/

/-- Effects that cannot be told apart by the client, by those who wait for connections, or by the
statistics. -/
structure Agree (first second : List Effect) : Prop where
  bytes : (written first).flatten = (written second).flatten
  savepoints : savepoints first = savepoints second
  released : released first = released second
  recorded : recorded first = recorded second

theorem Agree.append_left {first second : List Effect} (before : List Effect)
    (agree : Agree first second) : Agree (before ++ first) (before ++ second) where
  bytes := by rw [written_append, written_append, List.flatten_append, List.flatten_append, agree.bytes]
  savepoints := by rw [savepoints_append, savepoints_append, agree.savepoints]
  released := by rw [released_append, released_append, agree.released]
  recorded := by rw [recorded_append, recorded_append, agree.recorded]

theorem Agree.of_writes {first second : List Chunk} (same : first.flatten = second.flatten) :
    Agree (Effect.writes first) (Effect.writes second) where
  bytes := by rw [written_writes, written_writes, same]
  savepoints := by rw [savepoints_writes, savepoints_writes]
  released := by rw [released_writes, released_writes]
  recorded := by rw [recorded_writes, recorded_writes]

/-! ### Canonical replies -/

namespace ShardReply

/-- A complete reply but for the end of rows. -/
def body (reply : ShardReply) : List Event :=
  .field reply.columns.header reply.columns.fields reply.columns.eof reply.connection ::
    reply.rows.map fun packet => .row packet reply.connection

theorem events_eq (reply : ShardReply) :
    reply.events = reply.body ++ [.eof reply.eof reply.connection] :=
  rfl

theorem offered_events (reply : ShardReply) : offered reply.events = reply.rows := by
  have rows : (reply.rows.map fun packet => Event.row packet reply.connection).filterMap Event.row? =
      reply.rows := by
    rw [List.filterMap_map]
    exact List.filterMap_some
  rw [offered, events, List.filterMap_append, List.filterMap_cons_none rfl, rows]
  exact List.append_nil _

theorem lastEof?_events (reply : ShardReply) : lastEof? reply.events = some reply.eof := by
  rw [lastEof?, events, List.filterMap_append]
  exact List.getLast?_concat

end ShardReply

/-- A packet that holds a row of some columns as it is written. Its size is one that can be told. -/
def HoldsRow (columns : Nat) (packet : Packet) : Prop :=
  ∃ row : Row, packet.payload = row.payload ∧ row.cells.length = columns ∧
    row.payload.length < UInt64.size

/-- A complete reply of one shard in packets as they are written: a success, a failure whose state has
the right size, the end of the connection, or columns that can be read with rows of as many cells. -/
inductive Canonical : List Event → Prop where
  | ok (reply : OkReply) (sequence : UInt8) (connection : Connection) :
      Canonical [.ok ⟨sequence, reply.payload⟩ connection]
  | error (reply : ErrReply) (stated : (Utf8.encode reply.state).length = ErrReply.stateSize)
      (sequence : UInt8) (connection : Connection) :
      Canonical [.error ⟨sequence, reply.payload⟩ connection]
  | close (reason : String) : Canonical [.close reason]
  | rows (reply : ShardReply)
      (readable : ∃ columns, Coordinator.columnsOf reply.columns.fields = .ok columns)
      (held : ∀ packet ∈ reply.rows, HoldsRow reply.columns.fields.length packet) :
      Canonical reply.events

/-- Effects that deliver a reply of rows: its packets are written, numbered from one on, the statement
is recorded and the connection given back. -/
structure Delivers (sql : String) (reply : ShardReply) (effects : List Effect) : Prop where
  bytes : (written effects).flatten =
    wire (numbered (reply.columns.packets ++ reply.rows ++ [reply.eof]))
  deferred : savepoints effects = []
  released : released effects = [reply.connection]
  recorded : recorded effects = [(reply.connection.source, sql)]

theorem Delivers.agree {sql : String} {reply : ShardReply} {first second : List Effect}
    (one : Delivers sql reply first) (other : Delivers sql reply second) : Agree first second :=
  ⟨one.bytes.trans other.bytes.symm, one.deferred.trans other.deferred.symm,
    one.released.trans other.released.symm, one.recorded.trans other.recorded.symm⟩

/-! ### The relay -/

namespace Relay

variable (session : Session)

/-- Columns and rows give nothing back on their way, and tell nothing of the statement. -/
theorem opening_unnoted (sql : String) (columns : FieldSet) (rows : List Packet)
    (connection : Connection) :
    let result := run (step session) { sql } (opening columns rows connection)
    result.1.sql = sql ∧ released result.2 = [] ∧ recorded result.2 = [] := by
  unfold opening
  -- From the end: each row only adds chunks to what is written.
  induction rows using List.reverseRecOn with
  | nil =>
    rw [List.map_nil, run_singleton]
    exact ⟨rfl, released_writes _, recorded_writes _⟩
  | append_singleton before packet ih =>
    obtain ⟨text, kept, unrecorded⟩ := ih
    rw [List.map_append, List.map_singleton, ← List.cons_append, run_concat]
    refine ⟨text, ?_, ?_⟩
    · rw [released_append, kept]
      exact released_writes _
    · rw [recorded_append, unrecorded]
      exact recorded_writes _

/-- **The relay delivers** a reply of rows. -/
theorem rows_delivered (sql : String) (reply : ShardReply) :
    Delivers sql reply (run (step session) { sql } reply.events).2 := by
  obtain ⟨text, kept, unrecorded⟩ :=
    opening_unnoted session sql reply.columns reply.rows reply.connection
  have ends : (Event.eof reply.eof reply.connection).endsRows = true := rfl
  obtain ⟨deferred, bytes⟩ :=
    closing_told session sql reply.columns reply.rows reply.connection ends rfl
  refine ⟨bytes, deferred, ?_, ?_⟩
  all_goals
    rw [show reply.events = opening reply.columns reply.rows reply.connection ++
      [.eof reply.eof reply.connection] from rfl, run_concat]
  · rw [released_append, kept]
    exact congrArg (reply.connection :: ·) (released_writes _)
  · rw [recorded_append, unrecorded]
    exact congrArg₂ (fun text more => (reply.connection.source, text) :: more) text
      (recorded_writes _)

end Relay

/-! ### The coordinator of one shard -/

namespace Coordinator

variable (session : Session)

/-- A step gives back and records what is noted at the event, whatever it answers. -/
theorem step_notes (state : Coordinator) (event : Event) :
    released (state.step session event).2 = released (state.notes event) ∧
      recorded (state.step session event).2 = recorded (state.notes event) := by
  have silent : ∀ state : Coordinator, released (respond session event state).2 = [] ∧
      recorded (respond session event state).2 = [] := by
    intro state
    have failure : released (respondFailure session state).2 = [] ∧
        recorded (respondFailure session state).2 = [] :=
      ⟨released_writes _, recorded_writes _⟩
    unfold respond
    split
    · exact failure
    · split
      · split
        · unfold okResponse
          split
          · exact ⟨rfl, rfl⟩
          · exact ⟨released_writes _, recorded_writes _⟩
        · exact failure
      · exact ⟨released_writes _, recorded_writes _⟩
      · exact failure
  cases final : event.isFinal with
  | false => rw [step_other session state final]; exact ⟨rfl, rfl⟩
  | true =>
    rw [step_final session state final, released_append, recorded_append]
    by_cases last : (state.absorb event).remaining = 1
    · rw [countDown_last _ _ last, (silent _).1, (silent _).2, List.append_nil, List.append_nil]
      exact ⟨rfl, rfl⟩
    · rw [countDown_other _ _ last]
      exact ⟨List.append_nil _, List.append_nil _⟩

/-- Rows are taken in without giving anything back, and without a word about the statement. -/
theorem rows_unnoted (rows : List Packet) (connection : Connection) (state : Coordinator) :
    let result := run (step session) state (rows.map fun packet => .row packet connection)
    result.2 = [] ∧ result.1.sql = state.sql := by
  induction rows generalizing state with
  | nil => exact ⟨rfl, rfl⟩
  | cons packet rest ih =>
    obtain ⟨silent, kept⟩ := ih (state.onRow packet)
    have sql : (state.onRow packet).sql = state.sql := by
      unfold onRow
      split
      · rfl
      · cases state.gathering.add packet.payload <;> rfl
    exact ⟨silent, kept.trans sql⟩

/-- The first columns, if they fit, become known and give nothing back. -/
theorem onFields_of_fit {state : Coordinator} {set : FieldSet} (connection : Connection)
    (sound : state.failed = false) (unseen : state.fieldsSeen = false)
    (fit : misfit? state.gathering.orderBy set.fields = none) :
    state.onFields set connection = (knowing { state with fieldsSeen := true } set, []) := by
  rw [onFields_eq, sound, unseen, Bool.false_or, if_neg Bool.false_ne_true, fit]

/-- Columns that fit are taken in without giving anything back, and so are the rows behind them. -/
theorem body_unnoted (sql : String) {reply : ShardReply}
    (fit : misfit? [] reply.columns.fields = none) :
    let result := run (step session) (awaiting sql 1 {} []) reply.body
    result.2 = [] ∧ result.1.sql = sql := by
  have opened : (awaiting sql 1 {} []).step session (.field reply.columns.header reply.columns.fields
      reply.columns.eof reply.connection) = _ :=
    onFields_of_fit reply.connection rfl rfl fit
  rw [ShardReply.body, run_cons, opened]
  exact rows_unnoted session reply.rows reply.connection _

/-- Rows that were written before they were read are the packets they came in. -/
theorem payloads_of_read {set : FieldSet} {packets : List Packet} {rows : List Row}
    (held : ∀ packet ∈ packets, HoldsRow set.fields.length packet)
    (read : List.Forall₂ (ReadBy (some set)) packets rows) :
    (rows.map rowPacket).map Packet.payload = packets.map Packet.payload := by
  induction read with
  | nil => rfl
  | cons here rest ih =>
    obtain ⟨row, payload, width, fits⟩ := held _ List.mem_cons_self
    obtain ⟨columns, same, found⟩ := here
    obtain rfl : set = columns := Option.some.inj same
    rw [payload, ← width, Row.read_payload fits] at found
    obtain rfl := Except.ok.inj found
    rw [List.map_cons, List.map_cons, List.map_cons, payload,
      ih fun other inside => held other (List.mem_cons_of_mem _ inside)]
    rfl

/-- **Without an order and a window** the rows of a result set are told as they came. -/
theorem packets_as_offered {events : List Event} (result : ResultSet [] events)
    (held : ∀ packet ∈ offered events, HoldsRow result.columns.fields.length packet) :
    wire (numbered (result.packets {})) =
      wire (numbered (result.columns.packets ++ offered events ++ [result.ending])) := by
  have unordered : sortKeysOf [] result.columns.fields = [] := by
    unfold sortKeysOf
    split <;> rfl
  have merged : result.merged = result.rows := result.mergedBy.unsorted unordered
  have whole : Window.cut {} result.rows = result.rows := rfl
  refine congrArg wire (numberedAfter_congr 0 ?_)
  rw [ResultSet.packets, merged, whole]
  simp only [List.map_append, payloads_of_read held result.read]

/-- A canonical reply of rows fits its own columns. -/
theorem fits_of_held {reply : ShardReply}
    (readable : ∃ columns, columnsOf reply.columns.fields = .ok columns)
    (held : ∀ packet ∈ reply.rows, HoldsRow reply.columns.fields.length packet) :
    Fits [] reply.columns reply.events := by
  obtain ⟨columns, read⟩ := readable
  refine ⟨⟨columns, read, fun _ inside => absurd inside List.not_mem_nil⟩, fun packet offers => ?_⟩
  rw [ShardReply.offered_events] at offers
  obtain ⟨row, payload, width, fits⟩ := held packet offers
  rw [payload, ← width, Row.read_payload fits]
  rfl

/-- **The coordinator of one shard delivers** a canonical reply of rows. -/
theorem rows_delivered (sql : String) (reply : ShardReply)
    (readable : ∃ columns, columnsOf reply.columns.fields = .ok columns)
    (held : ∀ packet ∈ reply.rows, HoldsRow reply.columns.fields.length packet) :
    Delivers sql reply (run (step session) (awaiting sql 1 {} []) reply.events).2 := by
  have fits := fits_of_held readable held
  have sound : firstFailure? [] none reply.events = none :=
    firstFailure?_of_fits fits fun event inside => ⟨reply, List.mem_cons_of_mem _ inside⟩
  obtain ⟨result, deferred, told⟩ :=
    result_at_last_eof session sql 1 {} [] reply.events_eq reply.countP_events sound rfl
  have columns : reply.columns = result.columns := Option.some.inj result.first
  have ending : reply.eof = result.ending :=
    Option.some.inj (reply.lastEof?_events.symm.trans result.last)
  obtain ⟨silent, kept⟩ := body_unnoted session sql (misfit?_of_columns fits.columns)
  refine ⟨?_, deferred, ?_, ?_⟩
  · refine told.trans ((packets_as_offered result ?_).trans ?_)
    · rw [reply.offered_events, ← columns]
      exact held
    · rw [reply.offered_events, ← columns, ← ending]
  · rw [reply.events_eq, run_concat, silent, List.nil_append, (step_notes session _ _).1]
    rfl
  · rw [reply.events_eq, run_concat, silent, List.nil_append, (step_notes session _ _).2]
    exact congrArg (fun text => [(reply.connection.source, text)]) kept

end Coordinator

/-! ### Agreement -/

section Agreement

variable (session : Session) (sql : String)

/-- The totals of a single success are its own. -/
theorem totals_of_one (reply : OkReply) :
    ((Coordinator.awaiting sql 1 {} []).addOk reply).totals reply = reply := by
  obtain ⟨affectedRows, insertId, status, warnings, message⟩ := reply
  have affected : (0 : UInt64) + affectedRows = affectedRows := UInt64.zero_add _
  have least : (if insertId = 0 then 0 else if (0 : UInt64) = 0 then insertId else min 0 insertId) =
      insertId := by
    split
    · next none => exact none.symm
    · rfl
  exact congrArg₂ (OkReply.mk · · status warnings message) affected least

/-- A success that is relayed agrees with its totals. -/
theorem ok_agrees (reply : OkReply) (sequence : UInt8) (connection : Connection) :
    Agree (Relay.step session { sql } (.ok ⟨sequence, reply.payload⟩ connection)).2
      (Coordinator.step session (Coordinator.awaiting sql 1 {} [])
        (.ok ⟨sequence, reply.payload⟩ connection)).2 := by
  have read : OkReply.read (Packet.mk sequence reply.payload).payload = .ok reply :=
    reply.read_payload
  have counted : ((Coordinator.awaiting sql 1 {} []).onOk session ⟨sequence, reply.payload⟩).2 =
      Coordinator.okResponse session
        { (Coordinator.awaiting sql 1 {} []).addOk reply with remaining := 0 } reply := by
    rw [Coordinator.onOk, show (Coordinator.awaiting sql 1 {} []).failed = false from rfl,
      if_neg Bool.false_ne_true]
    simp only [read]
    rfl
  have acknowledged : Relay.acknowledge session ⟨sequence, reply.payload⟩ 1 =
      ((Coordinator.awaiting sql 1 {} []).onOk session ⟨sequence, reply.payload⟩).2 := by
    rw [counted, Coordinator.okResponse]
    show _ = if session.inTransaction then
        [.savepoint (((Coordinator.awaiting sql 1 {} []).addOk reply).totals reply) 1]
      else Effect.writes (session.front.write
        ⟨1, (((Coordinator.awaiting sql 1 {} []).addOk reply).totals reply).payload⟩)
    rw [totals_of_one, Relay.acknowledge]
    simp only [read]
    rfl
  show Agree ((Relay.completed { sql } connection) ++
    Relay.acknowledge session ⟨sequence, reply.payload⟩ 1) _
  rw [acknowledged]
  exact ⟨rfl, rfl, rfl, rfl⟩

/-- A packet that is relayed by itself agrees with the failure that it tells of. -/
theorem failure_agrees {state : Coordinator} {reply : ErrReply} (broken : state.failure = some reply)
    (sequence : UInt8) :
    Agree (Effect.writes (session.front.finish {} [⟨sequence, reply.payload⟩]).2)
      (Coordinator.failureResponse session state) := by
  refine Agree.of_writes ?_
  rw [broken, Option.getD_some, finish_fresh, wire_numbered_singleton, Front.flatten_write]
  rfl

end Agreement

/-- **The relay agrees with the coordinator of one shard** on every canonical reply, whatever the
threshold of the way to the client, and in a transaction or out of it. -/
theorem relay_agrees (session : Session) (sql : String) {reply : List Event}
    (canonical : Canonical reply) :
    Agree (run (Relay.step session) { sql } reply).2
      (run (Coordinator.step session) (Coordinator.awaiting sql 1 {} []) reply).2 := by
  cases canonical with
  | ok reply sequence connection =>
    rw [run_singleton, run_singleton]
    exact ok_agrees session sql reply sequence connection
  | error reply stated sequence connection =>
    have told : (Coordinator.shardError ⟨sequence, reply.payload⟩).toReply = reply := by
      rw [Coordinator.shardError]
      simp only [ErrReply.read_payload stated]
      rfl
    rw [run_singleton, run_singleton]
    exact (failure_agrees session (congrArg some told) sequence).append_left [.release connection]
  | close reason =>
    rw [run_singleton, run_singleton]
    exact failure_agrees session rfl _
  | rows reply readable held =>
    exact (Relay.rows_delivered session sql reply).agree
      (Coordinator.rows_delivered session sql reply readable held)

/-- A row of one digit comes out the same either way, also where the buffer is sent off in between. -/
theorem digit_relayed_alike :
    let reply := Coordinator.digitReply default 0x37
    let session : Session := { front := { threshold := 16 } }
    Canonical reply.events ∧
      Agree (run (Relay.step session) { sql := "SELECT 7" } reply.events).2
        (run (Coordinator.step session) (Coordinator.awaiting "SELECT 7" 1 {} []) reply.events).2 := by
  intro reply session
  have held : ∀ packet ∈ reply.rows, HoldsRow reply.columns.fields.length packet := by
    intro packet inside
    obtain rfl := List.mem_singleton.mp inside
    exact ⟨⟨[some [0x37]]⟩, rfl, rfl, by decide⟩
  have canonical : Canonical reply.events := .rows reply ⟨[("ID", ⟨0, 0x03⟩)], rfl⟩ held
  exact ⟨canonical, relay_agrees session "SELECT 7" canonical⟩

end ScatterGather
