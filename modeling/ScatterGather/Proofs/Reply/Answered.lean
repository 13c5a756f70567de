/-
**One answer to every statement.**

A statement is refused at once, or sent to its shards; then the client is told something only as they
reply, and it must be told the end of it once. This is where routing, the choice of a handler and both
handlers meet:

* `Complete`: a complete reply of a shard;
* `Answer`: what a client gets for a statement — one success, which may be deferred, one failure, or one
  end of a result, and no second one;
* `Answer.Made`: what answers are made of; `AnsweredBy`: a handler comes to an answer **with the last
  event**, and before it tells at most what stands ahead of its end;
* `Relay.answered`, `Coordinator.answered`: both handlers do so;
* `dispatch_answers_once` — every statement is **refused with one failure**, or sent to at least one
  shard and **answered once**, in whatever order the shards reply.
-/
import ScatterGather.Proofs.Reply.LastReply
import ScatterGather.Proofs.Reply.Relayed
import ScatterGather.Proofs.Routing.Shape
import ScatterGather.Proofs.Wire.Written
import ScatterGather.Reply.Dispatch

namespace ScatterGather

open Text Wire

/-! ### Complete replies -/

/-- **A complete reply of a shard**: a success, a failure or the end of its connection; or columns and
rows up to their end, or up to a failure or the end of the connection. -/
inductive Complete : List Event → Prop where
  | brief {event : Event} (isBrief : event.isBrief = true) : Complete [event]
  | rows (columns : FieldSet) (rows : List Packet) (connection : Connection) {closing : Event}
      (ends : closing.endsRows = true) : Complete (Relay.opening columns rows connection ++ [closing])

theorem isFinal_of_endsRows {event : Event} (ends : event.endsRows = true) : event.isFinal = true := by
  cases event <;> first | rfl | cases ends

namespace Complete

variable {reply : List Event}

theorem countP (complete : Complete reply) : reply.countP Event.isFinal = 1 := by
  cases complete with
  | brief isBrief => rw [List.countP_singleton, if_pos (isFinal_of_isBrief isBrief)]
  | rows columns rows connection ends =>
    have none : (Relay.opening columns rows connection).countP Event.isFinal = 0 := by
      refine List.countP_eq_zero.mpr fun event inside => ?_
      rcases (Relay.mem_opening columns rows connection).mp inside with rfl | ⟨packet, -, rfl⟩ <;>
        exact Bool.false_ne_true
    rw [List.countP_append, none, List.countP_singleton, if_pos (isFinal_of_endsRows ends)]

theorem ne_nil (complete : Complete reply) : reply ≠ [] := by
  cases complete with
  | brief isBrief => exact List.cons_ne_nil _ _
  | rows columns rows connection ends =>
    exact List.append_ne_nil_of_right_ne_nil _ (List.cons_ne_nil _ _)

theorem isFinal_of_last (complete : Complete reply) {last : Event}
    (isLast : reply.getLast? = some last) : last.isFinal = true := by
  cases complete with
  | brief isBrief =>
    obtain rfl := Option.some.inj isLast
    exact isFinal_of_isBrief isBrief
  | rows columns rows connection ends =>
    rw [List.getLast?_concat] at isLast
    obtain rfl := Option.some.inj isLast
    exact isFinal_of_endsRows ends

/-- A reply that ends with an end of rows began with columns. -/
theorem columns_of_eof (complete : Complete reply) {packet : Packet} {connection : Connection}
    (isLast : reply.getLast? = some (.eof packet connection)) :
    ∃ event ∈ reply, event.columns?.isSome = true := by
  cases complete with
  | brief isBrief =>
    obtain rfl := Option.some.inj isLast
    cases isBrief
  | rows columns rows connection ends => exact ⟨_, List.mem_cons_self, rfl⟩

end Complete

/-! ### Answers -/

/-- **What a client gets for a statement**; the ids of its packets are yet to come. -/
inductive Answer where
  /-- A success that is deferred. -/
  | deferred (reply : OkReply)
  | success (packet : Packet)
  /-- A failure, behind what came of a result before it. -/
  | failure (ahead : List Packet) (packet : Packet)
  /-- The columns, the rows and their end. -/
  | result (columns : FieldSet) (rows : List Packet) (eof : Packet)
  deriving DecidableEq, Repr

namespace Answer

/-- What stands ahead of the end of an answer. -/
def ahead : Answer → List Packet
  | deferred _ => []
  | success _ => []
  | failure ahead _ => ahead
  | result columns rows _ => columns.packets ++ rows

/-- The end of an answer as a packet, if it is one. -/
def closing? : Answer → Option Packet
  | deferred _ => none
  | success packet => some packet
  | failure _ packet => some packet
  | result _ _ eof => some eof

/-- The success that is deferred, under the first id, if it is one. -/
def deferred? : Answer → Option (OkReply × UInt8)
  | deferred reply => some (reply, 1)
  | _ => none

/-- **What an answer to some events is made of**, of which the last is given: a success only where that
is one, with the totals of all or as it came; a failure as a shard sent it, or as it is told here, and
behind it at most the columns and rows that came in; and the end of a result only as it came, behind the
columns that came first and rows that came in or were put together. -/
inductive Made (events : List Event) : Event → Answer → Prop where
  | deferred (reply : OkReply) (packet : Packet) (connection : Connection) :
      Made events (.ok packet connection) (.deferred reply)
  | success {told packet : Packet} (connection : Connection)
      (own : told = packet ∨ ∃ reply : OkReply, told.payload = reply.payload) :
      Made events (.ok packet connection) (.success told)
  | failure {told : Packet} {last : Event} {ahead : List Packet}
      (own : (∃ connection, last = .error told connection) ∨
        ∃ reply : ErrReply, told.payload = reply.payload)
      (behind : ahead = [] ∨ ∃ columns, firstColumns? events = some columns ∧
        ahead = columns.packets ++ offered events) :
      Made events last (.failure ahead told)
  | result {columns : FieldSet} {rows : List Packet} (eof : Packet) (connection : Connection)
      (first : firstColumns? events = some columns)
      (own : ∀ packet ∈ rows, packet ∈ offered events ∨
        ∃ row : Row, packet = Coordinator.rowPacket row) :
      Made events (.eof eof connection) (.result columns rows eof)

/-- **Effects that tell a client an answer**, and nothing else. -/
structure Tells (effects : List Effect) (answer : Answer) : Prop where
  deferred : savepoints effects = answer.deferred?.toList
  bytes : (written effects).flatten = wire (numbered (answer.ahead ++ answer.closing?.toList))

/-- Effects that tell at most what stands ahead of the end of an answer. -/
structure Awaits (effects : List Effect) (answer : Answer) : Prop where
  deferred : savepoints effects = []
  bytes : (written effects).flatten <+: wire (numbered answer.ahead)

end Answer

/-- **A handler comes to an answer with the last event**, and not before. -/
structure AnsweredBy (effects : List Event → List Effect) (before : List Event) (last : Event)
    (answer : Answer) : Prop where
  final : last.isFinal = true
  made : answer.Made (before ++ [last]) last
  awaits : answer.Awaits (effects before)
  tells : answer.Tells (effects (before ++ [last]))

/-! ### The coordinator -/

namespace Coordinator

variable (session : Session) (sql : String) (window : Window) (orderBy : List OrderKey)

/-- Totals answer a success, deferred or not. -/
theorem totals_told {events : List Event} {packet : Packet} {connection : Connection}
    {reply : OkReply} {effects : List Effect}
    (reaches : (Response.totals reply).Reaches session effects) :
    ∃ answer : Answer, answer.Made events (.ok packet connection) ∧ answer.Tells effects := by
  by_cases inTransaction : session.inTransaction = true
  · simp only [Response.Reaches, if_pos inTransaction] at reaches
    refine ⟨.deferred reply, .deferred reply packet connection, reaches.1, ?_⟩
    rw [reaches.2]
    rfl
  · simp only [Response.Reaches, if_neg inTransaction] at reaches
    exact ⟨.success ⟨0, reply.payload⟩, .success connection (Or.inr ⟨reply, rfl⟩), reaches.1, reaches.2⟩

variable {shards : Nat} {before : List Event} {last : Event}

/-- The merged rows answer the columns that came first, the rows and their end. -/
theorem result_told {events : List Event} {packet : Packet} {connection : Connection}
    {columns : FieldSet} {rows : List Row} {effects : List Effect}
    (first : firstColumns? events = some columns)
    (reaches : (Response.result (firstColumns? events) rows packet).Reaches session effects) :
    ∃ answer : Answer, answer.Made events (.eof packet connection) ∧ answer.Tells effects := by
  rw [first] at reaches
  refine ⟨.result columns (rows.map rowPacket) packet,
    .result packet connection first fun row inside => ?_, reaches.1, reaches.2⟩
  obtain ⟨own, -, rfl⟩ := List.mem_map.mp inside
  exact Or.inr ⟨own, rfl⟩

/-- **The coordinator answers with the last reply**, if columns came in where it ends with an end of
rows. -/
theorem answered (final : last.isFinal = true) (counted : finals (before ++ [last]) = shards)
    (known : ∀ packet connection, last = .eof packet connection →
      ∃ columns, firstColumns? (before ++ [last]) = some columns) :
    ∃ answer, AnsweredBy
      (fun events => (run (step session) (awaiting sql shards window orderBy) events).2) before last
        answer := by
  have total := finals_concat before last
  rw [if_pos final] at total
  obtain ⟨nothing, noneDeferred⟩ := run_silent session before (awaiting sql shards window orderBy)
    (Or.inl (show finals before < shards by omega))
  suffices told : ∃ answer : Answer, answer.Made (before ++ [last]) last ∧
      answer.Tells (run (step session) (awaiting sql shards window orderBy) (before ++ [last])).2 by
    obtain ⟨answer, made, tells⟩ := told
    exact ⟨answer, final, made, ⟨noneDeferred, by rw [nothing]; exact List.nil_prefix⟩, tells⟩
  obtain ⟨response, due, reaches⟩ := due_at_last session sql shards window orderBy [] final counted
  cases due with
  | @failure _ reply first =>
    exact ⟨.failure [] ⟨0, reply.payload⟩, .failure (Or.inr ⟨reply, rfl⟩) (Or.inl rfl), reaches.1,
      reaches.2⟩
  | totals sound read least => exact totals_told session reaches
  | result sound read mergedBy =>
    obtain ⟨columns, first⟩ := known _ _ rfl
    exact result_told session first reaches

end Coordinator

/-! ### The relay -/

namespace Relay

variable (session : Session) (sql : String)

theorem offered_opening (columns : FieldSet) (rows : List Packet) (connection : Connection)
    {closing : Event} (ends : closing.endsRows = true) :
    offered (opening columns rows connection ++ [closing]) = rows := by
  have each : (rows.map fun packet => Event.row packet connection).filterMap Event.row? = rows := by
    rw [List.filterMap_map]
    exact List.filterMap_some
  have none : [closing].filterMap Event.row? = [] := by
    cases closing <;> first | rfl | cases ends
  rw [offered, List.filterMap_append, none, List.append_nil, opening, List.filterMap_cons_none rfl,
    each]

/-- What is sent on, or deferred, of a reply of one event. -/
theorem brief_told {event : Event} (brief : event.isBrief = true) :
    let effects := (step session { sql } event).2
    let handed := Handed.idsAfter 0 (Call.handed ⟨event, session.inTransaction⟩)
    savepoints effects = handed.filterMap Handed.deferred? ∧
      (written effects).flatten = wire (handed.filterMap Handed.packet?) := by
  intro effects handed
  have fresh : ({ sql } : Relay).stream.sequence = sequenceAfter 0 := rfl
  have forwards := step_forwards session.front fresh ⟨event, session.inTransaction⟩ fun _ => rfl
  have closed : event.leavesOpen false = false := by
    cases event <;> first | rfl | cases brief
  have nothing := buffer_of_closed session { sql } (fun _ => rfl) closed
  have bytes := forwards.bytes
  rw [nothing, List.append_nil] at bytes
  exact ⟨forwards.deferred, bytes⟩

/-- So a reply of one packet that is sent on is told in this packet. -/
theorem packet_told {event : Event} (brief : event.isBrief = true) {packet : Packet}
    (sent : Call.handed ⟨event, session.inTransaction⟩ = [.sent packet]) :
    let effects := (run (step session) { sql } [event]).2
    savepoints effects = [] ∧ (written effects).flatten = wire (numbered [packet]) := by
  intro effects
  obtain ⟨deferred, bytes⟩ := brief_told session sql brief
  obtain ⟨packetsOnly, noneDeferred⟩ := Handed.idsAfter_packets 0 [packet]
  rw [sent] at deferred bytes
  rw [show effects = _ from congrArg Prod.snd (run_singleton (step session) { sql } event)]
  exact ⟨deferred.trans noneDeferred, bytes.trans (congrArg wire packetsOnly)⟩

/-- A reply of one event is answered with it. -/
theorem brief_answered {event : Event} (brief : event.isBrief = true) :
    ∃ answer, AnsweredBy (fun events => (run (step session) { sql } events).2) [] event answer := by
  have awaits : ∀ answer : Answer, answer.Awaits (run (step session) { sql } []).2 := fun answer =>
    ⟨rfl, List.nil_prefix⟩
  cases event with
  | ok packet connection =>
    cases inTransaction : session.inTransaction with
    | false =>
      have sent : Call.handed ⟨.ok packet connection, session.inTransaction⟩ = [.sent packet] := by
        rw [inTransaction]
        rfl
      obtain ⟨deferred, told⟩ := packet_told session sql brief sent
      exact ⟨.success packet, rfl, .success connection (Or.inl rfl), awaits _, deferred, told⟩
    | true =>
      cases read : OkReply.read packet.payload with
      | ok reply =>
        have handed : Call.handed ⟨.ok packet connection, session.inTransaction⟩ =
            [.deferred reply] := by
          simp only [Call.handed, inTransaction, read, if_true]
        obtain ⟨deferred, told⟩ := brief_told session sql brief
        rw [handed] at deferred told
        refine ⟨.deferred reply, rfl, .deferred reply packet connection, awaits _, ?_, ?_⟩
        · rw [List.nil_append, run_singleton]
          exact deferred
        · rw [List.nil_append, run_singleton]
          exact told
      | error cause =>
        have sent : Call.handed ⟨.ok packet connection, session.inTransaction⟩ =
            [.sent ⟨0, (foundHere ("malformed OK packet: " ++ cause.message)).payload⟩] := by
          simp only [Call.handed, inTransaction, read, if_true]
        obtain ⟨deferred, told⟩ := packet_told session sql brief sent
        exact ⟨.failure [] _, rfl, .failure (Or.inr ⟨_, rfl⟩) (Or.inl rfl), awaits _, deferred, told⟩
  | error packet connection =>
    obtain ⟨deferred, told⟩ := packet_told session sql brief rfl
    exact ⟨.failure [] packet, rfl, .failure (Or.inl ⟨connection, rfl⟩) (Or.inl rfl), awaits _,
      deferred, told⟩
  | close reason =>
    obtain ⟨deferred, told⟩ := packet_told session sql brief rfl
    exact ⟨.failure [] ⟨0, (connectionLost reason).payload⟩, rfl,
      .failure (Or.inr ⟨connectionLost reason, rfl⟩) (Or.inl rfl), awaits _, deferred, told⟩
  | field header fields ending connection => cases brief
  | row packet connection => cases brief
  | eof packet connection => cases brief
  | setSql text => cases brief

/-- Columns and rows are answered with what ends them. -/
theorem rows_answered (columns : FieldSet) (rows : List Packet) (connection : Connection)
    {closing : Event} (ends : closing.endsRows = true) :
    ∃ answer, AnsweredBy (fun events => (run (step session) { sql } events).2)
      (opening columns rows connection) closing answer := by
  obtain ⟨noneDeferred, onTheWay⟩ := opening_told session sql columns rows connection
  have first : firstColumns? (opening columns rows connection ++ [closing]) = some columns := rfl
  have offers := offered_opening columns rows connection ends
  have behind : ∃ set, firstColumns? (opening columns rows connection ++ [closing]) = some set ∧
      columns.packets ++ rows =
        set.packets ++ offered (opening columns rows connection ++ [closing]) :=
    ⟨columns, first, by rw [offers]⟩
  cases closing with
  | error packet closer =>
    obtain ⟨deferred, told⟩ := closing_told session sql columns rows connection ends rfl
    exact ⟨.failure (columns.packets ++ rows) packet, rfl,
      .failure (Or.inl ⟨closer, rfl⟩) (Or.inr behind), ⟨noneDeferred, onTheWay⟩, deferred, told⟩
  | eof packet closer =>
    obtain ⟨deferred, told⟩ := closing_told session sql columns rows connection ends rfl
    exact ⟨.result columns rows packet, rfl,
      .result packet closer first fun row inside => Or.inl (offers.symm ▸ inside),
      ⟨noneDeferred, onTheWay⟩, deferred, told⟩
  | close reason =>
    obtain ⟨deferred, told⟩ := closing_told session sql columns rows connection ends rfl
    exact ⟨.failure (columns.packets ++ rows) ⟨0, (connectionLost reason).payload⟩, rfl,
      .failure (Or.inr ⟨connectionLost reason, rfl⟩) (Or.inr behind), ⟨noneDeferred, onTheWay⟩,
      deferred, told⟩
  | ok packet closer => cases ends
  | field header fields ending closer => cases ends
  | row packet closer => cases ends
  | setSql text => cases ends

/-- **The relay answers with the end of a reply.** -/
theorem answered {reply : List Event} (complete : Complete reply) :
    ∃ before last answer, reply = before ++ [last] ∧
      AnsweredBy (fun events => (run (step session) { sql } events).2) before last answer := by
  cases complete with
  | @brief event isBrief =>
    obtain ⟨answer, answered⟩ := brief_answered session sql isBrief
    exact ⟨[], event, answer, rfl, answered⟩
  | @rows columns rows connection closing ends =>
    obtain ⟨answer, answered⟩ := rows_answered session sql columns rows connection ends
    exact ⟨opening columns rows connection, closing, answer, rfl, answered⟩

end Relay

/-! ### Every statement -/

/-- **A statement that is refused**: the client is told one failure, under the first id and with the
number of the error. -/
structure Refuses (error : RouteError) (effects : List Effect) : Prop where
  deferred : savepoints effects = []
  bytes : (written effects).flatten = (Packet.mk 1 error.toClient.toReply.payload).bytes
  read : ErrReply.read error.toClient.toReply.payload = .ok error.toClient.toReply
  code : error.toClient.toReply.code = error.toClient.code

/-- **A statement that is sent**: every shard of its plan gets what is meant for it, once and in order,
and nothing is done besides. -/
structure Sends (session : Session) (plan : Plan) (sql : String) (dispatched : Dispatched) :
    Prop where
  sent : dispatched.sent = plan.outlets
  nonempty : dispatched.sent ≠ []
  ascending : (dispatched.sent.map Outlet.shard).Pairwise (· < ·)
  silent : (Handler.ofPlan plan).step session (.setSql sql) = (dispatched.handler, [])

/-- **However complete replies come in**, they are answered with the last event. -/
def AnswersOnce (session : Session) (dispatched : Dispatched) : Prop :=
  ∀ (replies : Fin dispatched.sent.length → List Event)
    (arrivals : List (Fin dispatched.sent.length × Event)),
    (∀ shard, Complete (replies shard)) → Interleaves replies arrivals →
      ∃ before last answer, arrivals.map Prod.snd = before ++ [last] ∧
        AnsweredBy (fun events => (run (Handler.step session) dispatched.handler events).2) before last
          answer

/-- A failure of routing is read as it is told. -/
theorem RouteError.read_toReply (error : RouteError) :
    ErrReply.read error.toClient.toReply.payload = .ok error.toClient.toReply ∧
      error.toClient.toReply.code = error.toClient.code := by
  have general : (Utf8.encode ErrReply.generalState).length = ErrReply.stateSize := by decide +kernel
  have malformed : (Utf8.encode malformedState).length = ErrReply.stateSize := by decide +kernel
  cases error with
  | unknownCharset name => exact ⟨ErrReply.read_payload malformed, rfl⟩
  | statement cause => cases cause <;> exact ⟨ErrReply.read_payload malformed, rfl⟩
  | _ => exact ⟨ErrReply.read_payload general, rfl⟩

theorem refuses_refusal (session : Session) (error : RouteError) :
    Refuses error (refusal session error) := by
  obtain ⟨read, code⟩ := error.read_toReply
  refine ⟨savepoints_writes _, ?_, read, code⟩
  rw [refusal, written_writes, Front.flatten_write]
  rfl

namespace Handler

theorem run_relay (session : Session) (state : Relay) (events : List Event) :
    (run (step session) (relay state) events).2 = (run (Relay.step session) state events).2 :=
  congrArg Prod.snd (run_view (Relay.step session) relay (fun _ _ => rfl) events state)

theorem run_coordinator (session : Session) (state : Coordinator) (events : List Event) :
    (run (step session) (coordinator state) events).2 =
      (run (Coordinator.step session) state events).2 :=
  congrArg Prod.snd (run_view (Coordinator.step session) coordinator (fun _ _ => rfl) events state)

end Handler

/-- A handler does nothing when it is told the text of the statement. -/
theorem Handler.silent_ofPlan (session : Session) (plan : Plan) (sql : String) :
    (ofPlan plan).step session (.setSql sql) =
      ((Dispatched.ofPlan session plan sql).handler, []) := by
  unfold Dispatched.ofPlan ofPlan
  split <;> rfl

/-- **The handler of a plan answers once**, if the plan has an outlet. -/
theorem answersOnce_ofPlan (session : Session) {plan : Plan} (nonempty : plan.outlets ≠ [])
    (sql : String) : AnswersOnce session (Dispatched.ofPlan session plan sql) := by
  intro replies arrivals complete interleaved
  by_cases single : plan.outlets.length = 1
  -- What comes in from a single shard is its reply.
  · have handler : (Dispatched.ofPlan session plan sql).handler = .relay { sql } := by
      simp only [Dispatched.ofPlan, Handler.ofPlan, if_pos single]
      rfl
    obtain ⟨shard, same⟩ := interleaved.alone single
    obtain ⟨before, last, answer, split, answered⟩ := Relay.answered session sql (complete shard)
    refine ⟨before, last, answer, same.trans split, ?_⟩
    rw [handler]
    simp only [Handler.run_relay]
    exact answered
  -- Each of several replies ends once, so all have ended with the last event, and not before.
  · have handler : (Dispatched.ofPlan session plan sql).handler =
        .coordinator (.awaiting sql plan.outlets.length plan.window plan.orderBy) := by
      simp only [Dispatched.ofPlan, Handler.ofPlan, if_neg single]
      rfl
    have first : 0 < plan.outlets.length := List.length_pos_iff.mpr nonempty
    have arrived := interleaved.ne_nil ⟨0, first⟩ (complete _).ne_nil
    obtain ⟨before, last, rfl⟩ := (List.eq_nil_or_concat' arrivals).resolve_left arrived
    have split : (before ++ [last]).map Prod.snd = before.map Prod.snd ++ [last.2] := List.map_append
    have counted : finals (before.map Prod.snd ++ [last.2]) = plan.outlets.length := by
      rw [← split]
      exact interleaved.countP fun shard => (complete shard).countP
    have known : ∀ packet connection, last.2 = .eof packet connection →
        ∃ columns, firstColumns? (before.map Prod.snd ++ [last.2]) = some columns := by
      intro packet connection ends
      obtain ⟨event, own, brings⟩ :=
        (complete last.1).columns_of_eof (interleaved.last.trans (congrArg some ends))
      rw [← split]
      exact Option.isSome_iff_exists.mp
        (List.findSome?_isSome_iff.mpr ⟨event, interleaved.mem_of_stream own, brings⟩)
    obtain ⟨answer, answered⟩ := Coordinator.answered session sql plan.window plan.orderBy
      ((complete last.1).isFinal_of_last interleaved.last) counted known
    refine ⟨before.map Prod.snd, last.2, answer, split, ?_⟩
    rw [handler]
    simp only [Handler.run_coordinator]
    exact answered

/-- **Every statement is answered once.** In a schema that was accepted let a statement be dispatched,
in any session and character set, and let any of the shards be picked where one will do. If it cannot
be routed it is refused, with one failure and nothing else. Otherwise it is sent to at least one shard,
to each once and in the order of the route, and nothing else is done; and however complete replies of
these shards come in, the client gets one answer, with the last of them, and before it at most the
columns and rows that stand ahead of its end. -/
theorem dispatch_answers_once {layout : Layout} {schema : Schema}
    (accepted : Schema.ofLayout layout = .ok schema) {choose : List ShardId → ShardId}
    (picks : Picks choose) (session : Session) (sql charset : String) :
    (∀ error effects, dispatch schema session sql charset choose = .error (error, effects) →
      route schema sql charset (Sql.Kind.classify sql) = .error error ∧ Refuses error effects) ∧
    ∀ dispatched, dispatch schema session sql charset choose = .ok dispatched →
      ∃ result, route schema sql charset (Sql.Kind.classify sql) = .ok result ∧
        Sends session (result.pick choose) sql dispatched ∧ AnswersOnce session dispatched := by
  unfold dispatch
  cases routed : route schema sql charset (Sql.Kind.classify sql) with
  | error error =>
    refine ⟨fun own effects given => ?_, nofun⟩
    obtain ⟨rfl, rfl⟩ := Prod.mk.inj (Except.error.inj given)
    exact ⟨rfl, refuses_refusal session error⟩
  | ok result =>
    refine ⟨nofun, fun dispatched given => ?_⟩
    obtain rfl := Except.ok.inj given
    obtain ⟨facts, -, shaped⟩ := route_shaped accepted routed picks
    exact ⟨result, rfl, ⟨rfl, shaped.nonempty, shaped.ascending, Handler.silent_ofPlan session _ sql⟩,
      answersOnce_ofPlan session shaped.nonempty sql⟩

/-- A statement that cannot be read is refused; and one that two shards get is answered with the last
event of their replies, of which one breaks off behind a row. -/
theorem two_shards_answered :
    let session : Session := { front := { threshold := 16 } }
    let choose : List ShardId → ShardId := fun shards => shards.headD 0
    let done : Event := .ok ⟨1, OkReply.payload { affectedRows := 1 }⟩ default
    let broken := Relay.opening Coordinator.oneNumber [⟨4, Row.payload ⟨[some [0x37]]⟩⟩] default ++
      [.close "gone"]
    ∃ schema : Schema, Schema.ofLayout (Layout.demo 2) = .ok schema ∧ Picks choose ∧
      (∃ error effects, dispatch schema session "SELECT" "utf8mb4" choose = .error (error, effects) ∧
        Refuses error effects) ∧
      ∃ dispatched, dispatch schema session "DELETE FROM users" "utf8mb4" choose = .ok dispatched ∧
        dispatched.sent.map Outlet.shard = [0, 1] ∧
        ∃ (arrivals : List (Fin dispatched.sent.length × Event)) (before : List Event)
          (answer : Answer),
          arrivals.map Prod.snd = before ++ [.close "gone"] ∧ done ∈ before ∧
            Interleaves (fun shard => if shard.val = 0 then [done] else broken) arrivals ∧
              AnsweredBy (fun events => (run (Handler.step session) dispatched.handler events).2) before
                (.close "gone") answer := by
  intro session choose done broken
  let schema := (Schema.ofLayout (Layout.demo 2)).toOption.getD default
  have accepted : Schema.ofLayout (Layout.demo 2) = .ok schema :=
    eq_ok_of_isOk (by decide +kernel) default
  refine ⟨schema, accepted, picks_head, ?_, ?_⟩
  · cases refused : dispatch schema session "SELECT" "utf8mb4" choose with
    | ok dispatched =>
      have none : (dispatch schema session "SELECT" "utf8mb4" choose).isOk = false := by decide +kernel
      rw [refused] at none
      cases none
    | error given =>
      obtain ⟨error, effects⟩ := given
      exact ⟨error, effects, rfl, ((dispatch_answers_once accepted picks_head session _ _).1 _ _
        refused).2⟩
  · let dispatched :=
      (dispatch schema session "DELETE FROM users" "utf8mb4" choose).toOption.getD default
    obtain ⟨isSent, shards⟩ :
        (dispatch schema session "DELETE FROM users" "utf8mb4" choose).isOk = true ∧
          dispatched.sent.map Outlet.shard = [0, 1] := by
      decide +kernel
    have sent := eq_ok_of_isOk isSent default
    have two : dispatched.sent.length = 2 := by
      rw [← List.length_map, shards]
      rfl
    -- The first shard replies while the second one is at it.
    let arrivalsOf (count : Nat) (two : count = 2) : List (Fin count × Event) :=
      (broken.take 1).map (⟨1, by omega⟩, ·) ++ [(⟨0, by omega⟩, done)] ++
        (broken.drop 1).map (⟨1, by omega⟩, ·)
    have interleaved : ∀ (count : Nat) (two : count = 2), Interleaves
        (fun shard : Fin count => if shard.val = 0 then [done] else broken)
          (arrivalsOf count two) := by
      rintro count rfl
      decide
    have complete : ∀ shard : Fin dispatched.sent.length,
        Complete (if shard.val = 0 then [done] else broken) := by
      intro shard
      split
      · exact .brief rfl
      · exact .rows _ _ _ rfl
    obtain ⟨result, -, -, once⟩ :=
      (dispatch_answers_once accepted picks_head session _ _).2 dispatched sent
    obtain ⟨before, last, answer, split, answered⟩ :=
      once _ (arrivalsOf _ two) complete (interleaved _ two)
    have ends : before ++ [last] = broken.take 1 ++ [done] ++ (broken.drop 1).take 1 ++
        [.close "gone"] := split.symm.trans rfl
    obtain ⟨rfl, same⟩ := List.append_inj' ends rfl
    obtain rfl : last = .close "gone" := List.singleton_inj.mp same
    exact ⟨dispatched, sent, shards, arrivalsOf _ two, _, answer, split,
      List.mem_append_left _ (List.mem_append_right _ List.mem_cons_self), interleaved _ two, answered⟩

end ScatterGather
