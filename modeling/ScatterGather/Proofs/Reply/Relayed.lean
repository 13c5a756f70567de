/-
**The relay keeps the stream whole.**

The relay sends packets on as they come, through a buffer that may be sent off at any of them. What the
client gets is said here by what is handed in alone, and whatever the threshold:

* `Call`, `Call.handed`: an event at the relay with the state of the client's transaction, and what takes
  an id at it: packets that are sent on, or a success that is deferred;
* `forwarded`, `deferred`: the packets, and the successes, among all that is handed in, each under its
  id: **the k-th that takes an id takes k modulo 256**;
* `Orderly`: no success comes while a result is on its way;
* `Forwards`: **what a run makes of what is handed in** — it holds of one step (`step_forwards`), of one
  run after another (`Forwards.trans`), and so of every run (`relayed_forwards`);
* `opening_told`, `closing_told`: columns and rows are on their way as they come in, and at their end
  they are written, with what ends them;
* `relay_forwards_all` — after every call of an orderly run, what was written and what is still buffered,
  together, are **all packets in order**, and the ends of replies leave nothing in the buffer.
-/
import Mathlib.Data.List.Basic
import ScatterGather.Proofs.Reply.FirstFailure
import ScatterGather.Reply.Relay

namespace ScatterGather

open Wire

/-! ### What is handed in -/

/-- An event at the relay, and whether the client has a transaction open then. -/
structure Call where
  event : Event
  inTransaction : Bool
  deriving DecidableEq, Repr

/-- What takes an id on the way to the client. -/
inductive Handed where
  | sent (packet : Packet)
  /-- A success that waits for the end of its transaction. -/
  | deferred (reply : OkReply)
  deriving DecidableEq, Repr

/-- What is handed in at a call, in order. A connection that goes away and a deferred success that
cannot be read are told as failures. -/
def Call.handed (call : Call) : List Handed :=
  match call.event with
  | .ok packet _ =>
    if call.inTransaction then
      match OkReply.read packet.payload with
      | .ok reply => [.deferred reply]
      | .error cause =>
        [.sent ⟨0, (foundHere ("malformed OK packet: " ++ cause.message)).payload⟩]
    else [.sent packet]
  | .error packet _ => [.sent packet]
  | .field header fields eof _ => ([header] ++ fields ++ [eof]).map .sent
  | .row packet _ => [.sent packet]
  | .eof packet _ => [.sent packet]
  | .close reason => [.sent ⟨0, (connectionLost reason).payload⟩]
  | .setSql _ => []

/-- All that is handed in at some calls. -/
def handed (calls : List Call) : List Handed :=
  calls.flatMap Call.handed

theorem handed_append (before after : List Call) :
    handed (before ++ after) = handed before ++ handed after :=
  List.flatMap_append

theorem handed_singleton (call : Call) : handed [call] = call.handed :=
  List.flatMap_singleton ..

namespace Handed

/-- What is handed in after `count` ids were taken, each under its id. -/
def idsAfter (count : Nat) (handed : List Handed) : List (UInt8 × Handed) :=
  handed.mapIdx fun place one => (UInt8.ofNat (count + place + 1), one)

/-- A packet that is sent on, under an id. -/
def packet? : UInt8 × Handed → Option Packet
  | (id, .sent packet) => some (packet.withSequence id)
  | (_, .deferred _) => none

/-- A success that is deferred, under an id. -/
def deferred? : UInt8 × Handed → Option (OkReply × UInt8)
  | (_, .sent _) => none
  | (id, .deferred reply) => some (reply, id)

theorem idsAfter_append (count : Nat) (first second : List Handed) :
    idsAfter count (first ++ second) =
      idsAfter count first ++ idsAfter (count + first.length) second := by
  unfold idsAfter
  rw [List.mapIdx_append]
  congr 2
  funext place one
  rw [Nat.add_assoc count first.length, Nat.add_comm first.length, Nat.add_assoc count]

/-- Packets that are all sent on are numbered. -/
theorem idsAfter_packets (count : Nat) (packets : List Packet) :
    (idsAfter count (packets.map .sent)).filterMap packet? = numberedAfter count packets ∧
      (idsAfter count (packets.map .sent)).filterMap deferred? = [] := by
  induction packets generalizing count with
  | nil => exact ⟨rfl, rfl⟩
  | cons first rest ih =>
    have split : idsAfter count ((first :: rest).map .sent) =
        (UInt8.ofNat (count + 1), .sent first) :: idsAfter (count + 1) (rest.map .sent) :=
      idsAfter_append count [.sent first] (rest.map .sent)
    obtain ⟨packetsOnly, noneDeferred⟩ := ih (count + 1)
    rw [split, numberedAfter_cons, ← packetsOnly]
    exact ⟨rfl, noneDeferred⟩

end Handed

/-- The packets that are sent on at some calls, each under its id. -/
def forwarded (calls : List Call) : List Packet :=
  (Handed.idsAfter 0 (handed calls)).filterMap Handed.packet?

/-- The successes that are deferred at some calls, each with its id. -/
def deferred (calls : List Call) : List (OkReply × UInt8) :=
  (Handed.idsAfter 0 (handed calls)).filterMap Handed.deferred?

/-! ### Orderly calls -/

namespace Event

/-- Tells whether an event is a success. -/
def isOk : Event → Bool
  | .ok .. => true
  | _ => false

/-- Tells whether an event ends a result, or takes the place of its end. -/
def endsRows : Event → Bool
  | .error .. | .eof .. | .close _ => true
  | _ => false

/-- Tells whether a result is on its way after an event. -/
def leavesOpen (before : Bool) : Event → Bool
  | .field .. | .row .. => true
  | .error .. | .eof .. | .close _ => false
  | .ok .. | .setSql _ => before

end Event

/-- Tells whether a result is on its way after some calls: columns or a row came after its last end. -/
def isOpen (calls : List Call) : Bool :=
  calls.foldl (fun before call => call.event.leavesOpen before) false

/-- No success comes while a result is on its way. -/
def Orderly (calls : List Call) : Prop :=
  ∀ place (fits : place < calls.length), calls[place].event.isOk = true →
    isOpen (calls.take place) = false

instance (calls : List Call) : Decidable (Orderly calls) :=
  inferInstanceAs (Decidable (∀ place (fits : place < calls.length), calls[place].event.isOk = true →
    isOpen (calls.take place) = false))

theorem isOpen_concat (calls : List Call) (call : Call) :
    isOpen (calls ++ [call]) = call.event.leavesOpen (isOpen calls) :=
  List.foldl_concat ..

theorem Orderly.of_none {calls : List Call} (none : ∀ call ∈ calls, call.event.isOk = false) :
    Orderly calls := fun place fits isOk => by
  rw [none _ (List.getElem_mem fits)] at isOk
  cases isOk

theorem Orderly.of_append {before after : List Call} (orderly : Orderly (before ++ after)) :
    Orderly before := by
  intro place fits isOk
  have inside : place < (before ++ after).length := by
    rw [List.length_append]
    omega
  have same := orderly place inside
  rw [List.getElem_append_left fits, List.take_append_of_le_length (Nat.le_of_lt fits)] at same
  exact same isOk

/-- A success that comes behind orderly calls finds no result on its way. -/
theorem Orderly.last {before : List Call} {call : Call} (orderly : Orderly (before ++ [call]))
    (isOk : call.event.isOk = true) : isOpen before = false := by
  have inside : before.length < (before ++ [call]).length := by
    rw [List.length_append]
    exact Nat.lt_succ_self _
  have same := orderly before.length inside
  rw [List.getElem_concat_length rfl, List.take_left' rfl] at same
  exact same isOk

namespace Relay

/-! ### Runs of the relay -/

/-- The relay of a statement after some calls, and all that it did. -/
def relayed (front : Front) (sql : String) (calls : List Call) : Relay × List Effect :=
  calls.foldl (fun before call =>
    let (next, effects) := before.1.step ⟨front, call.inTransaction⟩ call.event
    (next, before.2 ++ effects)) ({ sql }, [])

theorem relayed_concat (front : Front) (sql : String) (calls : List Call) (call : Call) :
    relayed front sql (calls ++ [call]) =
      (((relayed front sql calls).1.step ⟨front, call.inTransaction⟩ call.event).1,
        (relayed front sql calls).2 ++
          ((relayed front sql calls).1.step ⟨front, call.inTransaction⟩ call.event).2) :=
  List.foldl_concat ..

/-- Calls for the events of one session. -/
def callsOf (session : Session) (events : List Event) : List Call :=
  events.map fun event => ⟨event, session.inTransaction⟩

theorem relayed_callsOf (session : Session) (sql : String) (events : List Event) :
    relayed session.front sql (callsOf session events) = run (step session) { sql } events := by
  induction events using List.reverseRecOn with
  | nil => rfl
  | append_singleton before event ih =>
    rw [run_concat, ← ih, callsOf, List.map_append, List.map_singleton]
    exact relayed_concat session.front sql _ _

/-- **What a run makes of what is handed in**, where `count` ids were taken and some bytes were buffered
before: all packets are written or buffered behind these bytes, and all successes that are deferred have
their ids. -/
structure Forwards (count : Nat) (buffered : List UInt8) (handed : List Handed)
    (result : Relay × List Effect) : Prop where
  sequence : result.1.stream.sequence = sequenceAfter (count + handed.length)
  bytes : (written result.2).flatten ++ result.1.stream.buffer =
    buffered ++ wire ((Handed.idsAfter count handed).filterMap Handed.packet?)
  deferred : savepoints result.2 = (Handed.idsAfter count handed).filterMap Handed.deferred?

namespace Forwards

variable {count : Nat} {buffered : List UInt8} {first second : List Handed} {relay next : Relay}
  {effects more : List Effect}

protected theorem trans (one : Forwards count buffered first (relay, effects))
    (other : Forwards (count + first.length) relay.stream.buffer second (next, more)) :
    Forwards count buffered (first ++ second) (next, effects ++ more) where
  sequence := by
    rw [List.length_append, ← Nat.add_assoc]
    exact other.sequence
  bytes := by
    show (written (effects ++ more)).flatten ++ next.stream.buffer = _
    rw [written_append, List.flatten_append, List.append_assoc, other.bytes, ← List.append_assoc,
      one.bytes, Handed.idsAfter_append, List.filterMap_append, wire_append, List.append_assoc]
  deferred := by
    show savepoints (effects ++ more) = _
    rw [savepoints_append, one.deferred, other.deferred, Handed.idsAfter_append,
      List.filterMap_append]

/-- What is noted at an event reaches no client. -/
theorem notes (forwards : Forwards count buffered first (relay, effects)) (notes : List Effect)
    (silent : written notes = [] ∧ savepoints notes = []) :
    Forwards count buffered first (relay, notes ++ effects) where
  sequence := forwards.sequence
  bytes := by
    show (written (notes ++ effects)).flatten ++ relay.stream.buffer = _
    rw [written_append, silent.1, List.nil_append]
    exact forwards.bytes
  deferred := by
    show savepoints (notes ++ effects) = _
    rw [savepoints_append, silent.2, List.nil_append]
    exact forwards.deferred

end Forwards

/-! ### One step -/

section Step

variable (front : Front) {relay : Relay} {count : Nat}

/-- Packets that are sent on are forwarded behind what is buffered. -/
theorem sendAll_forwards (counted : relay.stream.sequence = sequenceAfter count)
    (packets : List Packet) :
    Forwards count relay.stream.buffer (packets.map .sent)
      (relay.sent (front.sendAll relay.stream packets)) := by
  obtain ⟨sql, ⟨sequence, buffer⟩⟩ := relay
  obtain rfl : sequence = sequenceAfter count := counted
  obtain ⟨sentSequence, sentBytes⟩ := sendAll_bytes front packets count buffer
  obtain ⟨packetsOnly, noneDeferred⟩ := Handed.idsAfter_packets count packets
  refine ⟨?_, ?_, ?_⟩
  · rw [List.length_map]
    exact sentSequence
  · rw [packetsOnly]
    show (written (Effect.writes _)).flatten ++ _ = _
    rw [written_writes]
    exact sentBytes
  · rw [noneDeferred]
    exact savepoints_writes _

/-- So are packets at an end, and nothing is left of them. -/
theorem finish_forwards (counted : relay.stream.sequence = sequenceAfter count)
    (packets : List Packet) :
    Forwards count relay.stream.buffer (packets.map .sent)
      (relay.sent (front.finish relay.stream packets)) := by
  obtain ⟨sql, ⟨sequence, buffer⟩⟩ := relay
  obtain rfl : sequence = sequenceAfter count := counted
  obtain ⟨packetsOnly, noneDeferred⟩ := Handed.idsAfter_packets count packets
  refine ⟨?_, ?_, ?_⟩
  · rw [List.length_map]
    exact (sendAll_bytes front packets count buffer).1
  · rw [packetsOnly]
    show (written (Effect.writes _)).flatten ++ [] = _
    rw [written_writes, List.append_nil]
    exact finish_bytes front count buffer packets
  · rw [noneDeferred]
    exact savepoints_writes _

/-- A success takes an id, and is sent on by itself or deferred. Nothing may be buffered then, since
what is written by itself overtakes it. -/
theorem acknowledge_forwards (counted : relay.stream.sequence = sequenceAfter count)
    (nothing : relay.stream.buffer = []) (inTransaction : Bool) (packet : Packet)
    (connection : Connection) :
    Forwards count relay.stream.buffer (Call.handed ⟨.ok packet connection, inTransaction⟩)
      (relay.step ⟨front, inTransaction⟩ (.ok packet connection)) := by
  have id : relay.stream.sequence.next = sequenceAfter (count + 1) := by
    rw [counted, next_sequenceAfter]
  -- By itself a packet is written whole.
  have alone : ∀ single : Packet, Forwards count [] [.sent single]
      ({ relay with stream := ⟨sequenceAfter (count + 1), []⟩ },
        Effect.writes (front.write (single.withSequence (UInt8.ofNat (count + 1))))) := by
    intro single
    refine ⟨rfl, ?_, savepoints_writes _⟩
    show (written (Effect.writes _)).flatten ++ [] = [] ++ wire [_]
    rw [written_writes, Front.flatten_write, List.append_nil, List.nil_append, wire_cons]
    exact (List.append_nil _).symm
  have step : relay.step ⟨front, inTransaction⟩ (.ok packet connection) =
      ({ relay with stream := ⟨sequenceAfter (count + 1), []⟩ },
        relay.completed connection ++ acknowledge ⟨front, inTransaction⟩ packet
          (UInt8.ofNat (count + 1))) := by
    simp only [Relay.step, id, nothing]
    rfl
  rw [step, nothing]
  refine Forwards.notes ?_ _ ⟨rfl, rfl⟩
  cases inTransaction with
  | false => exact alone packet
  | true =>
    cases read : OkReply.read packet.payload with
    | ok reply =>
      simp only [Call.handed, acknowledge, read, if_true]
      exact ⟨rfl, rfl, rfl⟩
    | error cause =>
      simp only [Call.handed, acknowledge, read, if_true]
      exact alone ⟨0, _⟩

/-- **One step forwards what is handed in**, if a success finds nothing buffered. -/
theorem step_forwards (counted : relay.stream.sequence = sequenceAfter count) (call : Call)
    (nothing : call.event.isOk = true → relay.stream.buffer = []) :
    Forwards count relay.stream.buffer call.handed
      (relay.step ⟨front, call.inTransaction⟩ call.event) := by
  obtain ⟨event, inTransaction⟩ := call
  cases event with
  | ok packet connection =>
    exact acknowledge_forwards front counted (nothing rfl) inTransaction packet connection
  | error packet connection =>
    exact (finish_forwards front counted [packet]).notes [.release connection] ⟨rfl, rfl⟩
  | field header fields eof connection =>
    exact sendAll_forwards front counted ([header] ++ fields ++ [eof])
  | row packet connection => exact sendAll_forwards front counted [packet]
  | eof packet connection =>
    exact (finish_forwards front counted [packet]).notes (relay.completed connection) ⟨rfl, rfl⟩
  | close reason => exact finish_forwards front counted [_]
  | setSql sql => exact ⟨counted, (List.append_nil _).symm, rfl⟩

/-- **The ends of replies leave nothing in the buffer**, whatever came before. -/
theorem buffer_of_endsRows (session : Session) (relay : Relay) {event : Event}
    (ends : event.endsRows = true) : (relay.step session event).1.stream.buffer = [] := by
  cases event with
  | error packet connection => rfl
  | eof packet connection => rfl
  | close reason => rfl
  | ok packet connection => cases ends
  | field header fields eof connection => cases ends
  | row packet connection => cases ends
  | setSql sql => cases ends

/-- Where no result is on its way after an event, nothing is buffered if nothing was before. -/
theorem buffer_of_closed (session : Session) (relay : Relay) {event : Event} {before : Bool}
    (nothing : before = false → relay.stream.buffer = [])
    (closed : event.leavesOpen before = false) :
    (relay.step session event).1.stream.buffer = [] := by
  cases event with
  | ok packet connection => exact nothing closed
  | setSql sql => exact nothing closed
  | field header fields eof connection => cases closed
  | row packet connection => cases closed
  | error packet connection => rfl
  | eof packet connection => rfl
  | close reason => rfl

end Step

/-! ### All calls -/

/-- **Every orderly run forwards what is handed in**, and buffers nothing while no result is on its
way. -/
theorem relayed_forwards (front : Front) (sql : String) {calls : List Call}
    (orderly : Orderly calls) :
    Forwards 0 [] (handed calls) (relayed front sql calls) ∧
      (isOpen calls = false → (relayed front sql calls).1.stream.buffer = []) := by
  -- From the end. A success overtakes what is buffered, and it is orderly that makes this nothing:
  -- so what is buffered while no result is on its way has to go along with what is forwarded.
  induction calls using List.reverseRecOn with
  | nil => exact ⟨⟨rfl, rfl, rfl⟩, fun _ => rfl⟩
  | append_singleton before call ih =>
    obtain ⟨forwards, nothing⟩ := ih orderly.of_append
    rw [relayed_concat, handed_append, handed_singleton, isOpen_concat]
    generalize relayed front sql before = reached at forwards nothing
    obtain ⟨relay, effects⟩ := reached
    have counted := forwards.sequence
    rw [Nat.zero_add] at counted
    have step := step_forwards front counted call fun isOk => nothing (orderly.last isOk)
    refine ⟨forwards.trans ?_, buffer_of_closed _ _ nothing⟩
    rw [Nat.zero_add]
    exact step

/-! ### Columns and rows -/

section Opening

variable (session : Session) (sql : String) (columns : FieldSet) (rows : List Packet)
  (connection : Connection)

/-- Columns and rows as they come in. -/
def opening : List Event :=
  .field columns.header columns.fields columns.eof connection ::
    rows.map fun packet => .row packet connection

theorem mem_opening {event : Event} : event ∈ opening columns rows connection ↔
    event = .field columns.header columns.fields columns.eof connection ∨
      ∃ packet ∈ rows, .row packet connection = event := by
  rw [opening, List.mem_cons, List.mem_map]

theorem handed_opening :
    handed (callsOf session (opening columns rows connection)) =
      (columns.packets ++ rows).map .sent := by
  have each : handed (callsOf session (rows.map fun packet => .row packet connection)) =
      rows.map .sent := by
    rw [handed, callsOf, List.map_map, List.flatMap_map]
    exact List.flatMap_pure_eq_map ..
  rw [List.map_append, ← each]
  rfl

theorem orderly_opening (closing : List Event) (none : ∀ event ∈ closing, event.isOk = false) :
    Orderly (callsOf session (opening columns rows connection ++ closing)) := by
  refine Orderly.of_none fun call inside => ?_
  obtain ⟨event, isEvent, rfl⟩ := List.mem_map.mp inside
  rcases List.mem_append.mp isEvent with early | late
  · rcases (mem_opening columns rows connection).mp early with rfl | ⟨packet, -, rfl⟩ <;> rfl
  · exact none event late

/-- **Columns and rows are on their way** as they come in: no more than they are written. -/
theorem opening_told :
    let effects := (run (step session) { sql } (opening columns rows connection)).2
    savepoints effects = [] ∧
      (written effects).flatten <+: wire (numbered (columns.packets ++ rows)) := by
  intro effects
  have orderly := orderly_opening session columns rows connection [] nofun
  rw [List.append_nil] at orderly
  obtain ⟨⟨-, bytes, deferred⟩, -⟩ := relayed_forwards session.front sql orderly
  obtain ⟨packetsOnly, noneDeferred⟩ := Handed.idsAfter_packets 0 (columns.packets ++ rows)
  rw [relayed_callsOf, handed_opening] at bytes deferred
  rw [packetsOnly] at bytes
  exact ⟨deferred.trans noneDeferred, ⟨_, bytes⟩⟩

/-- **At their end they are written**, with the packet that is sent on there behind them. -/
theorem closing_told {closing : Event} (ends : closing.endsRows = true) {packet : Packet}
    (sent : Call.handed ⟨closing, session.inTransaction⟩ = [.sent packet]) :
    let effects := (run (step session) { sql } (opening columns rows connection ++ [closing])).2
    savepoints effects = [] ∧
      (written effects).flatten = wire (numbered (columns.packets ++ rows ++ [packet])) := by
  intro effects
  have orderly := orderly_opening session columns rows connection [closing]
    fun event inside => by
      obtain rfl := List.mem_singleton.mp inside
      cases event <;> first | rfl | cases ends
  obtain ⟨⟨-, bytes, deferred⟩, -⟩ := relayed_forwards session.front sql orderly
  have nothing : (run (step session) { sql } (opening columns rows connection ++
      [closing])).1.stream.buffer = [] := by
    rw [run_concat]
    exact buffer_of_endsRows session _ ends
  have all : handed (callsOf session (opening columns rows connection ++ [closing])) =
      (columns.packets ++ rows ++ [packet]).map .sent := by
    rw [callsOf, List.map_append, List.map_singleton, handed_append, handed_singleton, sent,
      List.map_append, ← handed_opening session]
    rfl
  obtain ⟨packetsOnly, noneDeferred⟩ :=
    Handed.idsAfter_packets 0 (columns.packets ++ rows ++ [packet])
  rw [relayed_callsOf, all] at bytes deferred
  rw [nothing, packetsOnly, List.append_nil] at bytes
  exact ⟨deferred.trans noneDeferred, bytes⟩

end Opening

/-! ### Whatever is handed in -/

/-- **The relay forwards all**, in order and renumbered. Let no success come while a result is on its way.
After every call, what was written and what is still buffered, together, are the packets handed in so
far, each under the id that it takes; the successes deferred so far have the ids that they took; and an
end of rows, a failure and the end of a connection leave nothing in the buffer. -/
theorem relay_forwards_all (front : Front) (sql : String) {calls : List Call}
    (orderly : Orderly calls) {sofar : List Call} (reached : sofar <+: calls) :
    let relay := (relayed front sql sofar).1
    let effects := (relayed front sql sofar).2
    (written effects).flatten ++ relay.stream.buffer = wire (forwarded sofar) ∧
      savepoints effects = deferred sofar ∧
      relay.stream.sequence = sequenceAfter (handed sofar).length ∧
      ∀ call ∈ sofar.getLast?, call.event.endsRows = true → relay.stream.buffer = [] := by
  obtain ⟨rest, rfl⟩ := reached
  intro relay effects
  obtain ⟨forwards, -⟩ := relayed_forwards front sql orderly.of_append
  refine ⟨forwards.bytes, forwards.deferred, ?_, fun call isLast ends => ?_⟩
  · rw [show relay.stream.sequence = _ from forwards.sequence, Nat.zero_add]
  · obtain ⟨before, rfl⟩ := List.getLast?_eq_some_iff.mp isLast
    rw [show relay = _ from congrArg Prod.fst (relayed_concat front sql before call)]
    exact buffer_of_endsRows _ _ ends

/-- A result, a success that is deferred, and a connection that goes away behind a row: the success takes
the sixth id, and the failure is the eighth. -/
theorem result_and_deferral_forwarded :
    let number : Packet := ⟨0, ResultHeader.payload ⟨1⟩⟩
    let ending : Packet := ⟨0, EofReply.payload {}⟩
    let digit : Packet := ⟨0, Row.payload ⟨[some [0x37]]⟩⟩
    let changed : OkReply := { affectedRows := 1 }
    let calls : List Call := [⟨.field number [⟨0, []⟩] ending default, false⟩,
      ⟨.row digit default, false⟩, ⟨.eof ending default, false⟩, ⟨.ok ⟨0, changed.payload⟩ default, true⟩,
      ⟨.row digit default, true⟩, ⟨.close "gone", true⟩]
    let effects := (relayed ⟨16⟩ "" calls).2
    Orderly calls ∧ calls <+: calls ∧ (forwarded calls).map Packet.sequence = [1, 2, 3, 4, 5, 7, 8] ∧
      savepoints effects = [(changed, 6)] ∧ (written effects).flatten = wire (forwarded calls) := by
  intro number ending digit changed calls effects
  have orderly : Orderly calls := by decide +kernel
  have ids : (forwarded calls).map Packet.sequence = [1, 2, 3, 4, 5, 7, 8] := by decide +kernel
  have sixth : deferred calls = [(changed, 6)] := by decide +kernel
  obtain ⟨bytes, ofSuccesses, -, nothing⟩ := relay_forwards_all ⟨16⟩ "" orderly List.prefix_rfl
  rw [nothing ⟨.close "gone", true⟩ rfl rfl, List.append_nil] at bytes
  exact ⟨orderly, List.prefix_rfl, ids, ofSuccesses.trans sixth, bytes⟩

end Relay

end ScatterGather
