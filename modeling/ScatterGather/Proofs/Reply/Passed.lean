/-
**The failure of a shard, passed on.**

The relay sends the packet of a failure on as it came. The coordinator reads it and writes it again, and
reads texts for that, while a shard writes in the charset of its connection:

* `SentFailure`: a failure as a shard sends it, of bytes, and `SentFailure.told`: what is read of it;
* `payload_told_iff` — the payload is written again **as it was sent** if its text is one, byte by byte, and
  not otherwise;
* `failure_passed_on` — the first failure comes to the client in one packet, from the coordinator **as
  from the relay** exactly in that case.
-/
import ScatterGather.Proofs.Reply.LastReply
import ScatterGather.Proofs.Reply.Relayed
import ScatterGather.Proofs.Wire.Written

namespace ScatterGather

open Text Wire

/-! ### Failures in bytes -/

/-- A failure as a shard sends it: its state and its text are bytes, in whatever charset. -/
structure SentFailure where
  code : UInt16
  state : List UInt8
  message : List UInt8
  sized : state.length = ErrReply.stateSize
  deriving DecidableEq, Repr

namespace SentFailure

/-- The payload of a failure. -/
def payload (sent : SentFailure) : List UInt8 :=
  [ErrReply.marker] ++ littleEndian 2 sent.code.toNat ++ [ErrReply.stateMark] ++ sent.state ++ sent.message

/-- What is read of a failure. -/
def told (sent : SentFailure) : ErrReply :=
  ⟨sent.code, Utf8.decode sent.state, Utf8.decode sent.message⟩

/-- **Every failure can be read.** -/
theorem read_payload (sent : SentFailure) : ErrReply.read sent.payload = .ok sent.told :=
  ErrReply.read_bytes sent.code sent.sized sent.message

theorem length_stateBytes (state : String) : (ErrReply.stateBytes state).length = ErrReply.stateSize := by
  rw [ErrReply.stateBytes, List.length_take, List.length_append, List.length_replicate]
  exact Nat.min_eq_left (Nat.le_add_left _ _)

/-- A state that is a text is written as it was sent. -/
theorem stateBytes_told (sent : SentFailure) (isText : Utf8.IsText sent.state) :
    ErrReply.stateBytes sent.told.state = sent.state := by
  rw [ErrReply.stateBytes, told, Utf8.encode_decode_iff.mpr isText, ← sent.sized, List.take_left]

/-- **What is read of a failure is written again as it was sent** if its text is one, and its state stays
the same; and not otherwise. -/
theorem payload_told_iff (sent : SentFailure) :
    sent.told.payload = sent.payload ↔
      ErrReply.stateBytes sent.told.state = sent.state ∧ Utf8.IsText sent.message := by
  rw [ErrReply.payload, payload, ← Utf8.encode_decode_iff]
  simp only [List.append_assoc]
  constructor
  · intro same
    have same := List.append_cancel_left (List.append_cancel_left (List.append_cancel_left same))
    exact List.append_inj same ((length_stateBytes _).trans sent.sized.symm)
  · rintro ⟨state, message⟩
    rw [state, show Utf8.encode sent.told.message = sent.message from message]
    rfl

end SentFailure

/-- Packets of one id that are the same on the wire have the same payload. -/
theorem Wire.Packet.bytes_eq_iff {sequence : UInt8} {payload other : List UInt8} :
    (Packet.mk sequence payload).bytes = (Packet.mk sequence other).bytes ↔ payload = other := by
  refine ⟨fun same => ?_, fun same => same ▸ rfl⟩
  refine (List.append_inj same ?_).2
  rw [header, header, List.length_append, List.length_append, length_littleEndian,
    length_littleEndian]

/-! ### The way to the client -/

/-- The relay sends a failure on as it came. -/
theorem Relay.error_relayed (session : Session) (sql : String) (packet : Packet) (connection : Connection) :
    (written (run (Relay.step session) { sql } [.error packet connection]).2).flatten =
      (Packet.mk 1 packet.payload).bytes := by
  rw [run_singleton]
  show (written (Effect.writes (session.front.finish {} [packet]).2)).flatten = _
  rw [written_writes, finish_fresh, wire_numbered_singleton]
  rfl

namespace Coordinator

variable (session : Session) (sql : String) (shards : Nat) (window : Window) (orderBy : List OrderKey)

/-- The first failure up to the end of the last reply is what a run tells the client. -/
theorem failure_told {before : List Event} {event : Event} (after : List Event)
    (final : event.isFinal = true) (last : finals (before ++ [event]) = shards) {reply : ErrReply}
    (first : firstFailure? orderBy none (before ++ [event]) = some reply) :
    (Response.failure reply).Reaches session
      (run (step session) (awaiting sql shards window orderBy) (before ++ event :: after)).2 := by
  obtain ⟨response, due, reaches⟩ := due_at_last session sql shards window orderBy after final last
  rwa [due.eq_failure first] at reaches

/-- A failure of a shard with no failure before it is the first one, whatever follows. -/
theorem first_of_error {history : List Event} (sound : firstFailure? orderBy none history = none)
    (sent : SentFailure) (sequence : UInt8) (connection : Connection) (rest : List Event) :
    firstFailure? orderBy none (history ++ .error ⟨sequence, sent.payload⟩ connection :: rest) =
      some sent.told := by
  have first : firstFailure? orderBy none (history ++ [.error ⟨sequence, sent.payload⟩ connection]) =
      some sent.told := by
    rw [firstFailure?_concat, sound, Option.none_or]
    simp only [fault?, sent.read_payload]
  have longer := firstFailure?_append first rest
  rwa [List.append_assoc, List.singleton_append] at longer

/-- **The failure of a shard comes to the client**: the first one, in one packet with the first id, as it
is written again after it was read. It is the packet that the relay sends if what the shard says is a text,
and another one if it is not; a state that is a text is kept. -/
theorem failure_passed_on (sent : SentFailure) (sequence : UInt8) (connection : Connection)
    {history before : List Event} {event : Event} {rest : List Event} (after : List Event)
    (final : event.isFinal = true) (last : finals (before ++ [event]) = shards)
    (among : before ++ [event] = history ++ .error ⟨sequence, sent.payload⟩ connection :: rest)
    (sound : firstFailure? orderBy none history = none) :
    let told := (run (step session) (awaiting sql shards window orderBy) (before ++ event :: after)).2
    let relayed :=
      (run (Relay.step session) { sql } [.error ⟨sequence, sent.payload⟩ connection]).2
    savepoints told = [] ∧ (written told).flatten = (Packet.mk 1 sent.told.payload).bytes ∧
      (written relayed).flatten = (Packet.mk 1 sent.payload).bytes ∧
      ((written told).flatten = (written relayed).flatten ↔
        ErrReply.stateBytes sent.told.state = sent.state ∧ Utf8.IsText sent.message) ∧
      (Utf8.IsText sent.state → ErrReply.stateBytes sent.told.state = sent.state) := by
  intro told relayed
  obtain ⟨deferred, bytes⟩ := failure_told session sql shards window orderBy after final last
    (among ▸ first_of_error orderBy sound sent sequence connection rest)
  have bytes : (written told).flatten = (Packet.mk 1 sent.told.payload).bytes :=
    bytes.trans (wire_numbered_singleton _)
  have sends := Relay.error_relayed session sql ⟨sequence, sent.payload⟩ connection
  refine ⟨deferred, bytes, sends, ?_, sent.stateBytes_told⟩
  rw [bytes, sends, Packet.bytes_eq_iff]
  exact sent.payload_told_iff

/-- A failure whose text is one comes through as it was sent, behind a success of another shard. -/
theorem duplicate_passed_on :
    let sent : SentFailure := ⟨1062, [0x32, 0x33, 0x30, 0x30, 0x30], [0x6e, 0xc3, 0xa9], rfl⟩
    let connection := Connection.mk 1 ⟨"10.0.0.0", 3306, "shop_0", 0⟩
    let success := Event.ok ⟨1, [0, 1, 0, 2, 0, 0, 0]⟩ connection
    let failure := Event.error ⟨1, sent.payload⟩ connection
    let session : Session := ⟨⟨8⟩, false⟩
    failure.isFinal = true ∧ finals ([success] ++ [failure]) = 2 ∧
      firstFailure? [] none [success] = none ∧
      ErrReply.stateBytes sent.told.state = sent.state ∧ Utf8.IsText sent.message ∧
      (written (run (step session) (awaiting "" 2 {} []) ([success] ++ failure :: [])).2).flatten =
        (written (run (Relay.step session) { sql := "" } [failure]).2).flatten := by
  intro sent connection success failure session
  have sound : firstFailure? [] none [success] = none := by decide +kernel
  have state : Utf8.IsText sent.state := ⟨"23000", by decide +kernel⟩
  have message : Utf8.IsText sent.message := ⟨"né", by decide +kernel⟩
  have last : finals ([success] ++ [failure]) = 2 := rfl
  obtain ⟨-, -, -, same, kept⟩ :=
    failure_passed_on session "" 2 {} [] sent 1 connection [] rfl last rfl sound
  exact ⟨rfl, last, sound, kept state, message, same.mpr ⟨kept state, message⟩⟩

/-- A text in another charset is not passed on: its byte that is no text becomes the three bytes of a
replacement character, where the relay sends the byte. -/
theorem latin_mistaken :
    let sent : SentFailure := ⟨1062, [0x32, 0x33, 0x30, 0x30, 0x30], [0x6e, 0xe9], rfl⟩
    let connection := Connection.mk 1 ⟨"10.0.0.0", 3306, "shop_0", 0⟩
    let success := Event.ok ⟨1, [0, 1, 0, 2, 0, 0, 0]⟩ connection
    let failure := Event.error ⟨1, sent.payload⟩ connection
    let session : Session := ⟨⟨8⟩, false⟩
    finals [failure, success] = 2 ∧
      (written (run (step session) (awaiting "" 2 {} []) [failure, success]).2).flatten ≠
        (Packet.mk 1 sent.payload).bytes ∧
      (written (run (Relay.step session) { sql := "" } [failure]).2).flatten =
        (Packet.mk 1 sent.payload).bytes := by
  decide +kernel

end Coordinator

end ScatterGather
