/-
**Numbered packets on their way to the client.**

A stream gives every packet the next sequence id and writes it through a buffer that is sent off
whenever it has grown enough. Seen from the client only the ids and the order remain:

* `numberedAfter`, `numbered`: packets with the ids that follow one another, modulo 256;
* `wire`: packets on the wire, one behind the other;
* `sendAll_bytes` — what was written and what is still buffered, together, are what was buffered
  before and the numbered packets, **whatever the threshold**;
* `finish_bytes` — after the end of a stream nothing is buffered, and all of it is written.
-/
import ScatterGather.Wire.Front

namespace ScatterGather.Wire

/-! ### Ids and bytes -/

/-- Packets with the ids that follow the first `count` ones. -/
def numberedAfter (count : Nat) (packets : List Packet) : List Packet :=
  packets.mapIdx fun place packet => packet.withSequence (UInt8.ofNat (count + place + 1))

/-- Packets with the ids of a response of their own: the packet at place `i`, counted from one,
has the id `i` modulo 256. -/
def numbered (packets : List Packet) : List Packet :=
  numberedAfter 0 packets

/-- Packets on the wire, one behind the other. -/
def wire (packets : List Packet) : List UInt8 :=
  packets.flatMap Packet.bytes

theorem numberedAfter_nil (count : Nat) : numberedAfter count [] = [] := rfl

theorem numberedAfter_cons (count : Nat) (packet : Packet) (rest : List Packet) :
    numberedAfter count (packet :: rest) =
      packet.withSequence (UInt8.ofNat (count + 1)) :: numberedAfter (count + 1) rest := by
  unfold numberedAfter
  rw [List.mapIdx_cons]
  congr 2
  funext place following
  rw [Nat.add_right_comm count 1 place, Nat.add_assoc count place 1]

/-- The ids that packets had before do not matter. -/
theorem numberedAfter_congr {packets : List Packet} (count : Nat) {others : List Packet}
    (same : packets.map Packet.payload = others.map Packet.payload) :
    numberedAfter count packets = numberedAfter count others := by
  induction packets generalizing count others with
  | nil =>
    obtain rfl := List.map_eq_nil_iff.mp same.symm
    rfl
  | cons packet rest ih =>
    obtain ⟨other, more, rfl, payload, behind⟩ := List.map_eq_cons_iff.mp same.symm
    rw [numberedAfter_cons, numberedAfter_cons, ih (count + 1) behind.symm, Packet.withSequence,
      Packet.withSequence, payload]

theorem wire_append (packets more : List Packet) : wire (packets ++ more) = wire packets ++ wire more :=
  List.flatMap_append

theorem wire_cons (packet : Packet) (rest : List Packet) :
    wire (packet :: rest) = packet.bytes ++ wire rest :=
  List.flatMap_cons

theorem wire_numbered_singleton (packet : Packet) :
    wire (numbered [packet]) = (packet.withSequence 1).bytes := by
  show wire (numberedAfter 0 [packet]) = _
  rw [numberedAfter_cons, numberedAfter_nil, wire_cons]
  exact List.append_nil _

theorem bytes_ne_nil (packet : Packet) : packet.bytes ≠ [] := by
  intro empty
  have size := packet.length_bytes
  rw [empty, List.length_nil, Packet.size, headerSize] at size
  omega

theorem wire_numbered_ne_nil {packets : List Packet} (some : packets ≠ []) :
    wire (numbered packets) ≠ [] := by
  obtain ⟨packet, rest, rfl⟩ := List.exists_cons_of_ne_nil some
  show wire (numberedAfter 0 (packet :: rest)) ≠ []
  rw [numberedAfter_cons, wire_cons]
  intro empty
  exact bytes_ne_nil _ (List.append_eq_nil_iff.mp empty).1

/-! ### Streams -/

/-- The sequence that has given out the first `count` ids. -/
def sequenceAfter (count : Nat) : Sequence :=
  ⟨UInt8.ofNat count⟩

theorem next_sequenceAfter (count : Nat) :
    (sequenceAfter count).next = sequenceAfter (count + 1) := by
  unfold sequenceAfter Sequence.next
  rw [UInt8.ofNat_add]
  rfl

/-- A packet sent into a stream gets the next id. -/
theorem send_bytes (front : Front) (count : Nat) (buffer : List UInt8) (packet : Packet) :
    (front.send ⟨sequenceAfter count, buffer⟩ packet).1.sequence = sequenceAfter (count + 1) ∧
      (front.send ⟨sequenceAfter count, buffer⟩ packet).2.flatten ++
          (front.send ⟨sequenceAfter count, buffer⟩ packet).1.buffer =
        buffer ++ (packet.withSequence (UInt8.ofNat (count + 1))).bytes := by
  refine ⟨next_sequenceAfter count, ?_⟩
  show (front.append buffer (packet.withSequence (sequenceAfter count).next.last)).2.flatten ++
      (front.append buffer (packet.withSequence (sequenceAfter count).next.last)).1 = _
  rw [next_sequenceAfter, Front.append_bytes]
  rfl

/-- **Packets sent into a stream.** What is written and what stays buffered are what was buffered
and the numbered packets. -/
theorem sendAll_bytes (front : Front) (packets : List Packet) :
    ∀ (count : Nat) (buffer : List UInt8),
      (front.sendAll ⟨sequenceAfter count, buffer⟩ packets).1.sequence =
          sequenceAfter (count + packets.length) ∧
        (front.sendAll ⟨sequenceAfter count, buffer⟩ packets).2.flatten ++
            (front.sendAll ⟨sequenceAfter count, buffer⟩ packets).1.buffer =
          buffer ++ wire (numberedAfter count packets) := by
  induction packets with
  | nil => exact fun count buffer => ⟨rfl, (List.append_nil buffer).symm⟩
  | cons packet rest ih =>
    intro count buffer
    obtain ⟨sentSequence, sentBytes⟩ := send_bytes front count buffer packet
    rcases sent : front.send ⟨sequenceAfter count, buffer⟩ packet with ⟨⟨sequence, left⟩, chunks⟩
    rw [sent] at sentSequence sentBytes
    obtain rfl : sequence = sequenceAfter (count + 1) := sentSequence
    obtain ⟨finalSequence, finalBytes⟩ := ih (count + 1) left
    simp only [Front.sendAll, sent]
    refine ⟨?_, ?_⟩
    · rw [finalSequence, List.length_cons, Nat.add_right_comm, Nat.add_assoc]
    · rw [List.flatten_append, List.append_assoc, finalBytes, ← List.append_assoc, sentBytes,
        numberedAfter_cons, wire_cons, List.append_assoc]

/-- **The end of a stream.** All that was buffered and the numbered packets are written. -/
theorem finish_bytes (front : Front) (count : Nat) (buffer : List UInt8) (packets : List Packet) :
    (front.finish ⟨sequenceAfter count, buffer⟩ packets).2.flatten =
      buffer ++ wire (numberedAfter count packets) := by
  obtain ⟨-, sentBytes⟩ := sendAll_bytes front packets count buffer
  rw [Front.finish, List.flatten_append, Front.flatten_flush, sentBytes]

/-- A response of its own is written whole, with ids from one on. -/
theorem finish_fresh (front : Front) (packets : List Packet) :
    (front.finish {} packets).2.flatten = wire (numbered packets) :=
  finish_bytes front 0 [] packets

end ScatterGather.Wire
