/-
**Packets.**

* `Packet`: a payload with a sequence id. On the wire a header of four bytes comes first: the size of
  the payload in three bytes, and the id;
* `Packet.bytes`, `Packet.ofBytes`: a packet on the wire, and the packet that bytes are;
* `Sequence`: the ids of the packets of one response, which begin at one and wrap around;
* `Packet.readAll?`: the packets that stand in a stream of bytes, found header by header.
-/
import ScatterGather.Wire.Decoder

namespace ScatterGather.Wire

/-- The size of a packet's header. -/
def headerSize : Nat := 4

/-- The greatest size of a payload that a header can tell. -/
def maxPayload : Nat := 0xffffff

/-- A payload with a sequence id. -/
structure Packet where
  sequence : UInt8
  payload : List UInt8
  deriving DecidableEq, Repr, Inhabited

namespace Packet

/-- The header of a packet. A greater size than it can tell is told as the greatest. -/
def header (packet : Packet) : List UInt8 :=
  littleEndian 3 (min packet.payload.length maxPayload) ++ [packet.sequence]

/-- A packet on the wire. -/
def bytes (packet : Packet) : List UInt8 :=
  packet.header ++ packet.payload

/-- The size of a packet on the wire. -/
def size (packet : Packet) : Nat :=
  headerSize + packet.payload.length

/-- A packet on the wire has the size that it says. -/
theorem length_bytes (packet : Packet) : packet.bytes.length = packet.size := by
  rw [bytes, header, List.length_append, List.length_append, length_littleEndian]
  rfl

/-- The packet with another sequence id. -/
def withSequence (packet : Packet) (sequence : UInt8) : Packet :=
  { packet with sequence }

/-- The first byte of a payload, which tells some kinds of packets apart. -/
def marker? (packet : Packet) : Option UInt8 :=
  packet.payload.head?

/-- The packet that bytes are, the header included. -/
def ofBytes : List UInt8 → Except PacketError Packet
  | low :: middle :: high :: sequence :: payload =>
    let declared := ofLittleEndian [low, middle, high]
    if declared = payload.length then .ok ⟨sequence, payload⟩
    else .error (.lengthMismatch declared payload.length)
  | bytes => .error (.truncated (headerSize - bytes.length))

end Packet

/-- The sequence id given out last, zero before the first. -/
structure Sequence where
  last : UInt8 := 0
  deriving DecidableEq, Repr, Inhabited

namespace Sequence

/-- The sequence after one more id, which is its last. -/
def next (sequence : Sequence) : Sequence :=
  ⟨sequence.last + 1⟩

/-- The first ids of a sequence. -/
def ids (sequence : Sequence) : Nat → List UInt8
  | 0 => []
  | count + 1 => sequence.next.last :: ids sequence.next count

end Sequence

/-! ### Packets of a stream -/

/-- The size of the payload that the header in front of some bytes tells. -/
def declaredSize (bytes : List UInt8) : Nat :=
  ofLittleEndian (bytes.take 3)

/-- The packets that a stream consists of; none where the last one is cut off. Bytes that are too few for
a header are passed over. -/
def Packet.readAll? (stream : List UInt8) : Option (List Packet) :=
  let size := headerSize + declaredSize stream
  if stream.length < headerSize then some []
  else if stream.length < size then none
  else
    match Packet.ofBytes (stream.take size) with
    | .ok packet => (readAll? (stream.drop size)).map (packet :: ·)
    | .error _ => none
termination_by stream.length
decreasing_by
  rw [List.length_drop]
  have : headerSize = 4 := rfl
  omega

end ScatterGather.Wire
