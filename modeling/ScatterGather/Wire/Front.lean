/-
**The way to the client.**

* `Front`: a connection that is drained when what is buffered reaches a threshold;
* `Front.append`, `Front.flush`: a packet added to a buffer, and a buffer sent off; each with the chunks
  that it writes. No byte is lost or made up on the way (`Front.append_bytes`);
* `Stream`: packets numbered one after the other on their way through a buffer;
* `Front.send`, `Front.sendAll`, `Front.finish`: packets sent into a stream, and its end.
-/
import ScatterGather.Wire.Packet

namespace ScatterGather.Wire

/-- What is written to the client at once. -/
abbrev Chunk := List UInt8

/-- A connection to a client. -/
structure Front where
  /-- The number of buffered bytes that are written without waiting for more. -/
  threshold : Nat
  deriving DecidableEq, Repr, Inhabited

namespace Front

/-- A buffer sent off: nothing is written of an empty one. -/
def flush (buffer : List UInt8) : List Chunk :=
  if buffer.isEmpty then [] else [buffer]

/-- A buffer sent off is written whole. -/
theorem flatten_flush (buffer : List UInt8) : (flush buffer).flatten = buffer := by
  rw [flush]
  split
  · next empty => rw [List.isEmpty_iff.mp empty, List.flatten_nil]
  · exact List.flatten_singleton

/-- The buffer after a packet, and the chunk that is written once it reaches the threshold. -/
def append (front : Front) (buffer : List UInt8) (packet : Packet) : List UInt8 × List Chunk :=
  let grown := buffer ++ packet.bytes
  if front.threshold ≤ grown.length then ([], [grown]) else (grown, [])

/-- What is written and what stays buffered are what was buffered and the packet. -/
theorem append_bytes (front : Front) (buffer : List UInt8) (packet : Packet) :
    (front.append buffer packet).2.flatten ++ (front.append buffer packet).1 =
      buffer ++ packet.bytes := by
  rw [append]
  split
  · rw [List.flatten_singleton, List.append_nil]
  · rfl

/-- The chunks of a packet that is written by itself. -/
def write (front : Front) (packet : Packet) : List Chunk :=
  let (buffer, chunks) := front.append [] packet
  chunks ++ flush buffer

/-- A packet that is written by itself is written whole. -/
theorem flatten_write (front : Front) (packet : Packet) :
    (front.write packet).flatten = packet.bytes := by
  rw [write, List.flatten_append, flatten_flush, append_bytes, List.nil_append]

end Front

/-- Packets numbered one after the other, with what is buffered of them. -/
structure Stream where
  sequence : Sequence := {}
  buffer : List UInt8 := []
  deriving DecidableEq, Repr, Inhabited

namespace Front

/-- The stream after a packet, which gets the next id. -/
def send (front : Front) (stream : Stream) (packet : Packet) : Stream × List Chunk :=
  let sequence := stream.sequence.next
  let (buffer, chunks) := front.append stream.buffer (packet.withSequence sequence.last)
  (⟨sequence, buffer⟩, chunks)

/-- The stream after some packets. -/
def sendAll (front : Front) (stream : Stream) : List Packet → Stream × List Chunk
  | [] => (stream, [])
  | packet :: rest =>
    let (sent, chunks) := front.send stream packet
    let (final, more) := sendAll front sent rest
    (final, chunks ++ more)

/-- The stream after some packets and after nothing is left in its buffer. -/
def finish (front : Front) (stream : Stream) (packets : List Packet) : Stream × List Chunk :=
  let (sent, chunks) := front.sendAll stream packets
  (⟨sent.sequence, []⟩, chunks ++ flush sent.buffer)

end Front

end ScatterGather.Wire
