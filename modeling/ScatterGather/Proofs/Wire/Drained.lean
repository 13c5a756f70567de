/-
**What a writer gets of a buffer.**

Packets are added to one buffer, which goes to a writer when it has grown enough, and when it is sent off.
The writer may break in between and work again, which nobody but the writer knows of:

* `Call`, `Channel`, `after`: what happens to a buffer, and what it comes to with the writer behind it;
* `Cut`, `Packed`: **the invariant** — every chunk that the writer was given is some whole packets, and so
  is what is still buffered;
* `packed_after`, `drains_after`: every run keeps it, and hands over the same chunks whether the writer
  works or not;
* `stream_kept_whole` — of packets on their way to the client **nothing is split, lost or moved**, whatever
  the threshold, but for the chunks that came to the writer while it was broken.
-/
import Mathlib.Data.List.Induction
import ScatterGather.Proofs.Sequence
import ScatterGather.Proofs.Wire.Numbered

namespace ScatterGather.Wire

/-! ### Packets on the wire -/

theorem wire_ne_nil {packets : List Packet} (some : packets ≠ []) : wire packets ≠ [] := by
  obtain ⟨packet, rest, rfl⟩ := List.exists_cons_of_ne_nil some
  rw [wire_cons]
  exact List.append_ne_nil_of_left_ne_nil (bytes_ne_nil packet) _

theorem wire_flatten (groups : List (List Packet)) : wire groups.flatten = (groups.map wire).flatten := by
  induction groups with
  | nil => rfl
  | cons group rest ih => rw [List.flatten_cons, wire_append, ih, List.map_cons, List.flatten_cons]

/-- Chunks, and bytes behind them, that packets are cut into: each chunk is one packet or more, and no
packet is split. -/
def Cut (packets : List Packet) (chunks : List Chunk) (behind : List UInt8) : Prop :=
  ∃ (groups : List (List Packet)) (rest : List Packet), packets = groups.flatten ++ rest ∧
    (∀ group ∈ groups, group ≠ []) ∧ chunks = groups.map wire ∧ behind = wire rest

/-- No byte is lost or made up where packets are cut. -/
theorem Cut.bytes {packets : List Packet} {chunks : List Chunk} {behind : List UInt8}
    (cut : Cut packets chunks behind) : chunks.flatten ++ behind = wire packets := by
  obtain ⟨groups, rest, rfl, -, rfl, rfl⟩ := cut
  rw [wire_append, wire_flatten]

theorem Cut.ne_nil {packets : List Packet} {chunks : List Chunk} {behind : List UInt8}
    (cut : Cut packets chunks behind) {chunk : Chunk} (inside : chunk ∈ chunks) : chunk ≠ [] := by
  obtain ⟨groups, rest, -, filled, rfl, -⟩ := cut
  obtain ⟨group, isGroup, rfl⟩ := List.mem_map.mp inside
  exact wire_ne_nil (filled group isGroup)

/-! ### Buffers and writers -/

/-- What happens to a buffer, or to the writer behind it. -/
inductive Call where
  | append (packet : Packet)
  | flush
  /-- The writer breaks and takes nothing from then on, or works again. -/
  | turn (broken : Bool)
  deriving DecidableEq, Repr

/-- The packet that a call adds. -/
def Call.packet? : Call → Option Packet
  | append packet => some packet
  | _ => none

/-- Tells whether something happens to the writer alone. -/
def Call.isTurn : Call → Bool
  | turn _ => true
  | _ => false

/-- Whether the writer is broken after a call. -/
def Call.leaves (broken : Bool) : Call → Bool
  | turn turned => turned
  | _ => broken

/-- Tells whether a call gives a buffer, which has grown by what the call adds, to the writer. -/
def Call.drains (front : Front) (grown : List UInt8) : Call → Bool
  | append _ => front.threshold ≤ grown.length
  | flush => !grown.isEmpty
  | turn _ => false

/-- The packets that are added, in order. -/
def added (calls : List Call) : List Packet :=
  calls.filterMap Call.packet?

/-- A chunk that a writer was given, and whether the writer was broken then. -/
structure Drain where
  chunk : Chunk
  lost : Bool
  deriving DecidableEq, Repr

/-- A buffer, and the writer that it is given to. -/
structure Channel where
  buffer : List UInt8 := []
  broken : Bool := false
  /-- The chunks that the writer was given. -/
  drains : List Drain := []
  /-- The chunks that the writer took. -/
  received : List Chunk := []
  deriving DecidableEq, Repr

namespace Channel

/-- A chunk given to the writer, which takes it unless it is broken. -/
def drain (channel : Channel) (chunk : Chunk) : Channel :=
  { channel with
    drains := channel.drains ++ [⟨chunk, channel.broken⟩]
    received := if channel.broken then channel.received else channel.received ++ [chunk] }

/-- The channel after a call. -/
def step (front : Front) (channel : Channel) : Call → Channel
  | .append packet =>
    let (buffer, chunks) := front.append channel.buffer packet
    chunks.foldl drain { channel with buffer }
  | .flush => (Front.flush channel.buffer).foldl drain { channel with buffer := [] }
  | .turn broken => { channel with broken }

/-- The channel after some calls, from an empty buffer and a working writer on. -/
def after (front : Front) (calls : List Call) : Channel :=
  calls.foldl (step front) {}

theorem after_concat (front : Front) (calls : List Call) (call : Call) :
    after front (calls ++ [call]) = step front (after front calls) call := by
  rw [after, List.foldl_append]
  rfl

/-! ### What a call does -/

/-- **A call** adds to the buffer, or turns the writer, and may then give the whole buffer to the writer. -/
theorem step_eq (front : Front) (channel : Channel) (call : Call) :
    step front channel call =
      let grown := channel.buffer ++ wire call.packet?.toList
      let channel := { channel with broken := call.leaves channel.broken }
      if call.drains front grown then drain { channel with buffer := [] } grown
      else { channel with buffer := grown } := by
  cases call with
  | append packet =>
    have added : wire (Call.append packet).packet?.toList = packet.bytes := List.flatMap_singleton ..
    simp only [step, Front.append, Call.drains, Call.leaves, added, decide_eq_true_eq]
    split <;> rfl
  | flush =>
    have added : wire Call.flush.packet?.toList = [] := rfl
    simp only [step, Front.flush, Call.drains, Call.leaves, added, List.append_nil]
    obtain ⟨_ | ⟨byte, rest⟩, broken, drains, received⟩ := channel <;> rfl
  | turn broken =>
    have added : wire (Call.turn broken).packet?.toList = [] := rfl
    simp only [step, Call.drains, Call.leaves, added, List.append_nil]
    rfl

/-- The writer is given no empty chunk. -/
theorem grown_ne_nil {front : Front} {buffer : List UInt8} {call : Call}
    (drains : call.drains front (buffer ++ wire call.packet?.toList) = true) :
    buffer ++ wire call.packet?.toList ≠ [] := by
  cases call with
  | append packet =>
    exact List.append_ne_nil_of_right_ne_nil _ (wire_ne_nil (List.cons_ne_nil _ _))
  | flush =>
    intro empty
    rw [empty] at drains
    cases drains
  | turn broken => cases drains

/-- **After a packet was added** nothing is buffered, or less than the threshold. -/
theorem buffer_step_append (front : Front) (channel : Channel) (packet : Packet) :
    (step front channel (.append packet)).buffer = [] ∨
      (step front channel (.append packet)).buffer.length < front.threshold := by
  rw [step_eq]
  dsimp only
  split
  · exact Or.inl rfl
  · next below => exact Or.inr (Nat.lt_of_not_le (of_decide_eq_false (Bool.eq_false_iff.mpr below)))

/-- After the buffer was sent off nothing is buffered. -/
theorem buffer_step_flush (front : Front) (channel : Channel) :
    (step front channel .flush).buffer = [] := by
  rw [step_eq]
  dsimp only
  split
  · rfl
  · next none => simpa [Call.drains] using none

/-! ### Whole packets -/

/-- What the writer was given and what is buffered are some packets, none of them split, and the writer took
what it was given while it worked. -/
structure Packed (packets : List Packet) (channel : Channel) : Prop where
  cut : Cut packets (channel.drains.map Drain.chunk) channel.buffer
  taken : channel.received = (channel.drains.filter fun drain => !drain.lost).map Drain.chunk

theorem taken_drain (channel : Channel)
    (taken : channel.received = (channel.drains.filter fun drain => !drain.lost).map Drain.chunk)
    (chunk : Chunk) : (channel.drain chunk).received =
      ((channel.drain chunk).drains.filter fun drain => !drain.lost).map Drain.chunk := by
  unfold drain
  cases broken : channel.broken <;> simp [taken, List.filter_append]

/-- **Every call keeps packets whole.** -/
theorem Packed.step {packets : List Packet} {channel : Channel} (packed : Packed packets channel)
    (front : Front) (call : Call) :
    Packed (packets ++ call.packet?.toList) (channel.step front call) := by
  obtain ⟨⟨groups, rest, whole, filled, given, buffered⟩, taken⟩ := packed
  have longer : packets ++ call.packet?.toList = groups.flatten ++ (rest ++ call.packet?.toList) := by
    rw [whole, List.append_assoc]
  have grown : channel.buffer ++ wire call.packet?.toList = wire (rest ++ call.packet?.toList) := by
    rw [wire_append, buffered]
  rw [step_eq, longer]
  dsimp only
  split
  · next drains =>
    have some : rest ++ call.packet?.toList ≠ [] := by
      intro none
      have empty := grown_ne_nil drains
      rw [grown, none] at empty
      exact empty rfl
    refine ⟨⟨groups ++ [rest ++ call.packet?.toList], [], ?_, ?_, ?_, rfl⟩,
      taken_drain { channel with buffer := [], broken := call.leaves channel.broken } taken _⟩
    · rw [List.flatten_append, List.flatten_singleton, List.append_nil]
    · rw [List.forall_mem_append, List.forall_mem_singleton]
      exact ⟨filled, some⟩
    · rw [List.map_append, List.map_singleton, ← given, ← grown]
      exact List.map_append
  · exact ⟨⟨groups, _, rfl, filled, given, grown⟩, taken⟩

/-- **Every run keeps packets whole.** -/
theorem packed_after (front : Front) (calls : List Call) : Packed (added calls) (after front calls) := by
  induction calls using List.reverseRecOn with
  | nil => exact ⟨⟨[], [], rfl, nofun, rfl, rfl⟩, rfl⟩
  | append_singleton before call ih =>
    have more : added (before ++ [call]) = added before ++ call.packet?.toList := filterMap_concat ..
    rw [after_concat, more]
    exact ih.step front call

/-! ### Broken writers -/

/-- A channel and another one that has the same buffer and has handed over the same chunks, whatever
became of them. -/
def SameWay (channel other : Channel) : Prop :=
  channel.buffer = other.buffer ∧ channel.drains.map Drain.chunk = other.drains.map Drain.chunk

theorem SameWay.step {channel other : Channel} (same : SameWay channel other) (front : Front)
    (call : Call) : SameWay (channel.step front call) (other.step front call) := by
  rw [step_eq, step_eq, same.1]
  dsimp only
  split
  · refine ⟨rfl, ?_⟩
    simp only [Channel.drain, List.map_append, same.2]
    rfl
  · exact ⟨rfl, same.2⟩

/-- **Whether the writer works makes no difference** to what it is given. -/
theorem drains_after (front : Front) (calls : List Call) :
    SameWay (after front calls) (after front (calls.filter fun call => !call.isTurn)) := by
  induction calls using List.reverseRecOn with
  | nil => exact ⟨rfl, rfl⟩
  | append_singleton before call ih =>
    rw [after_concat, List.filter_append]
    cases call with
    | turn broken =>
      rw [List.filter_cons_of_neg (by simp [Call.isTurn]), List.filter_nil, List.append_nil]
      exact ih
    | append packet =>
      rw [List.filter_cons_of_pos rfl, List.filter_nil, after_concat]
      exact ih.step front _
    | flush =>
      rw [List.filter_cons_of_pos rfl, List.filter_nil, after_concat]
      exact ih.step front _

/-- A writer that is never turned off works, and did so whenever it was given a chunk. -/
theorem working_after (front : Front) {calls : List Call} (working : Call.turn true ∉ calls) :
    (after front calls).broken = false ∧ ∀ given ∈ (after front calls).drains, given.lost = false := by
  induction calls using List.reverseRecOn with
  | nil => exact ⟨rfl, nofun⟩
  | append_singleton before call ih =>
    obtain ⟨works, taken⟩ := ih fun inside => working (List.mem_append_left _ inside)
    have works : call.leaves (after front before).broken = false := by
      cases call with
      | turn broken =>
        cases broken with
        | false => rfl
        | true => exact absurd (List.mem_append_right _ List.mem_cons_self) working
      | append packet => exact works
      | flush => exact works
    rw [after_concat, step_eq]
    dsimp only
    split
    · refine ⟨works, ?_⟩
      simp only [drain, List.forall_mem_append, List.forall_mem_singleton]
      exact ⟨taken, works⟩
    · exact ⟨works, taken⟩

/-- A writer that never breaks takes all that it is given. -/
theorem received_of_working (front : Front) {calls : List Call} (working : Call.turn true ∉ calls) :
    (after front calls).received = (after front calls).drains.map Drain.chunk := by
  rw [(packed_after front calls).taken, List.filter_eq_self.mpr]
  intro given inside
  rw [(working_after front working).2 given inside]
  rfl

/-- A writer that works has all packets once the buffer was sent off, whatever the threshold. -/
theorem received_flushed (front : Front) {calls : List Call} (working : Call.turn true ∉ calls) :
    (after front (calls ++ [.flush])).received.flatten = wire (added calls) := by
  have sound : Call.turn true ∉ calls ++ [.flush] := by simpa using working
  have bytes := (packed_after front (calls ++ [.flush])).cut.bytes
  have more : added (calls ++ [.flush]) = added calls :=
    (filterMap_concat ..).trans (List.append_nil _)
  rwa [← received_of_working front sound, after_concat, buffer_step_flush, List.append_nil,
    ← after_concat, more] at bytes

end Channel

/-- **The stream is kept whole.** Let packets be added to a buffer and the buffer be sent off, in any order.
What the writer is given is cut between packets, each chunk is one of them at least, and what is buffered
are the packets behind these; after a packet was added nothing is buffered, or less than the threshold. If
the writer works, what it has taken and what is buffered are the bytes of the packets in order, and once
the buffer is sent off they are the same for every threshold. Otherwise the writer misses exactly the chunks
that came while it was broken, and has the others, in order, of those that it would have if it worked. -/
theorem stream_kept_whole (front : Front) (calls : List Call) :
    let channel := Channel.after front calls
    Cut (added calls) (channel.drains.map Drain.chunk) channel.buffer ∧
      (∀ given ∈ channel.drains, given.chunk ≠ []) ∧
      (∀ before packet, calls = before ++ [.append packet] →
        channel.buffer = [] ∨ channel.buffer.length < front.threshold) ∧
      (Call.turn true ∉ calls → channel.received = channel.drains.map Drain.chunk ∧
        channel.received.flatten ++ channel.buffer = wire (added calls) ∧
          ∀ other : Front, (Channel.after front (calls ++ [.flush])).received.flatten =
            (Channel.after other (calls ++ [.flush])).received.flatten) ∧
      channel.received = (channel.drains.filter fun given => !given.lost).map Drain.chunk ∧
        channel.drains.map Drain.chunk =
          (Channel.after front (calls.filter fun call => !call.isTurn)).received := by
  intro channel
  have packed := Channel.packed_after front calls
  refine ⟨packed.cut, fun given inside => packed.cut.ne_nil (List.mem_map_of_mem inside), ?_, ?_,
    packed.taken, ?_⟩
  · rintro before packet rfl
    have bound := Channel.buffer_step_append front (Channel.after front before) packet
    rwa [← Channel.after_concat] at bound
  · intro working
    have all := Channel.received_of_working front working
    exact ⟨all, all ▸ packed.cut.bytes, fun other =>
      (Channel.received_flushed front working).trans (Channel.received_flushed other working).symm⟩
  · have unturned : Call.turn true ∉ calls.filter fun call => !call.isTurn := by
      simp [Call.isTurn]
    rw [Channel.received_of_working front unturned]
    exact (Channel.drains_after front calls).2

/-- Two packets that come together reach a threshold of 16 bytes, and a third one stays behind, as the
stream is then by whatever threshold. Of a writer that was broken when the two came, the third is all that
it has. -/
theorem third_packet_received :
    let packet := fun id : UInt8 => Packet.mk id (List.replicate 8 id)
    let front : Front := ⟨16⟩
    let calls : List Call := [.append (packet 1), .append (packet 2), .append (packet 3)]
    let broken : List Call :=
      [.append (packet 1), .turn true, .append (packet 2), .turn false, .append (packet 3), .flush]
    Call.turn true ∉ calls ∧ (Channel.after front calls).received = [wire [packet 1, packet 2]] ∧
      (Channel.after front calls).buffer.length < 16 ∧
      (Channel.after front calls).received.flatten ++ (Channel.after front calls).buffer =
        wire [packet 1, packet 2, packet 3] ∧
      (Channel.after front (calls ++ [.flush])).received.flatten =
        (Channel.after ⟨0⟩ (calls ++ [.flush])).received.flatten ∧
      (Channel.after front broken).received = [wire [packet 3]] ∧
        (Channel.after front broken).drains.map Drain.chunk =
          (Channel.after front (calls ++ [.flush])).received := by
  intro packet front calls broken
  have working : Call.turn true ∉ calls := by decide
  obtain ⟨-, -, bounded, sound, -, -⟩ := stream_kept_whole front calls
  obtain ⟨all, bytes, same⟩ := sound working
  obtain ⟨-, -, -, -, taken, given⟩ := stream_kept_whole front broken
  have chunks : (Channel.after front calls).drains.map Drain.chunk = [wire [packet 1, packet 2]] := by
    decide
  have left : (Channel.after front calls).buffer ≠ [] := by decide
  have kept : ((Channel.after front broken).drains.filter fun given => !given.lost).map Drain.chunk =
      [wire [packet 3]] := by
    decide
  exact ⟨working, all.trans chunks,
    (bounded [.append (packet 1), .append (packet 2)] (packet 3) rfl).resolve_left left, bytes, same ⟨0⟩,
    taken.trans kept, given⟩

end ScatterGather.Wire
