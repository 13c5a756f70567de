/-
**Packets in a stream of bytes.**

A header tells the size of its payload in three bytes, so that packets which stand one behind the other can
be told apart:

* `ofBytes_eq`, `ofBytes_eq_ok` — bytes are a packet exactly if they are **a header and as many bytes as it
  declares** (`IsFramed`), and the packet is these bytes again;
* `ofBytes_bytes`: what is written of a packet is that packet, unless its payload is greater than a header
  can tell;
* `readAll?_append`, `readAll?_wire` — of a stream **all packets are read back**, header by header;
* `bytes_withSequence`: another id is another fourth byte;
* `packets_framed`: all of it.
-/
import ScatterGather.Proofs.Wire.Numbered
import ScatterGather.Wire.Packet

namespace ScatterGather.Wire

/-! ### Numbers of three bytes -/

/-- Bytes are what is written of their number. -/
theorem littleEndian_ofLittleEndian (bytes : List UInt8) :
    littleEndian bytes.length (ofLittleEndian bytes) = bytes := by
  induction bytes with
  | nil => rfl
  | cons byte rest ih =>
    have low : byte.toNat < 256 := byte.toNat_lt
    have first : UInt8.ofNat (byte.toNat + 256 * ofLittleEndian rest) = byte := by
      rw [← UInt8.toNat_inj, UInt8.toNat_ofNat', Nat.add_mul_mod_self_left, Nat.mod_eq_of_lt low]
    have others : (byte.toNat + 256 * ofLittleEndian rest) / 256 = ofLittleEndian rest := by omega
    rw [List.length_cons, ofLittleEndian, littleEndian, first, others, ih]

theorem ofLittleEndian_lt (bytes : List UInt8) : ofLittleEndian bytes < Nat.pow 256 bytes.length := by
  have written := ofLittleEndian_littleEndian bytes.length (ofLittleEndian bytes)
  rw [littleEndian_ofLittleEndian] at written
  rw [written]
  exact Nat.mod_lt _ (Nat.pow_pos (by decide))

/-- A header tells no greater size than the greatest. -/
theorem declaredSize_le (bytes : List UInt8) : declaredSize bytes ≤ maxPayload := by
  have bound := ofLittleEndian_lt (bytes.take 3)
  have three : Nat.pow 256 (bytes.take 3).length ≤ Nat.pow 256 3 :=
    Nat.pow_le_pow_right (by decide) (List.length_take_le 3 bytes)
  have greatest : Nat.pow 256 3 = maxPayload + 1 := by decide
  rw [greatest] at three
  exact Nat.le_of_lt_succ (Nat.lt_of_lt_of_le bound three)

/-! ### One packet -/

/-- Bytes that are a header and as many bytes behind it as it declares. -/
def IsFramed (bytes : List UInt8) : Prop :=
  headerSize ≤ bytes.length ∧ declaredSize bytes = bytes.length - headerSize

instance (bytes : List UInt8) : Decidable (IsFramed bytes) :=
  inferInstanceAs (Decidable (_ ∧ _))

namespace Packet

/-- A header is four bytes. -/
theorem exists_header {bytes : List UInt8} (enough : headerSize ≤ bytes.length) :
    ∃ low middle high sequence payload, bytes = low :: middle :: high :: sequence :: payload := by
  match bytes, enough with
  | low :: middle :: high :: sequence :: payload, _ => exact ⟨low, middle, high, sequence, payload, rfl⟩

/-- **What bytes are read as**: a packet, or what is wrong with them. -/
theorem ofBytes_eq (bytes : List UInt8) :
    ofBytes bytes =
      if bytes.length < headerSize then .error (.truncated (headerSize - bytes.length))
      else if declaredSize bytes = bytes.length - headerSize then
        .ok ⟨bytes.getD 3 0, bytes.drop headerSize⟩
      else .error (.lengthMismatch (declaredSize bytes) (bytes.length - headerSize)) := by
  by_cases enough : headerSize ≤ bytes.length
  · obtain ⟨low, middle, high, sequence, payload, rfl⟩ := exists_header enough
    rw [if_neg (Nat.not_lt.mpr enough)]
    rfl
  · rw [if_pos (Nat.lt_of_not_le enough), ofBytes]
    rintro low middle high sequence payload rfl
    exact enough (Nat.le_add_left 4 payload.length)

/-- What a header declares is the size of its packet's payload, as far as it can be told. -/
theorem declaredSize_bytes (packet : Packet) (rest : List UInt8) :
    declaredSize (packet.bytes ++ rest) = min packet.payload.length maxPayload := by
  have small : min packet.payload.length maxPayload < Nat.pow 256 3 :=
    Nat.lt_succ_of_le (Nat.min_le_right _ _)
  show ofLittleEndian (littleEndian 3 (min packet.payload.length maxPayload)) = _
  rw [ofLittleEndian_littleEndian, Nat.mod_eq_of_lt small]

theorem ofBytes_bytes_eq (packet : Packet) :
    ofBytes packet.bytes =
      if min packet.payload.length maxPayload = packet.payload.length then .ok packet
      else .error (.lengthMismatch (min packet.payload.length maxPayload) packet.payload.length) := by
  have declared := packet.declaredSize_bytes []
  rw [List.append_nil] at declared
  rw [← declared]
  rfl

/-- **What is written of a packet** is that packet, if a header can tell the size of its payload. -/
theorem ofBytes_bytes {packet : Packet} (fits : packet.payload.length ≤ maxPayload) :
    ofBytes packet.bytes = .ok packet := by
  rw [ofBytes_bytes_eq, if_pos (Nat.min_eq_left fits)]

/-- **A payload too great for a header** is told as the greatest, so that what is written is no packet. -/
theorem ofBytes_oversized {packet : Packet} (oversized : maxPayload < packet.payload.length) :
    ofBytes packet.bytes = .error (.lengthMismatch maxPayload packet.payload.length) := by
  rw [ofBytes_bytes_eq, Nat.min_eq_right (Nat.le_of_lt oversized), if_neg (Nat.ne_of_lt oversized)]

/-- **Bytes that are read as a packet** are what is written of it. -/
theorem bytes_of_ofBytes {bytes : List UInt8} {packet : Packet} (read : ofBytes bytes = .ok packet) :
    packet.bytes = bytes := by
  rw [ofBytes_eq] at read
  split at read
  · cases read
  · next enough =>
    split at read
    · next declared =>
      obtain ⟨low, middle, high, sequence, payload, rfl⟩ := exists_header (Nat.le_of_not_lt enough)
      obtain rfl := Except.ok.inj read
      have told := declaredSize_le (low :: middle :: high :: sequence :: payload)
      rw [declared] at told
      change ofLittleEndian [low, middle, high] = payload.length at declared
      change payload.length ≤ maxPayload at told
      show littleEndian 3 (min payload.length maxPayload) ++ [sequence] ++ payload = _
      rw [Nat.min_eq_left told, ← declared]
      exact congrArg (· ++ [sequence] ++ payload) (littleEndian_ofLittleEndian [low, middle, high])
    · cases read

/-- **Bytes are read as a packet** exactly if they are framed. -/
theorem exists_ofBytes_iff (bytes : List UInt8) :
    (∃ packet, ofBytes bytes = .ok packet) ↔ IsFramed bytes := by
  rw [ofBytes_eq, IsFramed]
  by_cases enough : headerSize ≤ bytes.length
  · rw [if_neg (Nat.not_lt.mpr enough)]
    by_cases declared : declaredSize bytes = bytes.length - headerSize
    · rw [if_pos declared]
      exact ⟨fun _ => ⟨enough, declared⟩, fun _ => ⟨_, rfl⟩⟩
    · rw [if_neg declared]
      exact ⟨fun ⟨_, read⟩ => (nomatch read), fun framed => absurd framed.2 declared⟩
  · rw [if_pos (Nat.lt_of_not_le enough)]
    exact ⟨fun ⟨_, read⟩ => (nomatch read), fun framed => absurd framed.1 enough⟩

/-- **Another id** is another fourth byte, and all others stay. -/
theorem bytes_withSequence (packet : Packet) (sequence : UInt8) :
    (packet.withSequence sequence).bytes = packet.bytes.set 3 sequence := rfl

/-! ### Streams -/

/-- The first packet of a stream is read, and those behind it are read on from its end. -/
theorem readAll?_append {packet : Packet} (fits : packet.payload.length ≤ maxPayload)
    (rest : List UInt8) : readAll? (packet.bytes ++ rest) = (readAll? rest).map (packet :: ·) := by
  have declared := packet.declaredSize_bytes rest
  rw [Nat.min_eq_left fits] at declared
  have size : headerSize + packet.payload.length = packet.bytes.length := packet.length_bytes.symm
  have long : packet.bytes.length ≤ (packet.bytes ++ rest).length := by
    rw [List.length_append]
    exact Nat.le_add_right _ _
  rw [readAll?]
  simp only [declared, size]
  rw [if_neg (by omega), if_neg (Nat.not_lt.mpr long), List.take_left, List.drop_left,
    ofBytes_bytes fits]

/-- **All packets of a stream are read back.** -/
theorem readAll?_wire {packets : List Packet}
    (fit : ∀ packet ∈ packets, packet.payload.length ≤ maxPayload) :
    readAll? (wire packets) = some packets := by
  induction packets with
  | nil =>
    rw [readAll?]
    exact if_pos (by decide)
  | cons packet rest ih =>
    obtain ⟨first, others⟩ := List.forall_mem_cons.mp fit
    rw [wire_cons, readAll?_append first, ih others]
    rfl

end Packet

/-- **Packets are framed.** Packets whose payloads have at most 0xffffff bytes are read back from the
stream that is written of them, header by header, and each of them from its own bytes. Bytes are read as a
packet exactly if they are a header and as many bytes as it declares, and the packet is written as these
bytes. Another id changes the fourth byte alone. Of a packet with a greater payload the bytes are refused,
with the greatest size as the declared one. -/
theorem packets_framed :
    (∀ packets : List Packet, (∀ packet ∈ packets, packet.payload.length ≤ 0xffffff) →
        Packet.readAll? (wire packets) = some packets ∧
          ∀ packet ∈ packets, Packet.ofBytes packet.bytes = .ok packet) ∧
      (∀ bytes, ((∃ packet, Packet.ofBytes bytes = .ok packet) ↔
          4 ≤ bytes.length ∧ ofLittleEndian (bytes.take 3) = bytes.length - 4) ∧
        ∀ packet, Packet.ofBytes bytes = .ok packet → packet.bytes = bytes) ∧
      (∀ (packet : Packet) (sequence : UInt8),
        (packet.withSequence sequence).bytes = packet.bytes.set 3 sequence) ∧
      ∀ packet : Packet, 0xffffff < packet.payload.length →
        Packet.ofBytes packet.bytes = .error (.lengthMismatch 0xffffff packet.payload.length) := by
  refine ⟨fun packets fit => ⟨Packet.readAll?_wire fit, fun packet inside => ?_⟩, fun bytes => ⟨?_, ?_⟩,
    Packet.bytes_withSequence, fun packet oversized => Packet.ofBytes_oversized oversized⟩
  · exact Packet.ofBytes_bytes (fit packet inside)
  · exact Packet.exists_ofBytes_iff bytes
  · exact fun packet read => Packet.bytes_of_ofBytes read

/-- A packet without a payload, between one that is as long as two bytes can tell and a short one; and a
payload of one byte more than a header can tell. -/
theorem three_packets_framed :
    let long : Packet := ⟨255, List.replicate 0xffff 0xfe⟩
    let packets : List Packet := [long, ⟨0, []⟩, ⟨1, [0, 1, 0]⟩]
    let oversized : Packet := ⟨7, List.replicate 0x1000000 0x61⟩
    (∀ packet ∈ packets, packet.payload.length ≤ 0xffffff) ∧
      Packet.readAll? (wire packets) = some packets ∧ Packet.ofBytes long.bytes = .ok long ∧
      0xffffff < oversized.payload.length ∧
        Packet.ofBytes oversized.bytes = .error (.lengthMismatch 0xffffff 0x1000000) := by
  intro long packets oversized
  have fit : ∀ packet ∈ packets, packet.payload.length ≤ 0xffffff := by
    simp only [packets, long, List.forall_mem_cons, List.length_replicate]
    decide
  have size : oversized.payload.length = 0x1000000 := List.length_replicate
  have great : 0xffffff < oversized.payload.length := by
    rw [size]
    decide
  obtain ⟨streams, -, -, refused⟩ := packets_framed
  obtain ⟨all, each⟩ := streams packets fit
  refine ⟨fit, all, each long List.mem_cons_self, great, ?_⟩
  rw [refused oversized great, size]

end ScatterGather.Wire
