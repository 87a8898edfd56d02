/-
The reset for a refused connection.

`tcp_reset_alias` turns the client's segment into an answer in place.  The
acknowledgement number is computed on the bytes as they stand in the header.
-/

import NatPorte.UdpZero

namespace NatPorte
namespace Reset

open ByteBuffer Structure Packet Checksum TcpState Hostid

def thSeq (buf : Buffer) : BitVec 32 := read32 buf (headerLength buf + 4)
def thAck (buf : Buffer) : BitVec 32 := read32 buf (headerLength buf + 8)

/-- `TH_RST|TH_ACK` -/
def thRstAck : BitVec 8 := 0x14

/-- The assignments before the checksum. -/
def answered (buf : Buffer) : Buffer :=
  let tcphdr := headerLength buf
  let source := read32 buf 12
  let buf := write32 buf 12 (read32 buf 16)
  let buf := write32 buf 16 source
  let sport := read16 buf tcphdr
  let buf := write16 buf tcphdr (read16 buf (tcphdr + 2))
  let buf := write16 buf (tcphdr + 2) sport
  let buf := setByte buf (tcphdr + 13) thRstAck
  -- `th_seq + htonl(1)`, added without swapping
  let buf := write32 buf (tcphdr + 8) (read32 buf (tcphdr + 4) + swap32 1)
  write32 buf (tcphdr + 4) 0

def tcpResetAlias (build : Build) (buf : Buffer) (size : Nat) : Buffer :=
  setChecksum build (answered buf) size

/-- An opening segment that ends with its options. -/
structure SynSegment (buf : Buffer) (size : Nat) : Prop where
  packet : TransportPacket buf size
  tcp : ipP buf = ipprotoTcp
  length : ipLen buf = size
  syn : anyOf (thFlags buf) thSyn = true
  noPayload : headerLength buf + (getByte buf (headerLength buf + 12)).toNat / 16 * 4 = size

/-- A reset that the sender of `before` accepts. -/
structure Accepted (before after : Buffer) (size : Nat) : Prop where
  source : endpoint after .source = endpoint before .destination
  destination : endpoint after .destination = endpoint before .source
  flags : thFlags after = thRstAck
  sequence : thSeq after = 0
  acknowledgement : swap32 (thAck after) = swap32 (thSeq before) + 1
  verifies : Verifies after size

/-- The three bytes of network order before the last one. -/
def upperBytes (low : Nat) : Nat := low % 256 * 65536 + low / 256 % 256 * 256 + low / 65536

theorem swap32_split (field : BitVec 32) :
    (swap32 field).toNat = upperBytes (field.toNat % 16777216) * 256 + field.toNat / 16777216 := by
  have second : field.toNat % 16777216 / 256 % 256 = field.toNat / 256 % 256 := by omega
  have third : field.toNat % 16777216 / 65536 = field.toNat / 65536 % 256 := by omega
  rw [swap32_toNat, upperBytes, second, third]
  omega

theorem swapped_increment (sequence : BitVec 32) :
    swap32 (sequence + swap32 1) = swap32 sequence + 1 ↔ (swap32 sequence).toNat % 256 ≠ 255 := by
  have bound := sequence.isLt
  have one : (swap32 1).toNat = 16777216 := by decide
  have upper : upperBytes (sequence.toNat % 16777216) < 16777216 := by
    rw [upperBytes]
    omega
  have sum : (sequence + swap32 1).toNat = (sequence.toNat + 16777216) % 4294967296 := by
    rw [BitVec.toNat_add, one]
  have sameUpper : (sequence + swap32 1).toNat % 16777216 = sequence.toNat % 16777216 := by omega
  rw [← BitVec.toNat_inj, BitVec.toNat_add, swap32_split, swap32_split, sameUpper, sum]
  change _ = (_ + 1) % _ ↔ _
  omega

section Answer

variable {buf : Buffer} {size : Nat}

theorem length_answered : (answered buf).length = buf.length := by
  simp only [answered, length_write32, length_write16, length_setByte]

theorem getByte_answered {position : Nat} (addresses : position < 12 ∨ 20 ≤ position)
    (segment : position < headerLength buf ∨ headerLength buf + 14 ≤ position) :
    getByte (answered buf) position = getByte buf position := by
  simp only [answered]
  rw [getByte_write32 (by omega), getByte_write32 (by omega), getByte_setByte_other (by omega),
    getByte_write16 (by omega), getByte_write16 (by omega), getByte_write32 (by omega),
    getByte_write32 (by omega)]

theorem answered_packet (packet : TransportPacket buf size) :
    TransportPacket (answered buf) size := by
  have header := packet.headerLength_ge
  exact packet.congr (getByte_answered (by omega) (by omega))
    (getByte_answered (by omega) (by omega)) length_answered

theorem headerLength_answered (packet : TransportPacket buf size) :
    headerLength (answered buf) = headerLength buf := by
  have header := packet.headerLength_ge
  exact headerLength_congr (getByte_answered (by omega) (by omega))

theorem tcp_fits (packet : TransportPacket buf size) (tcp : ipP buf = ipprotoTcp) :
    headerLength buf + 20 ≤ size := by
  rcases packet.transport with ⟨-, fits⟩ | ⟨udp, -⟩
  · exact fits
  · rw [tcp] at udp
    cases udp

theorem answered_addresses (packet : TransportPacket buf size) :
    read32 (answered buf) 12 = read32 buf 16 ∧ read32 (answered buf) 16 = read32 buf 12 := by
  have header := packet.headerLength_ge
  have fits := packet.headerLength_le
  have inBuffer := packet.inBuffer
  unfold answered
  constructor
  · rw [read32_write32_other (by omega), read32_write32_other (by omega),
      read32_setByte_other (by omega), read32_write16_other (by omega),
      read32_write16_other (by omega), read32_write32_other (by omega),
      read32_write32 (by omega)]
  · rw [read32_write32_other (by omega), read32_write32_other (by omega),
      read32_setByte_other (by omega), read32_write16_other (by omega),
      read32_write16_other (by omega), read32_write32 (by rw [length_write32]; omega)]

theorem answered_ports (packet : TransportPacket buf size) :
    read16 (answered buf) (headerLength buf) = read16 buf (headerLength buf + 2) ∧
      read16 (answered buf) (headerLength buf + 2) = read16 buf (headerLength buf) := by
  have header := packet.headerLength_ge
  have fits := packet.headerLength_le
  have inBuffer := packet.inBuffer
  unfold answered
  constructor
  · rw [read16_write32_other (by omega), read16_write32_other (by omega),
      read16_setByte_other (by omega), read16_write16_other (by omega),
      read16_write16 (by simp only [length_write32]; omega), read16_write32_other (by omega),
      read16_write32_other (by omega)]
  · rw [read16_write32_other (by omega), read16_write32_other (by omega),
      read16_setByte_other (by omega),
      read16_write16 (by simp only [length_write16, length_write32]; omega),
      read16_write32_other (by omega), read16_write32_other (by omega)]

theorem answered_numbers (packet : TransportPacket buf size) (tcp : ipP buf = ipprotoTcp) :
    read32 (answered buf) (headerLength buf + 4) = 0 ∧
      read32 (answered buf) (headerLength buf + 8) = thSeq buf + swap32 1 := by
  have header := packet.headerLength_ge
  have fits := tcp_fits packet tcp
  have inBuffer := packet.inBuffer
  unfold answered
  constructor
  · rw [read32_write32 (by simp only [length_write16, length_write32, length_setByte]; omega)]
  · rw [read32_write32_other (by omega),
      read32_write32 (by simp only [length_write16, length_write32, length_setByte]; omega),
      read32_setByte_other (by omega), read32_write16_other (by omega),
      read32_write16_other (by omega), read32_write32_other (by omega),
      read32_write32_other (by omega), thSeq]

theorem answered_flags (packet : TransportPacket buf size) (tcp : ipP buf = ipprotoTcp) :
    getByte (answered buf) (headerLength buf + 13) = thRstAck := by
  have fits := tcp_fits packet tcp
  have inBuffer := packet.inBuffer
  unfold answered
  rw [getByte_write32 (by omega), getByte_write32 (by omega),
    getByte_setByte_self (by simp only [length_write16, length_write32]; omega)]

variable (build : Build)

/-- `set_checksum` changes neither the addresses nor anything before `th_sum`. -/
theorem getByte_reset (packet : TransportPacket buf size) (tcp : ipP buf = ipprotoTcp)
    {position : Nat} (notIpSum : position < 10 ∨ 12 ≤ position)
    (before : position < headerLength buf + 16) :
    getByte (tcpResetAlias build buf size) position = getByte (answered buf) position := by
  have header := packet.headerLength_ge
  have protocol : ipP (answered buf) = ipprotoTcp :=
    (getByte_answered (by omega) (by omega)).trans tcp
  have sumAt : transportSumAt (answered buf) = headerLength buf + 16 := by
    rw [transportSumAt, headerLength_answered packet, if_pos protocol, thSumOffset]
  unfold tcpResetAlias
  refine (setChecksum_only build (answered_packet packet)).frame position ?_ ?_
  · rw [InField, ipSumOffset]
    omega
  · rw [InField, sumAt]
    omega

theorem headerLength_reset (packet : TransportPacket buf size) (tcp : ipP buf = ipprotoTcp) :
    headerLength (tcpResetAlias build buf size) = headerLength buf := by
  rw [headerLength_congr (getByte_reset build packet tcp (by omega) (by omega)),
    headerLength_answered packet]

theorem read16_reset (packet : TransportPacket buf size) (tcp : ipP buf = ipprotoTcp)
    {offset : Nat} (after : 12 ≤ offset) (before : offset + 2 ≤ headerLength buf + 16) :
    read16 (tcpResetAlias build buf size) offset = read16 (answered buf) offset := by
  apply read16_congr
  intro position low high
  exact getByte_reset build packet tcp (by omega) (by omega)

theorem read32_reset (packet : TransportPacket buf size) (tcp : ipP buf = ipprotoTcp)
    {offset : Nat} (after : 12 ≤ offset) (before : offset + 4 ≤ headerLength buf + 16) :
    read32 (tcpResetAlias build buf size) offset = read32 (answered buf) offset := by
  apply read32_congr
  intro position low high
  exact getByte_reset build packet tcp (by omega) (by omega)

theorem reset_acknowledgement (packet : TransportPacket buf size) (tcp : ipP buf = ipprotoTcp) :
    thAck (tcpResetAlias build buf size) = thSeq buf + swap32 1 := by
  have header := packet.headerLength_ge
  rw [thAck, headerLength_reset build packet tcp,
    read32_reset build packet tcp (by omega) (by omega), (answered_numbers packet tcp).2]

theorem reset_verifies (packet : TransportPacket buf size) (total : size < 2 ^ 17) :
    Verifies (tcpResetAlias build buf size) size := by
  have answer := answered_packet packet
  unfold tcpResetAlias
  rw [verifies_iff ((setChecksum_only build answer).packet answer) total]
  exact (UdpZero.setChecksum_full build answer total).1

end Answer

/-- Everything but the acknowledgement number is always right. -/
theorem accepted_iff (build : Build) (buf : Buffer) (size : Nat)
    (packet : TransportPacket buf size) (tcp : ipP buf = ipprotoTcp) (total : size ≤ 65535) :
    Accepted buf (tcpResetAlias build buf size) size ↔
      (swap32 (thSeq buf)).toNat % 256 ≠ 255 := by
  have header := packet.headerLength_ge
  rw [← swapped_increment, ← reset_acknowledgement build packet tcp]
  constructor
  · intro accepted
    exact accepted.acknowledgement
  · intro acknowledgement
    obtain ⟨first, second⟩ := answered_addresses packet
    obtain ⟨sport, dport⟩ := answered_ports packet
    exact {
      source := by
        simp only [endpoint, End.addressOffset, End.portOffset, Nat.add_zero,
          headerLength_reset build packet tcp]
        rw [read32_reset build packet tcp (by omega) (by omega),
          read16_reset build packet tcp (by omega) (by omega), first, sport]
      destination := by
        simp only [endpoint, End.addressOffset, End.portOffset, Nat.add_zero,
          headerLength_reset build packet tcp]
        rw [read32_reset build packet tcp (by omega) (by omega),
          read16_reset build packet tcp (by omega) (by omega), second, dport]
      flags := by
        rw [thFlags, headerLength_reset build packet tcp,
          getByte_reset build packet tcp (by omega) (by omega), answered_flags packet tcp]
      sequence := by
        rw [thSeq, headerLength_reset build packet tcp,
          read32_reset build packet tcp (by omega) (by omega), (answered_numbers packet tcp).1]
      acknowledgement := acknowledgement
      verifies := reset_verifies build packet (by omega) }

private def resetBuild : Build := ⟨true, true, true, false⟩

/-- 10.0.0.2 asks 203.0.113.5 for a connection with this last byte of its number. -/
private def opener (last : Byte) : Buffer :=
  [69, 0, 0, 40, 0, 1, 64, 0, 64, 6, 0, 0, 10, 0, 0, 2, 203, 0, 113, 5,
    16, 1, 0, 80, 0, 0, 0, last, 0, 0, 0, 0, 80, 2, 255, 255, 0, 0, 0, 0]

private theorem opener_segment : SynSegment (opener 0xFF) 40 where
  packet := ⟨by decide, by decide, by decide, by decide⟩
  tcp := by decide
  length := by decide
  syn := by decide
  noPayload := by decide

theorem accepted_iff_first_number :
    Accepted (opener 1) (tcpResetAlias resetBuild (opener 1) 40) 40 :=
  (accepted_iff resetBuild (opener 1) 40 ⟨by decide, by decide, by decide, by decide⟩ (by decide)
    (by decide)).mpr (by decide)

/-- The number 255 is acknowledged with 0. -/
theorem acknowledgement_loses_carry :
    ¬∀ (build : Build) (buf : Buffer) (size : Nat), SynSegment buf size →
      Accepted buf (tcpResetAlias build buf size) size := by
  intro accepts
  have accepted := accepts resetBuild (opener 0xFF) 40 opener_segment
  have acknowledgement := accepted.acknowledgement
  rw [reset_acknowledgement resetBuild opener_segment.packet opener_segment.tcp] at acknowledgement
  revert acknowledgement
  decide

end Reset
end NatPorte
