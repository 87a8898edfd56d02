/-
The host identification option of hostid.h.

`set_hostid` opens a gap of sixteen bytes behind a header without options, fills
it, and adds to the length fields in place; the callers learn the new size from
the header length alone.
-/

import NatPorte.Alias

namespace NatPorte
namespace Hostid

open ByteBuffer Structure Packet Checksum Alias

theorem first_widened {buf after : Buffer} (plain : ipHl buf = 5)
    (first : getByte after 0 = getByte buf 0 + 4) : ipV after = ipV buf ∧ ipHl after = 9 := by
  have byte := (getByte buf 0).isLt
  unfold ipHl at plain
  unfold ipV ipHl
  rw [first, BitVec.toNat_add]
  change (_ + 4) % 256 / 16 = _ ∧ (_ + 4) % 256 % 16 = 9
  omega

section Insertion

variable {buf : Buffer} {size : Nat}

theorem setHostid_first (plain : ipHl buf = 5) :
    getByte (setHostid buf size).1 0 = getByte buf 0 + 4 := by
  have written : getByte (write16 buf 2 (read16 buf 2 + swap16 16)) 0 = getByte buf 0 :=
    getByte_write16 (by omega) _
  have lengthWritten : (write16 buf 2 (read16 buf 2 + swap16 16)).length = buf.length :=
    length_write16 _
  have nonempty : 0 < buf.length := by
    cases buf with
    | nil => cases plain
    | cons byte rest => exact Nat.succ_pos _
  unfold setHostid
  rw [if_pos plain]
  simp only
  generalize write16 buf 2 (read16 buf 2 + swap16 16) = named at *
  have lengthHeader : 0 < (named.take 20).length := by
    rw [List.length_take]
    omega
  have moved : getByte (named.take 20 ++ hidbuf named ++ slice named 20 (size - 20) ++
      named.drop (size + 16)) 0 = getByte named 0 := by
    rw [List.append_assoc, List.append_assoc, getByte_append_left lengthHeader,
      getByte_take (by omega)]
  rw [getByte_setByte_self (by simp only [List.length_append]; omega), moved, written]

theorem setHostid_layout (plain : ipHl buf = 5) (header : 20 ≤ size) (inBuffer : size ≤ buf.length) :
    (setHostid buf size).2 = size + 16 ∧
      size + 16 ≤ (setHostid buf size).1.length ∧
      getByte (setHostid buf size).1 0 = getByte buf 0 + 4 ∧
      (∀ position, 0 < position → position < 20 → getByte (setHostid buf size).1 position =
        getByte (write16 buf 2 (read16 buf 2 + swap16 16)) position) ∧
      slice (setHostid buf size).1 20 16 = hidbuf buf ∧
      slice (setHostid buf size).1 36 (size - 20) = slice buf 20 (size - 20) := by
  have first := @setHostid_first buf size plain
  have segment : slice (write16 buf 2 (read16 buf 2 + swap16 16)) 20 (size - 20) =
      slice buf 20 (size - 20) := slice_store_before (by decide) _ _
  have option : hidbuf (write16 buf 2 (read16 buf 2 + swap16 16)) = hidbuf buf := by
    unfold hidbuf
    rw [write16, slice_store_before (by decide)]
  have lengthWritten : (write16 buf 2 (read16 buf 2 + swap16 16)).length = buf.length :=
    length_write16 _
  have lengthHid : (hidbuf buf).length = 16 := by
    simp only [hidbuf, List.length_append, List.length_cons, List.length_nil, length_slice]
    omega
  unfold setHostid at first ⊢
  rw [if_pos plain] at first ⊢
  simp only [true_and] at first ⊢
  generalize write16 buf 2 (read16 buf 2 + swap16 16) = named at *
  rw [option] at first ⊢
  have lengthHeader : (named.take 20).length = 20 := by
    rw [List.length_take]
    omega
  have lengthSegment : (slice named 20 (size - 20)).length = size - 20 := by
    rw [length_slice]
    omega
  have lengthFront : (named.take 20 ++ hidbuf buf).length = 36 := by
    rw [List.length_append, lengthHeader, lengthHid]
  have lengthMoved : size + 16 ≤ (named.take 20 ++ hidbuf buf ++ slice named 20 (size - 20) ++
      named.drop (size + 16)).length := by
    rw [List.length_append, List.length_append, lengthFront, lengthSegment]
    omega
  have moved : ∀ position, position < 20 → getByte (named.take 20 ++ hidbuf buf ++
      slice named 20 (size - 20) ++ named.drop (size + 16)) position = getByte named position := by
    intro position low
    rw [List.append_assoc, List.append_assoc, getByte_append_left (by omega), getByte_take low]
  have gap := slice_middle (named.take 20) (hidbuf buf)
    (slice named 20 (size - 20) ++ named.drop (size + 16)) lengthHeader
  have behind := slice_middle (named.take 20 ++ hidbuf buf) (slice named 20 (size - 20))
    (named.drop (size + 16)) lengthFront
  rw [lengthHid, ← List.append_assoc] at gap
  rw [lengthSegment] at behind
  generalize named.take 20 ++ hidbuf buf ++ slice named 20 (size - 20) ++
    named.drop (size + 16) = whole at *
  refine ⟨?_, first, ?_, ?_, ?_⟩
  · rw [length_setByte]
    exact lengthMoved
  · intro position notFirst low
    rw [getByte_setByte_other (by omega), moved position low]
  · rw [slice_setByte_before (by omega), gap]
  · rw [slice_setByte_before (by omega), behind, segment]

/-- What the packet becomes; the size grows by the same sixteen bytes. -/
structure Widened (before after : Buffer) (size : Nat) : Prop where
  length : size + 16 ≤ after.length
  first : getByte after 0 = getByte before 0 + 4
  header : ∀ position, 4 ≤ position → position < 20 →
    getByte after position = getByte before position
  segment : slice after 36 (size - 20) = slice before 20 (size - 20)

theorem setHostid_widened (plain : ipHl buf = 5) (header : 20 ≤ size)
    (inBuffer : size ≤ buf.length) :
    Widened buf (setHostid buf size).1 size ∧ (setHostid buf size).2 = size + 16 := by
  obtain ⟨grown, length, first, named, -, segment⟩ := setHostid_layout plain header inBuffer
  refine ⟨⟨length, first, ?_, segment⟩, grown⟩
  intro position low high
  rw [named position (by omega) high]
  exact getByte_write16 (by omega) _

theorem Widened.same {after : Buffer} (widened : Widened buf after size)
    (packet : TransportPacket buf size) (plain : ipHl buf = 5) (udp : ipP buf = ipprotoUdp) :
    TransportPacket after (size + 16) ∧ coveredSum after (size + 16) = coveredSum buf size ∧
      transportSum after = transportSum buf ∧
      ∀ which, endpoint after which = endpoint buf which := by
  have inside := packet.headerLength_le
  have version := packet.version
  have header : headerLength buf = 20 := by rw [headerLength, plain]
  have wide := first_widened plain widened.first
  rw [version] at wide
  have wideHeader : headerLength after = 36 := by rw [headerLength, wide.2]
  have protocol : ipP after = ipP buf := widened.header 9 (by omega) (by omega)
  have place : transportSumAt after = 42 ∧ transportSumAt buf = 26 := by
    rw [transportSumAt, transportSumAt, protocol, udp, header, wideHeader]
    decide
  have field : ∀ offset, offset + 2 ≤ size - 20 → read16 after (36 + offset) =
      read16 buf (20 + offset) := by
    intro offset fits
    have moved := @load_slice after _ 36 _ _ fits
    rw [widened.segment, load_slice fits] at moved
    rw [read16, read16, moved]
  have word : ∀ offset, 4 ≤ offset → offset + 4 ≤ 20 → load after offset 4 = load buf offset 4 :=
    fun offset low high => load_congr
      (fun position after before => widened.header position (by omega) (by omega))
  refine ⟨⟨wide.1, by omega, .inr ⟨protocol.trans udp, by omega⟩, widened.length⟩, ?_, ?_, ?_⟩
  · have sizes : size + 16 - 36 = size - 20 := by omega
    rw [coveredSum, coveredSum, wideHeader, header, sizes, widened.segment,
      word 12 (by omega) (by omega), word 16 (by omega) (by omega), protocol]
  · rw [transportSum, transportSum, place.1, place.2]
    exact field 6 (by omega)
  · intro which
    have places : 12 ≤ which.addressOffset ∧ which.addressOffset + 4 ≤ 20 ∧ which.portOffset ≤ 2 := by
      cases which <;> decide
    unfold endpoint
    rw [wideHeader, header, field _ (by omega), read32, read32, word _ (by omega) (by omega)]

end Insertion

/-- `ntohs(ip_len)` -/
def ipLen (buf : Buffer) : Nat := (swap16 (read16 buf 2)).toNat

/-- `get_optsize`, a `size_t`. -/
def getOptsize (buf : Buffer) : Nat := (headerLength buf + 2 ^ 64 - 20) % 2 ^ 64

/-- `size += next_opt_size - prev_opt_size`, as the callers do it. -/
def recomputedSize (before after : Buffer) (size : Nat) : Nat :=
  (size + (getOptsize after + 2 ^ 64 - getOptsize before)) % 2 ^ 64

/-- A packet without options, with room for one. -/
structure Plain (buf : Buffer) (size : Nat) : Prop where
  length : ipLen buf = size
  header : 20 ≤ size
  total : size + 16 ≤ 65535
  room : size + 16 ≤ buf.length

/-- The packet with one option of twelve bytes and four bytes of end-of-options. -/
structure Identified (before after : Buffer) (size newSize : Nat) : Prop where
  grown : newSize = size + 16
  version : ipV after = ipV before
  header : ipHl after = 9
  length : ipLen after = size + 16
  option : slice after 20 16 =
    [0xDF, 12, 1, 0, 0x01, 0, 0, 4] ++ slice before 12 4 ++ [0, 0, 0, 0]
  payload : slice after 36 (size - 20) = slice before 20 (size - 20)
  others : ∀ position, 0 < position → position < 20 → position ≠ 2 → position ≠ 3 →
    getByte after position = getByte before position

/-- What the callers rely on. -/
structure WellInserted (buf : Buffer) (size : Nat) : Prop where
  inserted : ipHl buf = 5 → Identified buf (setHostid buf size).1 size (setHostid buf size).2
  untouched : ipHl buf ≠ 5 → setHostid buf size = (buf, size)
  recomputed : recomputedSize buf (setHostid buf size).1 size = (setHostid buf size).2

theorem swap16_add_sixteen (field : BitVec 16) :
    (swap16 (field + swap16 16)).toNat = (swap16 field).toNat + 16 ↔
      (swap16 field).toNat % 256 < 240 := by
  have word := field.isLt
  have sixteen : (swap16 16).toNat = 4096 := by decide
  have low : (field.toNat + 4096) % 2 ^ 16 % 256 = field.toNat % 256 := by omega
  have high : (field.toNat + 4096) % 2 ^ 16 / 256 = (field.toNat / 256 + 16) % 256 := by omega
  have swapped : (field.toNat % 256 * 256 + field.toNat / 256) % 256 = field.toNat / 256 := by
    omega
  rw [swap16_toNat, swap16_toNat, BitVec.toNat_add, sixteen, low, high, swapped]
  omega

theorem ipLen_inserted {buf : Buffer} {size : Nat} (plain : ipHl buf = 5)
    (formed : Plain buf size) :
    ipLen (setHostid buf size).1 = size + 16 ↔ size % 256 < 240 := by
  have header := formed.header
  have room := formed.room
  obtain ⟨-, -, -, named, -, -⟩ := setHostid_layout plain header (by omega)
  have field : read16 (setHostid buf size).1 2 = read16 buf 2 + swap16 16 := by
    rw [read16_congr (fun position low high => named position (by omega) (by omega)),
      read16_write16 (by omega)]
  have carry := swap16_add_sixteen (read16 buf 2)
  have length := formed.length
  unfold ipLen at length ⊢
  rw [length] at carry
  rw [field]
  exact carry

theorem recomputed_setHostid {buf : Buffer} {size : Nat} (word : size < 2 ^ 64)
    (formed : ipHl buf = 5 → Plain buf size) :
    recomputedSize buf (setHostid buf size).1 size = (setHostid buf size).2 := by
  by_cases plain : ipHl buf = 5
  · have header := (formed plain).header
    have room := (formed plain).room
    have total := (formed plain).total
    obtain ⟨grown, -, first, -⟩ := setHostid_layout plain header (by omega)
    have wide := (first_widened plain first).2
    have before : headerLength buf = 20 := by rw [headerLength, plain]
    have after : headerLength (setHostid buf size).1 = 36 := by rw [headerLength, wide]
    unfold recomputedSize getOptsize
    rw [before, after, grown]
    omega
  · have small : headerLength buf ≤ 60 := by
      unfold headerLength ipHl
      omega
    have same : setHostid buf size = (buf, size) := if_neg plain
    rw [same]
    simp only [recomputedSize, getOptsize]
    omega

/-- `set_hostid` inserts the option as it should exactly when the sixteen new bytes do
not carry out of the low byte of the total length. -/
theorem hostid_inserted_iff (buf : Buffer) (size : Nat) (word : size < 2 ^ 64)
    (formed : ipHl buf = 5 → Plain buf size) :
    WellInserted buf size ↔ (ipHl buf = 5 → size % 256 < 240) := by
  constructor
  · intro well plain
    exact (ipLen_inserted plain (formed plain)).mp (well.inserted plain).length
  · intro fits
    refine ⟨?_, fun other => if_neg other, recomputed_setHostid word formed⟩
    intro plain
    have header := (formed plain).header
    have room := (formed plain).room
    obtain ⟨grown, -, first, named, option, payload⟩ := setHostid_layout plain header (by omega)
    obtain ⟨version, wide⟩ := first_widened plain first
    refine ⟨grown, version, wide, (ipLen_inserted plain (formed plain)).mpr (fits plain), option,
      payload, ?_⟩
    intro position notFirst low notSecond notThird
    rw [named position notFirst low]
    exact getByte_write16 (by omega) _

/-- A datagram of 28 bytes. -/
private def shortDatagram : Buffer :=
  [69, 0, 0, 28, 0, 1, 0, 0, 64, 17, 174, 197, 10, 0, 0, 2, 192, 0, 2, 9,
    0, 80, 31, 144, 0, 8, 0, 0] ++ List.replicate 16 0

theorem hostid_inserted_iff_short_datagram :
    ipLen (setHostid shortDatagram 28).1 = 44 := by
  have formed : Plain shortDatagram 28 := ⟨by decide, by decide, by decide, by decide⟩
  have well := (hostid_inserted_iff shortDatagram 28 (by decide) (fun _ => formed)).mpr
    (fun _ => by decide)
  exact (well.inserted (by decide)).length

/-- A datagram of 240 bytes. -/
private def carryingDatagram : Buffer :=
  [69, 0, 0, 240, 0, 1, 0, 0, 64, 17, 173, 241, 10, 0, 0, 2, 192, 0, 2, 9,
    0, 80, 31, 144, 0, 220, 0, 0] ++ List.replicate 228 0

/-- The 256 bytes are announced as none. -/
theorem hostid_length_carries :
    ¬∀ (buf : Buffer) (size : Nat), size < 2 ^ 64 → (ipHl buf = 5 → Plain buf size) →
      WellInserted buf size := by
  intro inserted
  have formed : Plain carryingDatagram 240 :=
    ⟨by decide, by decide, by decide, by decide +kernel⟩
  have well := inserted carryingDatagram 240 (by decide) (fun _ => formed)
  have length := (well.inserted (by decide)).length
  revert length
  decide +kernel

end Hostid
end NatPorte
