/-
The "fragmentation needed" message.

`mk_fn_packet` answers a packet that is too big for the next link with an ICMP
error: an outer header, the announced MTU, and the header and first eight payload
bytes of the packet.  It builds the error in a buffer of its own and then copies
it over the packet.
-/

import NatPorte.IcmpErrors

namespace NatPorte
namespace FragNeeded

open ByteBuffer OnesComplement Structure Packet Checksum Alias Tracking Icmp IcmpErrors

def bufsiz : Nat := 1024

def sampleIp : List Byte :=
  [0x45, 0, 0, 0, 0, 0, 0, 0, 0xFF, 1, 0, 0, 0, 0, 0, 0, 0, 0, 0, 0]
def sampleIcmp : List Byte := [3, 4, 0, 0]
def sampleSubicmp : List Byte := [0, 0, 0x05, 0xDC]

/-- The offsets of `tmp_icmphdr`, `tmp_subhdr` and `tmp_exthdr` in `tmp`. -/
def tmpIcmphdr : Nat := 20
def tmpSubhdr : Nat := 24
def tmpExthdr : Nat := 28

def exthdrSize : Nat := 28

def tmpSize : Nat := tmpExthdr + exthdrSize

def fnOuter (id : BitVec 16) (localAddr : BitVec 32) (buf : Buffer) : Buffer :=
  let tmp := splice (List.replicate bufsiz 0) 0 sampleIp
  let tmp := write16 tmp 2 (swap16 (BitVec.ofNat 16 tmpSize))
  let tmp := write16 tmp 4 (swap16 id)
  let tmp := write32 tmp 16 (ipSrc buf)
  write32 tmp 12 (swap32 localAddr)

/-- The MTU of the WAN side less fifty: MTUs are `size_t`, `htons` takes 16 bits. -/
def fnSubhdr (config : Config) (tmp : Buffer) : Buffer :=
  let tmp := splice tmp tmpIcmphdr sampleIcmp
  let tmp := splice tmp tmpSubhdr sampleSubicmp
  write16 tmp (tmpSubhdr + 2) (swap16 (BitVec.ofNat 16 (config.wanIfMtu + 2 ^ 64 - 50)))

/-- The header of the packet with its options cut off. -/
def fnQuote (buf tmp : Buffer) : Buffer :=
  let tmp := splice tmp tmpExthdr (slice buf 0 20)
  let tmp := setByte tmp tmpExthdr (BitVec.ofNat 8 ((getByte tmp tmpExthdr).toNat / 16 * 16 + 5))
  -- subtracted from the network-order length, in words instead of bytes
  write16 tmp (tmpExthdr + 2) (read16 tmp (tmpExthdr + 2) - (BitVec.ofNat 16 (ipHl buf) - 5))

/-- `checksum_transport` for a header that starts at `base`. -/
def checksumTransportAt (buf : Buffer) (base size : Nat) : Buffer :=
  buf.take base ++ checksumTransport (buf.drop base) size

/-- What the three protocols' branches do alike. -/
def fnContent (buf tmp : Buffer) : Buffer :=
  let tmp := splice tmp (tmpExthdr + 20) (slice buf (headerLength buf) 8)
  let tmp := checksumIp tmp tmpExthdr
  checksumTransportAt tmp tmpExthdr exthdrSize

structure FnPacket where
  size : Nat
  buf : Buffer
  id : BitVec 16

/-- `id` is the function's static counter; no message is made for other protocols,
and `lan_addr.at` throws when there is no LAN address. -/
def mkFnPacket (config : Config) (id : BitVec 16) (buf : Buffer) (size : Nat) : Option FnPacket :=
  let id := id + 1
  match config.lanAddr.getLast? with
  | none => none
  | some localAddr =>
      let tmp := fnQuote buf (fnSubhdr config (fnOuter id localAddr buf))
      if ipP buf = ipprotoTcp ∨ ipP buf = ipprotoUdp ∨ ipP buf = ipprotoIcmp then
        let tmp := fnContent buf tmp
        let tmp := checksumIp tmp 0
        let tmp := checksumTransport tmp tmpSize
        let buf := splice buf 0 (List.replicate size 0)
        some { size := tmpSize, buf := splice buf 0 (tmp.take tmpSize), id := id }
      else some { size := 0, buf := buf, id := id }

/-- The places in `tmp` as numbers. -/
theorem layout :
    tmpIcmphdr = 20 ∧ tmpSubhdr = 24 ∧ tmpExthdr = 28 ∧ exthdrSize = 28 ∧ tmpSize = 56 ∧
      bufsiz = 1024 ∧ sampleIp.length = 20 ∧ sampleIcmp.length = 4 ∧ sampleSubicmp.length = 4 :=
  ⟨rfl, rfl, rfl, rfl, rfl, rfl, rfl, rfl, rfl⟩

section Front

variable (config : Config) (id : BitVec 16) (localAddr : BitVec 32) (buf : Buffer) {tmp : Buffer}

theorem length_sampleIp :
    (splice (List.replicate bufsiz (0 : Byte)) 0 sampleIp).length = bufsiz := by
  have places := layout
  rw [length_splice (by rw [List.length_replicate]; omega), List.length_replicate]

theorem length_fnOuter : (fnOuter id localAddr buf).length = bufsiz := by
  simp only [fnOuter, length_write32, length_write16]
  exact length_sampleIp

theorem getByte_fnOuter {position : Nat} (early : position < 2 ∨ 6 ≤ position ∧ position < 12) :
    getByte (fnOuter id localAddr buf) position = getByte sampleIp position := by
  have places := layout
  simp only [fnOuter]
  rw [getByte_write32 (by omega), getByte_write32 (by omega), getByte_write16 (by omega),
    getByte_write16 (by omega), getByte_splice_self (by omega) (by omega) (by omega), Nat.sub_zero]

theorem fnOuter_fields :
    read16 (fnOuter id localAddr buf) 2 = swap16 (BitVec.ofNat 16 tmpSize) ∧
      ipSrc (fnOuter id localAddr buf) = swap32 localAddr ∧
      ipDst (fnOuter id localAddr buf) = ipSrc buf := by
  have places := layout
  have length := length_sampleIp
  unfold fnOuter ipSrc ipDst
  refine ⟨?_, ?_, ?_⟩
  · rw [read16_write32_other (by omega), read16_write32_other (by omega),
      read16_write16_other (by omega), read16_write16 (by omega)]
  · rw [read32_write32 (by simp only [length_write32, length_write16]; omega)]
  · rw [read32_write32_other (by omega),
      read32_write32 (by simp only [length_write16]; omega)]

variable (length : tmp.length = bufsiz)
include length

theorem length_sampleIcmp : (splice tmp tmpIcmphdr sampleIcmp).length = bufsiz := by
  have places := layout
  rw [length_splice (by omega), length]

theorem length_sampleSubicmp :
    (splice (splice tmp tmpIcmphdr sampleIcmp) tmpSubhdr sampleSubicmp).length = bufsiz := by
  have places := layout
  have icmp := length_sampleIcmp length
  rw [length_splice (by omega), icmp]

theorem length_fnSubhdr : (fnSubhdr config tmp).length = bufsiz := by
  simp only [fnSubhdr, length_write16]
  exact length_sampleSubicmp length

theorem getByte_fnSubhdr {position : Nat} (early : position < 20) :
    getByte (fnSubhdr config tmp) position = getByte tmp position := by
  have places := layout
  have icmp := length_sampleIcmp length
  simp only [fnSubhdr]
  rw [getByte_write16 (by omega), getByte_splice_other (by omega) (.inl (by omega)),
    getByte_splice_other (by omega) (.inl (by omega))]

theorem fnSubhdr_fields :
    getByte (fnSubhdr config tmp) 20 = 3 ∧ getByte (fnSubhdr config tmp) 21 = 4 ∧
      read16 (fnSubhdr config tmp) 26 =
        swap16 (BitVec.ofNat 16 (config.wanIfMtu + 2 ^ 64 - 50)) := by
  have places := layout
  have icmp := length_sampleIcmp length
  have subicmp := length_sampleSubicmp length
  have header : ∀ position, 20 ≤ position → position < 24 →
      getByte (fnSubhdr config tmp) position = getByte sampleIcmp (position - tmpIcmphdr) := by
    intro position low high
    simp only [fnSubhdr]
    rw [getByte_write16 (by omega), getByte_splice_other (by omega) (.inl (by omega)),
      getByte_splice_self (by omega) (by omega) (by omega)]
  refine ⟨header 20 (by omega) (by omega), header 21 (by omega) (by omega), ?_⟩
  apply read16_write16
  omega

end Front

/-- The quote before its checksums are refreshed. -/
def copied (buf tmp : Buffer) : Buffer :=
  splice (fnQuote buf tmp) (tmpExthdr + 20) (slice buf (headerLength buf) 8)

section Copied

variable {buf tmp : Buffer} (length : tmp.length = bufsiz)
include length

theorem length_header : (splice tmp tmpExthdr (slice buf 0 20)).length = bufsiz := by
  have places := layout
  have short : (slice buf 0 20).length ≤ 20 := by
    rw [length_slice]
    omega
  rw [length_splice (by omega), length]

theorem length_fnQuote : (fnQuote buf tmp).length = bufsiz := by
  simp only [fnQuote, length_write16, length_setByte]
  exact length_header length

theorem length_copied : (copied buf tmp).length = bufsiz := by
  have places := layout
  have short : (slice buf (headerLength buf) 8).length ≤ 8 := by
    rw [length_slice]
    omega
  have quote : (fnQuote buf tmp).length = bufsiz := length_fnQuote length
  unfold copied
  rw [length_splice (by omega), quote]

theorem getByte_copied {position : Nat} (early : position < 28) :
    getByte (copied buf tmp) position = getByte tmp position := by
  have places := layout
  have quote : (fnQuote buf tmp).length = bufsiz := length_fnQuote length
  unfold copied
  rw [getByte_splice_other (by omega) (.inl (by omega))]
  simp only [fnQuote]
  rw [getByte_write16 (by omega), getByte_setByte_other (by omega),
    getByte_splice_other (by omega) (.inl (by omega))]

end Copied

section Quote

variable {buf tmp : Buffer} (plain : ipHl buf = 5) (long : 28 ≤ buf.length)
  (length : tmp.length = bufsiz)
include plain long length

theorem fnQuote_plain : fnQuote buf tmp = splice tmp tmpExthdr (slice buf 0 20) := by
  have places := layout
  have lengthCopy : (splice tmp tmpExthdr (slice buf 0 20)).length = bufsiz :=
    length_header length
  have twenty : (slice buf 0 20).length = 20 := by
    rw [length_slice]
    omega
  have first : getByte (splice tmp tmpExthdr (slice buf 0 20)) tmpExthdr = getByte buf 0 := by
    rw [getByte_splice_self (by omega) (by omega) (by omega), Nat.sub_self,
      getByte_slice (by omega)]
  have sameFirst : BitVec.ofNat 8 ((getByte buf 0).toNat / 16 * 16 + 5) = getByte buf 0 := by
    have whole := Nat.div_add_mod (getByte buf 0).toNat 16
    have low : (getByte buf 0).toNat % 16 = 5 := plain
    have sum : (getByte buf 0).toNat / 16 * 16 + 5 = (getByte buf 0).toNat := by omega
    rw [sum, BitVec.ofNat_toNat, BitVec.setWidth_eq]
  have nothing : BitVec.ofNat 16 (ipHl buf) - 5 = 0#16 := by
    rw [plain]
    rfl
  simp only [fnQuote]
  rw [first, sameFirst, ← first, setByte_getByte (by omega), nothing, BitVec.sub_zero, write16,
    read16_toNat, store_load (by omega)]

theorem getByte_copied_quote {position : Nat} (inside : position < 28) :
    getByte (copied buf tmp) (28 + position) = getByte buf position := by
  have places := layout
  have start : headerLength buf = 20 := by rw [headerLength, plain]
  have twenty : (slice buf 0 20).length = 20 := by
    rw [length_slice]
    omega
  have eight : (slice buf (headerLength buf) 8).length = 8 := by
    rw [length_slice]
    omega
  have room : (splice tmp tmpExthdr (slice buf 0 20)).length = bufsiz := length_header length
  unfold copied
  rw [fnQuote_plain plain long length]
  by_cases header : position < 20
  · rw [getByte_splice_other (by omega) (.inl (by omega)),
      getByte_splice_self (by omega) (by omega) (by omega), tmpExthdr, Nat.add_sub_cancel_left,
      getByte_slice header, Nat.zero_add]
  · rw [getByte_splice_self (by omega) (by omega) (by omega), getByte_slice (by omega), start]
    congr 1
    omega

end Quote

section Summed

variable {buf tmp : Buffer}

theorem getByte_summed {position : Nat} (outside : ¬InField (28 + ipSumOffset) position) :
    getByte (checksumIp (copied buf tmp) tmpExthdr) position =
      getByte (copied buf tmp) position := by
  rw [checksumIp_eq]
  apply getByte_refreshRange
  rw [InField] at outside
  rw [tmpExthdr]
  omega

theorem fnContent_front : fnContent buf (fnQuote buf tmp) =
    (checksumIp (copied buf tmp) tmpExthdr).take 28 ++
      checksumTransport ((checksumIp (copied buf tmp) tmpExthdr).drop 28) exthdrSize :=
  rfl

variable (length : tmp.length = bufsiz)
include length

theorem length_summed : (checksumIp (copied buf tmp) tmpExthdr).length = bufsiz := by
  rw [checksumIp_eq, length_refreshRange, length_copied length]

theorem length_fnContent : (fnContent buf (fnQuote buf tmp)).length = bufsiz := by
  have places := layout
  have summed : (checksumIp (copied buf tmp) tmpExthdr).length = bufsiz := length_summed length
  rw [fnContent_front, List.length_append, length_checksumTransport, List.length_take,
    List.length_drop]
  omega

theorem getByte_fnContent {position : Nat} (early : position < 28) :
    getByte (fnContent buf (fnQuote buf tmp)) position = getByte tmp position := by
  have places := layout
  have summed : (checksumIp (copied buf tmp) tmpExthdr).length = bufsiz := length_summed length
  rw [fnContent_front, getByte_append_left (by rw [List.length_take]; omega),
    getByte_take early, getByte_summed (by rw [InField]; omega), getByte_copied length early]

end Summed

/-- Where `checksum_transport` writes in the quoted packet.  For TCP that is behind
the eight bytes that are quoted. -/
def sumAt (buf : Buffer) : Nat :=
  20 + if ipP buf = ipprotoTcp then thSumOffset
    else if ipP buf = ipprotoUdp then uhSumOffset else icmpCksumOffset

def sumAdjust (buf : Buffer) : Nat :=
  if ipP buf = ipprotoIcmp then 0 else pseudoSum buf exthdrSize

theorem segmentSize_quote {buf : Buffer} (header : headerLength buf = 20) :
    segmentSize buf exthdrSize = 8 := by
  have places := layout
  rw [segmentSize_of_le (by omega) (by omega)]
  omega

/-- A packet that an error can be about. -/
structure Quotable (buf : Buffer) (size : Nat) : Prop where
  version : ipV buf = 4
  plain : ipHl buf = 5
  protocol : ipP buf = ipprotoTcp ∨ ipP buf = ipprotoUdp ∨ ipP buf = ipprotoIcmp
  long : exthdrSize ≤ size
  inBuffer : size ≤ buf.length
  verifies : HeaderVerifies buf 0

namespace Quotable

variable {buf : Buffer} {size : Nat}

theorem long_buffer (quotable : Quotable buf size) : 28 ≤ buf.length :=
  Nat.le_trans quotable.long quotable.inBuffer

theorem headerLength_eq (quotable : Quotable buf size) : headerLength buf = 20 := by
  rw [headerLength, quotable.plain]

theorem first_eq (quotable : Quotable buf size) : (getByte buf 0).toNat % 16 * 4 = 20 :=
  quotable.headerLength_eq

theorem checksumTransport_eq (quotable : Quotable buf size) {quoted : Buffer}
    (first : getByte quoted 0 = getByte buf 0) (protocol : getByte quoted 9 = getByte buf 9)
    (addresses : ∀ position, 12 ≤ position → position < 20 →
      getByte quoted position = getByte buf position) :
    checksumTransport quoted exthdrSize =
      refreshRange quoted 20 8 (sumAt buf) (sumAdjust buf) := by
  have length : headerLength quoted = 20 := by
    rw [headerLength_congr first, quotable.headerLength_eq]
  have segment := @segmentSize_quote quoted length
  have pseudo : pseudoSum quoted exthdrSize = pseudoSum buf exthdrSize := by
    unfold pseudoSum bigEndianWord ipP
    rw [segment, segmentSize_quote quotable.headerLength_eq, protocol]
    simp only [addresses _ (by omega : 12 ≤ 12) (by omega), addresses 13 (by omega) (by omega),
      addresses 14 (by omega) (by omega), addresses 15 (by omega) (by omega),
      addresses 16 (by omega) (by omega), addresses 17 (by omega) (by omega),
      addresses 18 (by omega) (by omega), addresses 19 (by omega) (by omega)]
  have sameProtocol : ipP quoted = ipP buf := protocol
  unfold checksumTransport sumAt sumAdjust
  rw [sameProtocol, pseudo]
  rcases quotable.protocol with found | found | found <;>
    simp only [found, refreshSum_eq, length, segment] <;> rfl

end Quotable

section Content

variable {buf tmp : Buffer} {size : Nat} (quotable : Quotable buf size)
  (length : tmp.length = bufsiz)
include quotable length

theorem summed_eq : checksumIp (copied buf tmp) tmpExthdr =
    refreshRange (copied buf tmp) 28 20 (28 + ipSumOffset) 0 := by
  have first : getByte (copied buf tmp) tmpExthdr = getByte buf 0 :=
    @getByte_copied_quote buf tmp quotable.plain quotable.long_buffer length 0 (by omega)
  rw [checksumIp_eq, first, quotable.first_eq, tmpExthdr]

theorem getByte_summed_quote {position : Nat} (inside : position < 28)
    (outside : ¬InField ipSumOffset position) :
    getByte (checksumIp (copied buf tmp) tmpExthdr) (28 + position) = getByte buf position := by
  rw [getByte_summed (by rw [InField] at outside ⊢; omega)]
  exact getByte_copied_quote quotable.plain quotable.long_buffer length inside

theorem fnContent_eq : fnContent buf (fnQuote buf tmp) =
    (checksumIp (copied buf tmp) tmpExthdr).take 28 ++
      refreshRange ((checksumIp (copied buf tmp) tmpExthdr).drop 28) 20 8 (sumAt buf)
        (sumAdjust buf) := by
  have quoted : ∀ position < 28, ¬InField ipSumOffset position →
      getByte ((checksumIp (copied buf tmp) tmpExthdr).drop 28) position =
        getByte buf position := by
    intro position inside outside
    rw [getByte_drop]
    exact getByte_summed_quote quotable length inside outside
  have transport := quotable.checksumTransport_eq (quoted 0 (by decide) (by decide))
    (quoted 9 (by decide) (by decide))
    (fun position low high => quoted position (by omega) (by rw [InField, ipSumOffset]; omega))
  rw [← transport]
  exact fnContent_front

theorem getByte_fnContent_quote (position : Nat) :
    getByte (fnContent buf (fnQuote buf tmp)) (28 + position) =
      getByte (refreshRange ((checksumIp (copied buf tmp) tmpExthdr).drop 28) 20 8 (sumAt buf)
        (sumAdjust buf)) position := by
  have summed : (checksumIp (copied buf tmp) tmpExthdr).length = bufsiz := length_summed length
  have places := layout
  have front : ((checksumIp (copied buf tmp) tmpExthdr).take 28).length = 28 := by
    rw [List.length_take]
    omega
  rw [fnContent_eq quotable length, getByte_append_right (by omega), front,
    Nat.add_sub_cancel_left]

theorem fnContent_kept {position : Nat} (inside : position < 28)
    (notHeader : ¬InField ipSumOffset position) (notTransport : ¬InField (sumAt buf) position) :
    getByte (fnContent buf (fnQuote buf tmp)) (28 + position) = getByte buf position := by
  rw [getByte_fnContent_quote quotable length,
    getByte_refreshRange (by rw [InField] at notTransport; omega), getByte_drop]
  exact getByte_summed_quote quotable length inside notHeader

theorem fnContent_headerSum :
    SameUpToZero (read16 (fnContent buf (fnQuote buf tmp)) (28 + ipSumOffset)) (read16 buf ipSumOffset) := by
  have long := quotable.long_buffer
  have places := layout
  have sumBehind : 20 ≤ sumAt buf := Nat.le_add_right _ _
  have lengthCopied : (copied buf tmp).length = bufsiz := length_copied length
  have same : read16 (fnContent buf (fnQuote buf tmp)) (28 + ipSumOffset) =
      read16 (checksumIp (copied buf tmp) tmpExthdr) (28 + ipSumOffset) := by
    rw [read16_eq_iff, Nat.add_assoc, getByte_fnContent_quote quotable length,
      getByte_fnContent_quote quotable length, getByte_refreshRange (by rw [ipSumOffset]; omega),
      getByte_refreshRange (by rw [ipSumOffset]; omega), getByte_drop, getByte_drop]
    exact ⟨rfl, rfl⟩
  have header : slice (copied buf tmp) 28 20 = slice buf 0 20 := by
    apply slice_congr (by omega) (by omega)
    intro offset inside
    rw [getByte_copied_quote quotable.plain long length (by omega), Nat.zero_add]
  have moved := @read16_refreshRange_congr buf 0 20 (copied buf tmp) 28 ipSumOffset
    (by rw [ipSumOffset]; omega) (by rw [ipSumOffset]; omega) header 0
  have verifies := quotable.verifies
  rw [HeaderVerifies, quotable.first_eq] at verifies
  have first : getByte (slice buf 0 20) 0 ≠ 0 := by
    rw [getByte_slice (by omega)]
    intro zero
    have twenty := quotable.first_eq
    rw [zero] at twenty
    cases twenty
  rw [same, summed_eq quotable length, moved, Nat.zero_add]
  exact (refreshRange_sameUpToZero (by omega) (by omega) (by rw [ipSumOffset]; omega) rfl
    (by omega) (by omega) (Nat.add_pos_left (wordSum_pos first) 0)).mpr verifies

theorem fnContent_sum (quoted : sumAt buf + 2 ≤ 28) :
    read16 (fnContent buf (fnQuote buf tmp)) (28 + sumAt buf) =
      read16 (refreshRange buf 20 8 (sumAt buf) (sumAdjust buf)) (sumAt buf) := by
  have places := layout
  have long := quotable.long_buffer
  have summed : (checksumIp (copied buf tmp) tmpExthdr).length = bufsiz := length_summed length
  have behind : sumAt buf = 20 + (sumAt buf - 20) :=
    (Nat.add_sub_cancel' (Nat.le_add_right _ _)).symm
  have lengthQuoted : ((checksumIp (copied buf tmp) tmpExthdr).drop 28).length = 996 := by
    rw [List.length_drop]
    omega
  have segment : slice ((checksumIp (copied buf tmp) tmpExthdr).drop 28) 20 8 = slice buf 20 8 := by
    apply slice_congr (by omega) (by omega)
    intro offset inside
    rw [getByte_drop]
    exact getByte_summed_quote quotable length (by omega) (by rw [InField, ipSumOffset]; omega)
  have moved := @read16_refreshRange_congr buf 20 8
    ((checksumIp (copied buf tmp) tmpExthdr).drop 28) 20 (sumAt buf - 20)
    (by omega) (by omega) segment (sumAdjust buf)
  rw [← behind] at moved
  rw [← moved, read16_eq_iff, Nat.add_assoc, getByte_fnContent_quote quotable length,
    getByte_fnContent_quote quotable length]
  exact ⟨rfl, rfl⟩

end Content

section Outer

variable {content : Buffer} (first : getByte content 0 = 0x45)
  (protocol : getByte content 9 = ipprotoIcmp)
include first protocol

theorem outer_eq : checksumTransport (checksumIp content 0) tmpSize =
    refreshRange (refreshRange content 0 20 ipSumOffset 0) 20 36 22 0 := by
  have places := layout
  have header : checksumIp content 0 = refreshRange content 0 20 ipSumOffset 0 := by
    rw [checksumIp_eq, first, Nat.zero_add]
    rfl
  have length : headerLength (refreshRange content 0 20 ipSumOffset 0) = 20 := by
    rw [headerLength, ipHl, getByte_refreshRange (.inl (by decide)), first]
    rfl
  have summedProtocol : ipP (refreshRange content 0 20 ipSumOffset 0) = ipprotoIcmp := by
    rw [ipP, getByte_refreshRange (.inl (by decide)), protocol]
  have segment : segmentSize (refreshRange content 0 20 ipSumOffset 0) tmpSize = 36 := by
    rw [segmentSize_of_le (by omega) (by omega)]
    omega
  rw [header, checksumTransport, summedProtocol, if_neg (by decide), if_neg (by decide),
    if_pos rfl, refreshSum_eq, length, segment, icmpCksumOffset]

theorem getByte_outer {position : Nat} (notHeader : ¬InField ipSumOffset position)
    (notIcmp : ¬InField 22 position) :
    getByte (checksumTransport (checksumIp content 0) tmpSize) position =
      getByte content position := by
  rw [InField] at notHeader notIcmp
  rw [outer_eq first protocol, getByte_refreshRange (by omega),
    getByte_refreshRange (by omega)]

theorem outer_header (long : 56 ≤ content.length) :
    onesTotal (slice (checksumTransport (checksumIp content 0) tmpSize) 0 20) 0 = 0xFFFF := by
  rw [outer_eq first protocol, slice_refreshRange_other (by rw [length_refreshRange]; omega)
    (.inl (by omega))]
  exact onesTotal_refreshRange (by omega) (by omega) (by rw [ipSumOffset]; omega) rfl (by omega)
    (by omega)

theorem outer_icmp (long : 56 ≤ content.length) :
    onesTotal (slice (checksumTransport (checksumIp content 0) tmpSize) 20 36) 0 = 0xFFFF := by
  rw [outer_eq first protocol]
  exact onesTotal_refreshRange (by rw [length_refreshRange]; omega) (by omega) (by omega) rfl
    (by omega) (by omega)

end Outer

/-- An error from the last LAN address to the packet's source, with both checksums right. -/
structure Answers (config : Config) (buf : Buffer) (message : FnPacket) : Prop where
  size : message.size = 56
  header : getByte message.buf 0 = 0x45
  length : swap16 (read16 message.buf 2) = 56
  protocol : ipP message.buf = ipprotoIcmp
  type : icmpType message.buf = 3
  code : getByte message.buf 21 = 4
  source : config.lanAddr.getLast?.map swap32 = some (ipSrc message.buf)
  destination : ipDst message.buf = ipSrc buf
  headerSum : HeaderVerifies message.buf 0
  icmpSum : IcmpVerifies message.buf 56

/-- ... that quotes the header and eight bytes as they were, but for the zero of the
header checksum. -/
structure Faithful (config : Config) (buf : Buffer) (message : FnPacket) : Prop extends
    Answers config buf message where
  quoted : ∀ position < 28, ¬InField ipSumOffset position →
    getByte message.buf (28 + position) = getByte buf position
  quotedSum : SameUpToZero (read16 message.buf (28 + ipSumOffset)) (read16 buf ipSumOffset)

/-- What `tmp` holds when it is copied over the packet. -/
def fnTmp (config : Config) (id : BitVec 16) (localAddr : BitVec 32) (buf : Buffer) : Buffer :=
  let tmp := fnQuote buf (fnSubhdr config (fnOuter id localAddr buf))
  checksumTransport (checksumIp (fnContent buf tmp) 0) tmpSize

/-- The packet's buffer, cleared and overwritten. -/
def fnBuf (config : Config) (id : BitVec 16) (localAddr : BitVec 32) (buf : Buffer) (size : Nat) :
    Buffer :=
  splice (splice buf 0 (List.replicate size 0)) 0
    ((fnTmp config id localAddr buf).take tmpSize)

section Message

variable (config : Config) (id : BitVec 16) (localAddr : BitVec 32) (buf : Buffer) {size : Nat}

theorem mkFnPacket_some (size : Nat)
    (protocol : ipP buf = ipprotoTcp ∨ ipP buf = ipprotoUdp ∨ ipP buf = ipprotoIcmp)
    (last : config.lanAddr.getLast? = some localAddr) :
    mkFnPacket config id buf size = some
      { size := tmpSize, buf := fnBuf config (id + 1) localAddr buf size, id := id + 1 } := by
  unfold mkFnPacket
  simp only [last, if_pos protocol]
  rfl

theorem front_length : (fnSubhdr config (fnOuter id localAddr buf)).length = bufsiz :=
  length_fnSubhdr config (length_fnOuter id localAddr buf)

theorem content_spec :
    let content := fnContent buf (fnQuote buf (fnSubhdr config (fnOuter id localAddr buf)))
    content.length = bufsiz ∧ getByte content 0 = 0x45 ∧ getByte content 9 = ipprotoIcmp := by
  intro content
  have front := front_length config id localAddr buf
  have early : ∀ {position : Nat}, position < 12 → (position < 2 ∨ 6 ≤ position) →
      getByte content position = getByte sampleIp position := by
    intro position inside unwritten
    rw [getByte_fnContent front (by omega),
      getByte_fnSubhdr config (length_fnOuter id localAddr buf) (by omega),
      getByte_fnOuter id localAddr buf (by omega)]
  exact ⟨length_fnContent front, early (by omega) (by omega), early (by omega) (by omega)⟩

theorem length_fnTmp : (fnTmp config id localAddr buf).length = bufsiz := by
  obtain ⟨length, first, protocol⟩ := content_spec config id localAddr buf
  unfold fnTmp
  rw [outer_eq first protocol, length_refreshRange, length_refreshRange, length]

theorem getByte_fnTmp {position : Nat} (notHeader : ¬InField ipSumOffset position)
    (notIcmp : ¬InField 22 position) :
    getByte (fnTmp config id localAddr buf) position =
      getByte (fnContent buf (fnQuote buf (fnSubhdr config (fnOuter id localAddr buf))))
        position := by
  obtain ⟨-, first, protocol⟩ := content_spec config id localAddr buf
  exact getByte_outer first protocol notHeader notIcmp

theorem getByte_fnTmp_front {position : Nat} (early : position < 28)
    (notHeader : ¬InField ipSumOffset position) (notIcmp : ¬InField 22 position) :
    getByte (fnTmp config id localAddr buf) position =
      getByte (fnSubhdr config (fnOuter id localAddr buf)) position := by
  rw [getByte_fnTmp config id localAddr buf notHeader notIcmp]
  exact getByte_fnContent (front_length config id localAddr buf) early

theorem length_front : ((fnTmp config id localAddr buf).take tmpSize).length = tmpSize := by
  have places := layout
  have length := length_fnTmp config id localAddr buf
  rw [List.length_take]
  omega

theorem getByte_message {position : Nat} (inside : position < tmpSize) :
    getByte (fnBuf config id localAddr buf size) position =
      getByte (fnTmp config id localAddr buf) position := by
  have front := length_front config id localAddr buf
  unfold fnBuf
  rw [getByte_splice_self (by omega) (by omega) (by omega), Nat.sub_zero, getByte_take inside]

theorem getByte_message_front {position : Nat} (early : position < 28)
    (notHeader : ¬InField ipSumOffset position) (notIcmp : ¬InField 22 position) :
    getByte (fnBuf config id localAddr buf size) position =
      getByte (fnSubhdr config (fnOuter id localAddr buf)) position := by
  have places := layout
  rw [getByte_message config id localAddr buf (by omega)]
  exact getByte_fnTmp_front config id localAddr buf early notHeader notIcmp

theorem getByte_message_outer {position : Nat} (early : position < 20)
    (notHeader : ¬InField ipSumOffset position) :
    getByte (fnBuf config id localAddr buf size) position =
      getByte (fnOuter id localAddr buf) position := by
  rw [getByte_message_front config id localAddr buf (by omega) notHeader (by rw [InField]; omega)]
  exact getByte_fnSubhdr config (length_fnOuter id localAddr buf) early

theorem getByte_message_quote {position : Nat} (inside : position < 28) :
    getByte (fnBuf config id localAddr buf size) (28 + position) =
      getByte (fnContent buf (fnQuote buf (fnSubhdr config (fnOuter id localAddr buf))))
        (28 + position) := by
  have places := layout
  rw [getByte_message config id localAddr buf (by omega)]
  exact getByte_fnTmp config id localAddr buf (by rw [InField, ipSumOffset]; omega)
    (by rw [InField]; omega)

theorem message_first : getByte (fnBuf config id localAddr buf size) 0 = 0x45 := by
  rw [getByte_message_outer config id localAddr buf (by omega) (by rw [InField, ipSumOffset]; omega),
    getByte_fnOuter id localAddr buf (by omega)]
  rfl

theorem message_headerLength : headerLength (fnBuf config id localAddr buf size) = 20 := by
  rw [headerLength, ipHl, message_first config id localAddr buf]
  rfl

theorem message_mtu :
    read16 (fnBuf config id localAddr buf size) 26 =
      swap16 (BitVec.ofNat 16 (config.wanIfMtu + 2 ^ 64 - 50)) := by
  rw [← (fnSubhdr_fields config (length_fnOuter id localAddr buf)).2.2]
  apply read16_congr
  intro position low high
  exact getByte_message_front config id localAddr buf high
    (by rw [InField, ipSumOffset]; omega) (by rw [InField]; omega)

theorem message_addresses :
    ipSrc (fnBuf config id localAddr buf size) = swap32 localAddr ∧
      ipDst (fnBuf config id localAddr buf size) = ipSrc buf := by
  obtain ⟨-, source, destination⟩ := fnOuter_fields id localAddr buf
  have same : ∀ {offset : Nat}, 12 ≤ offset → offset + 4 ≤ 20 →
      read32 (fnBuf config id localAddr buf size) offset =
        read32 (fnOuter id localAddr buf) offset := by
    intro offset after before
    apply read32_congr
    intro position low high
    exact getByte_message_outer config id localAddr buf (by omega)
      (by rw [InField, ipSumOffset]; omega)
  exact ⟨(same (by omega) (by omega)).trans source, (same (by omega) (by omega)).trans destination⟩

theorem message_lengthField : swap16 (read16 (fnBuf config id localAddr buf size) 2) = 56 := by
  have same : read16 (fnBuf config id localAddr buf size) 2 =
      read16 (fnOuter id localAddr buf) 2 := by
    apply read16_congr
    intro position low high
    exact getByte_message_outer config id localAddr buf (by omega)
      (by rw [InField, ipSumOffset]; omega)
  rw [same, (fnOuter_fields id localAddr buf).1, swap16_swap16]
  rfl

theorem message_icmp :
    ipP (fnBuf config id localAddr buf size) = ipprotoIcmp ∧
      icmpType (fnBuf config id localAddr buf size) = 3 ∧
      getByte (fnBuf config id localAddr buf size) 21 = 4 := by
  obtain ⟨type, code, -⟩ := fnSubhdr_fields config (length_fnOuter id localAddr buf)
  unfold ipP icmpType
  rw [message_headerLength config id localAddr buf,
    getByte_message_outer config id localAddr buf (by omega) (by rw [InField, ipSumOffset]; omega),
    getByte_fnOuter id localAddr buf (by omega),
    getByte_message_front config id localAddr buf (by omega) (by rw [InField, ipSumOffset]; omega)
      (by rw [InField]; omega),
    getByte_message_front config id localAddr buf (by omega) (by rw [InField, ipSumOffset]; omega)
      (by rw [InField]; omega)]
  exact ⟨rfl, type, code⟩

variable (inBuffer : size ≤ buf.length) (room : tmpSize ≤ buf.length)
include inBuffer room

theorem slice_message {start length : Nat} (inside : start + length ≤ tmpSize) :
    slice (fnBuf config id localAddr buf size) start length =
      slice (fnTmp config id localAddr buf) start length := by
  have places := layout
  have lengthTmp := length_fnTmp config id localAddr buf
  have front := length_front config id localAddr buf
  have cleared : (splice buf 0 (List.replicate size 0)).length = buf.length :=
    length_splice (by rw [List.length_replicate]; omega)
  have written : (fnBuf config id localAddr buf size).length = buf.length := by
    unfold fnBuf
    rw [length_splice (by omega), cleared]
  apply slice_congr (by omega) (by omega)
  intro offset low
  exact getByte_message config id localAddr buf (by omega)

theorem message_sums : HeaderVerifies (fnBuf config id localAddr buf size) 0 ∧
    IcmpVerifies (fnBuf config id localAddr buf size) 56 := by
  have places := layout
  obtain ⟨content, first, protocol⟩ := content_spec config id localAddr buf
  have header : headerLength (fnBuf config id localAddr buf size) = 20 :=
    message_headerLength config id localAddr buf
  constructor
  · change onesTotal (slice _ 0 (headerLength (fnBuf config id localAddr buf size))) 0 = 0xFFFF
    rw [header, slice_message config id localAddr buf inBuffer room (by omega)]
    exact outer_header first protocol (by omega)
  · unfold IcmpVerifies
    rw [segmentSize_of_le (by omega) (by omega), header,
      slice_message config id localAddr buf inBuffer room (by omega)]
    exact outer_icmp first protocol (by omega)

theorem message_answers (last : config.lanAddr.getLast? = some localAddr) :
    Answers config buf
      { size := tmpSize, buf := fnBuf config id localAddr buf size, id := id } := by
  obtain ⟨source, destination⟩ := @message_addresses config id localAddr buf size
  obtain ⟨protocol, type, code⟩ := @message_icmp config id localAddr buf size
  obtain ⟨headerSum, icmpSum⟩ := message_sums config id localAddr buf inBuffer room
  have lastSource : config.lanAddr.getLast?.map swap32 =
      some (ipSrc (fnBuf config id localAddr buf size)) := by
    rw [last, Option.map_some, source]
  exact ⟨rfl, message_first config id localAddr buf, message_lengthField config id localAddr buf,
    protocol, type, code, lastSource, destination, headerSum, icmpSum⟩

end Message

/-- The eight bytes alone have the checksum that stands among them, as if the packet
ended there.  A TCP checksum is not among them. -/
def FitsAlone (buf : Buffer) : Prop :=
  ipP buf = ipprotoTcp ∨
    ipP buf = ipprotoUdp ∧ Verifies buf exthdrSize ∧
      read16 buf (20 + uhSumOffset) ≠ 0xFFFF ∨
    ipP buf = ipprotoIcmp ∧ IcmpVerifies buf exthdrSize ∧
      (read16 buf (20 + icmpCksumOffset) = 0xFFFF →
        wordSum (slice (write16 buf (20 + icmpCksumOffset) 0) 20 8) = 0)

instance (buf : Buffer) : Decidable (FitsAlone buf) :=
  inferInstanceAs (Decidable (_ ∨ _ ∧ _ ∧ _ ∨ _ ∧ _ ∧ (_ → _)))

section Quoted

variable {buf : Buffer} {size : Nat} (quotable : Quotable buf size)
include quotable

theorem pseudoSum_quote : pseudoSum buf exthdrSize < 2 ^ 31 ∧
    (ipP buf = ipprotoUdp → 0 < pseudoSum buf exthdrSize) := by
  have wordBound : ∀ offset, bigEndianWord buf offset < 65536 := by
    intro offset
    have high := (getByte buf offset).isLt
    have low := (getByte buf (offset + 1)).isLt
    rw [bigEndianWord]
    omega
  have segment := segmentSize_quote quotable.headerLength_eq
  have b12 := wordBound 12
  have b14 := wordBound 14
  have b16 := wordBound 16
  have b18 := wordBound 18
  have protocol := (ipP buf).isLt
  rw [pseudoSum, segment]
  constructor
  · omega
  · intro _
    omega

/-- When the field is computed again among the eight bytes, it stays when it fits. -/
theorem refreshed_same :
    (sumAt buf + 2 ≤ 28 →
      read16 (refreshRange buf 20 8 (sumAt buf) (sumAdjust buf)) (sumAt buf) =
        read16 buf (sumAt buf)) ↔ FitsAlone buf := by
  have long := quotable.long_buffer
  have header := quotable.headerLength_eq
  have segment := segmentSize_quote header
  obtain ⟨small, positive⟩ := pseudoSum_quote quotable
  unfold FitsAlone
  rcases quotable.protocol with found | found | found
  · have place : sumAt buf = 36 := by
      rw [sumAt, if_pos found, thSumOffset]
    rw [place]
    constructor
    · intro _
      exact .inl found
    · intro _ inside
      omega
  · have place : sumAt buf = 26 := by
      rw [sumAt, found]
      decide
    have adjust : sumAdjust buf = pseudoSum buf exthdrSize := by
      rw [sumAdjust, found]
      exact if_neg (by decide)
    have kept := @refreshRange_kept buf 20 8 26 (pseudoSum buf exthdrSize) (by omega) (by omega)
      (by omega) rfl (by omega) small
    have counted := positive found
    rw [place, adjust, kept, found, Verifies, header, segment]
    constructor
    · intro same
      obtain ⟨verifies, ones⟩ := same (by omega)
      refine .inr (.inl ⟨rfl, verifies, ?_⟩)
      intro allOnes
      have nothing := ones allOnes
      omega
    · rintro (tcp | ⟨-, verifies, notOnes⟩ | ⟨icmp, -⟩) _
      · cases tcp
      · exact ⟨verifies, fun allOnes => absurd allOnes notOnes⟩
      · cases icmp
  · have place : sumAt buf = 22 := by
      rw [sumAt, found]
      decide
    have adjust : sumAdjust buf = 0 := by
      rw [sumAdjust, found]
      exact if_pos rfl
    have kept := @refreshRange_kept buf 20 8 22 0 (by omega) (by omega) (by omega) rfl (by omega)
      (by omega)
    rw [place, adjust, kept, found, IcmpVerifies, header, segment]
    constructor
    · intro same
      exact .inr (.inr ⟨rfl, same (by omega)⟩)
    · rintro (tcp | ⟨udp, -⟩ | ⟨-, fits⟩) _
      · cases tcp
      · cases udp
      · exact fits

theorem quoted_same (config : Config) (id : BitVec 16) (localAddr : BitVec 32) :
    (∀ position < 28, ¬InField ipSumOffset position →
      getByte (fnBuf config id localAddr buf size) (28 + position) = getByte buf position) ↔
      FitsAlone buf := by
  have front := front_length config id localAddr buf
  have behind : 22 ≤ sumAt buf := by
    rcases quotable.protocol with found | found | found <;> rw [sumAt, found] <;> decide
  rw [← refreshed_same quotable]
  constructor
  · intro quoted inside
    rw [← fnContent_sum quotable front inside, read16_eq_iff, Nat.add_assoc,
      ← getByte_message_quote config id localAddr buf (by omega),
      ← getByte_message_quote config id localAddr buf (by omega)]
    exact ⟨quoted _ (by omega) (by rw [InField, ipSumOffset]; omega),
      quoted _ (by omega) (by rw [InField, ipSumOffset]; omega)⟩
  · intro same position inside notHeader
    rw [getByte_message_quote config id localAddr buf inside]
    by_cases field : InField (sumAt buf) position
    · have bounds := field
      rw [InField] at bounds
      have even : sumAt buf % 2 = 0 := by
        rcases quotable.protocol with found | found | found <;> rw [sumAt, found] <;> decide
      have whole := same (by omega)
      rw [← fnContent_sum quotable front (by omega), read16_eq_iff, Nat.add_assoc] at whole
      obtain first | second : position = sumAt buf ∨ position = sumAt buf + 1 := by omega
      · rw [first]
        exact whole.1
      · rw [second]
        exact whole.2
    · exact fnContent_kept quotable front inside notHeader field

end Quoted

theorem faithful_fits {config : Config} {id : BitVec 16} {buf : Buffer} {size : Nat}
    {message : FnPacket} (lan : config.lanAddr ≠ []) (quotable : Quotable buf size)
    (made : mkFnPacket config id buf size = some message) (faithful : Faithful config buf message) :
    FitsAlone buf := by
  have last := List.getLast?_eq_some_getLast lan
  rw [mkFnPacket_some config id _ buf size quotable.protocol last] at made
  cases made
  exact (quoted_same quotable config (id + 1) (config.lanAddr.getLast lan)).mp faithful.quoted

/-- The message always answers; its quote is faithful exactly when the checksum among the
quoted bytes fits them alone. -/
theorem quoted_iff (config : Config) (id : BitVec 16) (buf : Buffer) (size : Nat)
    (lan : config.lanAddr ≠ []) (quotable : Quotable buf size) (room : 56 ≤ buf.length) :
    (∃ message, mkFnPacket config id buf size = some message ∧ Faithful config buf message) ↔
      FitsAlone buf := by
  constructor
  · rintro ⟨message, made, faithful⟩
    exact faithful_fits lan quotable made faithful
  · intro fits
    have last := List.getLast?_eq_some_getLast lan
    have made := mkFnPacket_some config id _ buf size quotable.protocol last
    have sum := fnContent_headerSum quotable
      (front_length config (id + 1) (config.lanAddr.getLast lan) buf)
    have same : read16 (fnBuf config (id + 1) (config.lanAddr.getLast lan) buf size)
        (28 + ipSumOffset) = read16 (fnContent buf (fnQuote buf (fnSubhdr config
          (fnOuter (id + 1) (config.lanAddr.getLast lan) buf)))) (28 + ipSumOffset) := by
      rw [read16_eq_iff, Nat.add_assoc]
      exact ⟨getByte_message_quote config _ _ buf (by rw [ipSumOffset]; omega),
        getByte_message_quote config _ _ buf (by rw [ipSumOffset]; omega)⟩
    refine ⟨_, made, ?_, (quoted_same quotable config _ _).mpr fits, ?_⟩
    · exact message_answers config (id + 1) _ buf quotable.inBuffer room last
    · rw [same]
      exact sum

private def quotingConfig : Config :=
  { build := ⟨true, true, true, false⟩, optHostid := false, optNageteDf := false
    wanIfMtu := 1500, lanIfMtu := 1500, lanAddr := [0x0A0000FF, 0x0A000001]
    wanAddr := [0xC63364FF, 0xC6336407], icmpWanAddr := 0x076433C6 }

/-- A TCP segment from 10.0.0.2 to 203.0.113.5 in a buffer of 56 bytes. -/
private def quotedSegment : Buffer :=
  [69, 0, 0, 40, 0, 1, 64, 0, 64, 6, 244, 199, 10, 0, 0, 2, 203, 0, 113, 5,
    16, 1, 0, 80, 0, 0, 0, 1, 0, 0, 0, 0, 80, 16, 255, 255, 0, 0, 0, 0,
    0, 0, 0, 0, 0, 0, 0, 0, 0, 0, 0, 0, 0, 0, 0, 0]

theorem quoted_iff_segment :
    ∃ message, mkFnPacket quotingConfig 0 quotedSegment 40 = some message ∧
      Faithful quotingConfig quotedSegment message :=
  (quoted_iff quotingConfig 0 quotedSegment 40 (by decide)
    ⟨by decide, by decide, by decide, by decide, by decide, by decide⟩ (by decide)).mpr
    (.inl (by decide))

/-- A UDP datagram with four bytes of data and the checksum 0xA592. -/
private def quotedDatagram : Buffer :=
  [69, 0, 0, 32, 0, 1, 64, 0, 64, 17, 244, 196, 10, 0, 0, 2, 203, 0, 113, 5,
    16, 1, 0, 53, 0, 12, 165, 146, 1, 2, 3, 4, 0, 0, 0, 0, 0, 0, 0, 0,
    0, 0, 0, 0, 0, 0, 0, 0, 0, 0, 0, 0, 0, 0, 0, 0]

/-- The quote carries a checksum that leaves the data out. -/
theorem quoted_checksum_replaced :
    ¬∀ (config : Config) (id : BitVec 16) (buf : Buffer) (size : Nat), config.lanAddr ≠ [] →
      Quotable buf size → 56 ≤ buf.length →
      ∃ message, mkFnPacket config id buf size = some message ∧ Faithful config buf message := by
  intro claimed
  have quotable : Quotable quotedDatagram 32 :=
    ⟨by decide, by decide, by decide, by decide, by decide, by decide⟩
  obtain ⟨message, made, faithful⟩ :=
    claimed quotingConfig 0 quotedDatagram 32 (by decide) quotable (by decide)
  have fits := faithful_fits (by decide) quotable made faithful
  revert fits
  decide

end FragNeeded
end NatPorte
