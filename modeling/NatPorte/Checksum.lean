/-
Full and incremental checksums of alias.h.

`setChecksum` recomputes a transport checksum, `setDiffChecksum` adjusts the
stored one by the difference of two endpoints.  Both are translated with the
machine widths of the source; the comparison is carried out modulo 65535.
-/

import NatPorte.Library.OnesComplement
import NatPorte.Packet

namespace NatPorte
namespace Checksum

open ByteBuffer OnesComplement Structure Packet

/-- The preprocessor symbols that select code in the modelled functions. -/
structure Build where
  waitTimeDelete : Bool
  diffCksum : Bool
  ipChecksum : Bool
  optHostid : Bool
  deriving DecidableEq, Repr

/-- The loop over the words, with a 32-bit `sum`. -/
def checksumLoop : List Byte → Nat → Nat
  | [], sum => sum
  | [last], sum => (sum + last.toNat * 256) % 2 ^ 32
  | high :: low :: rest, sum => checksumLoop rest ((sum + (high.toNat * 256 + low.toNat)) % 2 ^ 32)

def checksum (bytes : List Byte) (adjust : Nat) : BitVec 16 :=
  let sum := (checksumLoop bytes 0 + adjust) % 2 ^ 32
  ~~~(BitVec.ofNat 16 (foldCarries 32 sum))

/-- Two bytes read one by one as a big-endian word. -/
def bigEndianWord (buf : Buffer) (offset : Nat) : Nat :=
  (getByte buf offset).toNat * 256 + (getByte buf (offset + 1)).toNat

/-- `size - (iphdr->ip_hl<<2)`, a `size_t`. -/
def segmentSize (buf : Buffer) (size : Nat) : Nat :=
  (size + 2 ^ 64 - headerLength buf) % 2 ^ 64

def pseudoSum (buf : Buffer) (size : Nat) : Nat :=
  (bigEndianWord buf 12 + bigEndianWord buf 14 + bigEndianWord buf 16 + bigEndianWord buf 18 +
    (ipP buf).toNat + segmentSize buf size) % 2 ^ 32

/-- Zero the checksum field at `offset`, sum the segment, store the result. -/
def refreshSum (buf : Buffer) (size offset adjust : Nat) : Buffer :=
  let cleared := write16 buf offset 0
  write16 cleared offset
    (swap16 (checksum (slice cleared (headerLength buf) (segmentSize buf size)) adjust))

def icmpCksumOffset : Nat := 2

def checksumTransport (buf : Buffer) (size : Nat) : Buffer :=
  if ipP buf = ipprotoTcp then
    refreshSum buf size (headerLength buf + thSumOffset) (pseudoSum buf size)
  else if ipP buf = ipprotoUdp then
    refreshSum buf size (headerLength buf + uhSumOffset) (pseudoSum buf size)
  else if ipP buf = ipprotoIcmp then
    refreshSum buf size (headerLength buf + icmpCksumOffset) 0
  else buf

def ipSumOffset : Nat := 10

/-- The header starts at `base`: the ICMP branches also refresh a quoted header. -/
def checksumIp (buf : Buffer) (base : Nat) : Buffer :=
  let length := (getByte buf base).toNat % 16 * 4
  let cleared := write16 buf (base + ipSumOffset) 0
  write16 cleared (base + ipSumOffset) (swap16 (checksum (slice cleared base length) 0))

def setChecksum (build : Build) (buf : Buffer) (size : Nat) : Buffer :=
  checksumTransport (if build.ipChecksum then checksumIp buf 0 else buf) size

/-- The 16-bit words of a 64-bit integer in memory order. -/
def word16 (field : BitVec 64) (index : Nat) : Nat :=
  field.toNat / 65536 ^ index % 65536

def diffAccumulate (orig aliased : BitVec 64) : Nat → Nat → Int → Int
  | _, 0, accumulate => accumulate
  | index, count + 1, accumulate =>
      diffAccumulate orig aliased (index + 1) count
        (accumulate - word16 aliased index + word16 orig index)

/-- One fold of the high half, then the carry of that fold. -/
def foldTwice (accumulate : Nat) : BitVec 16 :=
  let once := accumulate / 65536 + accumulate % 65536
  BitVec.ofNat 16 (once + once / 65536)

def diffChecksum (baseSum : BitVec 16) (orig aliased : BitVec 64) (word16Length : Nat) :
    BitVec 16 :=
  let accumulate := diffAccumulate orig aliased 0 word16Length baseSum.toNat
  if accumulate < 0 then ~~~(foldTwice (-accumulate).toNat) else foldTwice accumulate.toNat

def adjustSum (buf : Buffer) (offset : Nat) (orig aliased : BitVec 64) : Buffer :=
  write16 buf offset (diffChecksum (read16 buf offset) orig aliased 2)

/-- `orig += orig_port` in 64 bits. -/
def addPort (address : BitVec 64) (port : BitVec 16) : BitVec 64 :=
  address + port.zeroExtend 64

def adjustTransportSum (buf : Buffer) (orig aliased : BitVec 64) : Buffer :=
  if ipP buf = ipprotoTcp then adjustSum buf (headerLength buf + thSumOffset) orig aliased
  else if ipP buf = ipprotoUdp then adjustSum buf (headerLength buf + uhSumOffset) orig aliased
  else buf

def setDiffChecksum (build : Build) (buf : Buffer) (orig aliased : Endpoint) : Buffer :=
  let origIp : BitVec 64 := orig.ip.zeroExtend 64
  let aliasIp : BitVec 64 := aliased.ip.zeroExtend 64
  let buf := if build.ipChecksum then adjustSum buf ipSumOffset origIp aliasIp else buf
  adjustTransportSum buf (addPort origIp orig.port) (addPort aliasIp aliased.port)

theorem checksumLoop_eq (bytes : List Byte) (sum : Nat) (word : sum < 2 ^ 32) :
    checksumLoop bytes sum = (sum + wordSum bytes) % 2 ^ 32 := by
  induction bytes, sum using checksumLoop.induct with
  | case1 sum => rw [checksumLoop, wordSum, Nat.add_zero, Nat.mod_eq_of_lt word]
  | case2 last sum => rw [checksumLoop, wordSum]
  | case3 high low rest sum ih =>
      rw [checksumLoop, ih (Nat.mod_lt _ (by omega)), wordSum, Nat.mod_add_mod]
      congr 1
      omega

theorem checksumLoop_exact {bytes : List Byte} (noOverflow : wordSum bytes < 2 ^ 32) :
    checksumLoop bytes 0 = wordSum bytes := by
  rw [checksumLoop_eq bytes 0 (by omega), Nat.zero_add, Nat.mod_eq_of_lt noOverflow]

theorem checksum_toNat {bytes : List Byte} {adjust : Nat}
    (noOverflow : wordSum bytes + adjust < 2 ^ 32) :
    (checksum bytes adjust).toNat = 65535 - represent (wordSum bytes + adjust) := by
  have bound := represent_le (wordSum bytes + adjust)
  rw [checksum, checksumLoop_exact (by omega), Nat.mod_eq_of_lt noOverflow,
    foldCarries_eq (by omega) noOverflow, BitVec.toNat_not, BitVec.toNat_ofNat,
    Nat.mod_eq_of_lt (by omega)]

theorem checksum_residue (bytes : List Byte) (adjust : Nat)
    (noOverflow : wordSum bytes + adjust < 2 ^ 32) :
    ((checksum bytes adjust).toNat : Residue) = -(wordSum bytes + adjust : Nat) := by
  have unit : ((65535 : Nat) : Residue) = 0 := by decide
  rw [checksum_toNat noOverflow, Nat.cast_sub (represent_le _), represent_residue, unit, zero_sub]

theorem checksum_eq_zero (bytes : List Byte) (adjust : Nat)
    (noOverflow : wordSum bytes + adjust < 2 ^ 32) (positive : 0 < wordSum bytes + adjust) :
    checksum bytes adjust = 0 ↔ ((wordSum bytes + adjust : Nat) : Residue) = 0 := by
  have bound := represent_le (wordSum bytes + adjust)
  have nonzero := represent_eq_zero (wordSum bytes + adjust)
  rw [← represent_residue, residue_eq_zero bound, ← BitVec.toNat_inj, checksum_toNat noOverflow]
  change _ = 0 ↔ _
  omega

theorem checksum_eq_ones (bytes : List Byte) (adjust : Nat)
    (noOverflow : wordSum bytes + adjust < 2 ^ 32) :
    checksum bytes adjust = 0xFFFF ↔ wordSum bytes + adjust = 0 := by
  have bound := represent_le (wordSum bytes + adjust)
  rw [← represent_eq_zero, ← BitVec.toNat_inj, checksum_toNat noOverflow]
  change _ = 65535 ↔ _
  omega

theorem swap16_residue (field : BitVec 16) :
    ((swap16 field).toNat : Residue) = 256 * field.toNat := by
  have cast := congrArg (Nat.cast (R := Residue)) (Nat.div_add_mod field.toNat 256)
  rw [swap16_toNat]
  push_cast at cast ⊢
  linear_combination (256 : Residue) * cast - ((field.toNat / 256 : Nat) : Residue) * word_order

theorem swap16_eq_zero (field : BitVec 16) : swap16 field = 0 ↔ field = 0 := by
  rw [← BitVec.toNat_inj, ← BitVec.toNat_inj, swap16_toNat]
  change _ = 0 ↔ _ = 0
  omega

theorem swap16_eq_ones (field : BitVec 16) : swap16 field = 0xFFFF ↔ field = 0xFFFF := by
  rw [← BitVec.toNat_inj, ← BitVec.toNat_inj, swap16_toNat]
  change _ = 65535 ↔ _ = 65535
  omega

/-- Stored where the words were summed with a zero, the checksum fills the sum up. -/
theorem represent_stored {bytes : List Byte} {adjust offset : Nat}
    (noOverflow : wordSum bytes + adjust < 2 ^ 32) (even : offset % 2 = 0)
    (inside : offset + 2 ≤ bytes.length) (zeroed : load bytes offset 2 = 0) :
    represent (wordSum (write16 bytes offset (swap16 (checksum bytes adjust))) + adjust) =
      65535 := by
  have bigEndian : ∀ word, word ≤ 65535 →
      (word % 256 * 256 + word / 256) % 256 * 256 + (word % 256 * 256 + word / 256) / 256 % 256 =
        word := by
    intro word small
    have low : (word % 256 * 256 + word / 256) % 256 = word / 256 := by omega
    have high : (word % 256 * 256 + word / 256) / 256 % 256 = word % 256 := by omega
    omega
  have stored := wordSum_store even inside zeroed (swap16 (checksum bytes adjust)).toNat
  have bound := represent_le (wordSum bytes + adjust)
  have none := represent_eq_zero (wordSum bytes + adjust)
  obtain ⟨turns, split⟩ := represent_split (wordSum bytes + adjust)
  rw [write16, stored, swap16_toNat, checksum_toNat noOverflow, bigEndian _ (Nat.sub_le _ _)]
  exact @represent_unique _ _ turns (Nat.le_refl _) (by omega) (by omega)

/-- The one's-complement sum of the words and the adjustment. -/
def onesTotal (bytes : List Byte) (adjust : Nat) : Nat :=
  add ((words bytes).foldl add 0) (represent adjust)

theorem onesTotal_eq (bytes : List Byte) (adjust : Nat) :
    onesTotal bytes adjust = represent (wordSum bytes + adjust) := by
  have zero : represent 0 = 0 := represent_word (Nat.zero_le _)
  have folded := foldl_add (words_le bytes) 0
  rw [zero, Nat.zero_add, sum_words] at folded
  rw [onesTotal, folded, add_represent]

theorem checksum_eq {bytes : List Byte} {adjust : Nat}
    (noOverflow : wordSum bytes + adjust < 2 ^ 32) :
    checksum bytes adjust = ~~~(BitVec.ofNat 16 (onesTotal bytes adjust)) := by
  have bound := represent_le (wordSum bytes + adjust)
  apply BitVec.eq_of_toNat_eq
  rw [checksum_toNat noOverflow, onesTotal_eq, BitVec.toNat_not, BitVec.toNat_ofNat,
    Nat.mod_eq_of_lt (by omega)]

theorem onesTotal_eq_ones (bytes : List Byte) (adjust : Nat)
    (positive : 0 < wordSum bytes + adjust) :
    onesTotal bytes adjust = 0xFFFF ↔ ((wordSum bytes + adjust : Nat) : Residue) = 0 := by
  have bound := represent_le (wordSum bytes + adjust)
  have nonzero := represent_eq_zero (wordSum bytes + adjust)
  rw [← represent_residue, residue_eq_zero bound, onesTotal_eq]
  omega

/-- Zero the field at `offset`, sum `length` bytes from `start` on, store the result. -/
def refreshRange (buf : Buffer) (start length offset adjust : Nat) : Buffer :=
  let cleared := write16 buf offset 0
  write16 cleared offset (swap16 (checksum (slice cleared start length) adjust))

section RefreshRange

variable {buf : Buffer} {start length offset : Nat}

theorem segmentSize_of_le {size : Nat} (fits : headerLength buf ≤ size) (total : size < 2 ^ 64) :
    segmentSize buf size = size - headerLength buf := by
  rw [segmentSize]
  omega

theorem refreshSum_eq (size adjust : Nat) :
    refreshSum buf size offset adjust =
      refreshRange buf (headerLength buf) (segmentSize buf size) offset adjust := rfl

theorem checksumIp_eq (base : Nat) :
    checksumIp buf base =
      refreshRange buf base ((getByte buf base).toNat % 16 * 4) (base + ipSumOffset) 0 := rfl

@[simp] theorem length_refreshRange (adjust : Nat) :
    (refreshRange buf start length offset adjust).length = buf.length := by
  simp only [refreshRange, length_write16]

theorem getByte_refreshRange {position : Nat}
    (outside : position < offset ∨ offset + 2 ≤ position) (adjust : Nat) :
    getByte (refreshRange buf start length offset adjust) position = getByte buf position := by
  simp only [refreshRange, getByte_write16 outside]

theorem length_checksumTransport (size : Nat) :
    (checksumTransport buf size).length = buf.length := by
  unfold checksumTransport
  repeat' split
  · rw [refreshSum_eq, length_refreshRange]
  · rw [refreshSum_eq, length_refreshRange]
  · rw [refreshSum_eq, length_refreshRange]
  · rfl

theorem slice_refreshRange_other {first count : Nat} (inBuffer : first + count ≤ buf.length)
    (apart : first + count ≤ offset ∨ offset + 2 ≤ first) (adjust : Nat) :
    slice (refreshRange buf start length offset adjust) first count = slice buf first count := by
  apply slice_congr inBuffer (by rw [length_refreshRange]; exact inBuffer)
  intro position inside
  exact getByte_refreshRange (by omega) adjust

theorem onesTotal_refreshRange {adjust : Nat} (inBuffer : start + length ≤ buf.length)
    (after : start ≤ offset) (inside : offset + 2 ≤ start + length)
    (even : (offset - start) % 2 = 0) (total : length < 2 ^ 16) (small : adjust < 2 ^ 31) :
    onesTotal (slice (refreshRange buf start length offset adjust) start length) adjust =
      0xFFFF := by
  have lengthCleared : (slice (write16 buf offset 0) start length).length = length := by
    rw [length_slice, length_write16]
    omega
  have segment : slice (refreshRange buf start length offset adjust) start length =
      write16 (slice (write16 buf offset 0) start length) (offset - start)
        (swap16 (checksum (slice (write16 buf offset 0) start length) adjust)) :=
    slice_store_inside after _ _
  have empty : load (slice (write16 buf offset 0) start length) (offset - start) 2 = 0 := by
    rw [load_slice (by omega), Nat.add_sub_cancel' after, write16, load_store_self (by omega)]
    rfl
  have clearedBound := wordSum_le (slice (write16 buf offset 0) start length)
  rw [lengthCleared] at clearedBound
  rw [segment, onesTotal_eq]
  exact represent_stored (by omega) even (by omega) empty

end RefreshRange

/-! ### The incremental adjustment modulo 65535 -/

private theorem foldTwice_residue {accumulate : Nat} (word : accumulate < 2 ^ 32) :
    ((foldTwice accumulate).toNat : Residue) = accumulate := by
  have carry : (65536 : Residue) = 1 := by decide
  have whole : accumulate / 65536 + accumulate % 65536 +
      (accumulate / 65536 + accumulate % 65536) / 65536 =
      (foldTwice accumulate).toNat +
        65536 * ((accumulate / 65536 + accumulate % 65536) / 65536) := by
    rw [foldTwice, BitVec.toNat_ofNat]
    omega
  have split : accumulate = 65536 * (accumulate / 65536) + accumulate % 65536 :=
    (Nat.div_add_mod accumulate 65536).symm
  generalize accumulate / 65536 = high at whole split
  generalize accumulate % 65536 = low at whole split
  generalize (high + low) / 65536 = again at whole
  have first := congrArg (Nat.cast (R := Residue)) whole
  have second := congrArg (Nat.cast (R := Residue)) split
  push_cast at first second
  linear_combination -first - second + (-again - high : Residue) * carry

private theorem two_words_residue (field : BitVec 64) :
    (word16 field 0 + word16 field 1 : Residue) = (field.toNat % 2 ^ 32 : Nat) := by
  have carry : (65536 : Residue) = 1 := by decide
  have split : field.toNat % 2 ^ 32 = word16 field 0 + 65536 * word16 field 1 := by
    rw [word16, word16]
    omega
  rw [split]
  push_cast
  linear_combination -(word16 field 1 : Residue) * carry

/-- The sum of the first `count` words. -/
def wordsSum (field : BitVec 64) (count : Nat) : Nat := ((List.range count).map (word16 field)).sum

theorem word16_lt (field : BitVec 64) (index : Nat) : word16 field index < 65536 :=
  Nat.mod_lt _ (by omega)

theorem wordsSum_succ (field : BitVec 64) (count : Nat) :
    wordsSum field (count + 1) = wordsSum field count + word16 field count := by
  rw [wordsSum, List.range_succ, List.map_append, List.sum_append, List.map_singleton,
    List.sum_singleton, wordsSum]

theorem wordsSum_le (field : BitVec 64) (count : Nat) : wordsSum field count ≤ 65535 * count := by
  induction count with
  | zero => exact Nat.zero_le _
  | succ count ih =>
      have word := word16_lt field count
      rw [wordsSum_succ]
      omega

/-- The loop from `index` on, where the words before it have been dealt with. -/
theorem diffAccumulate_eq (orig aliased : BitVec 64) (start : Int) (index count : Nat) :
    diffAccumulate orig aliased index count
        (start + wordsSum orig index - wordsSum aliased index) =
      start + wordsSum orig (index + count) - wordsSum aliased (index + count) := by
  induction count generalizing index with
  | zero => rfl
  | succ count ih =>
      have later := ih (index + 1)
      have next : start + wordsSum orig index - wordsSum aliased index -
            word16 aliased index + word16 orig index =
          start + wordsSum orig (index + 1) - wordsSum aliased (index + 1) := by
        rw [wordsSum_succ, wordsSum_succ]
        omega
      have position : index + 1 + count = index + (count + 1) := by omega
      rw [diffAccumulate, next, later, position]

theorem diffAccumulate_zero (orig aliased : BitVec 64) (start : Int) (count : Nat) :
    diffAccumulate orig aliased 0 count start =
      start + wordsSum orig count - wordsSum aliased count := by
  have whole := diffAccumulate_eq orig aliased start 0 count
  have none : ∀ field, wordsSum field 0 = 0 := fun _ => rfl
  rw [none, none, Nat.zero_add, Int.natCast_zero, Int.add_zero, Int.sub_zero] at whole
  exact whole

theorem diffChecksum_words (baseSum : BitVec 16) (orig aliased : BitVec 64) {count : Nat}
    (short : count ≤ 4) :
    ((diffChecksum baseSum orig aliased count).toNat : Residue) =
      baseSum.toNat + wordsSum orig count - wordsSum aliased count := by
  have baseBound := baseSum.isLt
  have gained := wordsSum_le orig count
  have lost := wordsSum_le aliased count
  rw [diffChecksum, diffAccumulate_zero]
  generalize wordsSum orig count = origSum at *
  generalize wordsSum aliased count = aliasSum at *
  split
  · next negative =>
      have exact_magnitude : (-((baseSum.toNat : Int) + origSum - aliasSum)).toNat +
          (baseSum.toNat + origSum) = aliasSum := by omega
      generalize (-((baseSum.toNat : Int) + origSum - aliasSum)).toNat = magnitude
        at exact_magnitude ⊢
      have folded : ((foldTwice magnitude).toNat : Residue) = magnitude :=
        foldTwice_residue (by omega)
      have cast := congrArg (Nat.cast (R := Residue)) exact_magnitude
      have unit : ((2 ^ 16 - 1 : Nat) : Residue) = 0 := by decide
      rw [BitVec.toNat_not, Nat.cast_sub (by omega), unit, folded]
      push_cast at cast
      linear_combination -cast
  · next positive =>
      have exact_magnitude : ((baseSum.toNat : Int) + origSum - aliasSum).toNat + aliasSum =
          baseSum.toNat + origSum := by omega
      generalize ((baseSum.toNat : Int) + origSum - aliasSum).toNat = magnitude
        at exact_magnitude ⊢
      have folded : ((foldTwice magnitude).toNat : Residue) = magnitude :=
        foldTwice_residue (by omega)
      have cast := congrArg (Nat.cast (R := Residue)) exact_magnitude
      rw [folded]
      push_cast at cast
      linear_combination cast

theorem diffChecksum_residue (baseSum : BitVec 16) (orig aliased : BitVec 64) :
    ((diffChecksum baseSum orig aliased 2).toNat : Residue) =
      baseSum.toNat + (orig.toNat % 2 ^ 32 : Nat) - (aliased.toNat % 2 ^ 32 : Nat) := by
  have two : ∀ field, (wordsSum field 2 : Residue) = (field.toNat % 2 ^ 32 : Nat) := by
    intro field
    rw [← two_words_residue field, wordsSum_succ, wordsSum_succ]
    push_cast
    rw [wordsSum, List.range_zero, List.map_nil, List.sum_nil, Nat.cast_zero, zero_add]
  rw [diffChecksum_words baseSum orig aliased (by omega), two, two]

/-! ### Packets with a transport header -/

/-- Version 4, at least the fixed header, the transport header inside `size`. -/
structure TransportPacket (buf : Buffer) (size : Nat) : Prop where
  version : ipV buf = 4
  header : 5 ≤ ipHl buf
  transport : (ipP buf = ipprotoTcp ∧ headerLength buf + 20 ≤ size) ∨
    (ipP buf = ipprotoUdp ∧ headerLength buf + 8 ≤ size)
  inBuffer : size ≤ buf.length

/-- The place of `th_sum` or `uh_sum`. -/
def transportSumAt (buf : Buffer) : Nat :=
  headerLength buf + if ipP buf = ipprotoTcp then thSumOffset else uhSumOffset

def transportSum (buf : Buffer) : BitVec 16 := read16 buf (transportSumAt buf)

/-- The receiver's test of the transport checksum. -/
def Verifies (buf : Buffer) (size : Nat) : Prop :=
  onesTotal (slice buf (headerLength buf) (segmentSize buf size)) (pseudoSum buf size) = 0xFFFF

instance (buf : Buffer) (size : Nat) : Decidable (Verifies buf size) :=
  inferInstanceAs (Decidable (_ = _))

/-- Equal, or the two one's-complement zeros. -/
def SameUpToZero (left right : BitVec 16) : Prop :=
  left = right ∨ (left = 0 ∧ right = 0xFFFF) ∨ (left = 0xFFFF ∧ right = 0)

instance (left right : BitVec 16) : Decidable (SameUpToZero left right) :=
  inferInstanceAs (Decidable (_ ∨ _))

/-- What the transport checksum covers, modulo 65535. -/
def coveredSum (buf : Buffer) (size : Nat) : Residue :=
  256 * (value (slice buf (headerLength buf) (size - headerLength buf)) +
    load buf 12 4 + load buf 16 4) + ((ipP buf).toNat + (size - headerLength buf : Nat))

theorem sameUpToZero_iff (left right : BitVec 16) :
    SameUpToZero left right ↔ (left.toNat : Residue) = right.toNat := by
  have leftBound := left.isLt
  have rightBound := right.isLt
  have zero : left = 0 ↔ left.toNat = 0 := BitVec.toNat_inj.symm
  have ones : left = 0xFFFF ↔ left.toNat = 65535 := BitVec.toNat_inj.symm
  have zero' : right = 0 ↔ right.toNat = 0 := BitVec.toNat_inj.symm
  have ones' : right = 0xFFFF ↔ right.toNat = 65535 := BitVec.toNat_inj.symm
  rw [SameUpToZero, zero, ones, zero', ones', ← BitVec.toNat_inj, ZMod.natCast_eq_natCast_iff']
  omega

section RefreshAgain

variable {buf : Buffer} {start length offset : Nat}

theorem read16_refreshRange (inBuffer : offset + 2 ≤ buf.length) (adjust : Nat) :
    read16 (refreshRange buf start length offset adjust) offset =
      swap16 (checksum (slice (write16 buf offset 0) start length) adjust) := by
  unfold refreshRange
  exact read16_write16 (by rw [length_write16]; exact inBuffer) _

theorem read16_refreshRange_congr {buf' : Buffer} {start' inner : Nat}
    (inBuffer : start + inner + 2 ≤ buf.length) (inBuffer' : start' + inner + 2 ≤ buf'.length)
    (same : slice buf' start' length = slice buf start length) (adjust : Nat) :
    read16 (refreshRange buf' start' length (start' + inner) adjust) (start' + inner) =
      read16 (refreshRange buf start length (start + inner) adjust) (start + inner) := by
  have cleared : slice (write16 buf' (start' + inner) 0) start' length =
      slice (write16 buf (start + inner) 0) start length := by
    unfold write16
    rw [slice_store_inside (by omega), slice_store_inside (by omega), same, Nat.add_sub_cancel_left,
      Nat.add_sub_cancel_left]
  rw [read16_refreshRange inBuffer', read16_refreshRange inBuffer, cleared]

private theorem write16_missing (inBuffer : offset + 2 ≤ buf.length)
    (zero : read16 buf offset = 0) : write16 buf offset 0 = buf := by
  have loaded : load buf offset 2 = 0 := by
    rw [← read16_toNat, zero]
    rfl
  have stored := store_load inBuffer
  rw [loaded] at stored
  exact stored

/-- The stored checksum is the old one, up to the two zeros, exactly when the old one
was right. -/
theorem refreshRange_sameUpToZero {adjust : Nat} (inBuffer : start + length ≤ buf.length)
    (after : start ≤ offset) (inside : offset + 2 ≤ start + length)
    (even : (offset - start) % 2 = 0) (total : length < 2 ^ 16) (small : adjust < 2 ^ 31)
    (positive : 0 < wordSum (slice buf start length) + adjust) :
    SameUpToZero (read16 (refreshRange buf start length offset adjust) offset)
        (read16 buf offset) ↔
      onesTotal (slice buf start length) adjust = 0xFFFF := by
  have lengthSlice : (slice buf start length).length = length := by
    rw [length_slice]
    omega
  have cleared : slice (write16 buf offset 0) start length =
      store (slice buf start length) (offset - start) 2 0 := slice_store_inside after _ _
  have loaded : load (slice buf start length) (offset - start) 2 = (read16 buf offset).toNat := by
    rw [load_slice (by omega), Nat.add_sub_cancel' after, read16_toNat]
  have stored := @value_store_residue (slice buf start length) (offset - start) 2 even
    (by omega) 0 (by decide)
  rw [← cleared, loaded, Nat.cast_zero, add_zero] at stored
  have clearedBound := wordSum_le (slice (write16 buf offset 0) start length)
  have sliceBound := wordSum_le (slice buf start length)
  rw [length_slice, length_write16] at clearedBound
  rw [lengthSlice] at sliceBound
  have sum := checksum_residue (slice (write16 buf offset 0) start length) adjust (by omega)
  rw [read16_refreshRange (by omega), sameUpToZero_iff, swap16_residue, sum,
    onesTotal_eq_ones _ _ positive, Nat.cast_add, Nat.cast_add, wordSum_residue,
    wordSum_residue, stored]
  constructor
  · intro same
    linear_combination (-256 : Residue) * same +
      (-(256 : Residue) * (value (slice buf start length) - (read16 buf offset).toNat) - adjust) *
        word_order
  · intro verifies
    linear_combination (-256 : Residue) * verifies + (read16 buf offset).toNat * word_order

theorem refreshRange_kept {adjust : Nat} (inBuffer : start + length ≤ buf.length)
    (after : start ≤ offset) (inside : offset + 2 ≤ start + length)
    (even : (offset - start) % 2 = 0) (total : length < 2 ^ 16) (small : adjust < 2 ^ 31) :
    read16 (refreshRange buf start length offset adjust) offset = read16 buf offset ↔
      onesTotal (slice buf start length) adjust = 0xFFFF ∧
        (read16 buf offset = 0xFFFF →
          wordSum (slice (write16 buf offset 0) start length) + adjust = 0) := by
  have clearedBound := wordSum_le (slice (write16 buf offset 0) start length)
  have sliceBound := wordSum_le (slice buf start length)
  rw [length_slice, length_write16] at clearedBound
  rw [length_slice] at sliceBound
  have ones : read16 (refreshRange buf start length offset adjust) offset = 0xFFFF ↔
      wordSum (slice (write16 buf offset 0) start length) + adjust = 0 := by
    rw [read16_refreshRange (by omega), ← checksum_eq_ones _ _ (by omega)]
    exact swap16_eq_ones _
  by_cases positive : 0 < wordSum (slice buf start length) + adjust
  · have again := refreshRange_sameUpToZero inBuffer after inside even total small positive
    rw [← again, ← ones]
    constructor
    · intro same
      rw [same]
      exact ⟨.inl rfl, id⟩
    · rintro ⟨same | ⟨zero, allOnes⟩ | ⟨allOnes, zero⟩, present⟩
      · exact same
      · rw [present allOnes, allOnes]
      · have words := ones.mp allOnes
        rw [write16_missing (by omega) zero] at words
        omega
  · have nothing : wordSum (slice buf start length) + adjust = 0 := by omega
    have refused : onesTotal (slice buf start length) adjust ≠ 0xFFFF := by
      rw [onesTotal_eq, nothing]
      decide
    have bytes : ∀ index, getByte (slice buf start length) index = 0 := by
      intro index
      apply Decidable.byContradiction
      intro nonzero
      have words := wordSum_pos nonzero
      omega
    have zero : read16 buf offset = 0 := by
      have low := bytes (offset - start)
      have high := bytes (offset - start + 1)
      rw [getByte_slice (by omega)] at low high
      rw [Nat.add_sub_cancel' after] at low
      rw [← Nat.add_assoc, Nat.add_sub_cancel' after] at high
      unfold read16
      rw [load, load, low, high]
      rfl
    have computed : read16 (refreshRange buf start length offset adjust) offset = 0xFFFF := by
      rw [ones, write16_missing (by omega) zero]
      exact nothing
    rw [computed, zero]
    constructor
    · intro same
      cases same
    · intro verified
      exact absurd verified.1 refused

end RefreshAgain

namespace TransportPacket

variable {buf : Buffer} {size : Nat}

theorem headerLength_ge (packet : TransportPacket buf size) : 20 ≤ headerLength buf := by
  have header := packet.header
  rw [headerLength]
  omega

theorem headerLength_le (packet : TransportPacket buf size) : headerLength buf + 8 ≤ size := by
  rcases packet.transport with ⟨-, inside⟩ | ⟨-, inside⟩ <;> omega

theorem headerLength_even (buf : Buffer) : headerLength buf % 2 = 0 := by
  rw [headerLength]
  omega

theorem sum_inside (packet : TransportPacket buf size) :
    headerLength buf + 6 ≤ transportSumAt buf ∧ transportSumAt buf + 2 ≤ size := by
  rw [transportSumAt]
  rcases packet.transport with ⟨tcp, inside⟩ | ⟨udp, inside⟩
  · rw [if_pos tcp, thSumOffset]
    omega
  · rw [if_neg (by rw [udp]; decide), uhSumOffset]
    omega

theorem congr {buf' : Buffer} (packet : TransportPacket buf size)
    (first : getByte buf' 0 = getByte buf 0) (protocol : getByte buf' 9 = getByte buf 9)
    (length : buf'.length = buf.length) : TransportPacket buf' size where
  version := by
    rw [ipV, first]
    exact packet.version
  header := by
    rw [ipHl, first]
    exact packet.header
  transport := by
    rw [ipP, protocol, headerLength_congr first]
    exact packet.transport
  inBuffer := by
    rw [length]
    exact packet.inBuffer

theorem write16 (packet : TransportPacket buf size) {offset : Nat} (after : 10 ≤ offset)
    (field : BitVec 16) : TransportPacket (write16 buf offset field) size :=
  packet.congr (getByte_write16 (by omega) field) (getByte_write16 (by omega) field)
    (length_write16 field)

theorem write32 (packet : TransportPacket buf size) {offset : Nat} (after : 10 ≤ offset)
    (field : BitVec 32) : TransportPacket (write32 buf offset field) size :=
  packet.congr (getByte_write32 (by omega) field) (getByte_write32 (by omega) field)
    (length_write32 field)

theorem segmentSize_eq (packet : TransportPacket buf size) (total : size < 2 ^ 17) :
    segmentSize buf size = size - headerLength buf := by
  have inside := packet.headerLength_le
  exact segmentSize_of_le (by omega) (by omega)

theorem size_ge (packet : TransportPacket buf size) : 20 ≤ size := by
  have header := packet.headerLength_ge
  have inside := packet.headerLength_le
  omega

end TransportPacket

section Covered

variable {buf : Buffer} {size : Nat}

private theorem two_bigEndianWords (buf : Buffer) (offset : Nat) :
    (bigEndianWord buf offset + bigEndianWord buf (offset + 2) : Nat) =
      (256 * load buf offset 4 : Residue) := by
  simp only [bigEndianWord, load, Nat.mul_zero, Nat.add_zero]
  push_cast
  have carry := word_order
  linear_combination (-((getByte buf (offset + 1)).toNat : Residue) -
    256 * (getByte buf (offset + 2)).toNat -
    (getByte buf (offset + 3)).toNat * (1 + 256 * 256)) * carry

private theorem pseudoSum_residue (packet : TransportPacket buf size) (total : size < 2 ^ 17) :
    0 < pseudoSum buf size ∧ pseudoSum buf size < 2 ^ 19 ∧
      (pseudoSum buf size : Residue) = 256 * (load buf 12 4 + load buf 16 4) +
        ((ipP buf).toNat + (size - headerLength buf : Nat)) := by
  have wordBound : ∀ offset, bigEndianWord buf offset < 65536 := by
    intro offset
    have high := (getByte buf offset).isLt
    have low := (getByte buf (offset + 1)).isLt
    rw [bigEndianWord]
    omega
  have inside := packet.headerLength_le
  have protocol : 0 < (ipP buf).toNat := by
    rcases packet.transport with ⟨found, -⟩ | ⟨found, -⟩ <;> rw [found] <;> decide
  have protocolBound := (ipP buf).isLt
  have b12 := wordBound 12
  have b14 := wordBound 14
  have b16 := wordBound 16
  have b18 := wordBound 18
  have source := two_bigEndianWords buf 12
  have destination := two_bigEndianWords buf 16
  rw [pseudoSum, packet.segmentSize_eq total, Nat.mod_eq_of_lt (by omega)]
  refine ⟨by omega, by omega, ?_⟩
  push_cast at source destination ⊢
  linear_combination source + destination

theorem verifies_iff (packet : TransportPacket buf size) (total : size < 2 ^ 17) :
    Verifies buf size ↔ coveredSum buf size = 0 := by
  obtain ⟨positive, small, pseudo⟩ := pseudoSum_residue packet total
  have words := wordSum_le (slice buf (headerLength buf) (size - headerLength buf))
  have header := packet.headerLength_ge
  have length : (slice buf (headerLength buf) (size - headerLength buf)).length + 20 < 2 ^ 17 := by
    rw [length_slice]
    omega
  have residue := wordSum_residue (slice buf (headerLength buf) (size - headerLength buf))
  rw [Verifies, packet.segmentSize_eq total,
    onesTotal_eq_ones _ _ (Nat.add_pos_right _ positive), coveredSum, Nat.cast_add, residue,
    pseudo]
  refine iff_of_eq (congrArg (fun sum : Residue => sum = 0) ?_)
  ring

theorem coveredSum_write16 (packet : TransportPacket buf size) {offset : Nat}
    (even : offset % 2 = 0) (after : headerLength buf ≤ offset) (inside : offset + 2 ≤ size)
    (field : BitVec 16) :
    coveredSum (write16 buf offset field) size =
      coveredSum buf size + 256 * (field.toNat - (read16 buf offset).toNat : Residue) := by
  have header := packet.headerLength_ge
  have sameHeader : headerLength (write16 buf offset field) = headerLength buf :=
    headerLength_congr (getByte_write16 (by omega) field)
  have sameProtocol : ipP (write16 buf offset field) = ipP buf :=
    getByte_write16 (by omega) field
  have sameSource : load (write16 buf offset field) 12 4 = load buf 12 4 :=
    load_store_other (by omega) _
  have sameDestination : load (write16 buf offset field) 16 4 = load buf 16 4 :=
    load_store_other (by omega) _
  have segment : slice (write16 buf offset field) (headerLength buf) (size - headerLength buf) =
      store (slice buf (headerLength buf) (size - headerLength buf)) (offset - headerLength buf) 2
        field.toNat := slice_store_inside after _ _
  have fits : offset - headerLength buf + 2 ≤
      (slice buf (headerLength buf) (size - headerLength buf)).length := by
    have inBuffer := packet.inBuffer
    rw [length_slice]
    omega
  have evenOffset : (offset - headerLength buf) % 2 = 0 := by
    have evenHeader := TransportPacket.headerLength_even buf
    omega
  have stored := value_store_residue evenOffset fits field.isLt
  rw [load_slice (by omega), Nat.add_sub_cancel' after, ← read16_toNat] at stored
  rw [coveredSum, coveredSum, sameHeader, sameProtocol, sameSource, sameDestination, segment, stored]
  ring

theorem coveredSum_write32 (packet : TransportPacket buf size) (which : End) (field : BitVec 32) :
    coveredSum (write32 buf which.addressOffset field) size = coveredSum buf size +
      256 * (field.toNat - (read32 buf which.addressOffset).toNat : Residue) := by
  have header := packet.headerLength_ge
  have inside := packet.headerLength_le
  have inBuffer := packet.inBuffer
  have range : 12 ≤ which.addressOffset ∧ which.addressOffset + 4 ≤ 20 := by
    cases which <;> decide
  have sameHeader : headerLength (write32 buf which.addressOffset field) = headerLength buf :=
    headerLength_congr (getByte_write32 (by omega) field)
  have sameProtocol : ipP (write32 buf which.addressOffset field) = ipP buf :=
    getByte_write32 (by omega) field
  have segment : slice (write32 buf which.addressOffset field) (headerLength buf)
      (size - headerLength buf) = slice buf (headerLength buf) (size - headerLength buf) :=
    slice_store_before (by omega) _ _
  have written : load (write32 buf which.addressOffset field) which.addressOffset 4 =
      field.toNat := by
    rw [write32, load_store_self (by omega)]
    exact Nat.mod_eq_of_lt field.isLt
  rw [coveredSum, coveredSum, sameHeader, sameProtocol, segment, read32_toNat]
  cases which with
  | source =>
      have other : load (write32 buf 12 field) 16 4 = load buf 16 4 :=
        load_store_other (by omega) _
      simp only [End.addressOffset] at written ⊢
      rw [written, other]
      ring
  | destination =>
      have other : load (write32 buf 16 field) 12 4 = load buf 12 4 :=
        load_store_other (by omega) _
      simp only [End.addressOffset] at written ⊢
      rw [written, other]
      ring

theorem coveredSum_ipSum (packet : TransportPacket buf size) (field : BitVec 16) :
    coveredSum (write16 buf ipSumOffset field) size = coveredSum buf size := by
  have header := packet.headerLength_ge
  have sameHeader : headerLength (write16 buf ipSumOffset field) = headerLength buf :=
    headerLength_congr (getByte_write16 (by decide) field)
  have sameProtocol : ipP (write16 buf ipSumOffset field) = ipP buf :=
    getByte_write16 (by decide) field
  have sameSource : load (write16 buf ipSumOffset field) 12 4 = load buf 12 4 :=
    load_store_other (by decide) _
  have sameDestination : load (write16 buf ipSumOffset field) 16 4 = load buf 16 4 :=
    load_store_other (by decide) _
  have segment : slice (write16 buf ipSumOffset field) (headerLength buf)
      (size - headerLength buf) = slice buf (headerLength buf) (size - headerLength buf) := by
    refine slice_store_before ?_ _ _
    rw [ipSumOffset]
    omega
  rw [coveredSum, coveredSum, sameHeader, sameProtocol, sameSource, sameDestination, segment]

end Covered

section Writes

variable {buf : Buffer} {size : Nat}

def InField (offset : Nat) (position : Nat) : Prop :=
  offset ≤ position ∧ position < offset + 2

instance (offset position : Nat) : Decidable (InField offset position) :=
  inferInstanceAs (Decidable (_ ∧ _))

/-- `after` differs from `before` in the two checksum fields at most. -/
structure OnlySums (before after : Buffer) : Prop where
  length : after.length = before.length
  frame : ∀ position, ¬InField ipSumOffset position → ¬InField (transportSumAt before) position →
    getByte after position = getByte before position

theorem transportSumAt_congr {buf' : Buffer} (first : getByte buf' 0 = getByte buf 0)
    (protocol : getByte buf' 9 = getByte buf 9) : transportSumAt buf' = transportSumAt buf := by
  rw [transportSumAt, transportSumAt, headerLength_congr first, ipP, ipP, protocol]

namespace OnlySums

theorem samePlace {after : Buffer} (packet : TransportPacket buf size)
    (only : OnlySums buf after) : transportSumAt after = transportSumAt buf := by
  have inside := packet.sum_inside
  have header := packet.headerLength_ge
  refine transportSumAt_congr (only.frame 0 ?_ ?_) (only.frame 9 ?_ ?_) <;>
    simp only [InField, ipSumOffset] <;> omega

theorem trans {middle after : Buffer} (packet : TransportPacket buf size)
    (left : OnlySums buf middle) (right : OnlySums middle after) : OnlySums buf after where
  length := right.length.trans left.length
  frame position notIp notTransport := by
    have place := left.samePlace packet
    rw [right.frame position notIp (by rw [place]; exact notTransport),
      left.frame position notIp notTransport]

theorem ipSum (buf : Buffer) (field : BitVec 16) : OnlySums buf (write16 buf ipSumOffset field) where
  length := length_write16 field
  frame position notIp _ := by
    refine getByte_write16 ?_ field
    rw [InField] at notIp
    omega

theorem transportSum (buf : Buffer) (field : BitVec 16) :
    OnlySums buf (write16 buf (transportSumAt buf) field) where
  length := length_write16 field
  frame position _ notTransport := by
    refine getByte_write16 ?_ field
    rw [InField] at notTransport
    omega

theorem packet {after : Buffer} (packet : TransportPacket buf size)
    (only : OnlySums buf after) : TransportPacket after size := by
  have inside := packet.sum_inside
  have header := packet.headerLength_ge
  refine packet.congr (only.frame 0 ?_ ?_) (only.frame 9 ?_ ?_) only.length <;>
    simp only [InField, ipSumOffset] <;> omega

end OnlySums

theorem checksumTransport_eq (packet : TransportPacket buf size) :
    checksumTransport buf size =
      refreshSum buf size (transportSumAt buf) (pseudoSum buf size) := by
  rw [Checksum.checksumTransport, transportSumAt]
  split
  · rfl
  · next notTcp =>
      rw [if_pos (packet.transport.resolve_left (fun tcp => notTcp tcp.1)).1]

theorem adjustTransportSum_eq (packet : TransportPacket buf size) (orig aliased : BitVec 64) :
    adjustTransportSum buf orig aliased = adjustSum buf (transportSumAt buf) orig aliased := by
  rw [adjustTransportSum, transportSumAt]
  split
  · rfl
  · next notTcp =>
      rw [if_pos (packet.transport.resolve_left (fun tcp => notTcp tcp.1)).1]

theorem checksumTransport_only (packet : TransportPacket buf size) :
    OnlySums buf (checksumTransport buf size) := by
  have cleared := OnlySums.transportSum buf 0
  rw [checksumTransport_eq packet, refreshSum]
  refine cleared.trans packet ?_
  have again := OnlySums.transportSum (write16 buf (transportSumAt buf) 0)
  rw [cleared.samePlace packet] at again
  exact again _

theorem setChecksum_only (build : Build) (packet : TransportPacket buf size) :
    OnlySums buf (setChecksum build buf size) := by
  rw [setChecksum]
  split
  · have refreshed : OnlySums buf (checksumIp buf 0) := by
      simp only [checksumIp, Nat.zero_add]
      exact (OnlySums.ipSum buf 0).trans packet (OnlySums.ipSum _ _)
    exact refreshed.trans packet (checksumTransport_only (refreshed.packet packet))
  · exact checksumTransport_only packet

theorem setDiffChecksum_only (build : Build) (packet : TransportPacket buf size)
    (orig aliased : Endpoint) : OnlySums buf (setDiffChecksum build buf orig aliased) := by
  simp only [setDiffChecksum]
  split
  · have summed := OnlySums.ipSum buf
      (diffChecksum (read16 buf ipSumOffset) (orig.ip.zeroExtend 64) (aliased.ip.zeroExtend 64) 2)
    rw [adjustSum, adjustTransportSum_eq (summed.packet packet)]
    exact summed.trans packet (OnlySums.transportSum _ _)
  · rw [adjustTransportSum_eq packet]
    exact OnlySums.transportSum buf _

end Writes

/-- The raw sum that `set_diff_checksum` forms leaves the low 32 bits. -/
def Carries (endpoint : Endpoint) : Prop :=
  2 ^ 32 ≤ endpoint.ip.toNat + endpoint.port.toNat

instance (endpoint : Endpoint) : Decidable (Carries endpoint) :=
  inferInstanceAs (Decidable (_ ≤ _))

private theorem addPort_residue (endpoint : Endpoint) :
    (((addPort (endpoint.ip.zeroExtend 64) endpoint.port).toNat % 2 ^ 32 : Nat) : Residue) =
      endpoint.ip.toNat + endpoint.port.toNat - if Carries endpoint then 1 else 0 := by
  have ipBound := endpoint.ip.isLt
  have portBound := endpoint.port.isLt
  have unit : ((2 ^ 32 : Nat) : Residue) = 1 := by decide
  have sum : (addPort (endpoint.ip.zeroExtend 64) endpoint.port).toNat =
      endpoint.ip.toNat + endpoint.port.toNat := by
    rw [addPort, BitVec.toNat_add, BitVec.toNat_setWidth, BitVec.toNat_setWidth]
    omega
  rw [sum]
  split
  · next carries =>
      have low : (endpoint.ip.toNat + endpoint.port.toNat) % 2 ^ 32 + 2 ^ 32 =
          endpoint.ip.toNat + endpoint.port.toNat := by
        rw [Carries] at carries
        omega
      have cast := congrArg (Nat.cast (R := Residue)) low
      rw [Nat.cast_add, unit] at cast
      push_cast at cast ⊢
      linear_combination cast
  · next fits =>
      have low : (endpoint.ip.toNat + endpoint.port.toNat) % 2 ^ 32 =
          endpoint.ip.toNat + endpoint.port.toNat := by
        rw [Carries] at fits
        omega
      rw [low, Nat.cast_add, sub_zero]

section Rewrite

variable {buf : Buffer} {size : Nat}

theorem TransportPacket.setEndpoint (packet : TransportPacket buf size) (which : End)
    (new : Endpoint) : TransportPacket (setEndpoint buf which new) size := by
  have addresses : 10 ≤ which.addressOffset := by cases which <;> decide
  have header := (packet.write32 addresses new.ip).headerLength_ge
  exact (packet.write32 addresses new.ip).write16 (by omega) new.port

theorem coveredSum_setEndpoint (packet : TransportPacket buf size) (which : End)
    (new : Endpoint) :
    coveredSum (setEndpoint buf which new) size = coveredSum buf size +
      256 * ((new.ip.toNat + new.port.toNat) -
        ((endpoint buf which).ip.toNat + (endpoint buf which).port.toNat) : Residue) := by
  have addresses : 10 ≤ which.addressOffset ∧ which.addressOffset + 4 ≤ 20 := by
    cases which <;> decide
  have ports : which.portOffset % 2 = 0 ∧ which.portOffset ≤ 2 := by cases which <;> decide
  have addressed := packet.write32 addresses.1 new.ip
  have header := packet.headerLength_ge
  have inside := packet.headerLength_le
  have sameHeader : headerLength (write32 buf which.addressOffset new.ip) = headerLength buf :=
    headerLength_congr (getByte_write32 (by omega) new.ip)
  have samePort : read16 (write32 buf which.addressOffset new.ip)
      (headerLength buf + which.portOffset) = read16 buf (headerLength buf + which.portOffset) :=
    read16_congr (fun position low high => getByte_write32 (by omega) new.ip)
  have even : (headerLength buf + which.portOffset) % 2 = 0 := by
    have evenHeader := TransportPacket.headerLength_even buf
    omega
  rw [Packet.setEndpoint, sameHeader,
    coveredSum_write16 addressed even (by omega) (by omega), coveredSum_write32 packet, samePort,
    endpoint]
  ring

theorem transportSumAt_even (buf : Buffer) : transportSumAt buf % 2 = 0 := by
  have evenHeader := TransportPacket.headerLength_even buf
  rw [transportSumAt, thSumOffset, uhSumOffset]
  split <;> omega

private theorem coveredSum_adjustTransportSum (packet : TransportPacket buf size)
    (orig aliased : Endpoint) :
    coveredSum (adjustTransportSum buf (addPort (orig.ip.zeroExtend 64) orig.port)
        (addPort (aliased.ip.zeroExtend 64) aliased.port)) size = coveredSum buf size +
      256 * ((orig.ip.toNat + orig.port.toNat - if Carries orig then 1 else 0) -
        (aliased.ip.toNat + aliased.port.toNat - if Carries aliased then 1 else 0) : Residue) := by
  have inside := packet.sum_inside
  rw [adjustTransportSum_eq packet, adjustSum,
    coveredSum_write16 packet (transportSumAt_even buf) (by omega) inside.2, diffChecksum_residue,
    addPort_residue, addPort_residue]
  ring

/-- Adjusting by `orig` and `aliased` leaves exactly the difference of their carries. -/
theorem coveredSum_setDiffChecksum (build : Build) (packet : TransportPacket buf size)
    (orig aliased : Endpoint) :
    coveredSum (setDiffChecksum build buf orig aliased) size = coveredSum buf size +
      256 * ((orig.ip.toNat + orig.port.toNat - if Carries orig then 1 else 0) -
        (aliased.ip.toNat + aliased.port.toNat - if Carries aliased then 1 else 0) : Residue) := by
  simp only [setDiffChecksum]
  split
  · have summed : TransportPacket (adjustSum buf ipSumOffset (orig.ip.zeroExtend 64)
        (aliased.ip.zeroExtend 64)) size := packet.write16 (by decide) _
    rw [coveredSum_adjustTransportSum summed, adjustSum, coveredSum_ipSum packet]
  · exact coveredSum_adjustTransportSum packet orig aliased

/-- What is covered apart from the checksum field itself. -/
def coveredRest (buf : Buffer) (size : Nat) : Residue :=
  coveredSum buf size - 256 * (transportSum buf).toNat

private theorem coveredRest_write_sum (packet : TransportPacket buf size) (field : BitVec 16) :
    coveredRest (write16 buf (transportSumAt buf) field) size = coveredRest buf size := by
  have inside := packet.sum_inside
  have header := packet.headerLength_ge
  have inBuffer := packet.inBuffer
  have samePlace : transportSumAt (write16 buf (transportSumAt buf) field) = transportSumAt buf :=
    transportSumAt_congr (getByte_write16 (by omega) field) (getByte_write16 (by omega) field)
  rw [coveredRest, coveredRest, coveredSum_write16 packet (transportSumAt_even buf) (by omega)
    inside.2, transportSum, transportSum, samePlace, read16_write16 (by omega)]
  ring

private theorem cleared_sum (packet : TransportPacket buf size) (total : size < 2 ^ 17) :
    let cleared := write16 buf (transportSumAt buf) 0
    let words := wordSum (slice cleared (headerLength buf) (size - headerLength buf))
    words + pseudoSum buf size < 2 ^ 32 ∧ 0 < pseudoSum buf size ∧
      ((words + pseudoSum buf size : Nat) : Residue) = coveredRest buf size := by
  intro cleared words
  have inside := packet.sum_inside
  have header := packet.headerLength_ge
  have inBuffer := packet.inBuffer
  have sameHeader : headerLength cleared = headerLength buf :=
    headerLength_congr (getByte_write16 (by omega) 0)
  have sameProtocol : ipP cleared = ipP buf := getByte_write16 (by omega) 0
  have sameSource : load cleared 12 4 = load buf 12 4 := load_store_other (by omega) _
  have sameDestination : load cleared 16 4 = load buf 16 4 := load_store_other (by omega) _
  have samePlace : transportSumAt cleared = transportSumAt buf :=
    transportSumAt_congr (getByte_write16 (by omega) 0) (getByte_write16 (by omega) 0)
  have zeroed : transportSum cleared = 0 := by
    rw [transportSum, samePlace]
    exact read16_write16 (by omega) 0
  obtain ⟨positive, small, pseudo⟩ := pseudoSum_residue packet total
  have bound := wordSum_le (slice cleared (headerLength buf) (size - headerLength buf))
  have length : (slice cleared (headerLength buf) (size - headerLength buf)).length + 20 <
      2 ^ 17 := by
    rw [length_slice]
    omega
  have residue := wordSum_residue (slice cleared (headerLength buf) (size - headerLength buf))
  refine ⟨by omega, positive, ?_⟩
  rw [← coveredRest_write_sum packet 0]
  change _ = coveredRest cleared size
  have zero : (((0 : BitVec 16).toNat : Nat) : Residue) = 0 := rfl
  rw [coveredRest, zeroed, zero, coveredSum, sameHeader, sameProtocol, sameSource,
    sameDestination, Nat.cast_add, residue, pseudo]
  ring

theorem coveredSum_checksumTransport (packet : TransportPacket buf size) (total : size < 2 ^ 17) :
    coveredSum (checksumTransport buf size) size = 0 := by
  have inside := packet.sum_inside
  have header := packet.headerLength_ge
  have inBuffer := packet.inBuffer
  obtain ⟨noOverflow, -, rest⟩ := cleared_sum packet total
  have sum := checksum_residue _ _ noOverflow
  have cleared := coveredSum_write16 packet (transportSumAt_even buf) (by omega) inside.2 0
  rw [checksumTransport_eq packet, refreshSum, packet.segmentSize_eq total]
  have clearedPacket : TransportPacket (write16 buf (transportSumAt buf) 0) size :=
    packet.write16 (by omega) 0
  have zeroed : read16 (write16 buf (transportSumAt buf) 0) (transportSumAt buf) = 0 :=
    read16_write16 (by omega) 0
  have after : headerLength (write16 buf (transportSumAt buf) 0) ≤ transportSumAt buf := by
    rw [headerLength_congr (getByte_write16 (by omega) 0)]
    omega
  have zero : (((0 : BitVec 16).toNat : Nat) : Residue) = 0 := rfl
  rw [coveredSum_write16 clearedPacket (transportSumAt_even buf) after inside.2, zeroed,
    swap16_residue, sum, rest, cleared, coveredRest, transportSum, zero]
  linear_combination -(coveredSum buf size -
    256 * ((read16 buf (transportSumAt buf)).toNat : Residue)) * word_order

theorem transportSum_checksumTransport (packet : TransportPacket buf size)
    (total : size < 2 ^ 17) :
    transportSum (checksumTransport buf size) = 0 ↔ coveredRest buf size = 0 := by
  have inside := packet.sum_inside
  have header := packet.headerLength_ge
  have inBuffer := packet.inBuffer
  obtain ⟨noOverflow, positive, rest⟩ := cleared_sum packet total
  have place := (checksumTransport_only packet).samePlace packet
  rw [transportSum, place, checksumTransport_eq packet, refreshSum, packet.segmentSize_eq total,
    read16_write16 (by rw [length_write16]; omega), swap16_eq_zero,
    checksum_eq_zero _ _ noOverflow (Nat.add_pos_right _ positive), rest]

theorem coveredRest_ipSum (packet : TransportPacket buf size) (field : BitVec 16) :
    coveredRest (write16 buf ipSumOffset field) size = coveredRest buf size := by
  have inside := packet.sum_inside
  have header := packet.headerLength_ge
  have samePlace : transportSumAt (write16 buf ipSumOffset field) = transportSumAt buf :=
    transportSumAt_congr (getByte_write16 (by decide) field) (getByte_write16 (by decide) field)
  have sameSum : transportSum (write16 buf ipSumOffset field) = transportSum buf := by
    rw [transportSum, samePlace]
    exact read16_congr (fun position low high =>
      getByte_write16 (by rw [ipSumOffset]; omega) field)
  rw [coveredRest, coveredRest, coveredSum_ipSum packet, sameSum]

theorem coveredRest_setDiffChecksum (packet : TransportPacket buf size) (build : Build)
    (orig aliased : Endpoint) :
    coveredRest (setDiffChecksum build buf orig aliased) size = coveredRest buf size := by
  simp only [setDiffChecksum]
  split
  · have summed : TransportPacket (adjustSum buf ipSumOffset (orig.ip.zeroExtend 64)
        (aliased.ip.zeroExtend 64)) size := packet.write16 (by decide) _
    rw [adjustTransportSum_eq summed, adjustSum, coveredRest_write_sum summed, adjustSum,
      coveredRest_ipSum packet]
  · rw [adjustTransportSum_eq packet, adjustSum, coveredRest_write_sum packet]

theorem coveredRest_checksumTransport (packet : TransportPacket buf size) :
    coveredRest (checksumTransport buf size) size = coveredRest buf size := by
  have inside := packet.sum_inside
  have header := packet.headerLength_ge
  have cleared : TransportPacket (write16 buf (transportSumAt buf) 0) size :=
    packet.write16 (by omega) 0
  have samePlace : transportSumAt (write16 buf (transportSumAt buf) 0) = transportSumAt buf :=
    transportSumAt_congr (getByte_write16 (by omega) 0) (getByte_write16 (by omega) 0)
  rw [checksumTransport_eq packet, refreshSum, ← coveredRest_write_sum packet 0]
  have again := coveredRest_write_sum cleared
  rw [samePlace] at again
  exact again _

/-- With a vanishing covered sum the checksum field is determined up to the two
representations of zero. -/
theorem sameUpToZero_of_coveredRest {left right : Buffer}
    (same : coveredRest left size = coveredRest right size)
    (leftCovered : coveredSum left size = 0) (rightCovered : coveredSum right size = 0) :
    SameUpToZero (transportSum left) (transportSum right) := by
  rw [sameUpToZero_iff]
  rw [coveredRest, coveredRest, leftCovered, rightCovered] at same
  linear_combination -(256 : Residue) * same -
    (((transportSum left).toNat : Residue) - (transportSum right).toNat) * word_order

end Rewrite

/-- After an endpoint of a verifying packet is overwritten and the checksum is
adjusted incrementally, the packet verifies again, with the checksum that a full
computation would store, exactly when the raw sums of the old and the new endpoint
agree on whether they leave 32 bits. -/
theorem diff_checksum_agrees_iff (build : Build) (buf : Buffer) (size : Nat) (which : End)
    (aliased : Endpoint) (packet : TransportPacket buf size) (total : size ≤ 65535)
    (verifies : Verifies buf size) :
    (Verifies (setDiffChecksum build (setEndpoint buf which aliased) (endpoint buf which) aliased)
        size ∧
      SameUpToZero
        (transportSum
          (setDiffChecksum build (setEndpoint buf which aliased) (endpoint buf which) aliased))
        (transportSum (checksumTransport (setEndpoint buf which aliased) size))) ↔
      (Carries (endpoint buf which) ↔ Carries aliased) := by
  have rewritten := packet.setEndpoint which aliased
  have adjusted := (setDiffChecksum_only build rewritten (endpoint buf which) aliased).packet rewritten
  have covered : coveredSum
      (setDiffChecksum build (setEndpoint buf which aliased) (endpoint buf which) aliased) size =
      256 * ((if Carries aliased then 1 else 0) -
        (if Carries (endpoint buf which) then 1 else 0)) := by
    rw [coveredSum_setDiffChecksum build rewritten, coveredSum_setEndpoint packet,
      (verifies_iff packet (by omega)).mp verifies]
    ring
  have vanishes : coveredSum
      (setDiffChecksum build (setEndpoint buf which aliased) (endpoint buf which) aliased) size =
      0 ↔ (Carries (endpoint buf which) ↔ Carries aliased) := by
    rw [covered]
    by_cases orig : Carries (endpoint buf which) <;> by_cases new : Carries aliased <;>
      simp only [orig, new, if_true, if_false, iff_self, iff_false, false_iff, not_true] <;>
      decide
  rw [verifies_iff adjusted (by omega), vanishes]
  refine and_iff_left_of_imp (fun agree => ?_)
  refine sameUpToZero_of_coveredRest ?_ (vanishes.mpr agree)
    (coveredSum_checksumTransport rewritten (by omega))
  rw [coveredRest_setDiffChecksum rewritten, coveredRest_checksumTransport rewritten]

/-- A TCP SYN from 10.200.255.255 port 80, whose raw endpoint leaves 32 bits. -/
private def carryingPacket : Buffer :=
  [69, 0, 0, 40, 0, 1, 0, 0, 64, 6, 173, 254, 10, 200, 255, 255, 192, 0, 2, 9,
    0, 80, 31, 144, 0, 0, 0, 1, 0, 0, 0, 0, 80, 2, 32, 0, 163, 48, 0, 0]

/-- 198.51.100.7 port 4096 -/
private def publicEndpoint : Endpoint := { ip := 0x076433C6, port := 0x0010 }

private theorem carryingPacket_transport : TransportPacket carryingPacket 40 where
  version := by decide
  header := by decide
  transport := by decide
  inBuffer := by decide

theorem diff_checksum_agrees_iff_carrying :
    ¬(Verifies (setDiffChecksum ⟨true, true, true, false⟩
          (setEndpoint carryingPacket .source publicEndpoint) (endpoint carryingPacket .source)
          publicEndpoint) 40 ∧
      SameUpToZero
        (transportSum (setDiffChecksum ⟨true, true, true, false⟩
          (setEndpoint carryingPacket .source publicEndpoint) (endpoint carryingPacket .source)
          publicEndpoint))
        (transportSum
          (checksumTransport (setEndpoint carryingPacket .source publicEndpoint) 40))) := by
  have carries : ¬(Carries (endpoint carryingPacket .source) ↔ Carries publicEndpoint) := by decide
  rw [diff_checksum_agrees_iff ⟨true, true, true, false⟩ carryingPacket 40 .source publicEndpoint
    carryingPacket_transport (by decide) (by decide)]
  exact carries

/-- The incremental path does not always agree with the full one. -/
theorem diff_checksum_disagrees :
    ¬∀ (build : Build) (buf : Buffer) (size : Nat) (which : End) (aliased : Endpoint),
      TransportPacket buf size → size ≤ 65535 →
      (ipP buf = ipprotoUdp → transportSum buf ≠ 0) → Verifies buf size →
      Verifies (setDiffChecksum build (setEndpoint buf which aliased) (endpoint buf which)
          aliased) size ∧
        SameUpToZero
          (transportSum (setDiffChecksum build (setEndpoint buf which aliased)
            (endpoint buf which) aliased))
          (transportSum (checksumTransport (setEndpoint buf which aliased) size)) := by
  intro agrees
  have claimed := agrees ⟨true, true, true, false⟩ carryingPacket 40 .source publicEndpoint
    carryingPacket_transport (by decide) (by decide) (by decide)
  revert claimed
  decide

end Checksum
end NatPorte
