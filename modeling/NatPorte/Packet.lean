/-
IPv4 packets as the alias functions see them.

A packet is the buffer it was received into together with a size; the buffer
may be longer.  The host is little-endian, so a multi-byte header field read
through a struct is a little-endian load of network-order bytes.  Fields that no
modelled function reads (type of service, identification, window, ...) have no
name here.
-/

import NatPorte.Library.ByteBuffer
import NatPorte.Structure

namespace NatPorte
namespace Packet

open ByteBuffer Structure

abbrev Buffer := List Byte

def ipprotoIcmp : BitVec 8 := 1
def ipprotoTcp : BitVec 8 := 6
def ipprotoUdp : BitVec 8 := 17

def read16 (buf : Buffer) (offset : Nat) : BitVec 16 := BitVec.ofNat 16 (load buf offset 2)
def read32 (buf : Buffer) (offset : Nat) : BitVec 32 := BitVec.ofNat 32 (load buf offset 4)
def write16 (buf : Buffer) (offset : Nat) (field : BitVec 16) : Buffer :=
  store buf offset 2 field.toNat
def write32 (buf : Buffer) (offset : Nat) (field : BitVec 32) : Buffer :=
  store buf offset 4 field.toNat

/-- `htons` and `ntohs`. -/
def swap16 (field : BitVec 16) : BitVec 16 :=
  BitVec.ofNat 16 (field.toNat % 256 * 256 + field.toNat / 256)

/-- `htonl` and `ntohl`. -/
def swap32 (field : BitVec 32) : BitVec 32 :=
  BitVec.ofNat 32 (field.toNat % 256 * 16777216 + field.toNat / 256 % 256 * 65536 +
    field.toNat / 65536 % 256 * 256 + field.toNat / 16777216)

theorem swap32_toNat (field : BitVec 32) :
    (swap32 field).toNat = field.toNat % 256 * 16777216 + field.toNat / 256 % 256 * 65536 +
      field.toNat / 65536 % 256 * 256 + field.toNat / 16777216 := by
  have bound := field.isLt
  rw [swap32, BitVec.toNat_ofNat, Nat.mod_eq_of_lt]
  omega

theorem swap16_toNat (field : BitVec 16) :
    (swap16 field).toNat = field.toNat % 256 * 256 + field.toNat / 256 := by
  have bound := field.isLt
  rw [swap16, BitVec.toNat_ofNat, Nat.mod_eq_of_lt]
  omega

theorem swap16_swap16 (field : BitVec 16) : swap16 (swap16 field) = field := by
  apply BitVec.eq_of_toNat_eq
  have bound := field.isLt
  rw [swap16_toNat, swap16_toNat]
  omega

private theorem bytes_of {a b c d n : Nat} (third : b < 256) (second : c < 256) (first : d < 256)
    (same : n = a * 16777216 + b * 65536 + c * 256 + d) :
    n % 256 = d ∧ n / 256 % 256 = c ∧ n / 65536 % 256 = b ∧ n / 16777216 = a := by
  omega

theorem swap32_swap32 (field : BitVec 32) : swap32 (swap32 field) = field := by
  apply BitVec.eq_of_toNat_eq
  have bound := field.isLt
  have fourths : field.toNat / 65536 = field.toNat / 256 / 256 ∧
      field.toNat / 16777216 = field.toNat / 256 / 256 / 256 := by
    rw [Nat.div_div_eq_div_mul, Nat.div_div_eq_div_mul]
    exact ⟨rfl, rfl⟩
  have swapped := swap32_toNat field
  obtain ⟨first, second, third, fourth⟩ := bytes_of (Nat.mod_lt _ (by decide))
    (Nat.mod_lt _ (by decide)) (Nat.div_lt_of_lt_mul bound) swapped
  rw [swap32_toNat, first, second, third, fourth, fourths.1, fourths.2]
  omega

def ipV (buf : Buffer) : Nat := (getByte buf 0).toNat / 16
def ipHl (buf : Buffer) : Nat := (getByte buf 0).toNat % 16

/-- `ip_hl << 2` -/
def headerLength (buf : Buffer) : Nat := ipHl buf * 4

def ipOff (buf : Buffer) : BitVec 16 := read16 buf 6
def ipP (buf : Buffer) : BitVec 8 := getByte buf 9
def ipSrc (buf : Buffer) : BitVec 32 := read32 buf 12
def ipDst (buf : Buffer) : BitVec 32 := read32 buf 16

def thFlags (buf : Buffer) : BitVec 8 := getByte buf (headerLength buf + 13)

/-- The offset of `th_sum` and `uh_sum` in their headers. -/
def thSumOffset : Nat := 16
def uhSumOffset : Nat := 6

/-- One end of the packet's conversation. -/
inductive End where
  | source | destination
  deriving DecidableEq, Repr

def End.addressOffset : End → Nat
  | .source => 12
  | .destination => 16

def End.portOffset : End → Nat
  | .source => 0
  | .destination => 2

def endpoint (buf : Buffer) (which : End) : Endpoint :=
  { ip := read32 buf which.addressOffset
    port := read16 buf (headerLength buf + which.portOffset) }

/-- The two assignments every translating branch makes. -/
def setEndpoint (buf : Buffer) (which : End) (new : Endpoint) : Buffer :=
  let buf := write32 buf which.addressOffset new.ip
  write16 buf (headerLength buf + which.portOffset) new.port

section Frame

variable {buf : Buffer} {offset other : Nat}

@[simp] theorem length_write16 (field : BitVec 16) :
    (write16 buf offset field).length = buf.length := length_store _

@[simp] theorem length_write32 (field : BitVec 32) :
    (write32 buf offset field).length = buf.length := length_store _

theorem getByte_write16 (apart : other < offset ∨ offset + 2 ≤ other) (field : BitVec 16) :
    getByte (write16 buf offset field) other = getByte buf other :=
  getByte_store_other apart _

theorem getByte_write32 (apart : other < offset ∨ offset + 4 ≤ other) (field : BitVec 32) :
    getByte (write32 buf offset field) other = getByte buf other :=
  getByte_store_other apart _

theorem read16_congr {buf' : Buffer}
    (same : ∀ position, offset ≤ position → position < offset + 2 →
      getByte buf' position = getByte buf position) :
    read16 buf' offset = read16 buf offset :=
  congrArg (BitVec.ofNat 16) (load_congr same)

theorem read32_congr {buf' : Buffer}
    (same : ∀ position, offset ≤ position → position < offset + 4 →
      getByte buf' position = getByte buf position) :
    read32 buf' offset = read32 buf offset :=
  congrArg (BitVec.ofNat 32) (load_congr same)

theorem read16_eq_iff {buf' : Buffer} :
    read16 buf' other = read16 buf offset ↔
      getByte buf' other = getByte buf offset ∧
        getByte buf' (other + 1) = getByte buf (offset + 1) := by
  have low := (getByte buf offset).isLt
  have low' := (getByte buf' other).isLt
  have high := (getByte buf (offset + 1)).isLt
  have high' := (getByte buf' (other + 1)).isLt
  simp only [read16, load, ← BitVec.toNat_inj, BitVec.toNat_ofNat]
  omega

theorem read16_write16 (inside : offset + 2 ≤ buf.length) (field : BitVec 16) :
    read16 (write16 buf offset field) offset = field := by
  apply BitVec.eq_of_toNat_eq
  have bound := field.isLt
  rw [read16, write16, load_store_self inside, BitVec.toNat_ofNat]
  omega

theorem read32_write32 (inside : offset + 4 ≤ buf.length) (field : BitVec 32) :
    read32 (write32 buf offset field) offset = field := by
  apply BitVec.eq_of_toNat_eq
  have bound := field.isLt
  rw [read32, write32, load_store_self inside, BitVec.toNat_ofNat]
  omega

theorem read16_write16_other (apart : other + 2 ≤ offset ∨ offset + 2 ≤ other)
    (field : BitVec 16) : read16 (write16 buf offset field) other = read16 buf other :=
  congrArg (BitVec.ofNat 16) (load_store_other apart field.toNat)

theorem read16_write32_other (apart : other + 2 ≤ offset ∨ offset + 4 ≤ other)
    (field : BitVec 32) : read16 (write32 buf offset field) other = read16 buf other :=
  congrArg (BitVec.ofNat 16) (load_store_other apart field.toNat)

theorem read32_write16_other (apart : other + 4 ≤ offset ∨ offset + 2 ≤ other)
    (field : BitVec 16) : read32 (write16 buf offset field) other = read32 buf other :=
  congrArg (BitVec.ofNat 32) (load_store_other apart field.toNat)

theorem read32_write32_other (apart : other + 4 ≤ offset ∨ offset + 4 ≤ other)
    (field : BitVec 32) : read32 (write32 buf offset field) other = read32 buf other :=
  congrArg (BitVec.ofNat 32) (load_store_other apart field.toNat)

theorem read16_setByte_other (apart : other + 2 ≤ offset ∨ offset + 1 ≤ other) (byte : Byte) :
    read16 (setByte buf offset byte) other = read16 buf other :=
  read16_congr (fun position low high => getByte_setByte_other (by omega) byte)

theorem read32_setByte_other (apart : other + 4 ≤ offset ∨ offset + 1 ≤ other) (byte : Byte) :
    read32 (setByte buf offset byte) other = read32 buf other :=
  read32_congr (fun position low high => getByte_setByte_other (by omega) byte)

theorem read16_toNat (buf : Buffer) (offset : Nat) :
    (read16 buf offset).toNat = load buf offset 2 :=
  Nat.mod_eq_of_lt (load_lt buf offset 2)

theorem read32_toNat (buf : Buffer) (offset : Nat) :
    (read32 buf offset).toNat = load buf offset 4 :=
  Nat.mod_eq_of_lt (load_lt buf offset 4)

end Frame

theorem headerLength_congr {buf buf' : Buffer} (same : getByte buf' 0 = getByte buf 0) :
    headerLength buf' = headerLength buf := by
  rw [headerLength, headerLength, ipHl, ipHl, same]

end Packet
end NatPorte
