/-
Little-endian loads and stores in a byte buffer.

A buffer is the list of its bytes.  Reading outside it gives zero and writing
outside it does nothing; the lemmas say when neither happens.  Every width is
one recursion, so a frame fact is proved once for all of them.
-/

import Mathlib.Data.Nat.Digits.Lemmas

namespace ByteBuffer

abbrev Byte := BitVec 8

def getByte (buffer : List Byte) (index : Nat) : Byte :=
  buffer.getD index 0

def setByte (buffer : List Byte) (index : Nat) (value : Byte) : List Byte :=
  buffer.set index value

/-- The value of `width` bytes from `index` on, least significant first. -/
def load (buffer : List Byte) : Nat → Nat → Nat
  | _, 0 => 0
  | index, width + 1 => (getByte buffer index).toNat + 256 * load buffer (index + 1) width

def store (buffer : List Byte) : Nat → Nat → Nat → List Byte
  | _, 0, _ => buffer
  | index, width + 1, value =>
      store (setByte buffer index (BitVec.ofNat 8 value)) (index + 1) width (value / 256)

/-- The whole buffer as one little-endian number. -/
def value (buffer : List Byte) : Nat :=
  Nat.ofDigits 256 (buffer.map BitVec.toNat)

variable {buffer : List Byte} {index width : Nat}

@[simp] theorem length_setByte (value : Byte) :
    (setByte buffer index value).length = buffer.length := List.length_set

theorem getByte_setByte_self (inside : index < buffer.length) (value : Byte) :
    getByte (setByte buffer index value) index = value := by
  simp [getByte, setByte, List.getD_eq_getElem?_getD, inside]

theorem getByte_setByte_other {other : Nat} (different : other ≠ index) (value : Byte) :
    getByte (setByte buffer index value) other = getByte buffer other := by
  simp [getByte, setByte, List.getD_eq_getElem?_getD, List.getElem?_set_ne (Ne.symm different)]

@[simp] theorem length_store (value : Nat) :
    (store buffer index width value).length = buffer.length := by
  induction width generalizing buffer index value with
  | zero => rfl
  | succ width ih => rw [store, ih, length_setByte]

theorem getByte_store_other {other : Nat} (outside : other < index ∨ index + width ≤ other)
    (value : Nat) : getByte (store buffer index width value) other = getByte buffer other := by
  induction width generalizing buffer index value with
  | zero => rfl
  | succ width ih =>
      rw [store, ih (by omega), getByte_setByte_other (by omega)]

theorem getByte_setByte_congr {other : List Byte} {position : Nat}
    (length : other.length = buffer.length)
    (same : getByte other position = getByte buffer position) (value : Byte) :
    getByte (setByte other index value) position =
      getByte (setByte buffer index value) position := by
  by_cases hit : position = index
  · by_cases inside : index < buffer.length
    · rw [hit, getByte_setByte_self (by omega), getByte_setByte_self inside]
    · rw [setByte, setByte, List.set_eq_of_length_le (by omega),
        List.set_eq_of_length_le (by omega), same]
  · rw [getByte_setByte_other hit, getByte_setByte_other hit, same]

/-- The same store keeps two buffers equal at a position, inside its range or not. -/
theorem getByte_store_congr {other : List Byte} {position : Nat}
    (length : other.length = buffer.length)
    (same : getByte other position = getByte buffer position) (value : Nat) :
    getByte (store other index width value) position =
      getByte (store buffer index width value) position := by
  induction width generalizing buffer other index value with
  | zero => exact same
  | succ width ih =>
      rw [store, store]
      exact ih (by rw [length_setByte, length_setByte, length])
        (getByte_setByte_congr length same _) _

theorem load_congr {other : List Byte}
    (same : ∀ position, index ≤ position → position < index + width →
      getByte buffer position = getByte other position) :
    load buffer index width = load other index width := by
  induction width generalizing index with
  | zero => rfl
  | succ width ih =>
      rw [load, load, same index (Nat.le_refl _) (by omega),
        ih (fun position low high => same position (by omega) (by omega))]

theorem load_store_other {start length : Nat}
    (apart : start + length ≤ index ∨ index + width ≤ start) (value : Nat) :
    load (store buffer index width value) start length = load buffer start length := by
  apply load_congr
  intro position low high
  exact getByte_store_other (by omega) value

theorem load_store_self (inside : index + width ≤ buffer.length) (value : Nat) :
    load (store buffer index width value) index width = value % 256 ^ width := by
  induction width generalizing buffer index value with
  | zero => rw [load, Nat.pow_zero, Nat.mod_one]
  | succ width ih =>
      rw [load, store, getByte_store_other (by omega), getByte_setByte_self (by omega),
        ih (by rw [length_setByte]; omega), BitVec.toNat_ofNat, Nat.pow_succ' (n := width),
        Nat.mod_mul]

theorem load_lt (buffer : List Byte) (index width : Nat) :
    load buffer index width < 256 ^ width := by
  induction width generalizing index with
  | zero => exact Nat.one_pos
  | succ width ih =>
      have low := (getByte buffer index).isLt
      have high := ih (index + 1)
      rw [load, Nat.pow_succ']
      omega

def slice (buffer : List Byte) (start length : Nat) : List Byte :=
  (buffer.drop start).take length

theorem length_slice (buffer : List Byte) (start length : Nat) :
    (slice buffer start length).length = min length (buffer.length - start) := by
  rw [slice, List.length_take, List.length_drop]

theorem slice_setByte_before {start : Nat} (before : index < start) (length : Nat)
    (value : Byte) : slice (setByte buffer index value) start length =
      slice buffer start length := by
  rw [slice, setByte, List.drop_set, if_pos before, slice]

theorem slice_setByte_inside {start : Nat} (after : start ≤ index) (length : Nat)
    (value : Byte) : slice (setByte buffer index value) start length =
      setByte (slice buffer start length) (index - start) value := by
  rw [slice, setByte, List.drop_set, if_neg (by omega), List.take_set, slice, setByte]

theorem slice_store_before {start : Nat} (before : index + width ≤ start) (length value : Nat) :
    slice (store buffer index width value) start length = slice buffer start length := by
  induction width generalizing buffer index value with
  | zero => rfl
  | succ width ih =>
      rw [store, ih (by omega), slice_setByte_before (by omega)]

theorem slice_store_inside {start : Nat} (after : start ≤ index) (length value : Nat) :
    slice (store buffer index width value) start length =
      store (slice buffer start length) (index - start) width value := by
  induction width generalizing buffer index value with
  | zero => rfl
  | succ width ih =>
      rw [store, ih (by omega), slice_setByte_inside after, store, Nat.sub_add_comm after]

theorem getByte_slice {start length offset : Nat} (inside : offset < length) :
    getByte (slice buffer start length) offset = getByte buffer (start + offset) := by
  simp [getByte, slice, List.getD_eq_getElem?_getD, inside]

theorem load_slice {start length offset : Nat} (inside : offset + width ≤ length) :
    load (slice buffer start length) offset width = load buffer (start + offset) width := by
  induction width generalizing offset with
  | zero => rfl
  | succ width ih =>
      rw [load, load, getByte_slice (by omega), ih (by omega), Nat.add_assoc]

theorem getByte_append_left {front back : List Byte} {position : Nat}
    (inside : position < front.length) :
    getByte (front ++ back) position = getByte front position := by
  simp [getByte, List.getD_eq_getElem?_getD, List.getElem?_append_left inside]

theorem getByte_append_right {front back : List Byte} {position : Nat}
    (behind : front.length ≤ position) :
    getByte (front ++ back) position = getByte back (position - front.length) := by
  simp [getByte, List.getD_eq_getElem?_getD, List.getElem?_append_right behind]

theorem getByte_drop (bytes : List Byte) (start position : Nat) :
    getByte (bytes.drop start) position = getByte bytes (start + position) := by
  simp [getByte, List.getD_eq_getElem?_getD]

theorem getByte_take {bytes : List Byte} {length position : Nat} (inside : position < length) :
    getByte (bytes.take length) position = getByte bytes position := by
  simp [getByte, List.getD_eq_getElem?_getD, List.getElem?_take_of_lt inside]

theorem slice_middle (front middle back : List Byte) {start : Nat}
    (length : front.length = start) :
    slice (front ++ middle ++ back) start middle.length = middle := by
  subst length
  rw [slice, List.append_assoc, List.drop_left, List.take_left]

theorem slice_congr {other : List Byte} {start start' length : Nat}
    (inside : start + length ≤ buffer.length) (inside' : start' + length ≤ other.length)
    (same : ∀ offset < length, getByte other (start' + offset) = getByte buffer (start + offset)) :
    slice other start' length = slice buffer start length := by
  apply List.ext_getElem
  · rw [length_slice, length_slice]
    omega
  · intro offset low high
    rw [length_slice] at low high
    have bytes := same offset (by omega)
    simp only [getByte, List.getD_eq_getElem?_getD] at bytes
    rw [List.getElem?_eq_getElem (by omega), List.getElem?_eq_getElem (by omega)] at bytes
    simp only [slice, List.getElem_take, List.getElem_drop]
    exact bytes

/-- `memcpy` of `bytes` to the place `start`. -/
def splice (buffer : List Byte) (start : Nat) (bytes : List Byte) : List Byte :=
  buffer.take start ++ bytes ++ buffer.drop (start + bytes.length)

theorem length_splice {start : Nat} {bytes : List Byte}
    (room : start + bytes.length ≤ buffer.length) :
    (splice buffer start bytes).length = buffer.length := by
  simp only [splice, List.length_append, List.length_take, List.length_drop]
  omega

section Splice

variable {start position : Nat} {bytes : List Byte} (room : start ≤ buffer.length)
include room

theorem getByte_splice_self (after : start ≤ position) (before : position < start + bytes.length) :
    getByte (splice buffer start bytes) position = getByte bytes (position - start) := by
  have front : (buffer.take start).length = start := by
    rw [List.length_take]
    omega
  unfold splice
  rw [List.append_assoc, getByte_append_right (by omega), front, getByte_append_left (by omega)]

theorem getByte_splice_other (outside : position < start ∨ start + bytes.length ≤ position) :
    getByte (splice buffer start bytes) position = getByte buffer position := by
  have front : (buffer.take start).length = start := by
    rw [List.length_take]
    omega
  unfold splice
  rcases outside with before | behind
  · rw [List.append_assoc, getByte_append_left (by omega), getByte_take before]
  · rw [List.append_assoc, getByte_append_right (by omega), front,
      getByte_append_right (by omega), getByte_drop]
    congr 1
    omega

end Splice

theorem setByte_getByte (inside : index < buffer.length) :
    setByte buffer index (getByte buffer index) = buffer := by
  simp [setByte, getByte, List.getD_eq_getElem?_getD, inside]

theorem store_load (inside : index + width ≤ buffer.length) :
    store buffer index width (load buffer index width) = buffer := by
  induction width generalizing index with
  | zero => rfl
  | succ width ih =>
      have byte := (getByte buffer index).isLt
      have low : BitVec.ofNat 8 ((getByte buffer index).toNat + 256 * load buffer (index + 1) width)
          = getByte buffer index := by
        apply BitVec.eq_of_toNat_eq
        rw [BitVec.toNat_ofNat]
        omega
      have high : ((getByte buffer index).toNat + 256 * load buffer (index + 1) width) / 256 =
          load buffer (index + 1) width := by omega
      rw [store, load, low, high, setByte_getByte (by omega), ih (by omega)]

@[simp] theorem value_nil : value [] = 0 := rfl

@[simp] theorem value_cons (byte : Byte) (rest : List Byte) :
    value (byte :: rest) = byte.toNat + 256 * value rest := by
  rw [value, List.map_cons, Nat.ofDigits_cons]
  rfl

theorem value_setByte {buffer : List Byte} {index : Nat} (inside : index < buffer.length)
    (byte : Byte) :
    value (setByte buffer index byte) + 256 ^ index * (getByte buffer index).toNat =
      value buffer + 256 ^ index * byte.toNat := by
  induction buffer generalizing index with
  | nil => exact absurd inside (Nat.not_lt_zero index)
  | cons head tail ih =>
      cases index with
      | zero =>
          rw [setByte, List.set_cons_zero, value_cons, value_cons]
          change byte.toNat + _ + 256 ^ 0 * head.toNat = _
          omega
      | succ index =>
          have inTail := @ih index (Nat.lt_of_succ_lt_succ inside)
          rw [setByte, List.set_cons_succ, value_cons, value_cons, Nat.pow_succ']
          change head.toNat + 256 * value (setByte tail index byte) +
            256 * 256 ^ index * (getByte tail index).toNat = _
          rw [Nat.mul_assoc, Nat.mul_assoc]
          omega

theorem value_store (inside : index + width ≤ buffer.length) (stored : Nat) :
    value (store buffer index width stored) + 256 ^ index * load buffer index width =
      value buffer + 256 ^ index * (stored % 256 ^ width) := by
  induction width generalizing buffer index stored with
  | zero => rw [store, load, Nat.pow_zero, Nat.mod_one]
  | succ width ih =>
      have inside : index < buffer.length := by omega
      have first := value_setByte inside (BitVec.ofNat 8 stored)
      have later := @ih (setByte buffer index (BitVec.ofNat 8 stored)) (index + 1)
        (by rw [length_setByte]; omega) (stored / 256)
      have unread : load (setByte buffer index (BitVec.ofNat 8 stored)) (index + 1) width =
          load buffer (index + 1) width :=
        load_congr (fun position low high => getByte_setByte_other (by omega) _)
      rw [unread] at later
      have split : stored % 256 ^ (width + 1) =
          (BitVec.ofNat 8 stored).toNat + 256 * (stored / 256 % 256 ^ width) := by
        rw [BitVec.toNat_ofNat, Nat.pow_succ', Nat.mod_mul]
      rw [store, load, split, Nat.mul_add, Nat.mul_add, ← Nat.mul_assoc, ← Nat.mul_assoc,
        ← Nat.pow_succ, Nat.succ_eq_add_one]
      omega

end ByteBuffer
