/-
One's-complement arithmetic on 16-bit words.

Sums are compared modulo 65535, where the two byte orders differ by the factor
256 and a byte's weight depends only on the parity of its offset.
-/

import Mathlib.Data.ZMod.Basic
import Mathlib.Tactic.LinearCombination
import NatPorte.Library.ByteBuffer

namespace OnesComplement

open ByteBuffer

/-- The sum of the big-endian 16-bit words; an odd last byte is a high byte. -/
def wordSum : List Byte → Nat
  | [] => 0
  | [last] => last.toNat * 256
  | high :: low :: rest => high.toNat * 256 + low.toNat + wordSum rest

/-- Residues modulo 2^16 - 1. -/
abbrev Residue := ZMod 65535

/-- The weight of a high byte is a numeral of every semiring. -/
instance highByteWeight : Nat.AtLeastTwo 256 := ⟨by decide⟩

theorem word_order : (256 : Residue) * 256 = 1 := by decide

theorem wordSum_residue (bytes : List Byte) :
    (wordSum bytes : Residue) = 256 * (value bytes : Residue) := by
  induction bytes using wordSum.induct with
  | case1 => simp [wordSum]
  | case2 last => simp [wordSum, mul_comm]
  | case3 high low rest ih =>
      simp only [wordSum, value_cons, Nat.cast_add, Nat.cast_mul, Nat.cast_ofNat, ih]
      linear_combination (-(low.toNat : Residue) - 256 * (value rest : Residue)) * word_order

theorem wordSum_le (bytes : List Byte) : 2 * wordSum bytes ≤ 65535 * (bytes.length + 1) := by
  induction bytes using wordSum.induct with
  | case1 => exact Nat.zero_le _
  | case2 last =>
      have byte := last.isLt
      simp only [wordSum, List.length_singleton]
      omega
  | case3 high low rest ih =>
      have highByte := high.isLt
      have lowByte := low.isLt
      simp only [wordSum, List.length_cons]
      omega

theorem wordSum_pos {bytes : List Byte} {index : Nat} (nonzero : getByte bytes index ≠ 0) :
    0 < wordSum bytes := by
  have positive : ∀ {byte : Byte}, byte ≠ 0 → 0 < byte.toNat := by
    intro byte nonzero
    apply Nat.pos_of_ne_zero
    intro zero
    exact nonzero (BitVec.eq_of_toNat_eq zero)
  induction bytes using wordSum.induct generalizing index with
  | case1 => exact absurd rfl nonzero
  | case2 last =>
      cases index with
      | zero =>
          have byte : 0 < last.toNat := positive nonzero
          rw [wordSum]
          omega
      | succ index => exact absurd rfl nonzero
  | case3 high low rest ih =>
      rw [wordSum]
      match index with
      | 0 =>
          have byte : 0 < high.toNat := positive nonzero
          omega
      | 1 =>
          have byte : 0 < low.toNat := positive nonzero
          omega
      | later + 2 =>
          have words := @ih later nonzero
          omega

theorem weight_even {offset : Nat} (even : offset % 2 = 0) : (256 : Residue) ^ offset = 1 := by
  have halves : offset = 2 * (offset / 2) := by omega
  have square : (256 : Residue) ^ 2 = 1 := by decide
  rw [halves, pow_mul, square, one_pow]

/-- Storing 16-bit words at an even offset changes the value by the difference of
the stored numbers. -/
theorem value_store_residue {buffer : List Byte} {offset width : Nat} (even : offset % 2 = 0)
    (inside : offset + width ≤ buffer.length) {stored : Nat} (fits : stored < 256 ^ width) :
    (value (store buffer offset width stored) : Residue) =
      value buffer + stored - load buffer offset width := by
  have exchange := congrArg (Nat.cast (R := Residue)) (value_store inside stored)
  rw [Nat.mod_eq_of_lt fits] at exchange
  push_cast at exchange
  rw [weight_even even, one_mul, one_mul] at exchange
  linear_combination exchange

/-- `while (sum > 0xFFFF) sum = (sum >> 16) + (sum & 0xFFFF)`, at most `fuel` times. -/
def foldCarries : Nat → Nat → Nat
  | 0, sum => sum
  | fuel + 1, sum => if 65535 < sum then foldCarries fuel (sum / 65536 + sum % 65536) else sum

private theorem foldCarries_small {sum : Nat} (small : sum ≤ 65535) (fuel : Nat) :
    foldCarries fuel sum = sum := by
  cases fuel with
  | zero => rfl
  | succ fuel => rw [foldCarries, if_neg (by omega)]

theorem foldCarries_le {fuel sum : Nat} (enough : 2 ≤ fuel) (word : sum < 2 ^ 32) :
    foldCarries fuel sum ≤ 65535 := by
  obtain ⟨more, rfl⟩ := Nat.exists_eq_add_of_le' enough
  rw [foldCarries]
  split
  · rw [foldCarries]
    split
    · rw [foldCarries_small (by omega)]
      omega
    · omega
  · omega

/-- A 16-bit word is the one's-complement of zero, zero itself or a nonzero residue. -/
theorem residue_eq_zero {word : Nat} (bound : word ≤ 65535) :
    (word : Residue) = 0 ↔ word = 0 ∨ word = 65535 := by
  rw [ZMod.natCast_eq_zero_iff]
  omega

/-- The 16-bit words, big-endian; an odd last byte is a high byte. -/
def words : List Byte → List Nat
  | [] => []
  | [last] => [last.toNat * 256]
  | high :: low :: rest => (high.toNat * 256 + low.toNat) :: words rest

/-- A carry out of the sixteen bits goes in again at the low end. -/
def add (left right : Nat) : Nat :=
  if left + right ≤ 65535 then left + right else left + right - 65535

/-- The word that a number becomes in this arithmetic; only zero becomes zero. -/
def represent (number : Nat) : Nat := if number = 0 then 0 else (number - 1) % 65535 + 1

theorem sum_words (bytes : List Byte) : (words bytes).sum = wordSum bytes := by
  induction bytes using wordSum.induct with
  | case1 => rfl
  | case2 last => rw [words, List.sum_singleton, wordSum]
  | case3 high low rest ih => rw [words, List.sum_cons, ih, wordSum]

theorem words_le (bytes : List Byte) : ∀ word ∈ words bytes, word ≤ 65535 := by
  induction bytes using wordSum.induct with
  | case1 =>
      intro word member
      cases member
  | case2 last =>
      intro word member
      have byte := last.isLt
      rw [List.mem_singleton.mp member]
      omega
  | case3 high low rest ih =>
      intro word member
      rcases List.mem_cons.mp member with first | inRest
      · have highByte := high.isLt
        have lowByte := low.isLt
        omega
      · exact ih word inRest

theorem represent_le (number : Nat) : represent number ≤ 65535 := by
  unfold represent
  split <;> omega

theorem represent_eq_zero (number : Nat) : represent number = 0 ↔ number = 0 := by
  unfold represent
  split <;> omega

theorem represent_split (number : Nat) : ∃ turns, number = represent number + 65535 * turns := by
  refine ⟨(number - 1) / 65535, ?_⟩
  have divided := Nat.div_add_mod (number - 1) 65535
  unfold represent
  split <;> omega

theorem represent_residue (number : Nat) : (represent number : Residue) = number := by
  obtain ⟨turns, split⟩ := represent_split number
  have cast := congrArg (Nat.cast (R := Residue)) split
  have turn : ((65535 : Nat) : Residue) = 0 := by decide
  rw [cast, Nat.cast_add, Nat.cast_mul, turn, zero_mul, add_zero]

theorem represent_unique {number word turns : Nat} (small : word ≤ 65535)
    (zero : word = 0 → number = 0) (same : number = word + 65535 * turns) :
    represent number = word := by
  obtain ⟨others, split⟩ := represent_split number
  have bound := represent_le number
  have none := represent_eq_zero number
  omega

theorem represent_word {word : Nat} (small : word ≤ 65535) : represent word = word :=
  @represent_unique word word 0 small id rfl

theorem add_represent (left right : Nat) :
    add (represent left) (represent right) = represent (left + right) := by
  obtain ⟨leftTurns, leftSplit⟩ := represent_split left
  obtain ⟨rightTurns, rightSplit⟩ := represent_split right
  have leftBound := represent_le left
  have rightBound := represent_le right
  have leftZero := represent_eq_zero left
  have rightZero := represent_eq_zero right
  unfold add
  symm
  split
  · exact @represent_unique _ _ (leftTurns + rightTurns) (by omega) (by omega) (by omega)
  · exact @represent_unique _ _ (leftTurns + rightTurns + 1) (by omega) (by omega) (by omega)

theorem foldl_add {numbers : List Nat} (areWords : ∀ word ∈ numbers, word ≤ 65535) (start : Nat) :
    numbers.foldl add (represent start) = represent (start + numbers.sum) := by
  induction numbers generalizing start with
  | nil => rfl
  | cons word numbers ih =>
      have first := represent_word (areWords word List.mem_cons_self)
      rw [List.foldl_cons, ← first, add_represent,
        ih (fun other member => areWords other (List.mem_cons_of_mem word member)), first,
        List.sum_cons, Nat.add_assoc]

theorem represent_fold {sum : Nat} (large : 65535 < sum) :
    represent (sum / 65536 + sum % 65536) = represent sum := by
  obtain ⟨turns, split⟩ := represent_split (sum / 65536 + sum % 65536)
  have bound := represent_le (sum / 65536 + sum % 65536)
  have zero := represent_eq_zero (sum / 65536 + sum % 65536)
  have divided := Nat.div_add_mod sum 65536
  exact (@represent_unique sum _ (turns + sum / 65536) bound (by omega) (by omega)).symm

theorem represent_foldCarries (fuel sum : Nat) :
    represent (foldCarries fuel sum) = represent sum := by
  induction fuel generalizing sum with
  | zero => rfl
  | succ fuel ih =>
      rw [foldCarries]
      split
      · next large => rw [ih, represent_fold large]
      · rfl

theorem foldCarries_eq {fuel sum : Nat} (enough : 2 ≤ fuel) (word : sum < 2 ^ 32) :
    foldCarries fuel sum = represent sum := by
  rw [← represent_foldCarries fuel sum, represent_word (foldCarries_le enough word)]

/-- A word stored into a zeroed field at an even offset is one more word of the sum. -/
theorem wordSum_store {bytes : List Byte} {offset : Nat} (even : offset % 2 = 0)
    (inside : offset + 2 ≤ bytes.length) (zeroed : load bytes offset 2 = 0) (field : Nat) :
    wordSum (store bytes offset 2 field) =
      wordSum bytes + (field % 256 * 256 + field / 256 % 256) := by
  induction bytes using wordSum.induct generalizing offset with
  | case1 => cases inside
  | case2 last =>
      rw [List.length_singleton] at inside
      omega
  | case3 high low rest ih =>
      match offset with
      | 0 =>
          have first : high.toNat + 256 * (low.toNat + 256 * 0) = 0 := zeroed
          have stored : store (high :: low :: rest) 0 2 field =
              BitVec.ofNat 8 field :: BitVec.ofNat 8 (field / 256) :: rest := rfl
          rw [stored, wordSum, wordSum, BitVec.toNat_ofNat, BitVec.toNat_ofNat]
          omega
      | 1 => cases even
      | offset + 2 =>
          have stored : store (high :: low :: rest) (offset + 2) 2 field =
              high :: low :: store rest offset 2 field := rfl
          have later := @ih offset (by omega)
            (by rw [List.length_cons, List.length_cons] at inside; omega) zeroed
          rw [stored, wordSum, wordSum, later]
          omega

end OnesComplement
