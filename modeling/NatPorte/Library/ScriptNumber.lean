/-
Integers as a scripting language computes with them.

A number is a double with 53 bits of precision; the bit operators cut their operands
to 32 bits and give back a signed number, the unsigned shift an unsigned one.
-/

import Mathlib.Data.Nat.Digits.Lemmas
import Mathlib.Data.Nat.Size

namespace ScriptNumber

/-- The place of the lowest bit that a double of this size can hold. -/
def unit (number : Nat) : Nat := 2 ^ (Nat.size number - 53)

/-- The nearest double; halfway between two, the one with an even last bit. -/
def nearest (number : Nat) : Nat :=
  let below := number / unit number
  let rest := number % unit number
  if 2 * rest < unit number ∨ 2 * rest = unit number ∧ below % 2 = 0 then below * unit number
  else (below + 1) * unit number

def double (number : Int) : Int :=
  if number < 0 then -(nearest number.natAbs : Int) else nearest number.natAbs

theorem nearest_exact {number : Nat} (small : number < 2 ^ 53) : nearest number = number := by
  have size : Nat.size number ≤ 53 := Nat.size_le.mpr small
  have one : unit number = 1 := by
    rw [unit, Nat.sub_eq_zero_of_le size, Nat.pow_zero]
  rw [nearest]
  simp only [one, Nat.mod_one, Nat.div_one, Nat.mul_one]
  rw [if_pos (.inl (by omega))]

theorem double_exact {number : Nat} (small : number < 2 ^ 53) :
    double (number : Int) = number := by
  rw [double, if_neg (by omega), Int.natAbs_natCast, nearest_exact small]

/-- The operand of a bit operator. -/
def bits (number : Int) : BitVec 32 := BitVec.ofInt 32 number

def bitAnd (left right : Int) : Int := (bits left &&& bits right).toInt

/-- `number >>> count` -/
def shiftRightZero (number : Int) (count : Nat) : Int := ((bits number) >>> (count % 32)).toNat

theorem bits_natCast (number : Nat) : (bits number).toNat = number % 2 ^ 32 := by
  rw [bits, BitVec.ofInt_natCast, BitVec.toNat_ofNat]

theorem bitAnd_mask (number : Nat) {width : Nat} (narrow : width ≤ 31) :
    bitAnd number ((2 ^ width - 1 : Nat) : Int) = (number % 2 ^ width : Nat) := by
  have bound : 2 ^ width ≤ 2 ^ 31 := Nat.pow_le_pow_right (by omega) narrow
  have divides : 2 ^ width ∣ 2 ^ 32 := Nat.pow_dvd_pow 2 (by omega)
  have positive : 0 < 2 ^ width := Nat.two_pow_pos width
  have low := Nat.mod_lt number positive
  have masked : (bits number &&& bits ((2 ^ width - 1 : Nat) : Int)).toNat =
      number % 2 ^ width := by
    have mask : (2 ^ width - 1) % 2 ^ 32 = 2 ^ width - 1 := Nat.mod_eq_of_lt (by omega)
    rw [BitVec.toNat_and, bits_natCast, bits_natCast, mask, Nat.and_two_pow_sub_one_eq_mod,
      Nat.mod_mod_of_dvd _ divides]
  rw [bitAnd, BitVec.toInt_eq_toNat_of_lt (by omega), masked]

theorem shiftRightZero_eq (number : Nat) {count : Nat} (small : count < 32) :
    shiftRightZero number count = (number % 2 ^ 32 / 2 ^ count : Nat) := by
  rw [shiftRightZero, Nat.mod_eq_of_lt small, BitVec.toNat_ushiftRight, bits_natCast,
    Nat.shiftRight_eq_div_pow]

end ScriptNumber
