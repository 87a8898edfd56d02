/-
What checksum and diff_checksum of alias.h compute.

`checksum` is the complement of the one's-complement sum of the words, and the
32-bit accumulator has room for every sum the callers form.  `diff_checksum` is exact
modulo 65535 for every number of words, and its 32-bit accumulator is never left.
-/

import NatPorte.Checksum

namespace NatPorte
namespace InternetChecksum

open ByteBuffer OnesComplement Packet Checksum

/-! ### checksum -/

/-- `sum` before each round of the word loop and after the last, as unbounded numbers. -/
def accumulators : List Byte → Nat → List Nat
  | [], sum => [sum]
  | [last], sum => [sum, sum + last.toNat * 256]
  | high :: low :: rest, sum =>
      sum :: accumulators rest (sum + (high.toNat * 256 + low.toNat))

/-- The largest sum that `checksum_transport` forms over the pseudo header. -/
def maxAdjust : Nat := 4 * 0xFFFF + 255 + 65535

theorem accumulators_le (bytes : List Byte) (sum : Nat) :
    ∀ value ∈ accumulators bytes sum, value ≤ sum + wordSum bytes := by
  induction bytes, sum using accumulators.induct with
  | case1 sum =>
      intro value member
      rw [List.mem_singleton.mp member]
      exact Nat.le_add_right _ _
  | case2 last sum =>
      intro value member
      rw [wordSum]
      rcases List.mem_cons.mp member with rfl | isLast
      · exact Nat.le_add_right _ _
      · rw [List.mem_singleton.mp isLast]
  | case3 high low rest sum ih =>
      intro value member
      rw [wordSum]
      rcases List.mem_cons.mp member with rfl | later
      · exact Nat.le_add_right _ _
      · have bound := ih value later
        omega

theorem accumulators_last (bytes : List Byte) (sum : Nat) :
    (accumulators bytes sum).getLast? = some (sum + wordSum bytes) := by
  induction bytes, sum using accumulators.induct with
  | case1 sum => rfl
  | case2 last sum => rfl
  | case3 high low rest sum ih =>
      rw [accumulators, List.getLast?_cons, ih, wordSum, Option.getD_some, Nat.add_assoc]

theorem onesTotal_stored {bytes : List Byte} {adjust offset : Nat}
    (noOverflow : wordSum bytes + adjust < 2 ^ 32) (even : offset % 2 = 0)
    (inside : offset + 2 ≤ bytes.length) (zeroed : read16 bytes offset = 0) :
    onesTotal (write16 bytes offset (swap16 (checksum bytes adjust))) adjust = 0xFFFF := by
  have empty : load bytes offset 2 = 0 := by
    rw [← read16_toNat, zeroed]
    rfl
  rw [onesTotal_eq]
  exact represent_stored noOverflow even inside empty

/-- The Internet checksum of every buffer that an IP length field can name. -/
theorem checksum_exact (bytes : List Byte) (short : bytes.length ≤ 65535) (adjust : Nat)
    (small : adjust ≤ maxAdjust) :
    (∀ sum ∈ accumulators bytes 0, sum + adjust < 2 ^ 32) ∧
      (accumulators bytes 0).getLast? = some (checksumLoop bytes 0) ∧
      (∀ fuel, 2 ≤ fuel → foldCarries fuel (checksumLoop bytes 0 + adjust) =
        foldCarries 2 (checksumLoop bytes 0 + adjust)) ∧
      foldCarries 2 (checksumLoop bytes 0 + adjust) ≤ 0xFFFF ∧
      checksum bytes adjust = ~~~(BitVec.ofNat 16 (onesTotal bytes adjust)) ∧
      ∀ offset, offset % 2 = 0 → offset + 2 ≤ bytes.length → read16 bytes offset = 0 →
        onesTotal (write16 bytes offset (swap16 (checksum bytes adjust))) adjust = 0xFFFF := by
  have sumBound := wordSum_le bytes
  have adjustBound : adjust ≤ 327930 := small
  have noOverflow : wordSum bytes + adjust < 2 ^ 32 := by omega
  have loop := @checksumLoop_exact bytes (by omega)
  refine ⟨?_, ?_, ?_, ?_, checksum_eq noOverflow, ?_⟩
  · intro sum member
    have bound := accumulators_le bytes 0 sum member
    omega
  · rw [accumulators_last, loop, Nat.zero_add]
  · intro fuel enough
    rw [loop, foldCarries_eq enough noOverflow, foldCarries_eq (Nat.le_refl 2) noOverflow]
  · rw [loop]
    exact foldCarries_le (Nat.le_refl 2) noOverflow
  · intro offset even inside zeroed
    exact onesTotal_stored noOverflow even inside zeroed

/-- The start of an ICMP echo request, its checksum field zeroed. -/
private def echoRequest : List Byte := [0x08, 0x00, 0x00, 0x00, 0x56, 0x58, 0x00, 0x01, 0x50]

theorem checksum_exact_echo_request :
    onesTotal (write16 echoRequest 2 (swap16 (checksum echoRequest 0))) 0 = 0xFFFF :=
  (checksum_exact echoRequest (by decide) 0 (Nat.zero_le _)).2.2.2.2.2 2 rfl (by decide) rfl

/-! ### diff_checksum -/

/-- `accumulate` behind the loop: its magnitude, the two folds, and the complement. -/
def foldSteps (accumulate : Int) : List Int :=
  let magnitude := if accumulate < 0 then -accumulate else accumulate
  let once := magnitude / 65536 + magnitude % 65536
  let twice := once + once / 65536
  if accumulate < 0 then [magnitude, once, twice, -twice - 1] else [magnitude, once, twice]

/-- Every value of `accumulate`, as an unbounded number. -/
def diffSteps (orig aliased : BitVec 64) : Nat → Nat → Int → List Int
  | _, 0, accumulate => accumulate :: foldSteps accumulate
  | index, count + 1, accumulate =>
      accumulate :: (accumulate - word16 aliased index) ::
        diffSteps orig aliased (index + 1) count
          (accumulate - word16 aliased index + word16 orig index)

def inInt32 (value : Int) : Prop := -2 ^ 31 ≤ value ∧ value < 2 ^ 31

theorem foldSteps_inInt32 {accumulate : Int} (low : -327675 ≤ accumulate)
    (high : accumulate ≤ 327675) : ∀ value ∈ foldSteps accumulate, inInt32 value := by
  intro value member
  unfold foldSteps at member
  unfold inInt32
  simp only at member
  split at member
  · simp only [List.mem_cons, List.not_mem_nil, or_false] at member
    rcases member with rfl | rfl | rfl | rfl <;> omega
  · simp only [List.mem_cons, List.not_mem_nil, or_false] at member
    rcases member with rfl | rfl | rfl <;> omega

theorem diffSteps_inInt32 (orig aliased : BitVec 64) {index count : Nat} {accumulate : Int}
    (short : index + count ≤ 4) (low : -(65535 * index) ≤ accumulate)
    (high : accumulate ≤ 65535 * (index + 1)) :
    ∀ value ∈ diffSteps orig aliased index count accumulate, inInt32 value := by
  induction count generalizing index accumulate with
  | zero =>
      intro value member
      rcases List.mem_cons.mp member with rfl | folded
      · unfold inInt32
        omega
      · exact foldSteps_inInt32 (by omega) (by omega) value folded
  | succ count ih =>
      have origWord := word16_lt orig index
      have aliasWord := word16_lt aliased index
      intro value member
      rcases List.mem_cons.mp member with rfl | later
      · unfold inInt32
        omega
      · rcases List.mem_cons.mp later with rfl | later
        · unfold inInt32
          omega
        · exact ih (by omega) (by push_cast; omega) (by push_cast; omega) value later

theorem diffSteps_last (orig aliased : BitVec 64) (index count : Nat) (accumulate : Int) :
    (diffSteps orig aliased index count accumulate).getLast? =
      (foldSteps (diffAccumulate orig aliased index count accumulate)).getLast? := by
  induction count generalizing index accumulate with
  | zero =>
      rw [diffSteps, diffAccumulate]
      unfold foldSteps
      simp only
      split <;> rfl
  | succ count ih =>
      rw [diffSteps, diffAccumulate, ← ih, List.getLast?_cons, List.getLast?_cons]
      cases last : (diffSteps orig aliased (index + 1) count _).getLast? with
      | none =>
          have empty := List.getLast?_eq_none_iff.mp last
          cases count <;> cases empty
      | some value => rfl

/-- `~` in 32 bits and in sixteen. -/
theorem ofInt_complement (word : Nat) :
    BitVec.ofInt 16 (-(word : Int) - 1) = ~~~(BitVec.ofNat 16 word) := by
  apply BitVec.eq_of_toNat_eq
  rw [BitVec.toNat_ofInt, BitVec.toNat_not, BitVec.toNat_ofNat]
  omega

theorem diffChecksum_last (baseSum : BitVec 16) (orig aliased : BitVec 64) (count : Nat) :
    (diffSteps orig aliased 0 count baseSum.toNat).getLast?.map (BitVec.ofInt 16) =
      some (diffChecksum baseSum orig aliased count) := by
  rw [diffSteps_last, diffChecksum]
  generalize diffAccumulate orig aliased 0 count baseSum.toNat = accumulate
  unfold foldSteps foldTwice
  simp only
  split
  · next negative =>
      obtain ⟨magnitude, isMagnitude⟩ := Int.eq_ofNat_of_zero_le (show 0 ≤ -accumulate by omega)
      rw [isMagnitude, Int.toNat_natCast]
      exact congrArg some (ofInt_complement _)
  · next positive =>
      obtain ⟨magnitude, isMagnitude⟩ := Int.eq_ofNat_of_zero_le (show 0 ≤ accumulate by omega)
      rw [isMagnitude, Int.toNat_natCast]
      exact congrArg some (BitVec.ofInt_natCast 16 _)

/-- The incremental update is exact modulo 65535, in 32 bits and for all words of a
64-bit integer. -/
theorem diff_checksum_exact (baseSum : BitVec 16) (orig aliased : BitVec 64) (count : Nat)
    (short : count ≤ 4) :
    ((diffChecksum baseSum orig aliased count).toNat : ZMod 65535) =
        baseSum.toNat + wordsSum orig count - wordsSum aliased count ∧
      (∀ value ∈ diffSteps orig aliased 0 count baseSum.toNat, inInt32 value) ∧
      (diffSteps orig aliased 0 count baseSum.toNat).getLast?.map (BitVec.ofInt 16) =
        some (diffChecksum baseSum orig aliased count) := by
  have base := baseSum.isLt
  refine ⟨diffChecksum_words baseSum orig aliased short, ?_, diffChecksum_last _ _ _ _⟩
  exact diffSteps_inInt32 orig aliased (by omega) (by omega) (by omega)

theorem diff_checksum_exact_four_words :
    ((diffChecksum 1 0x0005000400030002 0xFFFFFFFFFFFFFFFF 4).toNat : ZMod 65535) =
      (1 : BitVec 16).toNat + wordsSum 0x0005000400030002 4 - wordsSum 0xFFFFFFFFFFFFFFFF 4 :=
  (diff_checksum_exact 1 0x0005000400030002 0xFFFFFFFFFFFFFFFF 4 (Nat.le_refl 4)).1

end InternetChecksum
end NatPorte
