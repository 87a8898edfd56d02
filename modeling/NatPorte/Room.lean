/-
The room of a ring slot.

`ring_push` copies a packet into a block of its own: as large as the packet, or with
OPT_HOSTID 4096 bytes whatever its size.  The guard in front of it would refuse
packets above 65535 bytes.  With OPT_HOSTID the packet may grow in place by the
option of `set_hostid`, once `addrpool_receiver` translates what it popped.
-/

import NatPorte.Hostid
import NatPorte.Ring

namespace NatPorte
namespace Room

open NatPorte.Ring Packet

/-- What the block of a packet has to hold until it is sent. -/
def needed (optHostid : Bool) (size : Nat) : Nat := if optHostid then size + 16 else size

theorem setHostid_needed (buf : Buffer) (size : Nat) :
    (Alias.setHostid buf size).2 ≤ needed true size := by
  unfold Alias.setHostid
  split
  · exact Nat.le_refl _
  · exact Nat.le_add_right size 16

/-- One push into the ring `h`, and a push of the same size through `ring_s_push`. -/
structure KeepsRoom (optHostid : Bool) (h : RingHandler) (buffer : Option (List (BitVec 8)))
    (size : Nat) (opaqueVal : BitVec 64) : Prop where
  refuses : defaultBufSize < size → ringPush optHostid h buffer size opaqueVal = (h, .err)
  refusesSlot : defaultBufSize < size → ∀ r : RingBuffer, r.size = size →
    ringSPush h r = (h, .err)
  holds : ∀ bytes, buffer = some bytes → size ≠ 0 →
    (ringPush optHostid h buffer size opaqueVal).2 = .ok →
    ∃ block, ((ringPush optHostid h buffer size opaqueVal).1.slot h.pushPoint).buffer = some block ∧
      needed optHostid size ≤ block.room

/-- One slot is left. -/
def Full (h : RingHandler) : Prop := (h.pushPoint + 1) % h.ringSize = h.popPoint

section Push

variable {optHostid : Bool} {h : RingHandler} {buffer : Option (List (BitVec 8))} {size : Nat}
  {opaqueVal : BitVec 64}

theorem ringPush_full (full : Full h) : ringPush optHostid h buffer size opaqueVal = (h, .over) := by
  rw [ringPush, rejectsSize_eq_false, if_neg Bool.false_ne_true, putSlot]
  exact if_pos full

theorem ringPush_accepted (space : ¬ Full h) : ringPush optHostid h buffer size opaqueVal =
    ({ h with
        rbuf := h.rbuf.set h.pushPoint
          (pushedSlot optHostid (h.slot h.pushPoint) buffer size opaqueVal)
        pushPoint := (h.pushPoint + 1) % h.ringSize }, .ok) := by
  rw [ringPush, rejectsSize_eq_false, if_neg Bool.false_ne_true, putSlot]
  exact if_neg space

theorem ringPush_not_refused : (ringPush optHostid h buffer size opaqueVal).2 ≠ .err := by
  intro refused
  by_cases full : Full h
  · rw [ringPush_full full] at refused
    cases refused
  · rw [ringPush_accepted full] at refused
    cases refused

theorem ringPush_block {bytes : List (BitVec 8)} (inside : h.pushPoint < h.rbuf.length)
    (space : ¬ Full h) (packet : size ≠ 0) :
    ((ringPush optHostid h (some bytes) size opaqueVal).1.slot h.pushPoint).buffer =
      some ⟨blockRoom optHostid size, bytes.take size⟩ := by
  rw [ringPush_accepted space]
  simp only
  rw [slot_set_self h h.pushPoint _ _ inside, pushedSlot, if_pos packet]

end Push

/-- Refusing and room come apart only here: a packet above the default size, and with
OPT_HOSTID an accepted one that fills its block but for less than the option. -/
theorem keeps_room_iff (optHostid : Bool) (h : RingHandler) (inside : h.pushPoint < h.rbuf.length)
    (buffer : Option (List (BitVec 8))) (size : Nat) (opaqueVal : BitVec 64) :
    KeepsRoom optHostid h buffer size opaqueVal ↔
      size ≤ defaultBufSize ∧
        (optHostid = true → buffer = none ∨ Full h ∨ size + 16 ≤ 4096) := by
  constructor
  · intro keeps
    constructor
    · by_contra large
      have refused := keeps.refuses (Nat.lt_of_not_le large)
      exact ringPush_not_refused (congrArg Prod.snd refused)
    · intro built
      cases buffer with
      | none => exact .inl rfl
      | some bytes =>
          by_cases full : Full h
          · exact .inr (.inl full)
          · refine .inr (.inr ?_)
            by_cases packet : size = 0
            · omega
            · have accepted : (ringPush optHostid h (some bytes) size opaqueVal).2 = .ok := by
                rw [ringPush_accepted full]
              obtain ⟨block, isBlock, room⟩ := keeps.holds bytes rfl packet accepted
              rw [ringPush_block inside full packet, built] at isBlock
              cases isBlock
              rw [built] at room
              exact room
  · rintro ⟨small, room⟩
    constructor
    · intro large
      omega
    · intro large
      omega
    · rintro bytes rfl packet accepted
      have space : ¬ Full h := by
        intro full
        rw [ringPush_full full] at accepted
        cases accepted
      refine ⟨_, ringPush_block inside space packet, ?_⟩
      cases optHostid with
      | false => exact Nat.le_refl size
      | true =>
          rcases room rfl with missing | full | fits
          · cases missing
          · exact absurd full space
          · exact fits

private def ring : RingHandler := ringInit (fun _ => 0) 3

private def jumbo : List (BitVec 8) := List.replicate 9000 0

theorem keeps_room_iff_short :
    KeepsRoom true ring (some [69, 0]) 2 1 ∧ KeepsRoom false ring (some jumbo) 9000 1 :=
  ⟨(keeps_room_iff true ring (by decide) (some [69, 0]) 2 1).mpr
      ⟨by decide, fun _ => .inr (.inr (by decide))⟩,
    (keeps_room_iff false ring (by decide) (some jumbo) 9000 1).mpr
      ⟨by decide, fun impossible => absurd impossible Bool.false_ne_true⟩⟩

/-- A jumbo packet is copied into 4096 bytes, and no packet is too large for the ring. -/
theorem jumbo_overruns_block :
    ¬ KeepsRoom true ring (some jumbo) 9000 1 ∧ ¬ KeepsRoom false ring none 65536 1 := by
  have space : ¬ Full ring := by
    unfold Full
    decide
  constructor
  · intro keeps
    have accepted : (ringPush true ring (some jumbo) 9000 1).2 = .ok := by
      rw [ringPush_accepted space]
    obtain ⟨block, isBlock, room⟩ := keeps.holds jumbo rfl (by decide) accepted
    rw [ringPush_block (by decide) space (by decide)] at isBlock
    cases isBlock
    exact absurd room (by decide)
  · intro keeps
    exact ringPush_not_refused (congrArg Prod.snd (keeps.refuses (by decide)))

/-- The block of a slot, if it has one, leaves the room the translation needs. -/
def Fits (optHostid : Bool) (slot : RingBuffer) : Prop :=
  ∀ block, slot.buffer = some block → needed optHostid slot.size ≤ block.room

/-- What a push stores leaves the room. -/
def LeavesRoom : Ring.Operation → Prop
  | .push (some _) size _ => size + 16 ≤ 4096
  | .sPush r => Fits true r
  | _ => True

section Translation

variable {h : RingHandler} {held slot : RingBuffer}

theorem pushedSlot_fits {buffer : Option (List (BitVec 8))} {size : Nat} {opaqueVal : BitVec 64}
    (room : LeavesRoom (.push buffer size opaqueVal)) (fits : Fits true held) :
    Fits true (pushedSlot true held buffer size opaqueVal) := by
  cases buffer with
  | none => exact fits
  | some bytes =>
      rw [pushedSlot]
      split
      · intro block isBlock
        cases isBlock
        exact room
      · exact fits

theorem fits_set (every : ∀ index, Fits true (h.slot index)) (fits : Fits true slot)
    (position other : Nat) :
    Fits true ((h.rbuf.set position slot).getD other ⟨none, 0, 0⟩) := by
  by_cases same : position = other
  · subst same
    by_cases inside : position < h.rbuf.length
    · rw [List.getD_eq_getElem?_getD, List.getElem?_set_self inside]
      exact fits
    · rw [List.set_eq_of_length_le (Nat.le_of_not_lt inside)]
      exact every position
  · rw [slot_set_other _ _ _ _ same]
    exact every other

theorem putSlot_fits (every : ∀ index, Fits true (h.slot index)) (fits : Fits true slot) :
    ∀ index, Fits true ((putSlot h slot).1.slot index) := by
  by_cases full : (h.pushPoint + 1) % h.ringSize = h.popPoint
  · rw [putSlot, if_pos full]
    exact every
  · rw [putSlot, if_neg full]
    exact fits_set every fits h.pushPoint

theorem takeSlot_fits (every : ∀ index, Fits true (h.slot index)) (onEmpty : Code) :
    (∀ index, Fits true ((takeSlot onEmpty h).1.slot index)) ∧
      ∀ item, (takeSlot onEmpty h).2.2 = some item → Fits true item := by
  by_cases empty : h.pushPoint = h.popPoint
  · rw [takeSlot, if_pos empty]
    exact ⟨every, nofun⟩
  · have cleared : Fits true ⟨none, 0, 0⟩ := by
      intro block isBlock
      cases isBlock
    rw [takeSlot, if_neg empty]
    refine ⟨fits_set every cleared h.popPoint, ?_⟩
    intro item popped
    cases popped
    exact every h.popPoint

theorem answer_fits (every : ∀ index, Fits true (h.slot index)) (call : Call)
    (room : LeavesRoom call.operation) :
    (∀ index, Fits true ((answer true h call).1.slot index)) ∧
      ∀ item, (answer true h call).2.popped = some item → Fits true item := by
  obtain ⟨thread, operation⟩ := call
  cases operation with
  | push buffer size opaqueVal =>
      simp only [answer, ringPush, rejectsSize_eq_false, Bool.false_eq_true, if_false]
      refine ⟨putSlot_fits every (pushedSlot_fits room (every h.pushPoint)), ?_⟩
      intro item popped
      cases popped
  | sPush r =>
      simp only [answer, ringSPush, rejectsSize_eq_false, Bool.false_eq_true, if_false]
      refine ⟨putSlot_fits every room, ?_⟩
      intro item popped
      cases popped
  | pop => exact takeSlot_fits every .empty
  | popCondblock => exact takeSlot_fits every .waiting

theorem trace_fits (calls : List Call) :
    ∀ h : RingHandler, (∀ index, Fits true (h.slot index)) →
      (∀ call ∈ calls, LeavesRoom call.operation) →
      ∀ given ∈ (StepSystem.trace (answer true) h calls).1, ∀ item,
        given.popped = some item → Fits true item := by
  induction calls with
  | nil =>
      intro h every room given member
      cases member
  | cons call rest ih =>
      intro h every room given member item popped
      obtain ⟨later, handed⟩ := answer_fits every call (room call List.mem_cons_self)
      rcases List.mem_cons.mp member with same | inRest
      · exact handed item (same ▸ popped)
      · exact ih _ later (fun other isCall => room other (List.mem_cons_of_mem call isCall)) given
          inRest item popped

/-- In a run whose pushes leave the room, whatever is popped can be translated in place. -/
theorem popped_translates (uninitialised : Nat → BitVec 64) (n : Nat) (calls : List Call)
    (room : ∀ call ∈ calls, LeavesRoom call.operation) (given : Answer)
    (isAnswer : given ∈ (StepSystem.trace (answer true) (ringInit uninitialised n) calls).1)
    (item : RingBuffer) (popped : given.popped = some item) (block : Block)
    (isBlock : item.buffer = some block) (buf : Buffer) :
    (Alias.setHostid buf item.size).2 ≤ block.room := by
  have empty : ∀ index, Fits true ((ringInit uninitialised n).slot index) := by
    intro index block held
    rw [RingHandler.slot, ringInit, List.getD_eq_getElem?_getD, List.getElem?_map] at held
    cases present : (List.range (if n = 0 then defaultRingSize else n))[index]? with
    | none =>
        simp only [present, Option.map_none, Option.getD_none] at held
        cases held
    | some position =>
        simp only [present, Option.map_some, Option.getD_some] at held
        cases held
  exact (setHostid_needed buf item.size).trans
    (trace_fits calls _ empty room given isAnswer item popped block isBlock)

end Translation

end Room
end NatPorte
