/-
Path MTU discovery through the router.

A packet that `is_too_big` refuses is answered with the MTU of the WAN side less
fifty, whichever link refused it.  Discovery converges where that is smaller than
the packet and admitted by the same link.
-/

import NatPorte.FragNeeded

namespace NatPorte
namespace PathMtu

open ByteBuffer TcpState Packet Checksum Alias Tracking FragNeeded

def DontFragment (buf : Buffer) : Prop := swap16 (ipOff buf) &&& ipDf ≠ 0

/-- Ethernet and everything near it, and no option that ignores the don't-fragment bit. -/
structure Settings (config : Config) : Prop where
  wan : 576 ≤ config.wanIfMtu ∧ config.wanIfMtu ≤ 65535
  lan : 576 ≤ config.lanIfMtu ∧ config.lanIfMtu ≤ 65535
  obeys : config.optNageteDf = false

/-- The MTU of the link that packets of one side leave on. -/
def nextIfMtu (config : Config) : Side → Nat
  | .lan => config.wanIfMtu
  | .wan => config.lanIfMtu

/-- The largest packet that `is_too_big` admits. -/
def admits (config : Config) (side : Side) : Nat :=
  nextIfMtu config side - if config.optHostid then 4 else 0

/-- `ntohs(next_mtu)` -/
def nextMtu (message : Buffer) : Nat := (swap16 (read16 message (tmpSubhdr + 2))).toNat

/-- The sender that obeys the message sends less, and gets it through. -/
structure Converges (config : Config) (side : Side) (size : Nat) (message : Buffer) : Prop where
  smaller : nextMtu message < size
  admitted : ∀ (buf : Buffer) (length : Nat), DontFragment buf → length ≤ buf.length →
    length ≤ nextMtu message → isTooBig config buf length side.direction = false

section Discovery

variable {config : Config} (settings : Settings config)
include settings

theorem isTooBig_iff (side : Side) (buf : Buffer) (size : Nat) :
    isTooBig config buf size side.direction = true ↔
      DontFragment buf ∧ admits config side < size := by
  have exceeds : ∀ mtu, 576 ≤ mtu → mtu ≤ 65535 →
      ((if config.optHostid then decide ((mtu + 2 ^ 64 - 4) % 2 ^ 64 < size)
        else decide (mtu < size)) = true ↔
        mtu - (if config.optHostid then 4 else 0) < size) := by
    intro mtu low high
    cases config.optHostid with
    | true =>
        have wrapped : (mtu + 2 ^ 64 - 4) % 2 ^ 64 = mtu - 4 := by omega
        simp only [if_true, decide_eq_true_eq, wrapped]
    | false => simp only [Bool.false_eq_true, if_false, decide_eq_true_eq, Nat.sub_zero]
  unfold isTooBig DontFragment admits
  by_cases df : swap16 (ipOff buf) &&& ipDf = 0
  · simp [df]
  · simp only [bne_iff_ne, ne_eq, df, not_false_eq_true, if_true, settings.obeys,
      Bool.false_eq_true, if_false, true_and]
    cases side with
    | lan => exact exceeds _ settings.wan.1 settings.wan.2
    | wan => exact exceeds _ settings.lan.1 settings.lan.2

theorem nextMtu_made {id : BitVec 16} {buf : Buffer} {size : Nat} {message : FnPacket}
    (made : mkFnPacket config id buf size = some message) (sent : message.size ≠ 0) :
    nextMtu message.buf = config.wanIfMtu - 50 := by
  have bounds := settings.wan
  cases last : config.lanAddr.getLast? with
  | none =>
      unfold mkFnPacket at made
      simp only [last] at made
      cases made
  | some localAddr =>
      by_cases protocol : ipP buf = ipprotoTcp ∨ ipP buf = ipprotoUdp ∨ ipP buf = ipprotoIcmp
      · rw [mkFnPacket_some config id localAddr buf size protocol last] at made
        cases made
        unfold nextMtu
        rw [tmpSubhdr, message_mtu, swap16_swap16, BitVec.toNat_ofNat]
        omega
      · unfold mkFnPacket at made
        simp only [last, if_neg protocol] at made
        cases made
        exact absurd rfl sent

end Discovery

/-- Towards the WAN discovery always converges; towards the LAN it does exactly when the
WAN side's MTU less fifty fits the LAN side. -/
theorem converges_iff (config : Config) (settings : Settings config) (id : BitVec 16)
    (buf : Buffer) (size : Nat) (side : Side) (message : FnPacket) (inBuffer : size ≤ buf.length)
    (refused : isTooBig config buf size side.direction = true)
    (made : mkFnPacket config id buf size = some message) (sent : message.size ≠ 0) :
    Converges config side size message.buf ↔
      (side = .wan → config.wanIfMtu - 50 ≤ admits config .wan) := by
  obtain ⟨df, exceeds⟩ := (isTooBig_iff settings side buf size).mp refused
  have announced := nextMtu_made settings made sent
  have bounds := settings.wan
  constructor
  · intro converges towards
    subst towards
    apply Decidable.byContradiction
    intro large
    -- the refused packet itself, cut to the announced size
    have smaller := converges.smaller
    have accepted := converges.admitted buf (config.wanIfMtu - 50) df (by omega) (by omega)
    have again := (isTooBig_iff settings .wan buf (config.wanIfMtu - 50)).mpr ⟨df, by omega⟩
    rw [accepted] at again
    cases again
  · intro fits
    have within : config.wanIfMtu - 50 ≤ admits config side := by
      cases side with
      | wan => exact fits rfl
      | lan =>
          have reserve : (if config.optHostid then 4 else 0) ≤ 4 := by split <;> decide
          change config.wanIfMtu - 50 ≤ config.wanIfMtu - (if config.optHostid then 4 else 0)
          omega
    constructor
    · omega
    · intro other length _ _ short
      apply Bool.eq_false_iff.mpr
      intro tooBig
      have large := ((isTooBig_iff settings side other length).mp tooBig).2
      omega

/-- The LAN side is the narrower link. -/
private def narrowLan : Config :=
  { build := ⟨true, true, true, false⟩, optHostid := false, optNageteDf := false
    wanIfMtu := 700, lanIfMtu := 576, lanAddr := [0x0A0000FF, 0x0A000001]
    wanAddr := [0xC63364FF, 0xC6336407], icmpWanAddr := 0x076433C6 }

private theorem narrowLan_settings : Settings narrowLan where
  wan := by decide
  lan := by decide
  obeys := by decide

/-- A don't-fragment datagram from 203.0.113.5 to 198.51.100.7. -/
private def wideDatagram : Buffer :=
  [69, 0, 2, 88, 0, 1, 64, 0, 64, 17, 0, 0, 203, 0, 113, 5, 198, 51, 100, 7] ++
    List.replicate 700 0

private theorem wideDatagram_length : wideDatagram.length = 720 := by
  rw [wideDatagram, List.length_append, List.length_replicate]
  rfl

private theorem wideDatagram_made (size : Nat) : mkFnPacket narrowLan 0 wideDatagram size = some
    { size := tmpSize, buf := fnBuf narrowLan 1 0x0A000001 wideDatagram size, id := 1 } :=
  mkFnPacket_some narrowLan 0 0x0A000001 wideDatagram size (by decide) (by decide)

/-- Towards the WAN the message announces 650 bytes of 700. -/
theorem converges_iff_towards_wan :
    Converges narrowLan .lan 701 (fnBuf narrowLan 1 0x0A000001 wideDatagram 701) := by
  have inBuffer : 701 ≤ wideDatagram.length := by
    rw [wideDatagram_length]
    decide
  have settled := converges_iff narrowLan narrowLan_settings 0 wideDatagram 701 .lan _ inBuffer
    (by decide) (wideDatagram_made 701) (by decide)
  apply settled.mpr
  intro towards
  cases towards

/-- A datagram of 600 bytes is told to shrink to 650. -/
theorem announced_too_large :
    ¬∀ (config : Config) (id : BitVec 16) (buf : Buffer) (size : Nat) (side : Side)
        (message : FnPacket), Settings config → size ≤ buf.length →
      isTooBig config buf size side.direction = true →
      mkFnPacket config id buf size = some message → message.size ≠ 0 →
      Converges config side size message.buf := by
  intro claimed
  have inBuffer : 600 ≤ wideDatagram.length := by
    rw [wideDatagram_length]
    decide
  have converges := claimed narrowLan 0 wideDatagram 600 .wan _ narrowLan_settings inBuffer
    (by decide) (wideDatagram_made 600) (by decide)
  have smaller := converges.smaller
  rw [nextMtu_made narrowLan_settings (wideDatagram_made 600) (by decide)] at smaller
  revert smaller
  decide

end PathMtu
end NatPorte
