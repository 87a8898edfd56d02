/-
Don't-fragment packets and the MTU of the link they leave on.

`is_too_big` admits a packet before `set_hostid` makes it longer, and with
`opt_hostid` leaves four bytes for that.  Sixteen are inserted.
-/

import NatPorte.UdpZero

namespace NatPorte
namespace Mtu

open ByteBuffer Structure Packet Checksum Alias TcpState Tracking Hostid

section FirstByte

variable {buf : Buffer} {size : Nat}

theorem write16_first {offset : Nat} (after : 1 ≤ offset) (field : BitVec 16) :
    getByte (write16 buf offset field) 0 = getByte buf 0 :=
  getByte_write16 (by omega) field

theorem headerLength_of_first {other : Buffer} (header : 20 ≤ headerLength buf)
    (first : getByte other 0 = getByte buf 0) : 20 ≤ headerLength other := by
  rw [headerLength_congr first]
  exact header

theorem setChecksum_first (build : Build) (header : 20 ≤ headerLength buf) :
    getByte (setChecksum build buf size) 0 = getByte buf 0 := by
  have transport : ∀ {buf : Buffer}, 20 ≤ headerLength buf →
      getByte (checksumTransport buf size) 0 = getByte buf 0 := by
    intro buf header
    simp only [checksumTransport, refreshSum]
    split
    · rw [write16_first (by omega), write16_first (by omega)]
    split
    · rw [write16_first (by omega), write16_first (by omega)]
    split
    · rw [write16_first (by omega), write16_first (by omega)]
    · rfl
  have ip : getByte (checksumIp buf 0) 0 = getByte buf 0 := by
    simp only [checksumIp, Nat.zero_add]
    rw [write16_first (by decide), write16_first (by decide)]
  unfold setChecksum
  split
  · rw [transport (headerLength_of_first header ip), ip]
  · exact transport header

theorem setDiffChecksum_first (build : Build) (header : 20 ≤ headerLength buf)
    (orig aliased : Endpoint) :
    getByte (setDiffChecksum build buf orig aliased) 0 = getByte buf 0 := by
  have transport : ∀ {buf : Buffer}, 20 ≤ headerLength buf → ∀ orig aliased,
      getByte (adjustTransportSum buf orig aliased) 0 = getByte buf 0 := by
    intro buf header orig aliased
    simp only [adjustTransportSum, adjustSum]
    split
    · exact write16_first (by omega) _
    split
    · exact write16_first (by omega) _
    · rfl
  have ip : ∀ orig aliased, getByte (adjustSum buf ipSumOffset orig aliased) 0 = getByte buf 0 :=
    fun orig aliased => write16_first (by decide) _
  simp only [setDiffChecksum]
  split
  · rw [transport (headerLength_of_first header (ip _ _)), ip]
  · exact transport header _ _

theorem rewrite_first (config : Config) (header : 20 ≤ headerLength buf) (which : End)
    (orig aliased : Endpoint) :
    getByte (rewrite config buf size which orig aliased) 0 = getByte buf 0 := by
  have address : getByte (write32 buf which.addressOffset aliased.ip) 0 = getByte buf 0 := by
    apply getByte_write32
    cases which <;> decide
  have ends : getByte (setEndpoint buf which aliased) 0 = getByte buf 0 := by
    have addressed := headerLength_of_first header address
    rw [setEndpoint, write16_first (by omega), address]
  have written := headerLength_of_first header ends
  simp only [rewrite]
  split
  · rw [setDiffChecksum_first _ written, ends]
  · rw [setChecksum_first _ written, ends]

theorem toWan_first (config : Config) (table : Table) (header : 20 ≤ headerLength buf)
    (ptr : Ptr) : getByte (toWan config table ptr buf size) 0 = getByte buf 0 :=
  rewrite_first config header .source _ _

theorem toLan_first (config : Config) (table : Table) (header : 20 ≤ headerLength buf)
    (ptr : Ptr) : getByte (toLan config table ptr buf size) 0 = getByte buf 0 :=
  rewrite_first config header .destination _ _

end FirstByte

/-- The size that `loop_divert` sends a translated packet of the LAN with. -/
def translatedSize (config : Config) (before after : Buffer) (size : Nat) : Nat :=
  if config.build.optHostid && config.optHostid then recomputedSize before after size else size

/-- A segment of a connection that the tracker has closed or reset already. -/
def Settled (table : Table) (buf : Buffer) : Prop :=
  ipP buf = ipprotoTcp ∧ ∃ ptr, lookup table .lan buf = some ptr ∧
    ((table.heap ptr).flags = .closed ∨ (table.heap ptr).flags = .reset)

section Growth

variable {config : Config} {table : Table} {buf : Buffer} {size : Nat}

theorem toWanHostid_first (header : 20 ≤ headerLength buf) (ptr : Ptr)
    (on : (config.build.optHostid && config.optHostid) = true) :
    getByte (toWanHostid config table ptr buf size) 0 =
      if ipHl buf = 5 then getByte buf 0 + 4 else getByte buf 0 := by
  unfold toWanHostid
  rw [if_pos on]
  by_cases plain : ipHl buf = 5
  · have first := @setHostid_first buf size plain
    have wide : headerLength (setHostid buf size).1 = 36 := by
      rw [headerLength, (first_widened plain first).2]
    rw [if_pos plain]
    simp only
    rw [toWan_first config table (by omega), first]
  · have same : setHostid buf size = (buf, size) := if_neg plain
    rw [if_neg plain, same]
    exact toWan_first config table header ptr

theorem recomputedSize_widened {after : Buffer} (total : size ≤ 65535) (plain : ipHl buf = 5)
    (first : getByte after 0 = getByte buf 0 + 4) : recomputedSize buf after size = size + 16 := by
  have wide := (first_widened plain first).2
  unfold recomputedSize getOptsize headerLength
  rw [plain, wide]
  omega

theorem recomputedSize_same {after : Buffer} (total : size ≤ 65535)
    (first : getByte after 0 = getByte buf 0) : recomputedSize buf after size = size := by
  have small : headerLength buf ≤ 60 := by
    unfold headerLength ipHl
    omega
  unfold recomputedSize getOptsize
  rw [headerLength_congr first]
  omega

theorem wan2lanAlias_first (now : Int) (bucket : IcmpBucket) (header : 20 ≤ headerLength buf)
    (isUdp : ipP buf = ipprotoUdp) :
    getByte (wan2lanAlias config now table bucket buf size).buf 0 = getByte buf 0 := by
  unfold wan2lanAlias
  rcases dispatch_cases config table bucket buf size .wan2lan _ _ _ with
    ⟨verdict, -, result⟩ | ⟨isTcp, -⟩ | ⟨-, result⟩ | ⟨isIcmp, -⟩
  · rw [result]
  · cases isTcp.symm.trans isUdp
  · rw [result]
    unfold wan2lanUdp
    cases findW2l table (probeWan (ipP buf) (endpoint buf .destination)) with
    | none => rfl
    | some ptr => exact toLan_first config table header ptr
  · cases isIcmp.symm.trans isUdp

theorem handed_first (now : Int) (bucket : IcmpBucket) (header : 20 ≤ headerLength buf)
    (isUdp : ipP buf = ipprotoUdp) :
    getByte (UdpZero.handed config now table bucket buf size) 0 = getByte buf 0 := by
  unfold UdpZero.handed
  split
  · exact wan2lanAlias_first now bucket header isUdp
  · rfl

theorem lan2wanTcp_first (now : Int) (bucket : IcmpBucket) (header : 20 ≤ headerLength buf)
    (isTcp : ipP buf = ipprotoTcp) (on : (config.build.optHostid && config.optHostid) = true)
    (doalias : (lan2wanTcp config now table bucket buf size).verdict = .doalias) :
    Settled table buf ∧
        getByte (lan2wanTcp config now table bucket buf size).buf 0 = getByte buf 0 ∨
      ¬Settled table buf ∧ getByte (lan2wanTcp config now table bucket buf size).buf 0 =
        if ipHl buf = 5 then getByte buf 0 + 4 else getByte buf 0 := by
  unfold lan2wanTcp at doalias ⊢
  cases self : chkSelfaddr config (ipDst buf) .lan2wan with
  | true =>
      rw [self] at doalias
      cases doalias
  | false =>
      simp only [self, Bool.false_eq_true, if_false] at doalias ⊢
      cases found : findL2w table (probeLan (ipP buf) (endpoint buf .source)) with
      | none =>
          rw [found] at doalias
          simp only at doalias
          split at doalias
          · cases doalias
          · cases doalias
      | some ptr =>
          rw [found] at doalias
          have settled : Settled table buf ↔ (table.heap ptr).flags = .closed ∨
              (table.heap ptr).flags = .reset := by
            constructor
            · intro settled
              obtain ⟨-, other, foundOther, old⟩ := settled
              cases foundOther.symm.trans found
              exact old
            · intro old
              exact ⟨isTcp, ptr, found, old⟩
          simp only at doalias ⊢
          have taken := tcpEntry_case config now table bucket buf ptr .lan2wan .resetTable
            (toWan config table ptr buf size) (toWanHostid config table ptr buf size)
          generalize tcpEntry config now table bucket buf ptr .lan2wan .resetTable
            (toWan config table ptr buf size) (toWanHostid config table ptr buf size) =
              outcome at taken doalias ⊢
          cases taken with
          | settled old => exact .inl ⟨settled.mpr old, toWan_first config table header ptr⟩
          | waiting => cases doalias
          | closing => cases doalias
          | reset => cases doalias
          | unknown => cases doalias
          | ordinary live =>
              exact .inr ⟨fun old => absurd (settled.mp old) (not_or.mpr live),
                toWanHostid_first header ptr on⟩

/-- Every translated packet gets the option if it can carry it, a settled connection's
excepted. -/
theorem lan2wanAlias_growth (now : Int) (bucket : IcmpBucket) (header : 20 ≤ headerLength buf)
    (flow : ipP buf = ipprotoTcp ∨ ipP buf = ipprotoUdp)
    (on : (config.build.optHostid && config.optHostid) = true)
    (doalias : (lan2wanAlias config now table bucket buf size).verdict = .doalias) :
    Settled table buf ∧
        getByte (lan2wanAlias config now table bucket buf size).buf 0 = getByte buf 0 ∨
      ¬Settled table buf ∧ getByte (lan2wanAlias config now table bucket buf size).buf 0 =
        if ipHl buf = 5 then getByte buf 0 + 4 else getByte buf 0 := by
  rcases flow with isTcp | isUdp
  · have passes := passes_of_goesOn config table bucket buf size .lan (by decide) doalias
    have result : lan2wanAlias config now table bucket buf size =
        lan2wanTcp config now table bucket buf size :=
      dispatch_passes config table bucket buf size .lan passes isTcp _ _ _
    rw [result] at doalias ⊢
    exact lan2wanTcp_first now bucket header isTcp on doalias
  · obtain ⟨ptr, current, -, -, result, -⟩ :=
      UdpZero.lan2wanAlias_udp config now table bucket isUdp doalias
    have first := @handed_first config table buf size now bucket header isUdp
    have sameHeader : ipHl (UdpZero.handed config now table bucket buf size) = ipHl buf := by
      rw [ipHl, first, ipHl]
    have notSettled : ¬Settled table buf := by
      intro settled
      cases settled.1.symm.trans isUdp
    refine .inr ⟨notSettled, ?_⟩
    rw [result, toWanHostid_first (headerLength_of_first header first) ptr on, sameHeader, first]

end Growth

/-- With don't-fragment honoured, a translated packet of the LAN fits the WAN link
exactly when it had no option inserted or had the sixteen bytes to spare. -/
theorem sent_fits_iff (config : Config) (now : Int) (table : Table) (bucket : IcmpBucket)
    (buf : Buffer) (size : Nat) (hostidBuild : config.build.optHostid = true)
    (honours : config.optNageteDf = false) (least : 68 ≤ config.wanIfMtu)
    (word : config.wanIfMtu < 2 ^ 64) (header : 5 ≤ ipHl buf) (total : size ≤ 65535)
    (flow : ipP buf = ipprotoTcp ∨ ipP buf = ipprotoUdp)
    (dontFragment : (swap16 (ipOff buf) &&& ipDf) ≠ 0)
    (doalias : (lan2wanAlias config now table bucket buf size).verdict = .doalias) :
    translatedSize config buf (lan2wanAlias config now table bucket buf size).buf size ≤
        config.wanIfMtu ↔
      (config.optHostid = true → ipHl buf = 5 → ¬Settled table buf →
        size + 16 ≤ config.wanIfMtu) := by
  have passes := passes_of_goesOn config table bucket buf size .lan (by decide) doalias
  have fits := passes.fits
  have marked : (swap16 (ipOff buf) &&& ipDf != 0) = true := by
    rw [bne_iff_ne]
    exact dontFragment
  have longHeader : 20 ≤ headerLength buf := Nat.mul_le_mul_right 4 header
  unfold isTooBig at fits
  rw [if_pos marked, honours] at fits
  unfold translatedSize
  cases hostid : config.optHostid with
  | false =>
      simp only [hostid, Side.direction, Bool.false_eq_true, if_false, decide_eq_false_iff_not] at fits
      simp only [Bool.and_false, Bool.false_eq_true, if_false, false_implies, iff_true]
      omega
  | true =>
      simp only [hostid, Side.direction, Bool.false_eq_true, if_false, if_true,
        decide_eq_false_iff_not] at fits
      simp only [hostidBuild, Bool.and_true, if_true, true_implies]
      have on : (config.build.optHostid && config.optHostid) = true := by
        rw [hostidBuild, hostid, Bool.and_true]
      rcases lan2wanAlias_growth now bucket longHeader flow on doalias with
        ⟨settled, first⟩ | ⟨live, first⟩
      · rw [recomputedSize_same total first]
        constructor
        · intro _ _ live
          exact absurd settled live
        · intro _
          omega
      · by_cases plain : ipHl buf = 5
        · rw [if_pos plain] at first
          rw [recomputedSize_widened total plain first]
          constructor
          · intro enough _ _
            exact enough
          · intro enough
            exact enough plain live
        · rw [if_neg plain] at first
          rw [recomputedSize_same total first]
          constructor
          · intro _ isPlain
            exact absurd isPlain plain
          · intro _
            omega

/-- The smallest link there is. -/
private def narrowConfig : Config :=
  { build := ⟨true, true, true, true⟩, optHostid := true, optNageteDf := false
    wanIfMtu := 68, lanIfMtu := 1500, lanAddr := [0x0A000001], wanAddr := [0xC6336407]
    icmpWanAddr := 0 }

private def narrowEntries : Table :=
  let lan : Endpoint := { port := 0x5000, ip := 0x0200000A }
  let wan : Endpoint := { port := 0x0010, ip := 0x076433C6 }
  { heap := fun _ =>
      { ctime := 0, atime := 0, flags := .established, timerFlags := .loop, protocol := 17
        wan := wan, lan := lan, l2wKey := packKey 17 lan, w2lKey := packKey 17 wan }
    l2w := [1], w2l := [1] }

/-- Don't-fragment datagrams of 28 and of 60 bytes. -/
private def markedDatagram (low udpLow : BitVec 8) (data : Nat) : Buffer :=
  [69, 0, 0, low, 0, 1, 0x40, 0, 64, 17, 0, 0, 10, 0, 0, 2, 192, 0, 2, 9,
    0, 80, 31, 144, 0, udpLow, 0, 0] ++ List.replicate (data + 16) 0

theorem sent_fits_iff_short :
    translatedSize narrowConfig (markedDatagram 28 8 0)
        (lan2wanAlias narrowConfig 7 narrowEntries ⟨0, 0⟩ (markedDatagram 28 8 0) 28).buf 28 ≤ 68 :=
  (sent_fits_iff narrowConfig 7 narrowEntries ⟨0, 0⟩ (markedDatagram 28 8 0) 28 rfl rfl (by decide)
    (by decide) (by decide) (by decide) (by decide) (by decide) (by decide +kernel)).mpr
    (fun _ _ _ => by decide)

/-- Sixty bytes are admitted, and seventy-six are sent. -/
theorem sent_exceeds_link :
    ¬∀ (config : Config) (now : Int) (table : Table) (bucket : IcmpBucket) (buf : Buffer)
        (size : Nat), config.build.optHostid = true → config.optNageteDf = false →
      68 ≤ config.wanIfMtu → config.wanIfMtu < 2 ^ 64 → 5 ≤ ipHl buf → size ≤ 65535 →
      (ipP buf = ipprotoTcp ∨ ipP buf = ipprotoUdp) → (swap16 (ipOff buf) &&& ipDf) ≠ 0 →
      (lan2wanAlias config now table bucket buf size).verdict = .doalias →
      translatedSize config buf (lan2wanAlias config now table bucket buf size).buf size ≤
        config.wanIfMtu := by
  intro fits
  have sent := fits narrowConfig 7 narrowEntries ⟨0, 0⟩ (markedDatagram 60 40 32) 60 rfl rfl
    (by decide) (by decide) (by decide) (by decide) (by decide) (by decide) (by decide +kernel)
  revert sent
  decide +kernel

end Mtu
end NatPorte
