/-
The checksum zero of UDP.

In UDP a checksum field of zero means that there is no checksum.  Neither
`set_diff_checksum` nor `checksum_transport` knows that: the first adjusts a
missing checksum like any other, and both store a computed zero as it is.  This
module says for which datagrams a translation keeps the meaning of the field.
-/

import NatPorte.Hostid
import NatPorte.Tracking

namespace NatPorte
namespace UdpZero

open ByteBuffer KeyedSet OnesComplement Structure Packet Checksum Alias TcpState Hostid

/-- A missing checksum stays missing or becomes right, a right one stays right
and present. -/
structure KeepsMeaning (before : Buffer) (size : Nat) (after : Buffer) (newSize : Nat) : Prop where
  missing : transportSum before = 0 → transportSum after = 0 ∨ Verifies after newSize
  present : transportSum before ≠ 0 → Verifies before size →
    transportSum after ≠ 0 ∧ Verifies after newSize

theorem KeepsMeaning.of_same {before other after : Buffer} {size otherSize newSize : Nat}
    (keeps : KeepsMeaning before size after newSize)
    (sum : transportSum other = transportSum before)
    (verifies : Verifies other otherSize ↔ Verifies before size) :
    KeepsMeaning other otherSize after newSize where
  missing := by
    rw [sum]
    exact keeps.missing
  present := by
    rw [sum, verifies]
    exact keeps.present

/-- The two 16-bit words that `diff_checksum` takes of an address plus its port. -/
def endpointWords (endpoint : Endpoint) : Int :=
  let sum := addPort (endpoint.ip.zeroExtend 64) endpoint.port
  word16 sum 0 + word16 sum 1

/-- The incremental adjustment of `sum` ends in zero. -/
def VanishesDiff (sum : BitVec 16) (orig aliased : Endpoint) : Prop :=
  let accumulate := sum.toNat + endpointWords orig - endpointWords aliased
  accumulate = 0 ∨ accumulate = -65535 ∨ accumulate = -131070

instance (sum : BitVec 16) (orig aliased : Endpoint) : Decidable (VanishesDiff sum orig aliased) :=
  inferInstanceAs (Decidable (_ ∨ _))

/-- The full computation ends in zero where the checksum was `sum` before. -/
def VanishesFull (sum : BitVec 16) (orig aliased : Endpoint) : Prop :=
  (sum.toNat + orig.ip.toNat + orig.port.toNat) % 65535 =
    (aliased.ip.toNat + aliased.port.toNat) % 65535

instance (sum : BitVec 16) (orig aliased : Endpoint) : Decidable (VanishesFull sum orig aliased) :=
  inferInstanceAs (Decidable (_ = _))

/-- The carry that `set_diff_checksum` loses. -/
def lostCarry (endpoint : Endpoint) : Residue := if Carries endpoint then 1 else 0

/-- What a datagram needs for its translation from `orig` to `aliased`.  In the
incremental build a missing checksum survives when the adjustment of zero ends in
zero, or when zero happens to be what the datagram sums up to. -/
def ZeroSafe (build : Build) (buf : Buffer) (size : Nat) (orig aliased : Endpoint) : Prop :=
  if build.diffCksum then
    if transportSum buf = 0 then
      VanishesDiff 0 orig aliased ∨
        coveredSum buf size = 256 * (lostCarry orig - lostCarry aliased)
    else
      Verifies buf size →
        (Carries orig ↔ Carries aliased) ∧ ¬VanishesDiff (transportSum buf) orig aliased
  else
    transportSum buf ≠ 0 → Verifies buf size → ¬VanishesFull (transportSum buf) orig aliased

theorem foldTwice_cases {accumulate : Nat} (bound : accumulate ≤ 196605) :
    accumulate = (foldTwice accumulate).toNat ∨
      65536 ≤ accumulate ∧ accumulate = (foldTwice accumulate).toNat + 65535 ∧
        0 < (foldTwice accumulate).toNat ∨
      131071 ≤ accumulate ∧ accumulate = (foldTwice accumulate).toNat + 131070 ∧
        0 < (foldTwice accumulate).toNat := by
  have high : accumulate / 65536 = 0 ∨ accumulate / 65536 = 1 ∨ accumulate / 65536 = 2 := by omega
  have whole := Nat.div_add_mod accumulate 65536
  have lowBound := Nat.mod_lt accumulate (show 0 < 65536 by omega)
  rw [foldTwice, BitVec.toNat_ofNat]
  generalize accumulate % 65536 = low at *
  rcases high with high | high | high
  · rw [high] at whole ⊢
    have small : (0 + low) / 65536 = 0 := by omega
    rw [small]
    omega
  · rw [high] at whole ⊢
    by_cases carry : low = 65535
    · subst carry
      omega
    · have small : (1 + low) / 65536 = 0 := by omega
      rw [small]
      omega
  · rw [high] at whole ⊢
    have small : (2 + low) / 65536 = 0 := by omega
    rw [small]
    omega

theorem foldTwice_eq_zero {accumulate : Nat} (bound : accumulate ≤ 196605) :
    foldTwice accumulate = 0 ↔ accumulate = 0 := by
  have folded := foldTwice_cases bound
  rw [← BitVec.toNat_inj]
  change _ = 0 ↔ _
  omega

theorem not_foldTwice_eq_zero {accumulate : Nat} (bound : accumulate ≤ 131070) :
    ~~~(foldTwice accumulate) = 0 ↔ accumulate = 65535 ∨ accumulate = 131070 := by
  have folded := @foldTwice_cases accumulate (by omega)
  have word := (foldTwice accumulate).isLt
  rw [← BitVec.toNat_inj, BitVec.toNat_not]
  change _ = 0 ↔ _
  omega

theorem endpointWords_bounds (endpoint : Endpoint) :
    0 ≤ endpointWords endpoint ∧ endpointWords endpoint ≤ 131070 := by
  have low := word16_lt (addPort (endpoint.ip.zeroExtend 64) endpoint.port) 0
  have high := word16_lt (addPort (endpoint.ip.zeroExtend 64) endpoint.port) 1
  simp only [endpointWords]
  omega

theorem diffChecksum_eq_zero (sum : BitVec 16) (orig aliased : Endpoint) :
    diffChecksum sum (addPort (orig.ip.zeroExtend 64) orig.port)
      (addPort (aliased.ip.zeroExtend 64) aliased.port) 2 = 0 ↔
      VanishesDiff sum orig aliased := by
  have total : diffAccumulate (addPort (orig.ip.zeroExtend 64) orig.port)
      (addPort (aliased.ip.zeroExtend 64) aliased.port) 0 2 sum.toNat =
      sum.toNat + endpointWords orig - endpointWords aliased := by
    simp only [diffAccumulate, endpointWords, Nat.zero_add]
    omega
  have sumBound := sum.isLt
  have origBounds := endpointWords_bounds orig
  have aliasBounds := endpointWords_bounds aliased
  simp only [diffChecksum, total, VanishesDiff]
  split
  · rw [not_foldTwice_eq_zero (by omega)]
    omega
  · rw [foldTwice_eq_zero (by omega)]
    omega

section Rewritten

variable {buf : Buffer} {size : Nat}

theorem transportSum_ipSum (packet : TransportPacket buf size) (field : BitVec 16) :
    transportSum (write16 buf ipSumOffset field) = transportSum buf := by
  have inside := packet.sum_inside
  have header := packet.headerLength_ge
  have samePlace : transportSumAt (write16 buf ipSumOffset field) = transportSumAt buf :=
    transportSumAt_congr (getByte_write16 (by decide) field) (getByte_write16 (by decide) field)
  rw [transportSum, samePlace]
  apply read16_congr
  intro position low high
  exact getByte_write16 (by rw [ipSumOffset]; omega) field

theorem transportSum_setEndpoint (packet : TransportPacket buf size) (which : End)
    (new : Endpoint) : transportSum (setEndpoint buf which new) = transportSum buf := by
  have inside := packet.sum_inside
  have header := packet.headerLength_ge
  have place : which.addressOffset ≤ 16 ∧ which.portOffset ≤ 2 := by cases which <;> decide
  have addressed : headerLength (write32 buf which.addressOffset new.ip) = headerLength buf := by
    apply headerLength_congr
    apply getByte_write32
    cases which <;> decide
  rw [transportSum, (setEndpoint_header which new packet).2]
  apply read16_congr
  intro position low high
  rw [setEndpoint, addressed, getByte_write16 (by omega), getByte_write32 (by omega)]

theorem transportSum_setDiffChecksum (build : Build) (packet : TransportPacket buf size)
    (orig aliased : Endpoint) :
    transportSum (setDiffChecksum build buf orig aliased) =
      diffChecksum (transportSum buf) (addPort (orig.ip.zeroExtend 64) orig.port)
        (addPort (aliased.ip.zeroExtend 64) aliased.port) 2 := by
  have adjusted : ∀ {before : Buffer}, TransportPacket before size → ∀ orig aliased,
      transportSum (adjustTransportSum before orig aliased) =
        diffChecksum (transportSum before) orig aliased 2 := by
    intro before beforePacket orig aliased
    have inside := beforePacket.sum_inside
    have inBuffer := beforePacket.inBuffer
    have place := (OnlySums.transportSum before
      (diffChecksum (read16 before (transportSumAt before)) orig aliased 2)).samePlace beforePacket
    rw [adjustTransportSum_eq beforePacket, adjustSum, transportSum, place,
      read16_write16 (by omega), transportSum]
  simp only [setDiffChecksum]
  split
  · rw [adjustSum, adjusted (packet.write16 (by decide) _), transportSum_ipSum packet]
  · exact adjusted packet _ _

theorem coveredRest_setEndpoint (packet : TransportPacket buf size) (which : End)
    (new : Endpoint) :
    coveredRest (setEndpoint buf which new) size = coveredRest buf size +
      256 * ((new.ip.toNat + new.port.toNat) -
        ((endpoint buf which).ip.toNat + (endpoint buf which).port.toNat) : Residue) := by
  rw [coveredRest, coveredRest, coveredSum_setEndpoint packet, transportSum_setEndpoint packet]
  ring

theorem setChecksum_full (build : Build) (packet : TransportPacket buf size)
    (total : size < 2 ^ 17) :
    coveredSum (setChecksum build buf size) size = 0 ∧
      (transportSum (setChecksum build buf size) = 0 ↔ coveredRest buf size = 0) := by
  rw [setChecksum]
  split
  · have cleared : TransportPacket (write16 buf ipSumOffset 0) size := packet.write16 (by decide) 0
    have refreshed : TransportPacket (checksumIp buf 0) size := by
      simp only [checksumIp, Nat.zero_add]
      exact cleared.write16 (by decide) _
    have rest : coveredRest (checksumIp buf 0) size = coveredRest buf size := by
      simp only [checksumIp, Nat.zero_add]
      rw [coveredRest_ipSum cleared, coveredRest_ipSum packet]
    rw [transportSum_checksumTransport refreshed total, rest]
    exact ⟨coveredSum_checksumTransport refreshed total, Iff.rfl⟩
  · exact ⟨coveredSum_checksumTransport packet total, transportSum_checksumTransport packet total⟩

end Rewritten

section Translation

variable {buf : Buffer} {size : Nat} (config : Config) (which : End) (aliased : Endpoint)

theorem rewrite_packet (packet : TransportPacket buf size) (orig : Endpoint) :
    TransportPacket (rewrite config buf size which orig aliased) size :=
  (rewrite_only config which orig aliased packet).packet (packet.setEndpoint which aliased)

private theorem rewrite_diff (diff : config.build.diffCksum = true)
    (packet : TransportPacket buf size) (total : size < 2 ^ 17) :
    (transportSum (rewrite config buf size which (endpoint buf which) aliased) = 0 ↔
      VanishesDiff (transportSum buf) (endpoint buf which) aliased) ∧
    (Verifies (rewrite config buf size which (endpoint buf which) aliased) size ↔
      coveredSum buf size = 256 * (lostCarry (endpoint buf which) - lostCarry aliased)) := by
  have written := packet.setEndpoint which aliased
  rw [verifies_iff (rewrite_packet config which aliased packet _) total]
  simp only [rewrite, diff, if_true]
  rw [transportSum_setDiffChecksum _ written, transportSum_setEndpoint packet,
    diffChecksum_eq_zero, coveredSum_setDiffChecksum _ written, coveredSum_setEndpoint packet]
  refine ⟨Iff.rfl, ?_⟩
  rw [← sub_eq_zero (b := 256 * (lostCarry (endpoint buf which) - lostCarry aliased)), lostCarry,
    lostCarry]
  refine iff_of_eq (congrArg (fun sum : Residue => sum = 0) ?_)
  ring

private theorem rewrite_full (full : config.build.diffCksum = false)
    (packet : TransportPacket buf size) (total : size < 2 ^ 17) :
    (transportSum (rewrite config buf size which (endpoint buf which) aliased) = 0 ↔
      coveredSum buf size =
        256 * ((transportSum buf).toNat + ((endpoint buf which).ip.toNat +
          (endpoint buf which).port.toNat) - (aliased.ip.toNat + aliased.port.toNat))) ∧
    Verifies (rewrite config buf size which (endpoint buf which) aliased) size := by
  have written := packet.setEndpoint which aliased
  rw [verifies_iff (rewrite_packet config which aliased packet _) total]
  simp only [rewrite, full, Bool.false_eq_true, if_false]
  obtain ⟨covered, zero⟩ := setChecksum_full config.build written total
  refine ⟨?_, covered⟩
  rw [zero, coveredRest_setEndpoint packet, coveredRest, ← sub_eq_zero (a := coveredSum buf size)]
  refine iff_of_eq (congrArg (fun sum : Residue => sum = 0) ?_)
  ring

theorem vanishesFull_iff (sum : BitVec 16) (orig : Endpoint) :
    VanishesFull sum orig aliased ↔
      (0 : Residue) = 256 * (sum.toNat + (orig.ip.toNat + orig.port.toNat) -
        (aliased.ip.toNat + aliased.port.toNat)) := by
  have residues : VanishesFull sum orig aliased ↔
      ((sum.toNat + orig.ip.toNat + orig.port.toNat : Nat) : Residue) =
        (aliased.ip.toNat + aliased.port.toNat : Nat) :=
    (ZMod.natCast_eq_natCast_iff' _ _ 65535).symm
  rw [residues]
  push_cast
  constructor
  · intro same
    linear_combination (-256 : Residue) * same
  · intro vanishes
    linear_combination (-256 : Residue) * vanishes - ((sum.toNat : Residue) +
      (orig.ip.toNat + orig.port.toNat) - (aliased.ip.toNat + aliased.port.toNat)) * word_order

/-- Exactly when an endpoint can be overwritten without changing what the checksum
field says. -/
theorem keepsMeaning_rewrite (packet : TransportPacket buf size) (total : size < 2 ^ 17) :
    KeepsMeaning buf size (rewrite config buf size which (endpoint buf which) aliased) size ↔
      ZeroSafe config.build buf size (endpoint buf which) aliased := by
  have verifies := verifies_iff packet total
  rw [ZeroSafe]
  cases build : config.build.diffCksum with
  | true =>
      obtain ⟨zero, covered⟩ := rewrite_diff config which aliased build packet total
      rw [if_pos rfl]
      by_cases missing : transportSum buf = 0
      · rw [if_pos missing]
        rw [missing] at zero
        constructor
        · intro keeps
          exact (keeps.missing missing).imp zero.mp covered.mp
        · intro safe
          exact ⟨fun _ => safe.imp zero.mpr covered.mpr, fun present => absurd missing present⟩
      · have carries : Verifies buf size → (Verifies
            (rewrite config buf size which (endpoint buf which) aliased) size ↔
              (Carries (endpoint buf which) ↔ Carries aliased)) := by
          intro right
          rw [covered, verifies.mp right, lostCarry, lostCarry]
          by_cases orig : Carries (endpoint buf which) <;> by_cases new : Carries aliased <;>
            simp only [orig, new, if_true, if_false, iff_self, iff_false, false_iff, not_true] <;>
            decide
        rw [if_neg missing]
        constructor
        · intro keeps right
          obtain ⟨present, again⟩ := keeps.present missing right
          exact ⟨(carries right).mp again, fun vanishes => present (zero.mpr vanishes)⟩
        · intro safe
          refine ⟨fun absent => absurd absent missing, ?_⟩
          intro _ right
          obtain ⟨agree, present⟩ := safe right
          exact ⟨fun vanishes => present (zero.mp vanishes), (carries right).mpr agree⟩
  | false =>
      obtain ⟨zero, again⟩ := rewrite_full config which aliased build packet total
      rw [if_neg Bool.false_ne_true]
      have vanishes : Verifies buf size →
          (transportSum (rewrite config buf size which (endpoint buf which) aliased) = 0 ↔
            VanishesFull (transportSum buf) (endpoint buf which) aliased) := by
        intro right
        rw [zero, verifies.mp right, vanishesFull_iff]
      constructor
      · intro keeps missing right vanished
        exact (keeps.present missing right).1 ((vanishes right).mpr vanished)
      · intro safe
        refine ⟨fun _ => .inr again, ?_⟩
        intro missing right
        exact ⟨fun vanished => safe missing right ((vanishes right).mp vanished), again⟩

theorem keepsMeaning_toWan (table : Table) (ptr : Ptr) (packet : TransportPacket buf size)
    (total : size < 2 ^ 17) (source : endpoint buf .source = (table.heap ptr).lan) :
    KeepsMeaning buf size (toWan config table ptr buf size) size ↔
      ZeroSafe config.build buf size (table.heap ptr).lan (table.heap ptr).wan := by
  have exactly := keepsMeaning_rewrite config .source (table.heap ptr).wan packet total
  rw [source] at exactly
  exact exactly

theorem keepsMeaning_toLan (table : Table) (ptr : Ptr) (packet : TransportPacket buf size)
    (total : size < 2 ^ 17) (destination : endpoint buf .destination = (table.heap ptr).wan) :
    KeepsMeaning buf size (toLan config table ptr buf size) size ↔
      ZeroSafe config.build buf size (table.heap ptr).wan (table.heap ptr).lan := by
  have exactly := keepsMeaning_rewrite config .destination (table.heap ptr).lan packet total
  rw [destination] at exactly
  exact exactly

end Translation

section Hostid

variable {buf : Buffer} {size : Nat}

/-- The size of what `lan2wan_alias` sends. -/
def sentSize (config : Config) (buf : Buffer) (size : Nat) : Nat :=
  if config.build.optHostid && config.optHostid then (setHostid buf size).2 else size

theorem keepsMeaning_toWanHostid (config : Config) (table : Table) (ptr : Ptr)
    (packet : TransportPacket buf size) (udp : ipP buf = ipprotoUdp) (total : size ≤ 65535)
    (source : endpoint buf .source = (table.heap ptr).lan) :
    KeepsMeaning buf size (toWanHostid config table ptr buf size) (sentSize config buf size) ↔
      ZeroSafe config.build buf size (table.heap ptr).lan (table.heap ptr).wan := by
  rw [toWanHostid, sentSize]
  split
  · by_cases plain : ipHl buf = 5
    · obtain ⟨widened, grown⟩ := setHostid_widened plain packet.size_ge packet.inBuffer
      obtain ⟨widePacket, covered, sum, wideSource⟩ := widened.same packet plain udp
      have verifies : Verifies (setHostid buf size).1 (size + 16) ↔ Verifies buf size := by
        rw [verifies_iff widePacket (by omega), verifies_iff packet (by omega), covered]
      have exactly := keepsMeaning_toWan config table ptr widePacket (by omega)
        ((wideSource .source).trans source)
      rw [ZeroSafe, covered, sum, verifies, ← ZeroSafe] at exactly
      rw [← exactly]
      rw [← grown] at verifies ⊢
      generalize setHostid buf size = wide at *
      obtain ⟨wideBuf, wideSize⟩ := wide
      constructor
      · intro keeps
        exact keeps.of_same sum verifies
      · intro keeps
        exact keeps.of_same sum.symm verifies.symm
    · simp only [setHostid, if_neg plain]
      exact keepsMeaning_toWan config table ptr packet (by omega) source
  · exact keepsMeaning_toWan config table ptr packet (by omega) source

end Hostid

/-- What `lan2wan_alias` translates: a packet to the router's LAN side has been
through `wan2lan_alias` before. -/
def handed (config : Config) (now : Int) (table : Table) (bucket : IcmpBucket) (buf : Buffer)
    (size : Nat) : Buffer :=
  if chkSelfaddr config (ipDst buf) .lan2wan then
    (wan2lanAlias config now table bucket buf size).buf
  else buf

section Alias

variable (config : Config) (now : Int) (table : Table) (bucket : IcmpBucket) {buf : Buffer}
  {size : Nat}

theorem toLan_source (ptr : Ptr) (packet : TransportPacket buf size) :
    ipP (toLan config table ptr buf size) = ipP buf ∧
      endpoint (toLan config table ptr buf size) .source = endpoint buf .source := by
  have framed := (toLan_spec config table buf size packet ptr).2
  constructor
  · exact framed.protocol buf size packet
  · exact framed.otherEnd buf size packet (by decide)

theorem lan2wanAlias_udp (isUdp : ipP buf = ipprotoUdp)
    (doalias : (lan2wanAlias config now table bucket buf size).verdict = .doalias) :
    ∃ ptr current, SameMappings table current ∧
      findL2w current (probeLan (ipP buf) (endpoint buf .source)) = some ptr ∧
      (lan2wanAlias config now table bucket buf size).buf =
        toWanHostid config current ptr (handed config now table bucket buf size) size ∧
      (chkSelfaddr config (ipDst buf) .lan2wan = true →
        (wan2lanAlias config now table bucket buf size).verdict = .doalias) := by
  have passes := Tracking.passes_of_goesOn config table bucket buf size .lan (by decide) doalias
  have result : lan2wanAlias config now table bucket buf size =
      lan2wanUdp config now table bucket buf size :=
    Tracking.dispatch_udp config table bucket buf size .lan passes isUdp _ _ _
  rw [result] at doalias ⊢
  simp only [lan2wanUdp] at doalias ⊢
  cases self : chkSelfaddr config (ipDst buf) .lan2wan with
  | true =>
      have same := wan2lanAlias_same config now table bucket buf size
      simp only [self, if_true] at doalias
      simp only [if_true, handed, self]
      split at doalias
      · cases doalias
      · next hairpin =>
          rw [if_neg hairpin]
          cases found : findL2w (wan2lanAlias config now table bucket buf size).table
            (probeLan (ipP buf) (endpoint buf .source)) with
          | none =>
              rw [found] at doalias
              cases doalias
          | some ptr =>
              exact ⟨ptr, _, same, found, rfl, fun _ => Decidable.not_not.mp hairpin⟩
  | false =>
      simp only [self, Bool.false_eq_true, if_false] at doalias
      simp only [Bool.false_eq_true, if_false, handed, self]
      cases found : findL2w table (probeLan (ipP buf) (endpoint buf .source)) with
      | none =>
          rw [found] at doalias
          cases doalias
      | some ptr => exact ⟨ptr, table, .refl table, found, rfl, by simp⟩

end Alias

/-- Every translation of a UDP datagram through an entry keeps the meaning of the
checksum field exactly when the datagram is safe for it. -/
theorem udp_zero_keeps_meaning (config : Config) (now : Int) (table : Table) (bucket : IcmpBucket)
    (buf : Buffer) (size : Nat) (inv : TableInv table) (packet : TransportPacket buf size)
    (isUdp : ipP buf = ipprotoUdp) (total : size ≤ 65535) :
    ((wan2lanAlias config now table bucket buf size).verdict = .doalias →
      ∃ ptr ∈ table.l2w, (table.heap ptr).wan = endpoint buf .destination ∧
        (KeepsMeaning buf size (wan2lanAlias config now table bucket buf size).buf size ↔
          ZeroSafe config.build buf size (table.heap ptr).wan (table.heap ptr).lan)) ∧
    ((lan2wanAlias config now table bucket buf size).verdict = .doalias →
      ∃ ptr ∈ table.l2w, (table.heap ptr).lan = endpoint buf .source ∧
        (chkSelfaddr config (ipDst buf) .lan2wan = true →
          (wan2lanAlias config now table bucket buf size).verdict = .doalias) ∧
        (KeepsMeaning (handed config now table bucket buf size) size
            (lan2wanAlias config now table bucket buf size).buf
            (sentSize config (handed config now table bucket buf size) size) ↔
          ZeroSafe config.build (handed config now table bucket buf size) size
            (table.heap ptr).lan (table.heap ptr).wan)) := by
  constructor
  · intro doalias
    obtain ⟨ptr, found, result⟩ :=
      wan2lanAlias_doalias config now table bucket buf size packet doalias
    obtain ⟨member, -, wan⟩ := (findW2l_eq_some inv).mp found
    rw [result]
    exact ⟨ptr, member, wan, keepsMeaning_toLan config table ptr packet (by omega) wan.symm⟩
  · intro doalias
    obtain ⟨ptr, current, same, found, result, hairpin⟩ :=
      lan2wanAlias_udp config now table bucket isUdp doalias
    obtain ⟨member, -, lan⟩ := (findL2w_eq_some (same.inv inv)).mp found
    rw [same.l2w] at member
    have sameLan := same.lan ptr
    rw [result]
    refine ⟨ptr, member, sameLan.symm.trans lan, hairpin, ?_⟩
    have source : ipP (handed config now table bucket buf size) = ipprotoUdp ∧
        TransportPacket (handed config now table bucket buf size) size ∧
        endpoint (handed config now table bucket buf size) .source = endpoint buf .source := by
      rw [handed]
      split
      · next self =>
          obtain ⟨inner, -, translated⟩ :=
            wan2lanAlias_doalias config now table bucket buf size packet (hairpin self)
          obtain ⟨protocol, source⟩ := toLan_source config table inner packet
          rw [translated]
          exact ⟨protocol.trans isUdp, rewrite_packet config .destination _ packet _, source⟩
      · exact ⟨isUdp, packet, rfl⟩
    have exactly := keepsMeaning_toWanHostid config current ptr source.2.1 source.1 total
      (source.2.2.trans lan.symm)
    rw [sameLan, same.wan ptr] at exactly
    exact exactly

private def datagramConfig (diffCksum : Bool) : Config :=
  { build := ⟨true, diffCksum, true, false⟩, optHostid := false, optNageteDf := false
    wanIfMtu := 1500, lanIfMtu := 1500, lanAddr := [0x0A000001], wanAddr := [0xC6336407]
    icmpWanAddr := 0 }

private def datagramEntries : Table :=
  let lan : Endpoint := { port := 0x5000, ip := 0x0200000A }
  let wan : Endpoint := { port := 0x0010, ip := 0x076433C6 }
  { heap := fun _ =>
      { ctime := 0, atime := 0, flags := .established, timerFlags := .loop, protocol := 17
        wan := wan, lan := lan, l2wKey := packKey 17 lan, w2lKey := packKey 17 wan }
    l2w := [1], w2l := [1] }

private theorem datagramEntries_inv : TableInv datagramEntries where
  sameNodes _ := Iff.rfl
  keyed := by decide
  distinctL2w := List.nodup_singleton _
  distinctW2l := List.nodup_singleton _

/-- A datagram without a checksum. -/
private def unsummed : Buffer :=
  [69, 0, 0, 30, 0, 1, 0, 0, 64, 17, 174, 195, 10, 0, 0, 2, 192, 0, 2, 9,
    0, 80, 31, 144, 0, 10, 0, 0, 0, 0]

/-- A datagram whose checksum is zero once it comes from 198.51.100.7 port 4096. -/
private def summed : Buffer :=
  [69, 0, 0, 30, 0, 1, 0, 0, 64, 17, 174, 195, 10, 0, 0, 2, 192, 0, 2, 9,
    0, 80, 31, 144, 0, 10, 47, 233, 228, 5]

private theorem unsummed_transport : TransportPacket unsummed 30 where
  version := by decide
  header := by decide
  transport := by decide
  inBuffer := by decide

theorem udp_zero_keeps_meaning_unsummed :
    ∃ ptr ∈ datagramEntries.l2w, (datagramEntries.heap ptr).lan = endpoint unsummed .source ∧
      KeepsMeaning unsummed 30
        (lan2wanAlias (datagramConfig false) 7 datagramEntries ⟨0, 0⟩ unsummed 30).buf 30 := by
  have forwarded :=
    (udp_zero_keeps_meaning (datagramConfig false) 7 datagramEntries ⟨0, 0⟩ unsummed 30
      datagramEntries_inv unsummed_transport (by decide) (by decide)).2
  obtain ⟨ptr, member, lan, -, exactly⟩ := forwarded (by decide)
  refine ⟨ptr, member, lan, exactly.mpr ?_⟩
  intro present
  exact absurd (show transportSum unsummed = 0 by decide) present

/-- The incremental build gives the first datagram a wrong checksum; the full build
leaves the second one without any. -/
theorem udp_zero_changes_meaning :
    ¬KeepsMeaning unsummed 30
        (lan2wanAlias (datagramConfig true) 7 datagramEntries ⟨0, 0⟩ unsummed 30).buf 30 ∧
      ¬KeepsMeaning summed 30
        (lan2wanAlias (datagramConfig false) 7 datagramEntries ⟨0, 0⟩ summed 30).buf 30 := by
  constructor
  · intro keeps
    have claimed := keeps.missing (by decide)
    revert claimed
    decide
  · intro keeps
    have claimed := (keeps.present (by decide) (by decide)).1
    revert claimed
    decide

end UdpZero
end NatPorte
