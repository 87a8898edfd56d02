/-
Refused packets.

A packet that is answered with one of the refusing verdicts should leave the
buffer, the table and the ICMP bucket alone.  Every refusing path returns before
it writes, except the one that asks the tracker first: `wan2lan_alias` stores the
tracker's answer in the entry and then drops a segment whose answer was unknown.
-/

import NatPorte.Tracking

namespace NatPorte
namespace Refusals

open TcpState Structure Packet Checksum Alias Tracking

structure Untouched (table : Table) (bucket : IcmpBucket) (buf : Buffer) (outcome : Outcome) :
    Prop where
  table : outcome.table = table
  bucket : outcome.bucket = bucket
  buf : outcome.buf = buf

/-- The flags of which a WAN segment has to carry one in each waiting state. -/
def awaitedFromWan : TcpFlag → Option (BitVec 8)
  | .synSent => some thSyn
  | .synackRecived | .closingW2l => some thAck
  | .finWaitW2l | .finackWaitW2l => some (thAck ||| thFin)
  | _ => none

def Unexpected (tflag : TcpFlag) (pflag : BitVec 8) : Prop :=
  anyOf pflag thRst = false ∧ ∃ awaited ∈ awaitedFromWan tflag, anyOf pflag awaited = false

/-- A WAN segment resolves to an entry whose state it does not fit. -/
def OutOfState (config : Config) (table : Table) (buf : Buffer) (size : Nat) : Prop :=
  ∃ ptr, Tracked config table .wan buf size ptr ∧ Unexpected (table.heap ptr).flags (thFlags buf)

section Flags

variable {tflag : TcpFlag} {pflag : BitVec 8}

theorem anyOf_or (first second : BitVec 8) :
    anyOf pflag (first ||| second) = false ↔
      anyOf pflag first = false ∧ anyOf pflag second = false := by
  simp only [anyOf, BitVec.and_or_distrib_left, bne_eq_false_iff_eq]
  exact BitVec.or_eq_zero_iff

theorem allOf_syn_ack_missing (missing : anyOf pflag thAck = false) :
    allOf pflag (thSyn ||| thAck) = false := by
  apply Bool.eq_false_iff.mpr
  intro both
  have acked := ((allOf_syn_ack ⟨.wan, pflag⟩).mp both).2
  rw [Segment.Ack, missing] at acked
  cases acked

theorem tcpStateCheck_wan_settled
    (live : tflag ≠ .closed ∧ tflag ≠ .reset ∧ tflag ≠ .unknown)
    (anything : awaitedFromWan tflag = none) :
    tcpStateCheck tflag pflag .wan2lan ≠ .unknown := by
  cases tflag with
  | established =>
      simp only [tcpStateCheck]
      split
      · simp
      · split <;> simp
  | finackWaitL2w | closingL2w | finWaitL2w =>
      simp only [tcpStateCheck]
      split <;> simp
  | closed => exact absurd rfl live.1
  | reset => exact absurd rfl live.2.1
  | unknown => exact absurd rfl live.2.2
  | synSent | synackRecived | finWaitW2l | finackWaitW2l | closingW2l => cases anything

theorem tcpStateCheck_wan_awaiting {awaited : BitVec 8}
    (waits : awaitedFromWan tflag = some awaited) :
    tcpStateCheck tflag pflag .wan2lan = .unknown ↔
      anyOf pflag thRst = false ∧ anyOf pflag awaited = false := by
  cases rst : anyOf pflag thRst with
  | true =>
      cases tflag <;> simp [awaitedFromWan, tcpStateCheck, rst] at waits ⊢
  | false =>
      cases tflag with
      | synSent =>
          cases waits
          cases syn : anyOf pflag thSyn <;> simp [tcpStateCheck, rst, syn]
      | synackRecived =>
          cases waits
          cases ack : anyOf pflag thAck with
          | true => cases both : allOf pflag (thSyn ||| thAck) <;> simp [tcpStateCheck, rst, ack, both]
          | false => simp [tcpStateCheck, rst, ack, allOf_syn_ack_missing ack]
      | finWaitW2l =>
          cases waits
          cases either : anyOf pflag (thAck ||| thFin) with
          | true => cases first : anyOf pflag thAck && !allOf pflag thFin <;>
              simp [tcpStateCheck, rst, either, first]
          | false =>
              obtain ⟨ack, fin⟩ := (anyOf_or thAck thFin).mp either
              simp [tcpStateCheck, rst, either, ack]
      | finackWaitW2l =>
          cases waits
          rw [anyOf_or]
          cases fin : anyOf pflag thFin <;> cases ack : anyOf pflag thAck <;>
            simp [tcpStateCheck, rst, fin, ack]
      | closingW2l =>
          cases waits
          cases ack : anyOf pflag thAck <;> simp [tcpStateCheck, rst, ack]
      | established | closed | reset | unknown | finackWaitL2w | closingL2w | finWaitL2w =>
          cases waits

theorem tcpStateCheck_wan_unknown
    (live : tflag ≠ .closed ∧ tflag ≠ .reset ∧ tflag ≠ .unknown) :
    tcpStateCheck tflag pflag .wan2lan = .unknown ↔ Unexpected tflag pflag := by
  rw [Unexpected]
  cases waits : awaitedFromWan tflag with
  | none =>
      constructor
      · intro lost
        exact absurd lost (tcpStateCheck_wan_settled live waits)
      · intro unexpected
        obtain ⟨-, awaited, found, -⟩ := unexpected
        cases found
  | some awaited =>
      rw [tcpStateCheck_wan_awaiting waits]
      constructor
      · intro missing
        exact ⟨missing.1, awaited, rfl, missing.2⟩
      · intro unexpected
        obtain ⟨rst, other, found, missing⟩ := unexpected
        cases found
        exact ⟨rst, missing⟩

end Flags

/-- A refusal leaves everything alone; any other answer may write. -/
def Harmless (table : Table) (bucket : IcmpBucket) (buf : Buffer) (outcome : Outcome) : Prop :=
  outcome.verdict.Stops → Untouched table bucket buf outcome

section Paths

variable (config : Config) (now : Int) (table : Table) (bucket : IcmpBucket) (buf : Buffer)
  (size : Nat)

theorem harmless_stopped (verdict : Verdict) :
    Harmless table bucket buf
      { verdict := verdict, table := table, bucket := bucket, buf := buf } :=
  fun _ => ⟨rfl, rfl, rfl⟩

theorem harmless_doalias {outcome : Outcome} (doalias : outcome.verdict = .doalias) :
    Harmless table bucket buf outcome := by
  intro stops
  exact absurd doalias (stops.ne (by decide))

theorem setFlags_same {ptr : Ptr} {flags : TcpFlag} (same : (table.heap ptr).flags = flags) :
    setFlags table ptr flags = table := by
  have heap : (setFlags table ptr flags).heap = table.heap := by
    funext other
    by_cases self : other = ptr
    · subst self
      rw [setFlags, Table.store_heap_self, ← same]
    · rw [setFlags, table.store_heap_other ptr other _ self]
  exact congrArg (fun memory => { table with heap := memory }) heap

theorem tcpEntry_stops {ptr : Ptr} {direction : AliasFrom} {onUnknown : Verdict}
    {translated ordinary : Buffer}
    (stops : (tcpEntry config now table bucket buf ptr direction onUnknown translated
      ordinary).verdict.Stops) :
    onUnknown.Stops ∧ (table.heap ptr).flags ≠ .closed ∧ (table.heap ptr).flags ≠ .reset ∧
      tcpStateCheck (table.heap ptr).flags (thFlags buf) direction = .unknown ∧
      tcpEntry config now table bucket buf ptr direction onUnknown translated ordinary =
        { verdict := onUnknown, table := setFlags table ptr .unknown, bucket := bucket
          buf := buf } := by
  have taken := tcpEntry_case config now table bucket buf ptr direction onUnknown translated
    ordinary
  generalize tcpEntry config now table bucket buf ptr direction onUnknown translated ordinary =
    outcome at taken stops ⊢
  cases taken with
  | settled => simp [Verdict.Stops] at stops
  | waiting => simp [Verdict.Stops] at stops
  | closing => simp [Verdict.Stops] at stops
  | reset => simp [Verdict.Stops] at stops
  | unknown live lost =>
      rw [lost]
      rw [nextFlags, if_neg live.1, if_neg live.2] at lost
      exact ⟨stops, live.1, live.2, lost, rfl⟩
  | ordinary => simp [Verdict.Stops] at stops

theorem lan2wanTcp_harmless :
    Harmless table bucket buf (lan2wanTcp config now table bucket buf size) := by
  simp only [lan2wanTcp]
  split
  · exact harmless_stopped table bucket buf _
  · split
    · split <;> exact harmless_stopped table bucket buf _
    · intro stops
      obtain ⟨impossible, -⟩ := tcpEntry_stops config now table bucket buf stops
      simp [Verdict.Stops] at impossible

/-- The hairpin may have written before it is given up, but is then answered with
`ALIAS_TO_ME`. -/
theorem lan2wanUdp_harmless :
    Harmless table bucket buf (lan2wanUdp config now table bucket buf size) := by
  have translated : ∀ {table' : Table} {buf' : Buffer},
      Harmless table bucket buf
        { verdict := .noTable, table := table', bucket := bucket, buf := buf' } := by
    intro table' buf' stops
    simp [Verdict.Stops] at stops
  simp only [lan2wanUdp]
  split
  · split
    · intro stops
      simp [Verdict.Stops] at stops
    · split
      · exact translated
      · exact harmless_doalias table bucket buf rfl
  · split
    · exact translated
    · exact harmless_doalias table bucket buf rfl

theorem lan2wanIcmp_harmless :
    Harmless table bucket buf (lan2wanIcmp config table bucket buf) := by
  have echo : Harmless table bucket buf
      (if chkSelfaddr config (ipDst buf) .lan2wan then
        { verdict := .toMe, table := table, bucket := bucket, buf := buf }
      else
        { verdict := .doalias, table := table
          bucket := { localAddr := ipSrc buf, foreign := ipDst buf }
          buf := write16 (write32 buf 12 config.icmpWanAddr) ipSumOffset 0 }) := by
    split
    · exact harmless_stopped table bucket buf _
    · exact harmless_doalias table bucket buf rfl
  simp only [lan2wanIcmp]
  split
  · exact echo
  · exact echo
  · exact harmless_stopped table bucket buf _

theorem dispatch_harmless (side : Side) {tcp udp icmp : Outcome}
    (tcpHarmless : Passes config side buf size → ipP buf = ipprotoTcp →
      Harmless table bucket buf tcp)
    (udpHarmless : Harmless table bucket buf udp) (icmpHarmless : Harmless table bucket buf icmp) :
    Harmless table bucket buf
      (dispatch config table bucket buf size side.direction tcp udp icmp) := by
  rcases dispatch_split config table bucket buf size side tcp udp icmp with
    ⟨verdict, -, result⟩ | ⟨passes, ⟨isTcp, result⟩ | ⟨-, result⟩ | ⟨-, result⟩⟩
  · rw [result]
    exact harmless_stopped table bucket buf verdict
  · rw [result]
    exact tcpHarmless passes isTcp
  · rw [result]
    exact udpHarmless
  · rw [result]
    exact icmpHarmless

theorem lan2wanAlias_harmless :
    Harmless table bucket buf (lan2wanAlias config now table bucket buf size) :=
  dispatch_harmless config table bucket buf size .lan
    (fun _ _ => lan2wanTcp_harmless config now table bucket buf size)
    (lan2wanUdp_harmless config now table bucket buf size)
    (lan2wanIcmp_harmless config table bucket buf)

theorem wan2lanMissing_harmless :
    Harmless table bucket buf (wan2lanMissing config table bucket buf) :=
  harmless_stopped table bucket buf _

theorem wan2lanTcp_harmless (inState : ∀ ptr,
      findW2l table (probeWan (ipP buf) (endpoint buf .destination)) = some ptr →
      ¬Unexpected (table.heap ptr).flags (thFlags buf)) :
    Harmless table bucket buf (wan2lanTcp config now table bucket buf size) := by
  rw [wan2lanTcp]
  cases found : findW2l table (probeWan (ipP buf) (endpoint buf .destination)) with
  | none => exact wan2lanMissing_harmless config table bucket buf
  | some ptr =>
      intro stops
      obtain ⟨-, open', notReset, lost, result⟩ := tcpEntry_stops config now table bucket buf stops
      have already : (table.heap ptr).flags = .unknown := by
        apply Decidable.byContradiction
        intro known
        exact inState ptr found ((tcpStateCheck_wan_unknown ⟨open', notReset, known⟩).mp lost)
      change Untouched table bucket buf
        (tcpEntry config now table bucket buf ptr .wan2lan .dodrop _ _)
      rw [result]
      exact ⟨setFlags_same table already, rfl, rfl⟩

theorem wan2lanUdp_harmless :
    Harmless table bucket buf (wan2lanUdp config now table bucket buf size) := by
  rw [wan2lanUdp]
  split
  · exact wan2lanMissing_harmless config table bucket buf
  · exact harmless_doalias table bucket buf rfl

theorem wan2lanQuoted_harmless (protocol : BitVec 8) :
    Harmless table bucket buf (wan2lanQuoted config now table bucket buf size protocol) := by
  simp only [wan2lanQuoted]
  split
  · exact wan2lanMissing_harmless config table bucket buf
  · split
    · exact harmless_doalias table bucket buf rfl
    · exact harmless_stopped table bucket buf _

theorem wan2lanIcmp_harmless :
    Harmless table bucket buf (wan2lanIcmp config now table bucket buf size) := by
  simp only [wan2lanIcmp]
  repeat' split
  all_goals first
    | exact wan2lanQuoted_harmless config now table bucket buf size _
    | exact harmless_doalias table bucket buf rfl
    | exact harmless_stopped table bucket buf _

theorem wan2lanAlias_harmless (inState : ¬OutOfState config table buf size) :
    Harmless table bucket buf (wan2lanAlias config now table bucket buf size) := by
  apply dispatch_harmless config table bucket buf size .wan
  · intro passes isTcp
    apply wan2lanTcp_harmless config now table bucket buf size
    intro ptr found unexpected
    exact inState ⟨ptr, ⟨passes, isTcp, nofun, found⟩, unexpected⟩
  · exact wan2lanUdp_harmless config now table bucket buf size
  · exact wan2lanIcmp_harmless config now table bucket buf size

theorem Unexpected.live {tflag : TcpFlag} {pflag : BitVec 8} (unexpected : Unexpected tflag pflag) :
    tflag ≠ .closed ∧ tflag ≠ .reset ∧ tflag ≠ .unknown := by
  obtain ⟨-, awaited, waits, -⟩ := unexpected
  cases tflag with
  | closed | reset | unknown => cases waits
  | _ => exact ⟨nofun, nofun, nofun⟩

theorem wan2lanAlias_outOfState {ptr : Ptr} (tracked : Tracked config table .wan buf size ptr)
    (unexpected : Unexpected (table.heap ptr).flags (thFlags buf)) :
    wan2lanAlias config now table bucket buf size =
      { verdict := .dodrop, table := setFlags table ptr .unknown, bucket := bucket, buf := buf } := by
  have live := unexpected.live
  have lost := (tcpStateCheck_wan_unknown live).mpr unexpected
  obtain ⟨translated, ordinary, result⟩ := aliasPacket_tracked config now table bucket buf size
    .wan tracked
  refine Eq.trans result ?_
  change tcpEntry config now table bucket buf ptr .wan2lan .dodrop translated ordinary = _
  simp only [tcpEntry, if_neg live.1, if_neg live.2.1, lost, reduceCtorEq, if_false, if_true]

end Paths

/-- No refusal from the LAN side leaves anything behind.  One from the WAN side does
exactly when it drops a segment that does not fit the state of its entry. -/
theorem refusals_change_nothing (config : Config) (now : Int) (table : Table) (bucket : IcmpBucket)
    (buf : Buffer) (size : Nat) :
    ((lan2wanAlias config now table bucket buf size).verdict.Stops →
      Untouched table bucket buf (lan2wanAlias config now table bucket buf size)) ∧
    (((wan2lanAlias config now table bucket buf size).verdict.Stops →
        Untouched table bucket buf (wan2lanAlias config now table bucket buf size)) ↔
      ¬OutOfState config table buf size) := by
  refine ⟨lan2wanAlias_harmless config now table bucket buf size, ?_,
    wan2lanAlias_harmless config now table bucket buf size⟩
  intro harmless outOfState
  obtain ⟨ptr, tracked, unexpected⟩ := outOfState
  have result := wan2lanAlias_outOfState config now table bucket buf size tracked unexpected
  rw [result] at harmless
  have kept := (harmless (.inr (.inl rfl))).table
  have flags := setFlags_flags_self table ptr .unknown
  change setFlags table ptr .unknown = table at kept
  rw [kept] at flags
  exact unexpected.live.2.2 flags

private def openingConfig : Config :=
  { build := ⟨true, true, true, false⟩, optHostid := false, optNageteDf := false
    wanIfMtu := 1500, lanIfMtu := 1500, lanAddr := [0x0A000001], wanAddr := [0xC6336407]
    icmpWanAddr := 0 }

/-- 10.0.0.2 port 80 has sent its SYN and is mapped to 198.51.100.7 port 4096. -/
private def openingEntries : Table :=
  let lan : Endpoint := { port := 0x5000, ip := 0x0200000A }
  let wan : Endpoint := { port := 0x0010, ip := 0x076433C6 }
  { heap := fun _ =>
      { ctime := 0, atime := 0, flags := .synSent, timerFlags := .loop, protocol := 6
        wan := wan, lan := lan, l2wKey := packKey 6 lan, w2lKey := packKey 6 wan }
    l2w := [1], w2l := [1] }

/-- An ACK from 192.0.2.9 port 8080 to the mapping. -/
private def strayAck : Buffer :=
  [69, 0, 0, 40, 0, 1, 0, 0, 64, 6, 142, 139, 192, 0, 2, 9, 198, 51, 100, 7,
    31, 144, 16, 0, 0, 0, 0, 1, 0, 0, 0, 0, 80, 16, 32, 0, 115, 255, 0, 0]

/-- The client's repeated SYN. -/
private def repeatedSyn : Buffer :=
  [69, 0, 0, 40, 0, 1, 0, 0, 64, 6, 174, 196, 10, 0, 0, 2, 192, 0, 2, 9,
    0, 80, 31, 144, 0, 0, 0, 1, 0, 0, 0, 0, 80, 2, 32, 0, 163, 246, 0, 0]

/-- The dropped ACK makes the client's own SYN end the mapping. -/
theorem refused_ack_changes_entry :
    let refused := wan2lanAlias openingConfig 7 openingEntries ⟨0, 0⟩ strayAck 40
    let answer := fun table : Table =>
      (lan2wanAlias openingConfig 8 table ⟨0, 0⟩ repeatedSyn 40).verdict
    (refused.verdict = .dodrop ∧ ¬Untouched openingEntries ⟨0, 0⟩ strayAck refused) ∧
      answer openingEntries = .doalias ∧ answer refused.table = .resetTable := by
  intro refused answer
  have dropped : refused.verdict = .dodrop := by decide
  have before : (openingEntries.heap 1).flags = .synSent := rfl
  have after : (refused.table.heap 1).flags = .unknown := by decide
  refine ⟨⟨dropped, ?_⟩, by decide, by decide⟩
  intro untouched
  rw [untouched.table, before] at after
  cases after

end Refusals
end NatPorte
