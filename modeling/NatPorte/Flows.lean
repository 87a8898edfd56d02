/-
Flows that do not interfere.

A TCP or UDP packet reads and writes the one entry that it resolves to.  With the
mappings fixed, its processing is an action on the entries that is confined to
this entry, so packets of different flows can be processed in either order.
-/

import NatPorte.Icmp
import NatPorte.Library.Footprint

namespace NatPorte
namespace Flows

open TcpState Structure Packet Checksum Alias Tracking Footprint

structure Arrival where
  side : Side
  buf : Buffer
  size : Nat

/-- A TCP or UDP packet that is not for one of the router's LAN addresses. -/
structure Arrival.Flow (config : Config) (arrival : Arrival) : Prop where
  protocol : ipP arrival.buf = ipprotoTcp ∨ ipP arrival.buf = ipprotoUdp
  stranger : NotForLan config arrival.buf

def process (config : Config) (now : Int) (table : Table) (bucket : IcmpBucket)
    (arrival : Arrival) : Outcome :=
  aliasPacket config now table bucket arrival.side arrival.buf arrival.size

def Arrival.entry (table : Table) (arrival : Arrival) : Option Ptr :=
  lookup table arrival.side arrival.buf

/-- Verdict, packet and entry agree. -/
structure Agree (found : Option Ptr) (left right : Outcome) : Prop where
  verdict : left.verdict = right.verdict
  buf : left.buf = right.buf
  entry : ∀ ptr, found = some ptr → left.table.heap ptr = right.table.heap ptr

section Agreement

variable (config : Config) (now : Int) {left right : Table} (leftBucket rightBucket : IcmpBucket)
  (buf : Buffer) (size : Nat)

theorem attach_agree {ptr : Ptr} (same : left.heap ptr = right.heap ptr) :
    ∀ found, some ptr = some found →
      (attach left now ptr).heap found = (attach right now ptr).heap found := by
  intro found isPtr
  cases isPtr
  rw [attach, attach, Table.store_heap_self, Table.store_heap_self, same]

theorem tcpEntry_agree {ptr : Ptr} (same : left.heap ptr = right.heap ptr)
    (direction : AliasFrom) (onUnknown : Verdict) (translated ordinary : Buffer) :
    Agree (some ptr)
      (tcpEntry config now left leftBucket buf ptr direction onUnknown translated ordinary)
      (tcpEntry config now right rightBucket buf ptr direction onUnknown translated ordinary) := by
  have flagged : ∀ flags, (setFlags left ptr flags).heap ptr = (setFlags right ptr flags).heap ptr := by
    intro flags
    rw [setFlags, setFlags, Table.store_heap_self, Table.store_heap_self, same]
  have stored : ∀ flags found, some ptr = some found →
      (setFlags left ptr flags).heap found = (setFlags right ptr flags).heap found := by
    intro flags found isPtr
    cases isPtr
    exact flagged flags
  unfold tcpEntry
  rw [same]
  simp only
  split
  · exact ⟨rfl, rfl, attach_agree now same⟩
  split
  · exact ⟨rfl, rfl, attach_agree now same⟩
  split
  · split
    · exact ⟨rfl, rfl, attach_agree now (flagged _)⟩
    · exact ⟨rfl, rfl, stored _⟩
  split
  · exact ⟨rfl, rfl, stored _⟩
  split
  · exact ⟨rfl, rfl, stored _⟩
  · exact ⟨rfl, rfl, attach_agree now (flagged _)⟩

theorem rewrites_agree {ptr : Ptr} (same : left.heap ptr = right.heap ptr) :
    toLan config left ptr buf size = toLan config right ptr buf size ∧
      toWan config left ptr buf size = toWan config right ptr buf size ∧
      toWanHostid config left ptr buf size = toWanHostid config right ptr buf size := by
  refine ⟨?_, ?_, ?_⟩
  · unfold toLan
    rw [same]
  · unfold toWan
    rw [same]
  · simp only [toWanHostid, toWan, same]

theorem dispatch_agree (flow : ipP buf = ipprotoTcp ∨ ipP buf = ipprotoUdp) (direction : AliasFrom)
    {found : Option Ptr} (same : ∀ ptr, found = some ptr → left.heap ptr = right.heap ptr)
    {leftTcp leftUdp leftIcmp rightTcp rightUdp rightIcmp : Outcome}
    (tcp : Agree found leftTcp rightTcp) (udp : Agree found leftUdp rightUdp) :
    Agree found
      (dispatch config left leftBucket buf size direction leftTcp leftUdp leftIcmp)
      (dispatch config right rightBucket buf size direction rightTcp rightUdp rightIcmp) := by
  have stopped : ∀ verdict : Verdict, Agree found
      { verdict := verdict, table := left, bucket := leftBucket, buf := buf }
      { verdict := verdict, table := right, bucket := rightBucket, buf := buf } :=
    fun verdict => ⟨rfl, rfl, same⟩
  unfold dispatch
  simp only
  split
  · exact stopped _
  split
  · exact stopped _
  split
  · exact stopped _
  split
  · exact stopped _
  split
  · exact tcp
  split
  · exact udp
  · next notTcp notUdp => exact absurd flow (not_or.mpr ⟨notTcp, notUdp⟩)

theorem process_agree {arrival : Arrival} (flow : arrival.Flow config)
    {found : Option Ptr} (leftFound : arrival.entry left = found)
    (rightFound : arrival.entry right = found)
    (same : ∀ ptr, found = some ptr → left.heap ptr = right.heap ptr) :
    Agree found (process config now left leftBucket arrival)
      (process config now right rightBucket arrival) := by
  obtain ⟨side, buf, size⟩ := arrival
  have notSelf := chkSelfaddr_of_notForLan flow.stranger
  have missing : Agree found (wan2lanMissing config left leftBucket buf)
      (wan2lanMissing config right rightBucket buf) := ⟨rfl, rfl, same⟩
  unfold Arrival.entry lookup at leftFound rightFound
  cases side with
  | lan =>
      simp only at leftFound rightFound
      apply dispatch_agree config leftBucket rightBucket buf size flow.protocol _ same
      · unfold lan2wanTcp
        simp only [notSelf, Bool.false_eq_true, if_false, leftFound, rightFound]
        cases found with
        | none =>
            simp only
            split
            · exact ⟨rfl, rfl, same⟩
            · exact ⟨rfl, rfl, same⟩
        | some ptr =>
            obtain ⟨-, sameWan, sameHostid⟩ := rewrites_agree config buf size (same ptr rfl)
            simp only
            rw [sameWan, sameHostid]
            exact tcpEntry_agree config now leftBucket rightBucket buf (same ptr rfl) _ _ _ _
      · unfold lan2wanUdp
        simp only [notSelf, Bool.false_eq_true, if_false, leftFound, rightFound]
        cases found with
        | none => exact ⟨rfl, rfl, same⟩
        | some ptr =>
            obtain ⟨-, -, sameHostid⟩ := rewrites_agree config buf size (same ptr rfl)
            exact ⟨rfl, sameHostid, attach_agree now (same ptr rfl)⟩
  | wan =>
      simp only at leftFound rightFound
      apply dispatch_agree config leftBucket rightBucket buf size flow.protocol _ same
      · unfold wan2lanTcp
        simp only [leftFound, rightFound]
        cases found with
        | none => exact missing
        | some ptr =>
            obtain ⟨sameLan, -, -⟩ := rewrites_agree config buf size (same ptr rfl)
            simp only
            rw [sameLan]
            exact tcpEntry_agree config now leftBucket rightBucket buf (same ptr rfl) _ _ _ _
      · unfold wan2lanUdp
        simp only [leftFound, rightFound]
        cases found with
        | none => exact missing
        | some ptr =>
            obtain ⟨sameLan, -, -⟩ := rewrites_agree config buf size (same ptr rfl)
            exact ⟨rfl, sameLan, attach_agree now (same ptr rfl)⟩

end Agreement

section Frame

variable (config : Config) (now : Int) {table : Table} (bucket : IcmpBucket)

theorem attach_frame {ptr other : Ptr} (different : other ≠ ptr) :
    (attach table now ptr).heap other = table.heap other :=
  Table.store_heap_other _ _ _ _ different

theorem tcpEntry_frame (buf : Buffer) {ptr other : Ptr} (different : other ≠ ptr)
    (direction : AliasFrom) (onUnknown : Verdict) (translated ordinary : Buffer) :
    (tcpEntry config now table bucket buf ptr direction onUnknown translated
      ordinary).table.heap other = table.heap other := by
  have flagged : ∀ flags, (setFlags table ptr flags).heap other = table.heap other :=
    fun flags => Table.store_heap_other _ _ _ _ different
  have both : ∀ flags, (attach (setFlags table ptr flags) now ptr).heap other = table.heap other :=
    fun flags => (attach_frame now different).trans (flagged flags)
  have taken := tcpEntry_case config now table bucket buf ptr direction onUnknown translated
    ordinary
  generalize tcpEntry config now table bucket buf ptr direction onUnknown translated ordinary =
    outcome at taken ⊢
  cases taken with
  | settled => exact attach_frame now different
  | waiting => exact both _
  | closing => exact flagged _
  | reset => exact flagged _
  | unknown => exact flagged _
  | ordinary => exact both _

theorem process_frame {arrival : Arrival} (flow : arrival.Flow config) {other : Ptr}
    (different : arrival.entry table ≠ some other) :
    (process config now table bucket arrival).table.heap other = table.heap other := by
  obtain ⟨side, buf, size⟩ := arrival
  have notSelf := chkSelfaddr_of_notForLan flow.stranger
  have notIcmp : ipP buf ≠ ipprotoIcmp := by
    intro icmp
    rcases flow.protocol with tcp | udp
    · cases icmp.symm.trans tcp
    · cases icmp.symm.trans udp
  unfold Arrival.entry lookup at different
  cases side with
  | lan =>
      simp only at different
      change (lan2wanAlias config now table bucket buf size).table.heap other = _
      unfold lan2wanAlias
      rcases dispatch_cases config table bucket buf size .lan2wan _ _ _ with
        ⟨verdict, -, result⟩ | ⟨-, result⟩ | ⟨-, result⟩ | ⟨icmp, -⟩
      · rw [result]
      · rw [result]
        unfold lan2wanTcp
        simp only [notSelf, Bool.false_eq_true, if_false]
        cases found : findL2w table (probeLan (ipP buf) (endpoint buf .source)) with
        | none =>
            simp only
            split
            · rfl
            · rfl
        | some ptr =>
            rw [found] at different
            exact tcpEntry_frame config now bucket buf
              (fun same => different (congrArg some same.symm)) _ _ _ _
      · rw [result]
        unfold lan2wanUdp
        simp only [notSelf, Bool.false_eq_true, if_false]
        cases found : findL2w table (probeLan (ipP buf) (endpoint buf .source)) with
        | none => rfl
        | some ptr =>
            rw [found] at different
            exact attach_frame now (fun same => different (congrArg some same.symm))
      · exact absurd icmp notIcmp
  | wan =>
      simp only at different
      change (wan2lanAlias config now table bucket buf size).table.heap other = _
      unfold wan2lanAlias
      rcases dispatch_cases config table bucket buf size .wan2lan _ _ _ with
        ⟨verdict, -, result⟩ | ⟨-, result⟩ | ⟨-, result⟩ | ⟨icmp, -⟩
      · rw [result]
      · rw [result]
        unfold wan2lanTcp
        cases found : findW2l table (probeWan (ipP buf) (endpoint buf .destination)) with
        | none => rfl
        | some ptr =>
            rw [found] at different
            exact tcpEntry_frame config now bucket buf
              (fun same => different (congrArg some same.symm)) _ _ _ _
      · rw [result]
        unfold wan2lanUdp
        cases found : findW2l table (probeWan (ipP buf) (endpoint buf .destination)) with
        | none => rfl
        | some ptr =>
            rw [found] at different
            exact attach_frame now (fun same => different (congrArg some same.symm))
      · exact absurd icmp notIcmp

theorem entry_same {after : Table} (same : SameMappings table after) (arrival : Arrival) :
    arrival.entry after = arrival.entry table := by
  have l2wKeys : after.l2wKeyOf = table.l2wKeyOf := funext same.l2wKey
  have w2lKeys : after.w2lKeyOf = table.w2lKeyOf := funext same.w2lKey
  obtain ⟨side, buf, size⟩ := arrival
  unfold Arrival.entry lookup
  cases side with
  | lan =>
      simp only [findL2w]
      rw [l2wKeys, same.l2w]
  | wan =>
      simp only [findW2l]
      rw [w2lKeys, same.w2l]

end Frame

/-- Processing as an action on the entries of a table whose mappings stay fixed. -/
def acts (config : Config) (now : Int) (table : Table) (bucket : IcmpBucket) (arrival : Arrival) :
    Action Ptr Node (Verdict × Buffer) := fun heap =>
  let outcome := process config now { table with heap := heap } bucket arrival
  ((outcome.verdict, outcome.buf), outcome.table.heap)

theorem acts_confined (config : Config) (now : Int) (table : Table) (bucket : IcmpBucket)
    {arrival : Arrival} (flow : arrival.Flow config) :
    Confined (fun heap => SameMappings table { table with heap := heap })
      {ptr | arrival.entry table = some ptr} (acts config now table bucket arrival) where
  keeps := by
    intro heap sound
    have kept := aliasPacket_same config now { table with heap := heap } bucket arrival.side
      arrival.buf arrival.size
    exact ⟨rfl, rfl, (sound.trans kept).entries⟩
  frame := by
    intro heap sound ptr outside
    apply process_frame config now bucket flow
    rw [entry_same sound]
    exact outside
  agrees := by
    intro left right leftSound rightSound same
    have agree := @process_agree config now { table with heap := left } { table with heap := right }
      bucket bucket arrival flow (arrival.entry table) (entry_same leftSound arrival)
      (entry_same rightSound arrival) same
    exact ⟨Prod.ext agree.verdict agree.buf, agree.entry⟩

theorem process_bucket (config : Config) (now : Int) (table : Table) (bucket : IcmpBucket)
    {arrival : Arrival} (flow : arrival.Flow config) :
    (process config now table bucket arrival).bucket = bucket := by
  obtain ⟨side, buf, size⟩ := arrival
  cases side with
  | lan =>
      change (lan2wanAlias config now table bucket buf size).bucket = bucket
      rw [Icmp.lan2wanAlias_bucket]
      simp only [Icmp.remembers]
      rw [if_neg]
      · rfl
      · intro remembered
        rcases flow.protocol with tcp | udp
        · cases remembered.icmp.symm.trans tcp
        · cases remembered.icmp.symm.trans udp
  | wan => exact Icmp.wan2lanAlias_bucket config now table bucket buf size

theorem acts_eq (config : Config) (now : Int) {table current : Table} (bucket : IcmpBucket)
    (same : SameMappings table current) (arrival : Arrival) :
    acts config now table bucket arrival current.heap =
      (((process config now current bucket arrival).verdict,
        (process config now current bucket arrival).buf),
        (process config now current bucket arrival).table.heap) := by
  have rebuilt : { table with heap := current.heap } = current := by
    obtain ⟨heap, l2w, w2l⟩ := current
    cases same.l2w
    cases same.w2l
    rfl
  simp only [acts, rebuilt]

theorem Table.eq_of_heap {left right : Table} (heap : left.heap = right.heap)
    (l2w : left.l2w = right.l2w) (w2l : left.w2l = right.w2l) : left = right := by
  cases left
  cases right
  cases heap
  cases l2w
  cases w2l
  rfl

/-- Packets of different flows do not interfere: each gets the same verdict and leaves
with the same bytes whichever is processed first, the table ends up the same, and a
packet changes no entry but its own. -/
theorem flows_commute (config : Config) (now : Int) (table : Table) (bucket : IcmpBucket)
    (first second : Arrival) (firstFlow : first.Flow config) (secondFlow : second.Flow config)
    (different : ∀ ptr, first.entry table = some ptr → second.entry table ≠ some ptr) :
    let firstAlone := process config now table bucket first
    let secondAlone := process config now table bucket second
    let secondLater := process config now firstAlone.table firstAlone.bucket second
    let firstLater := process config now secondAlone.table secondAlone.bucket first
    firstLater.verdict = firstAlone.verdict ∧ firstLater.buf = firstAlone.buf ∧
      secondLater.verdict = secondAlone.verdict ∧ secondLater.buf = secondAlone.buf ∧
      secondLater.table = firstLater.table ∧
      (∀ other, first.entry table ≠ some other →
        firstAlone.table.heap other = table.heap other) ∧
      firstAlone.table.l2w = table.l2w ∧ firstAlone.table.w2l = table.w2l := by
  have firstConfined := acts_confined config now table bucket firstFlow
  have secondConfined := acts_confined config now table bucket secondFlow
  have firstSame : SameMappings table (process config now table bucket first).table :=
    aliasPacket_same config now table bucket first.side first.buf first.size
  have secondSame : SameMappings table (process config now table bucket second).table :=
    aliasPacket_same config now table bucket second.side second.buf second.size
  have sound : SameMappings table { table with heap := table.heap } := .refl table
  have mine := (Confined.undisturbed firstConfined secondConfined different sound).1
  have theirs := (Confined.undisturbed secondConfined firstConfined
    (fun ptr isSecond isFirst => different ptr isFirst isSecond) sound).1
  have heaps := Confined.commute firstConfined secondConfined different sound
  rw [acts_eq config now bucket (.refl table) first, acts_eq config now bucket (.refl table) second,
    acts_eq config now bucket secondSame first, acts_eq config now bucket firstSame second] at heaps
  rw [acts_eq config now bucket (.refl table) first, acts_eq config now bucket (.refl table) second,
    acts_eq config now bucket secondSame first] at mine
  rw [acts_eq config now bucket (.refl table) first, acts_eq config now bucket (.refl table) second,
    acts_eq config now bucket firstSame second] at theirs
  obtain ⟨firstVerdict, firstBuf⟩ := Prod.mk.inj mine
  obtain ⟨secondVerdict, secondBuf⟩ := Prod.mk.inj theirs
  simp only [process_bucket config now table bucket firstFlow,
    process_bucket config now table bucket secondFlow]
  have firstLaterSame := aliasPacket_same config now (process config now table bucket second).table
    bucket first.side first.buf first.size
  have secondLaterSame := aliasPacket_same config now (process config now table bucket first).table
    bucket second.side second.buf second.size
  refine ⟨firstVerdict, firstBuf, secondVerdict, secondBuf, ?_, ?_, firstSame.l2w, firstSame.w2l⟩
  · exact Table.eq_of_heap heaps
      ((firstSame.trans secondLaterSame).l2w.trans (secondSame.trans firstLaterSame).l2w.symm)
      ((firstSame.trans secondLaterSame).w2l.trans (secondSame.trans firstLaterSame).w2l.symm)
  · intro other untouched
    exact process_frame config now bucket firstFlow untouched

private def flowConfig : Config :=
  { build := ⟨true, true, true, false⟩, optHostid := false, optNageteDf := false
    wanIfMtu := 1500, lanIfMtu := 1500, lanAddr := [0x0A000001], wanAddr := [0xC6336407]
    icmpWanAddr := 0 }

private def flowEntries : Table :=
  let lan (host : BitVec 32) : Endpoint := { port := 0x5000, ip := host }
  let wan (port : BitVec 16) : Endpoint := { port := port, ip := 0x076433C6 }
  { heap := fun ptr =>
      if ptr = 1 then
        { ctime := 0, atime := 0, flags := .established, timerFlags := .loop, protocol := 6
          wan := wan 0x0010, lan := lan 0x0200000A, l2wKey := packKey 6 (lan 0x0200000A)
          w2lKey := packKey 6 (wan 0x0010) }
      else
        { ctime := 0, atime := 0, flags := .established, timerFlags := .loop, protocol := 6
          wan := wan 0x0110, lan := lan 0x0300000A, l2wKey := packKey 6 (lan 0x0300000A)
          w2lKey := packKey 6 (wan 0x0110) }
    l2w := [1, 2], w2l := [1, 2] }

/-- The first host resets its connection. -/
private def resetSegment : Arrival where
  side := .lan
  buf :=
    [69, 0, 0, 40, 0, 1, 0, 0, 64, 6, 0, 0, 10, 0, 0, 2, 192, 0, 2, 9,
      0, 80, 31, 144, 0, 0, 0, 1, 0, 0, 0, 0, 80, 4, 32, 0, 0, 0, 0, 0]
  size := 40

/-- An answer for the second host. -/
private def answerSegment : Arrival where
  side := .wan
  buf :=
    [69, 0, 0, 40, 0, 1, 0, 0, 64, 6, 0, 0, 192, 0, 2, 9, 198, 51, 100, 7,
      31, 144, 16, 1, 0, 0, 0, 1, 0, 0, 0, 0, 80, 16, 32, 0, 0, 0, 0, 0]
  size := 40

private theorem resetSegment_flow : resetSegment.Flow flowConfig := by
  constructor
  · decide
  · intro address member
    rw [List.mem_singleton.mp member]
    decide

private theorem answerSegment_flow : answerSegment.Flow flowConfig := by
  constructor
  · decide
  · intro address member
    rw [List.mem_singleton.mp member]
    decide

theorem flows_commute_reset_and_answer :
    (process flowConfig 7 flowEntries ⟨0, 0⟩ resetSegment).verdict = .resetTable ∧
      (process flowConfig 7 (process flowConfig 7 flowEntries ⟨0, 0⟩ resetSegment).table ⟨0, 0⟩
        answerSegment).verdict = .doalias := by
  have exchanged := flows_commute flowConfig 7 flowEntries ⟨0, 0⟩ resetSegment answerSegment
    resetSegment_flow answerSegment_flow
    (by
      intro ptr own
      have first : resetSegment.entry flowEntries = some 1 := by decide
      have second : answerSegment.entry flowEntries = some 2 := by decide
      rw [first] at own
      cases own
      rw [second]
      decide)
  have reset : (process flowConfig 7 flowEntries ⟨0, 0⟩ resetSegment).verdict = .resetTable := by
    decide
  have alone : (process flowConfig 7 flowEntries ⟨0, 0⟩ answerSegment).verdict = .doalias := by
    decide
  have later := exchanged.2.2.1
  rw [process_bucket flowConfig 7 flowEntries ⟨0, 0⟩ resetSegment_flow, alone] at later
  exact ⟨reset, later⟩

end Flows
end NatPorte
