/-
Hairpin routing of UDP.

A host of the LAN reaches another one at its mapped endpoint when the packet goes
through `wan2lan_alias` before its source is translated.  `lan2wan_alias` decides
that by the addresses of the LAN side, among which a mapped endpoint never is.
-/

import NatPorte.UdpZero

namespace NatPorte
namespace Hairpin

open Structure Packet Checksum Alias TcpState Tracking Hostid

/-- The packet leaves from the first node's mapped endpoint for the second node's host. -/
structure Turned (outcome : Outcome) (sender receiver : Node) : Prop where
  verdict : outcome.verdict = .doalias
  source : endpoint outcome.buf .source = sender.wan
  destination : endpoint outcome.buf .destination = receiver.lan

structure OnWanSide (config : Config) (node : Node) : Prop where
  mapped : swap32 node.wan.ip ∈ config.wanAddr
  notLan : swap32 node.wan.ip ∉ config.lanAddr

/-- A datagram from the host of one entry to the mapped endpoint of another. -/
structure Aims (config : Config) (sender receiver : Node) (buf : Buffer) (size : Nat) : Prop where
  passes : Passes config .lan buf size
  packet : TransportPacket buf size
  udp : ipP buf = ipprotoUdp
  source : endpoint buf .source = sender.lan
  destination : endpoint buf .destination = receiver.wan

section Datagram

variable (config : Config) (table : Table) {buf : Buffer} {size : Nat}

theorem toWan_ends (packet : TransportPacket buf size) (ptr : Ptr) :
    endpoint (toWan config table ptr buf size) .source = (table.heap ptr).wan ∧
      endpoint (toWan config table ptr buf size) .destination = endpoint buf .destination := by
  obtain ⟨source, framed⟩ := toWan_spec config table buf size packet ptr
  constructor
  · exact source
  · exact framed.otherEnd buf size packet (by decide)

theorem toWanHostid_ends (packet : TransportPacket buf size) (udp : ipP buf = ipprotoUdp)
    (ptr : Ptr) :
    endpoint (toWanHostid config table ptr buf size) .source = (table.heap ptr).wan ∧
      endpoint (toWanHostid config table ptr buf size) .destination =
        endpoint buf .destination := by
  unfold toWanHostid
  split
  · by_cases plain : ipHl buf = 5
    · obtain ⟨widened, grown⟩ := setHostid_widened plain packet.size_ge packet.inBuffer
      obtain ⟨widePacket, -, -, ends⟩ := widened.same packet plain udp
      rw [← grown] at widePacket
      obtain ⟨source, destination⟩ := toWan_ends config table widePacket ptr
      exact ⟨source, destination.trans (ends .destination)⟩
    · have same : setHostid buf size = (buf, size) := if_neg plain
      rw [same]
      exact toWan_ends config table packet ptr
  · exact toWan_ends config table packet ptr

end Datagram

/-- A datagram to a mapped endpoint is translated at its source only, so it is turned
around exactly when the receiving entry translates nothing. -/
theorem hairpin_iff (config : Config) (now : Int) (table : Table) (bucket : IcmpBucket)
    (buf : Buffer) (size : Nat) (inv : TableInv table) (sender : Ptr) (receiver : Node)
    (member : sender ∈ table.l2w) (protocol : (table.heap sender).protocol = ipprotoUdp)
    (side : OnWanSide config receiver) (aims : Aims config (table.heap sender) receiver buf size) :
    Turned (lan2wanAlias config now table bucket buf size) (table.heap sender) receiver ↔
      receiver.lan = receiver.wan := by
  have address : ipDst buf = receiver.wan.ip := congrArg Endpoint.ip aims.destination
  have notSelf : chkSelfaddr config (ipDst buf) .lan2wan = false := by
    apply chkSelfaddr_of_notForLan
    intro lan isLan same
    rw [address] at same
    rw [same] at isLan
    exact side.notLan isLan
  have found : findL2w table (probeLan (ipP buf) (endpoint buf .source)) = some sender := by
    rw [findL2w_eq_some inv, aims.udp, aims.source]
    exact ⟨member, protocol, rfl⟩
  have result : lan2wanAlias config now table bucket buf size =
      { verdict := .doalias, table := attach table now sender, bucket := bucket
        buf := toWanHostid config table sender buf size } := by
    have branch : lan2wanAlias config now table bucket buf size =
        lan2wanUdp config now table bucket buf size :=
      dispatch_udp config table bucket buf size .lan aims.passes aims.udp _ _ _
    rw [branch]
    unfold lan2wanUdp
    simp only [notSelf, Bool.false_eq_true, if_false, found]
  obtain ⟨source, destination⟩ := toWanHostid_ends config table aims.packet aims.udp sender
  rw [aims.destination] at destination
  rw [result]
  constructor
  · intro turned
    exact turned.destination.symm.trans destination
  · intro untranslated
    exact ⟨rfl, source, destination.trans untranslated.symm⟩

private def hairpinConfig : Config :=
  { build := ⟨true, true, true, false⟩, optHostid := false, optNageteDf := false
    wanIfMtu := 1500, lanIfMtu := 1500, lanAddr := [0x0A0000FF, 0x0A000001]
    wanAddr := [0xC63364FF, 0xC6336407], icmpWanAddr := 0x076433C6 }

private def hairpinNode (host : BitVec 32) (port : BitVec 16) : Node :=
  let lan : Endpoint := { port := 0x5000, ip := host }
  let wan : Endpoint := { port := port, ip := 0x076433C6 }
  { ctime := 0, atime := 0, flags := .established, timerFlags := .loop, protocol := 17
    wan := wan, lan := lan, l2wKey := packKey 17 lan, w2lKey := packKey 17 wan }

private def hairpinEntries : Table :=
  { heap := fun ptr => if ptr = 1 then hairpinNode 0x0200000A 0x0010 else hairpinNode 0x0300000A 0x0110
    l2w := [1, 2], w2l := [1, 2] }

private theorem hairpinEntries_inv : TableInv hairpinEntries where
  sameNodes _ := Iff.rfl
  keyed := by decide
  distinctL2w := by
    unfold KeyedSet.DistinctKeys
    decide
  distinctW2l := by
    unfold KeyedSet.DistinctKeys
    decide

/-- 10.0.0.2 writes to port 4097 of 198.51.100.7. -/
private def hairpinDatagram : Buffer :=
  [69, 0, 0, 28, 0, 1, 0, 0, 64, 17, 0, 0, 10, 0, 0, 2, 198, 51, 100, 7,
    0, 80, 16, 1, 0, 8, 0, 0]

private theorem hairpinDatagram_aims :
    Aims hairpinConfig (hairpinEntries.heap 1) (hairpinEntries.heap 2) hairpinDatagram 28 where
  passes := ⟨by decide, by decide, by decide, by decide⟩
  packet := ⟨by decide, by decide, by decide, by decide⟩
  udp := by decide
  source := by decide
  destination := by decide

theorem hairpin_iff_two_hosts :
    ¬Turned (lan2wanAlias hairpinConfig 7 hairpinEntries ⟨0, 0⟩ hairpinDatagram 28)
      (hairpinEntries.heap 1) (hairpinEntries.heap 2) := by
  have translates : (hairpinEntries.heap 2).lan ≠ (hairpinEntries.heap 2).wan := by decide
  rw [hairpin_iff hairpinConfig 7 hairpinEntries ⟨0, 0⟩ hairpinDatagram 28 hairpinEntries_inv 1
    (hairpinEntries.heap 2) (by decide) (by decide) ⟨by decide, by decide⟩ hairpinDatagram_aims]
  exact translates

/-- The datagram leaves for the mapped endpoint itself. -/
theorem hairpin_not_turned :
    ¬∀ (config : Config) (now : Int) (table : Table) (bucket : IcmpBucket) (buf : Buffer)
        (size : Nat), TableInv table → ∀ sender ∈ table.l2w, ∀ receiver ∈ table.l2w,
      (table.heap sender).protocol = ipprotoUdp → (table.heap receiver).protocol = ipprotoUdp →
      OnWanSide config (table.heap sender) → OnWanSide config (table.heap receiver) →
      Aims config (table.heap sender) (table.heap receiver) buf size →
      Turned (lan2wanAlias config now table bucket buf size) (table.heap sender)
        (table.heap receiver) := by
  intro turns
  have turned := turns hairpinConfig 7 hairpinEntries ⟨0, 0⟩ hairpinDatagram 28 hairpinEntries_inv
    1 (by decide) 2 (by decide) (by decide) (by decide) ⟨by decide, by decide⟩
    ⟨by decide, by decide⟩ hairpinDatagram_aims
  have destination := turned.destination
  revert destination
  decide

end Hairpin
end NatPorte
