/-
The entry of a connection that was just closed.

After `ALIAS_DEL_TABLE` the divert thread looks the entry up once more, by the packet
as it is translated by then.
-/

import NatPorte.InFlight

namespace NatPorte
namespace System

open ByteBuffer TcpState Structure Packet Checksum Alias Tracking Lookup

section Translated

variable {config : Config} {table : Table} {buf : Buffer} {size : Nat}

theorem forwarded_protocol (packet : TransportPacket buf size) (side : Side) (ptr : Ptr) :
    ipP (forwarded config table buf size side ptr) = ipP buf := by
  cases side with
  | lan => exact (toWan_spec config table buf size packet ptr).2.protocol buf size packet
  | wan => exact (toLan_spec config table buf size packet ptr).2.protocol buf size packet

/-- The endpoint that a translation leaves in the packet is the entry's other one, so
the opposite index leads back to the entry. -/
theorem closingEntry_forwarded {current : Table} (inv : TableInv table)
    (same : SameMappings table current) (packet : TransportPacket buf size) (long : 20 < size)
    (side : Side) {ptr : Ptr} (member : ptr ∈ table.l2w)
    (protocol : (table.heap ptr).protocol = ipP buf) :
    closingEntry current side (forwarded config table buf size side ptr) size = some ptr := by
  have sameProtocol := @forwarded_protocol config table buf size packet side ptr
  have flow : ipP (forwarded config table buf size side ptr) = ipprotoTcp ∨
      ipP (forwarded config table buf size side ptr) = ipprotoUdp := by
    rw [sameProtocol]
    exact packet.transport.imp And.left And.left
  obtain ⟨isProtocol, isLan, isWan⟩ := mkNode_ends long flow
  have sound := same.inv inv
  have stays : ptr ∈ current.l2w := by
    rw [same.l2w]
    exact member
  cases side with
  | lan =>
      have source := (toWan_spec config table buf size packet ptr).1
      change findW2l current (probeWan _ (mkNode _ size).lan) = some ptr
      rw [isProtocol, isLan, sameProtocol, findW2l_eq_some sound, same.protocol, same.wan]
      exact ⟨stays, protocol, source.symm⟩
  | wan =>
      have destination := (toLan_spec config table buf size packet ptr).1
      change findL2w current (probeLan _ (mkNode _ size).wan) = some ptr
      rw [isProtocol, isWan, sameProtocol, findL2w_eq_some sound, same.protocol, same.lan]
      exact ⟨stays, protocol, destination.symm⟩

end Translated

/-- What `ALIAS_DEL_TABLE` means in this build: the tracker closed the entry, and the
packet is translated. -/
theorem aliasPacket_closing (config : Config) (now : Int) (table : Table) (bucket : IcmpBucket)
    (buf : Buffer) (size : Nat) (side : Side) (wait : config.build.waitTimeDelete = true)
    (verdict : (aliasPacket config now table bucket side buf size).verdict = .delTable) :
    ∃ ptr, Tracked config table side buf size ptr ∧
      ((table.heap ptr).flags ≠ .closed ∧ (table.heap ptr).flags ≠ .reset) ∧
      aliasPacket config now table bucket side buf size =
        { verdict := .delTable, table := attach (setFlags table ptr .closed) now ptr
          bucket := bucket, buf := forwarded config table buf size side ptr } := by
  rcases aliasPacket_cases config now table bucket buf size side with ⟨ptr, tracked⟩ | quiet
  · have result := aliasPacket_tracked_eq config now table bucket buf size side tracked
    rw [result] at verdict ⊢
    have taken := tcpEntry_case config now table bucket buf ptr side.direction (onUnknown side)
      (forwarded config table buf size side ptr) (forwardedHostid config table buf size side ptr)
    generalize tcpEntry config now table bucket buf ptr side.direction (onUnknown side)
      (forwarded config table buf size side ptr)
      (forwardedHostid config table buf size side ptr) = outcome at taken verdict ⊢
    cases taken with
    | settled => cases verdict
    | waiting live closed =>
        rw [closed]
        exact ⟨ptr, tracked, live, rfl⟩
    | closing live closed noWait =>
        rw [wait] at noWait
        cases noWait
    | reset => cases verdict
    | unknown =>
        cases side with
        | lan => cases verdict
        | wan => cases verdict
    | ordinary => cases verdict
  · exact absurd verdict quiet.notDel

end System
end NatPorte
