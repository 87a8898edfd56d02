/-
Closing a connection in a build that waits with the deletion.

After `ALIAS_DEL_TABLE` the divert loop looks the entry up once more, by the
packet as it is translated by then, and arms the entry's timer for the close.
The timer loop recovers the entry from nothing but the 64-bit ident.
-/

import NatPorte.Timers

namespace NatPorte
namespace System

open ByteBuffer TcpState Structure Packet Checksum Alias Tracking Lookup StepSystem

theorem timerEntry_self {table : Table} (inv : TableInv table) {ptr : Ptr}
    (member : ptr ∈ table.l2w) : timerEntry table (table.l2wKeyOf ptr) = some ptr := by
  rw [inv.l2wKey_eq member]
  unfold timerEntry
  rw [getProtocol_packKey, getPort_packKey, getIp_packKey, findL2w_eq_some inv]
  exact ⟨member, rfl, rfl⟩

theorem packKey_ne_debug {protocol : BitVec 8} (lan : Endpoint)
    (flow : protocol = ipprotoTcp ∨ protocol = ipprotoUdp) : packKey protocol lan ≠ 1 := by
  intro debug
  have same := congrArg getProtocolFromVarLan debug
  rw [getProtocol_packKey] at same
  rcases flow with flow | flow
  · rw [flow] at same
    revert same
    decide
  · rw [flow] at same
    revert same
    decide

/-- Whatever has happened, the table maps TCP and UDP flows only: an entry is what the
server granted for a packet of the LAN. -/
theorem reached_table (settings : Settings) (memory : Ptr → Node) {state : State}
    (reached : Reachable (step settings) UpToDate (start settings memory) state) :
    TableInv state.table ∧ ∀ ptr ∈ state.table.l2w,
      (state.table.heap ptr).protocol = ipprotoTcp ∨
        (state.table.heap ptr).protocol = ipprotoUdp := by
  have inv : ExchangeInv state ∧ ∀ ptr ∈ state.table.l2w,
      (state.table.heap ptr).protocol = ipprotoTcp ∨
        (state.table.heap ptr).protocol = ipprotoUdp := by
    apply @Reachable.invariant _ _ _ _ _ (fun state => ExchangeInv state ∧
      ∀ ptr ∈ state.table.l2w, (state.table.heap ptr).protocol = ipprotoTcp ∨
        (state.table.heap ptr).protocol = ipprotoUdp)
      ⟨start_exchange settings memory, by simp [start, sInit]⟩ _ _ reached
    intro before event after inv allowed stepped
    obtain ⟨exchange, flows⟩ := inv
    have moved := step_case stepped
    have core := core_case moved
    have timeouts := exchange.timeouts
    have kept : ∀ ptr ∈ before.table.l2w, (after.table.heap ptr).protocol = ipprotoTcp ∨
        (after.table.heap ptr).protocol = ipprotoUdp := by
      intro ptr member
      have same : (after.table.heap ptr).protocol = (before.table.heap ptr).protocol :=
        congrArg Mapping.protocol
          (mapping_kept timeouts.table timeouts.live core (timeouts.live ptr member))
      rw [same]
      exact flows ptr member
    refine ⟨exchange.step moved allowed, ?_⟩
    intro ptr member
    rcases core_l2w timeouts core with fewer | ⟨reply, item, handling, type, fresh, grown, granted⟩
    · exact kept ptr (fewer ptr member)
    · rw [grown] at member
      rcases List.mem_cons.mp member with isFresh | old
      · have same : (after.table.heap fresh).protocol =
            (parsedNode before.now reply.fields).protocol := congrArg Mapping.protocol granted
        rw [isFresh, same]
        exact exchange.grantedProtocol handling type
      · exact kept ptr old
  exact ⟨inv.1.timeouts.table, inv.2⟩

/-- In every state of the program the ident of an entry's timer leads back to the entry,
and none is taken for the debug timer. -/
theorem idents_lead_back (settings : Settings) (memory : Ptr → Node) {state : State}
    (reached : Reachable (step settings) UpToDate (start settings memory) state)
    {ptr : Ptr} (member : ptr ∈ state.table.l2w) :
    timerEntry state.table (state.table.l2wKeyOf ptr) = some ptr ∧
      state.table.l2wKeyOf ptr ≠ 1 := by
  obtain ⟨inv, flows⟩ := reached_table settings memory reached
  constructor
  · exact timerEntry_self inv member
  · rw [inv.l2wKey_eq member]
    exact packKey_ne_debug _ (flows ptr member)

/-- The close timer of `ptr` is armed under the entry's key, and nothing else happens. -/
structure ClosesTimer (before after : State) (ptr : Ptr) : Prop where
  timerFlags : (after.table.heap ptr).timerFlags = .close
  ident : before.table.l2wKeyOf ptr ∈ after.timers
  notDebug : before.table.l2wKeyOf ptr ≠ 1
  otherTimers : ∀ ident, ident ≠ before.table.l2wKeyOf ptr →
    (ident ∈ after.timers ↔ ident ∈ before.timers)
  otherEntries : ∀ other, other ≠ ptr → after.table.heap other = before.table.heap other

/-- The next steps of the divert thread while nobody else moves. -/
def divertSteps (settings : Settings) : Nat → State → Option State
  | 0, state => some state
  | steps + 1, state => (divertStep settings state).bind (divertSteps settings steps)

theorem divertSteps_next {settings : Settings} {state next : State} (steps : Nat)
    (stepped : divertStep settings state = some next) :
    divertSteps settings (steps + 1) state = divertSteps settings steps next := by
  rw [divertSteps, stepped, Option.bind_some]

/-- `timer_event_delete` for the closed entry, in any state that keeps the keys. -/
theorem divertSteps_close (settings : Settings) (current : State) {side : Side} {buf : Buffer}
    {size : Nat} {ptr : Ptr} (closing : current.divert = .closing side buf size)
    (found : closingEntry current.table side buf size = some ptr) :
    divertSteps settings 4 current = some
      { current with
        table := current.table.store ptr { current.table.heap ptr with timerFlags := .close }
        timers := addTimerEvent
          (current.timers.filter fun other => other ≠ current.table.l2wKeyOf ptr)
          (current.table.l2wKeyOf ptr)
        divert := .reading } := by
  have looked : divertStep settings current =
      some { current with divert := .arming side buf size ptr } := by
    rw [divertStep, closing]
    simp only [found]
  rw [divertSteps_next 3 looked]
  simp only [divertSteps, divertStep, Option.bind_some, delTimerEvent_getD]

theorem closesTimer_close {before current : State} {ptr : Ptr} {divert : DivertPc}
    (heap : ∀ other, other ≠ ptr → current.table.heap other = before.table.heap other)
    (key : current.table.l2wKeyOf ptr = before.table.l2wKeyOf ptr)
    (notDebug : before.table.l2wKeyOf ptr ≠ 1) (timers : current.timers = before.timers) :
    ClosesTimer before
      { current with
        table := current.table.store ptr { current.table.heap ptr with timerFlags := .close }
        timers := addTimerEvent
          (current.timers.filter fun other => other ≠ current.table.l2wKeyOf ptr)
          (current.table.l2wKeyOf ptr)
        divert := divert } ptr where
  timerFlags := by
    simp only [Table.store_heap_self]
  ident := by
    simp only [mem_addTimerEvent, key, true_or]
  notDebug := notDebug
  otherTimers := by
    intro other different
    simp only [mem_addTimerEvent, mem_delTimerEvent, key, timers, different, false_or, ne_eq,
      not_false_iff, and_true]
  otherEntries := by
    intro other different
    simp only [Table.store_heap_other _ _ _ _ different]
    exact heap other different

/-- In a build that waits with the deletion, a packet that closes a connection is
followed by a lookup that finds the closed entry and no other one and arms its timer;
and the timer's ident leads the timer loop back to the entry it was made from. -/
theorem closing_arms_timer (settings : Settings) (state : State) (inv : TableInv state.table)
    (wait : settings.nat.build.waitTimeDelete = true) :
    (∀ (side : Side) (packet : Datagram),
      (state.outcome settings side packet).verdict = .delTable →
      ∃ ptr ∈ state.table.l2w,
        lookup state.table side packet.buf = some ptr ∧
        (state.table.heap ptr).flags ≠ .closed ∧
        ((state.outcome settings side packet).table.heap ptr).flags = .closed ∧
        closingEntry (state.outcome settings side packet).table side
          (state.outcome settings side packet).buf packet.size = some ptr ∧
        ∃ after, divertSteps settings 5 (divertPacket settings state side packet) = some after ∧
          after.divert = .reading ∧ ClosesTimer state after ptr) ∧
    (∀ ptr ∈ state.table.l2w, timerEntry state.table (state.table.l2wKeyOf ptr) = some ptr ∧
      ((state.table.heap ptr).protocol = ipprotoTcp ∨ (state.table.heap ptr).protocol = ipprotoUdp →
        state.table.l2wKeyOf ptr ≠ 1)) := by
  constructor
  · intro side packet verdict
    obtain ⟨ptr, tracked, live, result⟩ := aliasPacket_closing settings.nat state.now state.table
      state.bucket packet.buf packet.size side wait verdict
    have formed := packet.formed (.inl tracked.tcp)
    have long : 20 < packet.size := tracked.passes.long
    have member := tracked_member inv tracked
    have protocol : (state.table.heap ptr).protocol = ipP packet.buf :=
      (tracked_protocol inv tracked).trans tracked.tcp.symm
    have same := aliasPacket_same settings.nat state.now state.table state.bucket side packet.buf
      packet.size
    have closing := @closingEntry_forwarded settings.nat state.table packet.buf packet.size _ inv
      same formed long side ptr member protocol
    have notDebug : state.table.l2wKeyOf ptr ≠ 1 := by
      rw [inv.l2wKey_eq member]
      exact packKey_ne_debug _ (.inl (protocol.trans tracked.tcp))
    have resolves := resolved_of_tracked tracked
    have looked : divertPacket settings state side packet =
        { state with divert := .found side packet ptr } := by
      rw [divertPacket, resolves]
    have used : state.used settings side packet ptr = state.outcome settings side packet :=
      State.used_eq resolves
    have closed : divertStep settings (divertPacket settings state side packet) =
        some
          { state with
            table := (state.outcome settings side packet).table
            bucket := (state.outcome settings side packet).bucket
            divert := .closing side (state.outcome settings side packet).buf packet.size } := by
      rw [looked]
      change some (divertVerdict settings { state with divert := .found side packet ptr } side
        packet.size ptr (state.used settings side packet ptr)) = _
      rw [used]
      simp only [divertVerdict, verdict, wait, if_true]
    have leads : closingEntry (state.outcome settings side packet).table side
        (state.outcome settings side packet).buf packet.size = some ptr := by
      rw [State.outcome]
      rw [result] at closing ⊢
      exact closing
    refine ⟨ptr, member, tracked.found, live.1, ?_, leads, _,
      (divertSteps_next 4 closed).trans (divertSteps_close settings _ rfl leads), rfl, ?_⟩
    · rw [State.outcome, result, attach_flags, setFlags_flags_self]
    · have key : (state.outcome settings side packet).table.l2wKeyOf ptr =
          state.table.l2wKeyOf ptr := same.l2wKey ptr
      refine closesTimer_close ?_ key notDebug rfl
      intro other different
      rw [State.outcome, result, attach, setFlags, Table.store_heap_other _ _ _ _ different,
        Table.store_heap_other _ _ _ _ different]
  · intro ptr member
    constructor
    · exact timerEntry_self inv member
    · intro flow
      rw [inv.l2wKey_eq member]
      exact packKey_ne_debug _ flow

private def bothClosed : State := replayed (opening ++ bothFins)

private theorem bothClosed_reached :
    Reachable (step smallSettings) UpToDate smallStart bothClosed :=
  reachable_of_meets (opening ++ bothFins) .start (by decide +kernel)

/-- The client acknowledges the peer's FIN. -/
theorem closing_arms_timer_last_ack :
    ∃ ptr ∈ bothClosed.table.l2w,
      closingEntry (bothClosed.outcome smallSettings .lan (segment client peer 0x10)).table .lan
        (bothClosed.outcome smallSettings .lan (segment client peer 0x10)).buf
        (segment client peer 0x10).size = some ptr ∧
      timerEntry bothClosed.table (bothClosed.table.l2wKeyOf ptr) = some ptr := by
  have settled := closing_arms_timer smallSettings bothClosed
    (reached_table smallSettings _ bothClosed_reached).1 rfl
  obtain ⟨ptr, member, -, -, -, found, -⟩ := settled.1 .lan (segment client peer 0x10)
    (by decide +kernel)
  exact ⟨ptr, member, found, (settled.2 ptr member).1⟩

end System
end NatPorte
