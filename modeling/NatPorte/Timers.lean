/-
Timers and table entries.

The receiver adds a timer after the entry and deletes both together, the divert
thread arms it again for a closing entry, and the timer loop deletes it when it
puts a timeout on its way.  An entry without a timer is one whose timer a thread is
about to add or whose timeout is on its way, and a deletion that does not find its
timer ends the process.
-/

import NatPorte.Releases

namespace NatPorte
namespace System

open TcpState Structure Packet Checksum Alias Tracking Lookup PoolServer Entry StepSystem Pipeline
  KeyedSet

/-- How the timers and the entries change together. -/
inductive TimerEffect (state after : State) : Prop
  | steady (l2w : after.table.l2w = state.table.l2w)
      (keys : ∀ ptr ∈ state.table.l2w, after.table.l2wKeyOf ptr = state.table.l2wKeyOf ptr)
      (armed : ∀ ident, ident ∈ after.armed ↔ ident ∈ state.armed)
      (timeouts : ∀ ptr, .timeout ptr ∈ state.pending → .timeout ptr ∈ after.pending)
  | expired (ident : BitVec 64) (ptr : Ptr) (member : ptr ∈ state.table.l2w)
      (key : state.table.l2wKeyOf ptr = ident) (table : after.table = state.table)
      (armed : ∀ other, other ∈ after.armed ↔ other ∈ state.armed ∧ other ≠ ident)
      (pending : after.pending = {.timeout ptr} + state.pending) (timer : after.timer = .expiring ptr)
  | granted (fresh : Ptr) (l2w : after.table.l2w = fresh :: state.table.l2w)
      (keys : ∀ ptr ∈ state.table.l2w, after.table.l2wKeyOf ptr = state.table.l2wKeyOf ptr)
      (armed : ∀ ident, ident ∈ after.armed ↔
        ident = after.table.l2wKeyOf fresh ∨ ident ∈ state.armed)
      (timeouts : ∀ ptr, .timeout ptr ∈ state.pending → .timeout ptr ∈ after.pending)
  | gone (node : Ptr) (l2w : ∀ ptr, ptr ∈ after.table.l2w ↔ ptr ≠ node ∧ ptr ∈ state.table.l2w)
      (member : node ∈ state.table.l2w)
      (keys : ∀ ptr ∈ state.table.l2w, after.table.l2wKeyOf ptr = state.table.l2wKeyOf ptr)
      (armed : ∀ ident, ident ∈ after.armed ↔
        ident ∈ state.armed ∧ ident ≠ state.table.l2wKeyOf node)
      (timeouts : ∀ ptr, ptr ≠ node → .timeout ptr ∈ state.pending → .timeout ptr ∈ after.pending)

section Effects

variable {settings : Settings} {state after : State} {event : Event}

theorem mem_addTimerEvent {timers : List (BitVec 64)} {ident other : BitVec 64} :
    other ∈ addTimerEvent timers ident ↔ other = ident ∨ other ∈ timers := by
  rw [addTimerEvent]
  split
  · next registered => exact ⟨.inr, fun known => known.elim (fun same => same ▸ registered) id⟩
  · exact List.mem_cons

theorem mem_delTimerEvent {timers : List (BitVec 64)} {ident other : BitVec 64} :
    (other ∈ timers.filter fun kept => kept ≠ ident) ↔ other ∈ timers ∧ other ≠ ident := by
  rw [List.mem_filter, decide_eq_true_eq]

theorem ExchangeInv.grantedProtocol (inv : ExchangeInv state) {reply : Reply} {item : RecvItem}
    (handling : state.receiver = .handling reply item) (type : reply.type = .requestAck) :
    (parsedNode state.now reply.fields).protocol = ipprotoTcp ∨
      (parsedNode state.now reply.fields).protocol = ipprotoUdp := by
  obtain ⟨buf, size, packet, isProtocol, -⟩ := inv.requested handling type
  have same : (parsedNode state.now reply.fields).protocol = ipP buf := by
    change BitVec.ofNat 8 reply.fields.protocol = ipP buf
    rw [isProtocol, BitVec.ofNat_toNat, BitVec.setWidth_eq]
  rw [same]
  exact packet.transport.imp And.left And.left

theorem timeout_kept {item : RecvItem} {rest : Multiset Release} {ptr : Ptr}
    (isPacket : ∀ node, item ≠ .timeout node) (pending : state.pending = one item.pending + rest)
    (before : .timeout ptr ∈ state.pending) : .timeout ptr ∈ rest := by
  rw [pending] at before
  rcases Multiset.mem_add.mp before with own | later
  · cases item with
    | request => cases Multiset.mem_coe.mp own
    | release rel buf size origin => cases Multiset.mem_singleton.mp own
    | timeout node => exact absurd rfl (isPacket node)
  · exact later

theorem ReleaseInv.timerEffect (inv : ReleaseInv settings state)
    (core : CoreCase settings state event after) (allowed : UpToDate state event) :
    TimerEffect state after := by
  have timeouts := inv.exchange.timeouts
  have keys : ∀ ptr ∈ state.table.l2w, after.table.l2wKeyOf ptr = state.table.l2wKeyOf ptr := by
    intro ptr member
    exact congrArg Mapping.l2wKey
      (mapping_kept timeouts.table timeouts.live core (timeouts.live ptr member))
  have steady : after.table.l2w = state.table.l2w → after.armed.Perm state.armed →
      (∀ ptr, .timeout ptr ∈ state.pending → .timeout ptr ∈ after.pending) →
      TimerEffect state after :=
    fun l2w armed timeouts => .steady l2w keys (fun _ => armed.mem_iff) timeouts
  have same : KeepsTimers state after → after.armed.Perm state.armed := by
    intro timers
    rw [timers.armed]
  cases core with
  | shifted pending table timers =>
      exact steady (by rw [table]) (same timers) (by rw [pending]; exact fun _ => id)
  | scribbled ptr node dead pending table timers =>
      exact steady (by rw [table]; rfl) (same timers) (by rw [pending]; exact fun _ => id)
  | touched pending table timers =>
      exact steady table.remaps.l2w (same timers) (by rw [pending]; exact fun _ => id)
  | released side packet ptr isEvent found asks pending table timers =>
      apply steady _ (same timers)
      · intro ptr before
        rw [pending]
        exact Multiset.mem_add.mpr (.inr before)
      · rw [table]
        exact (used_translates settings state side packet ptr).same.l2w
  | suspended ident isEvent suspending pending table timers owed =>
      subst isEvent
      have registered := allowed.suspends suspending
      exact steady (by rw [table]) (armed_suspended timeouts.distinct registered timers owed)
        (by rw [pending]; exact fun _ => id)
  | restored ident pending table timers owed =>
      exact steady (by rw [table]) (armed_restored timeouts.distinct timers owed)
        (by rw [pending]; exact fun _ => id)
  | expired ident ptr isEvent late registered pending table timers owed live unread timer =>
      subst isEvent
      obtain ⟨member, key⟩ := timerEntry_key timeouts registered (allowed.expires late)
      apply TimerEffect.expired ident ptr member key table _ pending timer
      intro other
      rw [armed_dropped timeouts.distinct registered timers owed]
      exact mem_delTimerEvent
  | discarded reply item handling type pending table timers =>
      have kept := inv.exchange.pendingKept handling (by rw [type]; simp) pending
      exact steady (by rw [table]) (same timers) (by rw [kept]; exact fun _ => id)
  | refused fresh reply item holder handling type unused taken pending table timers =>
      have kept := inv.exchange.pendingKept handling (by rw [type]; simp) pending
      apply steady _ (same timers) (by rw [kept]; exact fun _ => id)
      rw [table, timeouts.refused unused taken]
      rfl
  | inserted fresh reply item buf size handling type unused free pending result =>
      have kept := inv.exchange.pendingKept handling (by rw [type]; simp) pending
      have grows := inserted_grows timeouts.table (timeouts.outside unused) reply.fields buf size free
      rw [← congrArg State.table result] at grows
      apply TimerEffect.granted fresh grows.l2w keys _ (by rw [kept]; exact fun _ => id)
      intro ident
      have key : after.table.l2wKeyOf fresh = (parsedNode state.now reply.fields).l2wKey :=
        congrArg Mapping.l2wKey grows.self
      have before : state.armed = state.divert.owed ++ state.timers := by
        simp only [State.armed, State.owed, handling, ReceiverPc.owed, List.append_nil]
      rw [key, result, armed_inserted handling,
        if_pos (inv.exchange.grantedProtocol handling type), before]
      exact List.perm_middle.mem_iff.trans List.mem_cons
  | timedOut reply node handling pending table timers =>
      have isPending : .timeout node ∈ state.pending := by
        rw [pending]
        exact Multiset.mem_add.mpr (.inl (Multiset.mem_singleton_self _))
      obtain ⟨member, unregistered⟩ := timeouts.expired node isPending
      apply TimerEffect.gone node _ member keys
      · intro ident
        rw [timers.armed]
        exact ⟨fun known => ⟨known, fun same => unregistered (same ▸ known)⟩, And.left⟩
      · intro ptr different before
        rw [pending] at before
        rcases Multiset.mem_add.mp before with own | later
        · cases Multiset.mem_singleton.mp own
          exact absurd rfl different
        · exact later
      · intro ptr
        rw [table]
        exact timeouts.table.distinctL2w.mem_remove
  | kept reply item handling type isPacket reason pending table timers =>
      apply steady _ (same timers) (fun _ => timeout_kept isPacket pending)
      rw [table]
      exact (releasedOutcome_same settings state item).l2w
  | deleted reply item node handling type isPacket found registered pending table timers owed =>
      have remaps := releasedOutcome_same settings state item
      have sound := remaps.inv timeouts.table
      have member : node ∈ state.table.l2w := by
        rw [← remaps.l2w]
        exact mem_of_find (sDeleteForValue_some found).1
      have key : (releasedOutcome settings state item).table.l2wKeyOf node =
          state.table.l2wKeyOf node := remaps.l2wKey node
      apply TimerEffect.gone node _ member keys _ (fun _ _ => timeout_kept isPacket pending)
      · intro ptr
        rw [table, ← remaps.l2w]
        exact sound.distinctL2w.mem_remove
      · intro ident
        rw [armed_dropped timeouts.distinct registered timers owed, ← key]
        exact mem_delTimerEvent
  | stopped reply item handling pending table timers =>
      apply steady _ (same timers) (by rw [pending]; exact fun _ => id)
      rw [table]
      exact (releasedOutcome_same settings state item).l2w

end Effects

/-- The ident that the timer loop looks at. -/
def TimerPc.ident : TimerPc → Option (BitVec 64)
  | .fetched ident => some ident
  | .found ident _ => some ident
  | .late ident _ => some ident
  | _ => none

/-- An entry has its timer, or is about to have it, or its timeout is on its way. -/
structure TimerInv (state : State) : Prop where
  armed : ∀ ptr ∈ state.table.l2w,
    state.table.l2wKeyOf ptr ∈ state.armed ∨ .timeout ptr ∈ state.pending
  served : ∀ ident, state.timer.ident = some ident →
    ident ∈ state.armed ∨ ∀ ptr ∈ state.table.l2w, state.table.l2wKeyOf ptr ≠ ident
  shape : ∀ ident, state.timer.ident = some ident → ∃ protocol lan, ident = packKey protocol lan

section Timers

variable {settings : Settings} {state after : State} {event : Event}

theorem TimerInv.armed_step (inv : TimerInv state) (table : TableInv state.table)
    (effect : TimerEffect state after) : ∀ ptr ∈ after.table.l2w,
      after.table.l2wKeyOf ptr ∈ after.armed ∨ .timeout ptr ∈ after.pending := by
  intro ptr member
  cases effect with
  | steady l2w keys armed timeouts =>
      rw [l2w] at member
      rw [keys ptr member, armed]
      exact (inv.armed ptr member).imp_right (timeouts ptr)
  | expired ident node inTable key same armed pending =>
      rw [same] at member ⊢
      rw [armed, pending, Multiset.mem_add, Multiset.mem_singleton]
      rcases inv.armed ptr member with registered | before
      · by_cases isNode : ptr = node
        · subst isNode
          exact .inr (.inl rfl)
        · refine .inl ⟨registered, fun isIdent => isNode ?_⟩
          exact table.distinctL2w.eq_of_key member inTable (isIdent.trans key.symm)
      · exact .inr (.inr before)
  | granted fresh l2w keys armed timeouts =>
      rw [l2w] at member
      rcases List.mem_cons.mp member with new | old
      · subst new
        exact .inl ((armed _).mpr (.inl rfl))
      · rw [keys ptr old, armed]
        exact (inv.armed ptr old).imp .inr (timeouts ptr)
  | gone node l2w inTable keys armed timeouts =>
      obtain ⟨different, before⟩ := (l2w ptr).mp member
      rw [keys ptr before, armed]
      refine (inv.armed ptr before).imp (fun registered => ⟨registered, fun isNode => ?_⟩)
        (timeouts ptr different)
      exact different (table.distinctL2w.eq_of_key before inTable isNode)

/-- While the timer loop looks at an ident, its timer and its entry go together. -/
theorem TimerInv.served_step (table : TableInv state.table) (effect : TimerEffect state after)
    {ident : BitVec 64} (later : after.timer.ident = some ident)
    (served : ident ∈ state.armed ∨ ∀ ptr ∈ state.table.l2w, state.table.l2wKeyOf ptr ≠ ident) :
    ident ∈ after.armed ∨ ∀ ptr ∈ after.table.l2w, after.table.l2wKeyOf ptr ≠ ident := by
  cases effect with
  | steady l2w keys armed =>
      rw [armed, l2w]
      refine served.imp_right (fun nobody ptr member => ?_)
      rw [keys ptr member]
      exact nobody ptr member
  | expired other node member key same armed pending timer =>
      rw [timer] at later
      cases later
  | granted fresh l2w keys armed =>
      rw [armed, l2w]
      rcases served with registered | nobody
      · exact .inl (.inr registered)
      · by_cases new : after.table.l2wKeyOf fresh = ident
        · exact .inl (.inl new.symm)
        · refine .inr (fun ptr member => ?_)
          rcases List.mem_cons.mp member with isNew | old
          · subst isNew
            exact new
          · rw [keys ptr old]
            exact nobody ptr old
  | gone node l2w member keys armed =>
      rw [armed]
      have others : (∀ ptr ∈ state.table.l2w, ptr ≠ node → state.table.l2wKeyOf ptr ≠ ident) →
          ∀ ptr ∈ after.table.l2w, after.table.l2wKeyOf ptr ≠ ident := by
        intro nobody ptr left
        obtain ⟨different, before⟩ := (l2w ptr).mp left
        rw [keys ptr before]
        exact nobody ptr before different
      rcases served with registered | nobody
      · by_cases own : ident = state.table.l2wKeyOf node
        · subst own
          refine .inr (others (fun ptr before different same => different ?_))
          exact table.distinctL2w.eq_of_key before member same
        · exact .inl ⟨registered, own⟩
      · exact .inr (others (fun ptr before _ => nobody ptr before))

theorem fetched_case (moved : StepCase settings state event after) {ident : BitVec 64}
    (later : after.timer.ident = some ident) :
    state.timer.ident = some ident ∨ ident ∈ state.timers := by
  cases moved with
  | fetch other waiting registered =>
      cases later
      exact .inr registered
  | find other ptr fetched =>
      cases later
      exact .inl (by rw [fetched]; rfl)
  | test other ptr found =>
      cases later
      exact .inl (by rw [found]; rfl)
  | notYet => cases later
  | expire => cases later
  | pushTimeout => cases later
  | _ => exact .inl later

theorem TimerInv.step (inv : ReleaseInv settings state) (timers : TimerInv state)
    (moved : StepCase settings state event after) (allowed : UpToDate state event) :
    TimerInv after := by
  have effect := inv.timerEffect (core_case moved) allowed
  have timeouts := inv.exchange.timeouts
  refine ⟨timers.armed_step timeouts.table effect, ?_, ?_⟩
  · intro ident later
    apply TimerInv.served_step timeouts.table effect later
    rcases fetched_case moved later with before | registered
    · exact timers.served ident before
    · exact .inl (armed_of_timer registered)
  · intro ident later
    rcases fetched_case moved later with before | registered
    · exact timers.shape ident before
    · obtain ⟨ptr, member, key⟩ := timeouts.owned ident (armed_of_timer registered)
      exact ⟨_, _, key.symm.trans (timeouts.table.l2wKey_eq member)⟩

end Timers

section Deletions

variable {settings : Settings} {state : State}

theorem armed_iff {ident : BitVec 64} : ident ∈ state.armed ↔ ident ∈ state.owed ∨ ident ∈ state.timers :=
  List.mem_append

theorem TimerInv.released (inv : ReleaseInv settings state) (timers : TimerInv state)
    {origin : Origin} (isPending : .segment origin ∈ state.pending) :
    state.table.l2wKeyOf origin.ptr ∈ state.armed := by
  rcases timers.armed origin.ptr (inv.segments origin isPending).1 with registered | expired
  · exact registered
  · obtain ⟨rest, split⟩ := Multiset.exists_cons_of_mem isPending
    rw [split, Multiset.mem_cons] at expired
    rcases expired with same | other
    · cases same
    · have pending : state.pending = {.segment origin} + rest := by
        rw [split, Multiset.singleton_add]
      have different := inv.only pending other
      exact absurd rfl different

theorem ReleaseInv.notSuspended (inv : ReleaseInv settings state) {origin : Origin}
    (isPending : .segment origin ∈ state.pending) :
    state.table.l2wKeyOf origin.ptr ∉ state.divert.owed := by
  intro owed
  apply inv.closes origin isPending
  cases pc : state.divert with
  | rearming side buf size ident =>
      rw [pc] at owed
      rw [State.Closes, pc]
      exact List.mem_singleton.mp owed
  | _ =>
      rw [pc] at owed
      cases owed

theorem TimerInv.releasing (inv : ReleaseInv settings state) (timers : TimerInv state)
    {reply : Reply} {item : RecvItem} (handling : state.receiver = .handling reply item)
    {origin : Origin} (isPending : .segment origin ∈ state.pending) :
    state.table.l2wKeyOf origin.ptr ∈ state.timers := by
  have owed : state.owed = state.divert.owed := by
    simp only [State.owed, handling, ReceiverPc.owed, List.append_nil]
  refine (armed_iff.mp (timers.released inv isPending)).resolve_left ?_
  rw [owed]
  exact inv.notSuspended isPending

theorem TimerInv.expires (inv : ReleaseInv settings state) (timers : TimerInv state)
    (allowed : Orderly settings state .timer) {ident : BitVec 64} {ptr : Ptr}
    (late : state.timer = .late ident ptr) : ident ∈ state.timers := by
  have held : state.timer.ident = some ident := by rw [late]; rfl
  obtain ⟨protocol, lan, isKey⟩ := timers.shape ident held
  have found := allowed.upToDate.expires late
  rw [isKey] at found
  obtain ⟨member, key⟩ := timerEntry_packKey inv.exchange.timeouts.table found
  rcases timers.served ident held with armed | nobody
  · exact (armed_iff.mp armed).resolve_left (allowed.expires late).1
  · exact absurd (key.trans isKey.symm) (nobody ptr member)

end Deletions

end System
end NatPorte
