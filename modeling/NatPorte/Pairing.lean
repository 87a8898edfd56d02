/-
Replies meet the packets they were asked for.

The exchange with the server carries no identifiers.  The invariant here covers
all queues in flight: every item popped or waiting in `h_recv` is due an answer of
its own, a pending timeout still points to an entry whose timer is gone, and the
server has a row for every client in the table, so that it answers every message.
There are two things that a run must not do: suspend a timer that has already expired,
and expire or print an entry that has left the table since it was looked up.
-/

import NatPorte.InFlight

namespace NatPorte
namespace System

open TcpState Structure Packet Checksum Alias Tracking Lookup PoolServer Entry StepSystem Pipeline

def TimerPc.expires : TimerPc → Option (BitVec 64 × Ptr)
  | .late ident ptr => some (ident, ptr)
  | _ => none

/-- The entry that the sender is about to print, and where it found it. -/
def SenderPc.prints (table : Table) : SenderPc → Option (Option Ptr × Ptr)
  | .matched rel buf size _ ptr => some (releaseEntry table rel buf size, ptr)
  | _ => none

/-- The timer that the divert thread suspends is registered, and what the timer loop
expires or the sender prints is still what was looked up. -/
def UpToDate (state : State) : Event → Prop
  | .divert => ∀ ident ∈ state.divert.suspends, ident ∈ state.timers
  | .timer => ∀ late ∈ state.timer.expires, timerEntry state.table late.1 = some late.2
  | .sender => ∀ found ∈ state.sender.prints state.table, found.1 = some found.2
  | _ => True

instance (state : State) : (event : Event) → Decidable (UpToDate state event)
  | .divert =>
      decidable_of_iff (state.divert.suspends.all (fun ident => state.timers.contains ident) = true)
        (by simp [UpToDate, Option.all_eq_true])
  | .timer => Option.decidableForallMem state.timer.expires
  | .sender => Option.decidableForallMem (state.sender.prints state.table)
  | .clock _ | .scribble _ _ | .packet _ _ | .kevent _ | .server | .receiver _ | .sendto =>
      isTrue trivial

theorem UpToDate.suspends {state : State} (allowed : UpToDate state .divert) {ident : BitVec 64}
    (suspending : state.divert.suspends = some ident) : ident ∈ state.timers :=
  allowed ident suspending

theorem UpToDate.expires {state : State} (allowed : UpToDate state .timer) {ident : BitVec 64}
    {ptr : Ptr} (late : state.timer = .late ident ptr) :
    timerEntry state.table ident = some ptr :=
  allowed (ident, ptr) (by rw [late]; rfl)

theorem UpToDate.prints {state : State} (allowed : UpToDate state .sender) {rel : Side}
    {buf : Buffer} {size : Nat} {origin : Origin} {ptr : Ptr}
    (matched : state.sender = .matched rel buf size origin ptr) :
    releaseEntry state.table rel buf size = some ptr :=
  allowed (releaseEntry state.table rel buf size, ptr) (by rw [matched]; rfl)

/-! ### Timers

A timer counts as armed while a thread is about to add it. -/

def State.armed (state : State) : List (BitVec 64) := state.owed ++ state.timers

section Armed

variable {state after : State} {ident : BitVec 64}

theorem KeepsTimers.armed (keeps : KeepsTimers state after) : after.armed = state.armed := by
  rw [State.armed, State.armed, keeps.timers, keeps.owed]

theorem armed_of_timer (registered : ident ∈ state.timers) : ident ∈ state.armed :=
  List.mem_append_right _ registered

theorem not_owed (distinct : state.armed.Nodup) (registered : ident ∈ state.timers) :
    ident ∉ state.owed :=
  fun owed => List.disjoint_of_nodup_append distinct owed registered

theorem armed_suspended (distinct : state.armed.Nodup) (registered : ident ∈ state.timers)
    (timers : after.timers = state.timers.filter fun other => other ≠ ident)
    (owed : after.owed = ident :: state.owed) : after.armed.Perm state.armed := by
  have unique : state.timers.Nodup := distinct.of_append_right
  have erased : state.timers.filter (fun other => other ≠ ident) = state.timers.erase ident := by
    rw [unique.erase_eq_filter]
    refine List.filter_congr fun other _ => ?_
    by_cases same : other = ident
    · simp [same]
    · simp [same]
  rw [State.armed, State.armed, owed, timers, erased, List.cons_append]
  exact List.perm_middle.symm.trans ((List.perm_cons_erase registered).symm.append_left _)

theorem armed_restored (distinct : state.armed.Nodup)
    (timers : after.timers = addTimerEvent state.timers ident)
    (owed : state.owed.Perm (ident :: after.owed)) : after.armed.Perm state.armed := by
  have absent : ident ∉ state.timers :=
    List.disjoint_of_nodup_append distinct (owed.mem_iff.mpr List.mem_cons_self)
  rw [State.armed, State.armed, timers, addTimerEvent, if_neg absent]
  exact List.perm_middle.trans (owed.symm.append_right _)

theorem armed_dropped (distinct : state.armed.Nodup) (registered : ident ∈ state.timers)
    (timers : after.timers = state.timers.filter fun other => other ≠ ident)
    (owed : after.owed = state.owed) :
    after.armed = state.armed.filter fun other => other ≠ ident := by
  have others : state.owed.filter (fun other => other ≠ ident) = state.owed := by
    refine List.filter_eq_self.mpr fun other member => decide_eq_true ?_
    intro same
    exact not_owed distinct registered (same ▸ member)
  rw [State.armed, State.armed, List.filter_append, others, timers, owed]

end Armed

structure TimeoutInv (state : State) : Prop where
  table : TableInv state.table
  live : ∀ ptr ∈ state.table.l2w, ptr ∈ state.live
  expired : ∀ ptr, .timeout ptr ∈ state.pending →
    ptr ∈ state.table.l2w ∧ state.table.l2wKeyOf ptr ∉ state.armed
  once : ∀ ptr, state.pending.count (.timeout ptr) ≤ 1
  owned : ∀ ident ∈ state.armed, ∃ ptr ∈ state.table.l2w, state.table.l2wKeyOf ptr = ident
  distinct : state.armed.Nodup

section Timeouts

variable {settings : Settings} {state after : State} {event : Event}

theorem TimeoutInv.frame (inv : TimeoutInv state) (table : TableInv after.table)
    (l2w : after.table.l2w = state.table.l2w)
    (keys : ∀ ptr ∈ state.table.l2w, after.table.l2wKeyOf ptr = state.table.l2wKeyOf ptr)
    (armed : after.armed.Perm state.armed) (live : after.live = state.live)
    (fewer : ∀ ptr, after.pending.count (.timeout ptr) ≤ state.pending.count (.timeout ptr)) :
    TimeoutInv after where
  table := table
  live := by
    rw [l2w, live]
    exact inv.live
  expired := by
    intro ptr pending
    have before := Multiset.count_pos.mp (Nat.lt_of_lt_of_le (Multiset.count_pos.mpr pending)
      (fewer ptr))
    obtain ⟨member, unregistered⟩ := inv.expired ptr before
    rw [l2w, keys ptr member]
    exact ⟨member, fun registered => unregistered (armed.mem_iff.mp registered)⟩
  once ptr := (fewer ptr).trans (inv.once ptr)
  owned := by
    intro ident registered
    obtain ⟨ptr, member, key⟩ := inv.owned ident (armed.mem_iff.mp registered)
    exact ⟨ptr, l2w ▸ member, (keys ptr member).trans key⟩
  distinct := armed.nodup_iff.mpr inv.distinct

theorem TimeoutInv.outside (inv : TimeoutInv state) {ptr : Ptr} (unused : ptr ∉ state.live) :
    ptr ∉ state.table.l2w :=
  fun member => unused (inv.live ptr member)

theorem TimeoutInv.refused (inv : TimeoutInv state) {fresh holder : Ptr} {node : Node}
    (unused : fresh ∉ state.live)
    (taken : (sInsert (state.table.store fresh node) fresh).2 = some holder) :
    (sInsert (state.table.store fresh node) fresh).1 = state.table.store fresh node :=
  (sInsert_refused (inv.table.store_fresh node (inv.outside unused)) taken).2

theorem TimeoutInv.mapped (inv : TimeoutInv state) (same : Remaps state.table after.table)
    (timers : KeepsTimers state after) (live : after.live = state.live)
    (fewer : ∀ ptr, after.pending.count (.timeout ptr) ≤ state.pending.count (.timeout ptr)) :
    TimeoutInv after :=
  inv.frame (same.inv inv.table) same.l2w (fun ptr _ => same.l2wKey ptr)
    (by rw [timers.armed]) live fewer

theorem count_lost {item : RecvItem} (pending : state.pending = one item.pending + after.pending)
    (ptr : Ptr) : after.pending.count (.timeout ptr) ≤ state.pending.count (.timeout ptr) := by
  rw [pending]
  exact Multiset.count_le_of_le _ (Multiset.le_add_left _ _)

theorem count_segment (origin : Origin) (pending : Multiset Release) (ptr : Ptr) :
    ({.segment origin} + pending).count (.timeout ptr) = pending.count (.timeout ptr) := by
  rw [Multiset.count_add, Multiset.count_singleton, if_neg nofun, Nat.zero_add]

theorem timerEntry_packKey {table : Table} (inv : TableInv table) {protocol : BitVec 8}
    {lan : Endpoint} {ptr : Ptr} (found : timerEntry table (packKey protocol lan) = some ptr) :
    ptr ∈ table.l2w ∧ table.l2wKeyOf ptr = packKey protocol lan := by
  rw [timerEntry, getProtocol_packKey, getPort_packKey, getIp_packKey] at found
  obtain ⟨member, sameProtocol, sameLan⟩ := (findL2w_eq_some inv).mp found
  refine ⟨member, ?_⟩
  rw [inv.l2wKey_eq member, sameProtocol, sameLan]

theorem timerEntry_key (inv : TimeoutInv state) {ident : BitVec 64} {ptr : Ptr}
    (registered : ident ∈ state.timers) (found : timerEntry state.table ident = some ptr) :
    ptr ∈ state.table.l2w ∧ state.table.l2wKeyOf ptr = ident := by
  obtain ⟨owner, member, isKey⟩ := inv.owned ident (armed_of_timer registered)
  rw [inv.table.l2wKey_eq member] at isKey
  subst isKey
  exact timerEntry_packKey inv.table found

theorem TimeoutInv.remove {node : Ptr} {table : Table} (inv : TimeoutInv state)
    (same : SameMappings state.table table)
    (isTable : after.table = (sDeleteForPoint table node).1)
    (armed : ∀ ident ∈ after.armed, ident ∈ state.armed ∧ ident ≠ state.table.l2wKeyOf node)
    (distinct : after.armed.Nodup)
    (live : after.live = state.live.erase node)
    (fewer : ∀ ptr, after.pending.count (.timeout ptr) ≤ state.pending.count (.timeout ptr))
    (settled : after.pending.count (.timeout node) = 0) : TimeoutInv after := by
  have sound := same.inv inv.table
  have left : ∀ ptr, ptr ∈ after.table.l2w ↔ ptr ≠ node ∧ ptr ∈ state.table.l2w := by
    intro ptr
    rw [isTable, ← same.l2w]
    exact sound.distinctL2w.mem_remove
  have key : ∀ ptr, after.table.l2wKeyOf ptr = state.table.l2wKeyOf ptr := by
    intro ptr
    rw [isTable]
    exact same.l2wKey ptr
  refine ⟨?_, ?_, ?_, fun ptr => (fewer ptr).trans (inv.once ptr), ?_, distinct⟩
  · rw [isTable]
    exact sDeleteForPoint_inv sound node
  · intro ptr member
    obtain ⟨different, before⟩ := (left ptr).mp member
    rw [live]
    exact (List.mem_erase_of_ne different).mpr (inv.live ptr before)
  · intro ptr pending
    have counted := Multiset.count_pos.mpr pending
    have different : ptr ≠ node := by
      rintro rfl
      omega
    obtain ⟨member, unregistered⟩ :=
      inv.expired ptr (Multiset.count_pos.mp (Nat.lt_of_lt_of_le counted (fewer ptr)))
    refine ⟨(left ptr).mpr ⟨different, member⟩, fun registered => unregistered ?_⟩
    rw [← key]
    exact (armed _ registered).1
  · intro ident registered
    obtain ⟨before, other⟩ := armed ident registered
    obtain ⟨ptr, member, isKey⟩ := inv.owned ident before
    refine ⟨ptr, (left ptr).mpr ⟨?_, member⟩, (key ptr).trans isKey⟩
    rintro rfl
    exact other isKey.symm

theorem armed_inserted {fresh : Ptr} {reply : Reply} {item : RecvItem} {fields : Fields}
    {buf : Buffer} {size : Nat} (handling : state.receiver = .handling reply item) :
    (state.inserted fresh fields buf size).armed =
      (if (parsedNode state.now fields).protocol = ipprotoTcp ∨
          (parsedNode state.now fields).protocol = ipprotoUdp then
        state.divert.owed ++ (parsedNode state.now fields).l2wKey :: state.timers
      else state.armed) := by
  simp only [State.armed, State.owed, State.inserted, handling]
  split
  · exact List.append_assoc ..
  · rfl

private theorem TimeoutInv.insert (inv : TimeoutInv state) {fresh : Ptr} {reply : Reply}
    {item : RecvItem} (handling : state.receiver = .handling reply item) {fields : Fields}
    (unused : fresh ∉ state.live) (buf : Buffer) (size : Nat)
    (free : (sInsert (state.table.store fresh (parsedNode state.now fields)) fresh).2 = none)
    (isAfter : after = state.inserted fresh fields buf size)
    (fewer : ∀ ptr, after.pending.count (.timeout ptr) ≤ state.pending.count (.timeout ptr)) :
    TimeoutInv after := by
  have grows := inserted_grows inv.table (inv.outside unused) fields buf size free
  rw [← congrArg State.table isAfter] at grows
  have armed : after.armed.Perm ((parsedNode state.now fields).l2wKey :: state.armed) ∨
      after.armed = state.armed := by
    have before : state.armed = state.divert.owed ++ state.timers := by
      simp only [State.armed, State.owed, handling, ReceiverPc.owed, List.append_nil]
    rw [isAfter, armed_inserted handling]
    split
    · rw [before]
      exact .inl List.perm_middle
    · exact .inr rfl
  have members : ∀ ident ∈ after.armed,
      ident ∈ state.armed ∨ ident = (parsedNode state.now fields).l2wKey := by
    intro ident registered
    rcases armed with more | same
    · exact (List.mem_cons.mp (more.mem_iff.mp registered)).symm
    · exact .inl (same ▸ registered)
  have old : ∀ ptr ∈ state.table.l2w, after.table.l2wKeyOf ptr = state.table.l2wKeyOf ptr := by
    intro ptr member
    have different : ptr ≠ fresh := fun same => inv.outside unused (same ▸ member)
    exact congrArg Mapping.l2wKey (grows.others ptr different)
  refine ⟨grows.inv, ?_, ?_, fun ptr => (fewer ptr).trans (inv.once ptr), ?_, ?_⟩
  · intro ptr member
    have live : after.live = fresh :: state.live := by rw [isAfter]; rfl
    rw [grows.l2w] at member
    rw [live]
    rcases List.mem_cons.mp member with rfl | before
    · exact List.mem_cons_self
    · exact List.mem_cons_of_mem _ (inv.live ptr before)
  · intro ptr pending
    obtain ⟨member, unregistered⟩ := inv.expired ptr
      (Multiset.count_pos.mp (Nat.lt_of_lt_of_le (Multiset.count_pos.mpr pending) (fewer ptr)))
    rw [grows.l2w, old ptr member]
    refine ⟨List.mem_cons_of_mem _ member, fun registered => ?_⟩
    rcases members _ registered with before | new
    · exact unregistered before
    · exact grows.freeLan ptr member new
  · intro ident registered
    rw [grows.l2w]
    rcases members ident registered with before | new
    · obtain ⟨ptr, member, key⟩ := inv.owned ident before
      exact ⟨ptr, List.mem_cons_of_mem _ member, (old ptr member).trans key⟩
    · exact ⟨fresh, List.mem_cons_self, (congrArg Mapping.l2wKey grows.self).trans new.symm⟩
  · rcases armed with more | same
    · refine more.nodup_iff.mpr (List.nodup_cons.mpr ⟨fun taken => ?_, inv.distinct⟩)
      obtain ⟨ptr, member, key⟩ := inv.owned _ taken
      exact grows.freeLan ptr member key
    · rw [same]
      exact inv.distinct

theorem TimeoutInv.step (inv : TimeoutInv state) (moved : CoreCase settings state event after)
    (allowed : UpToDate state event) : TimeoutInv after := by
  have unmoved : after.table = state.table → after.armed.Perm state.armed →
      after.live = state.live →
      (∀ ptr, after.pending.count (.timeout ptr) ≤ state.pending.count (.timeout ptr)) →
      TimeoutInv after := by
    intro table armed live fewer
    exact inv.frame (table ▸ inv.table) (by rw [table]) (by rw [table]; exact fun _ _ => rfl) armed
      live fewer
  cases moved with
  | shifted pending table timers live =>
      exact unmoved table (by rw [timers.armed]) live (by rw [pending]; exact fun _ => Nat.le_refl _)
  | scribbled ptr node dead pending table timers live =>
      have outside := inv.outside dead
      refine inv.frame ?_ (by rw [table]; rfl) ?_ (by rw [timers.armed]) live ?_
      · rw [table]
        exact inv.table.store_fresh node outside
      · intro other member
        have different : other ≠ ptr := fun same => outside (same ▸ member)
        rw [table, Table.l2wKeyOf, Table.store_heap_other _ _ _ _ different]
        rfl
      · rw [pending]
        exact fun _ => Nat.le_refl _
  | touched pending table timers live =>
      exact inv.mapped table.remaps timers live (by rw [pending]; exact fun _ => Nat.le_refl _)
  | released side packet ptr isEvent found asks pending table timers live =>
      refine inv.mapped ?_ timers live ?_
      · rw [table]
        exact .ofSame (used_translates settings state side packet ptr).same
      · intro other
        rw [pending, count_segment]
  | suspended ident isEvent suspending pending table timers owed live =>
      subst isEvent
      have registered := allowed.suspends suspending
      exact unmoved table (armed_suspended inv.distinct registered timers owed) live
        (by rw [pending]; exact fun _ => Nat.le_refl _)
  | restored ident pending table timers owed live =>
      exact unmoved table (armed_restored inv.distinct timers owed) live
        (by rw [pending]; exact fun _ => Nat.le_refl _)
  | expired ident ptr isEvent late registered pending table timers owed live unread timer =>
      subst isEvent
      obtain ⟨member, key⟩ := timerEntry_key inv registered (allowed.expires late)
      have unpending : state.pending.count (.timeout ptr) = 0 := by
        apply Multiset.count_eq_zero.mpr
        intro before
        exact (inv.expired ptr before).2 (key ▸ armed_of_timer registered)
      have armed := armed_dropped inv.distinct registered timers owed
      have narrowed : ∀ other ∈ after.armed, other ∈ state.armed ∧ other ≠ ident := by
        intro other kept
        rw [armed] at kept
        exact ⟨(List.mem_filter.mp kept).1, of_decide_eq_true (List.mem_filter.mp kept).2⟩
      refine ⟨table ▸ inv.table, by rw [table, live]; exact inv.live, ?_, ?_, ?_, ?_⟩
      · intro other expired
        rw [pending] at expired
        rw [table]
        rcases Multiset.mem_add.mp expired with new | old
        · cases Multiset.mem_singleton.mp new
          exact ⟨member, fun kept => (narrowed _ kept).2 key⟩
        · obtain ⟨inTable, unregistered⟩ := inv.expired other old
          exact ⟨inTable, fun kept => unregistered (narrowed _ kept).1⟩
      · intro other
        rw [pending, Multiset.count_add, Multiset.count_singleton]
        have bound := inv.once other
        split
        · next same =>
            cases same
            omega
        · omega
      · intro other kept
        rw [table]
        exact inv.owned other (narrowed other kept).1
      · rw [armed]
        exact inv.distinct.filter _
  | discarded reply item handling type pending table timers live =>
      exact unmoved table (by rw [timers.armed]) live (count_lost pending)
  | refused fresh reply item holder handling type unused taken pending table timers live =>
      have outside := inv.outside unused
      have stored := inv.table.store_fresh (parsedNode state.now reply.fields) outside
      rw [inv.refused unused taken] at table
      refine inv.frame (table ▸ stored) (by rw [table]; rfl) ?_ (by rw [timers.armed]) live
        (count_lost pending)
      intro other member
      have different : other ≠ fresh := fun same => outside (same ▸ member)
      rw [table, Table.l2wKeyOf, Table.store_heap_other _ _ _ _ different]
      rfl
  | inserted fresh reply item buf size handling type unused free pending result =>
      exact inv.insert handling unused buf size free result (count_lost pending)
  | timedOut reply node handling pending table timers live =>
      have before : Release.timeout node ∈ state.pending := by
        rw [pending]
        exact Multiset.mem_add.mpr (.inl (Multiset.mem_singleton_self _))
      refine inv.remove (.refl _) table ?_ (by rw [timers.armed]; exact inv.distinct) live ?_ ?_
      · intro ident registered
        rw [timers.armed] at registered
        exact ⟨registered, fun same => (inv.expired node before).2 (same ▸ registered)⟩
      · rw [pending]
        exact fun _ => Multiset.count_le_of_le _ (Multiset.le_add_left _ _)
      · have bound := inv.once node
        rw [pending, Multiset.count_add, Multiset.count_singleton_self] at bound
        omega
  | kept reply item handling type isPacket reason pending table timers live =>
      refine inv.mapped ?_ timers live (count_lost pending)
      rw [table]
      exact .ofSame (releasedOutcome_same settings state item)
  | deleted reply item node handling type isPacket found registered pending table timers owed live =>
      have same := releasedOutcome_same settings state item
      have key : (releasedOutcome settings state item).table.l2wKeyOf node =
          state.table.l2wKeyOf node := same.l2wKey node
      rw [key] at registered timers
      have armed := armed_dropped inv.distinct registered timers owed
      refine inv.remove same table ?_ ?_ live (count_lost pending) ?_
      · intro ident kept
        rw [armed] at kept
        exact ⟨(List.mem_filter.mp kept).1, of_decide_eq_true (List.mem_filter.mp kept).2⟩
      · rw [armed]
        exact inv.distinct.filter _
      · apply Multiset.count_eq_zero.mpr
        intro left
        have before : Release.timeout node ∈ state.pending := by
          rw [pending]
          exact Multiset.mem_add.mpr (.inr left)
        exact (inv.expired node before).2 (armed_of_timer registered)
  | stopped reply item handling pending table timers live =>
      refine inv.mapped ?_ timers live (by rw [pending]; exact fun _ => Nat.le_refl _)
      rw [table]
      exact .ofSame (releasedOutcome_same settings state item)

theorem core_l2w (inv : TimeoutInv state) (moved : CoreCase settings state event after) :
    (∀ ptr ∈ after.table.l2w, ptr ∈ state.table.l2w) ∨
      ∃ reply item, state.receiver = .handling reply item ∧ reply.type = .requestAck ∧
        ∃ fresh, after.table.l2w = fresh :: state.table.l2w ∧
          mappingOf (after.table.heap fresh) = mappingOf (parsedNode state.now reply.fields) := by
  have remapped : ∀ {table : Table}, SameMappings state.table table → after.table = table →
      ∀ ptr ∈ after.table.l2w, ptr ∈ state.table.l2w := by
    intro table same isTable ptr member
    rw [isTable, same.l2w] at member
    exact member
  have removed : ∀ {table : Table} {node : Ptr}, SameMappings state.table table →
      after.table = (sDeleteForPoint table node).1 →
      ∀ ptr ∈ after.table.l2w, ptr ∈ state.table.l2w := by
    intro table node same isTable ptr member
    rw [isTable] at member
    exact same.l2w ▸ List.mem_of_mem_erase member
  cases moved with
  | shifted pending table =>
      rw [table]
      exact .inl fun _ => id
  | scribbled ptr node dead pending table =>
      rw [table]
      exact .inl fun _ => id
  | touched pending table =>
      rw [table.remaps.l2w]
      exact .inl fun _ => id
  | released side packet ptr isEvent found asks pending table =>
      exact .inl (remapped (used_translates settings state side packet ptr).same table)
  | suspended ident isEvent suspending pending table =>
      rw [table]
      exact .inl fun _ => id
  | restored ident pending table =>
      rw [table]
      exact .inl fun _ => id
  | expired ident ptr isEvent late registered pending table =>
      rw [table]
      exact .inl fun _ => id
  | discarded reply item handling type pending table =>
      rw [table]
      exact .inl fun _ => id
  | refused fresh reply item holder handling type unused taken pending table =>
      rw [table, inv.refused unused taken]
      exact .inl fun _ => id
  | inserted fresh reply item buf size handling type unused free pending result =>
      have grows := inserted_grows inv.table (inv.outside unused) reply.fields buf size free
      rw [result]
      exact .inr ⟨reply, item, handling, type, fresh, grows.l2w, grows.self⟩
  | timedOut reply node handling pending table => exact .inl (removed (.refl _) table)
  | kept reply item handling type isPacket reason pending table =>
      exact .inl (remapped (releasedOutcome_same settings state item) table)
  | deleted reply item node handling type isPacket found registered pending table =>
      exact .inl (removed (releasedOutcome_same settings state item) table)
  | stopped reply item handling pending table =>
      exact .inl (remapped (releasedOutcome_same settings state item) table)

end Timeouts

/-- The client that a packet from the LAN stands for in a message. -/
def sourceOf (buf : Buffer) : Nat × Nat × Int :=
  ((ipP buf).toNat, (swap32 (endpoint buf .source).ip).toNat,
    (swap16 (endpoint buf .source).port).toNat)

/-- The answer an item is due: for a request a grant or a refusal that names its
own client, for a release an acknowledgement, and for an expired entry one that
carries the entry's endpoints. -/
def Fits (server : Server) (heap : Ptr → Node) : RecvItem → Due Message Reply → Prop
  | .request buf size, .asked (.request protocol ipSrc portSrc _ _) =>
      TransportPacket buf size ∧ (protocol, ipSrc, portSrc) = sourceOf buf
  | .request buf size, .replied reply =>
      TransportPacket buf size ∧
        (reply.type = .requestDiscard ∨ reply.type = .requestAck ∧
          server.HasRow reply.fields.protocol reply.fields.lanIp) ∧
        (reply.fields.protocol, reply.fields.lanIp, reply.fields.lanPort) = sourceOf buf
  | .release _ _ _ _, .asked (.release fields) =>
      fields.Words ∧ server.HasRow fields.protocol fields.lanIp
  | .release _ _ _ _, .replied reply => reply.type = .releaseAck
  | .timeout ptr, .asked (.release fields) =>
      fields = fieldsOf (heap ptr) ∧ server.HasRow fields.protocol fields.lanIp
  | .timeout ptr, .replied reply =>
      reply.type = .releaseAck ∧ reply.fields = fieldsOf (heap ptr)
  | _, _ => False

theorem Fits.notReleased {server : Server} {heap : Ptr → Node} {buf : Buffer} {size : Nat}
    {reply : Reply} (fits : Fits server heap (.request buf size) (.replied reply)) :
    reply.type ≠ .releaseAck := by
  intro type
  obtain ⟨-, outcome, -⟩ := fits
  rw [type] at outcome
  rcases outcome with discarded | granted
  · cases discarded
  · cases granted.1

/-- A message that the server answers. -/
def Askable (server : Server) : Message → Prop
  | .request _ ipSrc _ _ _ => ipSrc < 2 ^ 32
  | .release fields => fields.Words ∧ server.HasRow fields.protocol fields.lanIp
  | .initializeAddrs _ => False

/-- ... and the answer. -/
def Answers (before after : Server) : Message → Reply → Prop
  | .request protocol ipSrc portSrc _ _, reply =>
      before.Requested protocol ipSrc portSrc after reply
  | .release fields, reply =>
      reply = { type := .releaseAck, fields := fields } ∧ before.Serves after ∧
        ∀ other, after.Mapped other ↔ before.Mapped other ∧ other ≠ fields
  | .initializeAddrs _, _ => False

section Exchange

variable {server after : Server} {heap heap' : Ptr → Node} {item : RecvItem}

theorem Fits.mono {answer : Due Message Reply} (fits : Fits server heap item answer)
    (kept : ∀ protocol ip, server.HasRow protocol ip → after.HasRow protocol ip)
    (same : ∀ ptr, item = .timeout ptr → fieldsOf (heap' ptr) = fieldsOf (heap ptr)) :
    Fits after heap' item answer := by
  cases item with
  | request buf size =>
      cases answer with
      | asked message =>
          cases message with
          | request => exact fits
          | release => exact fits
          | initializeAddrs => exact fits
      | replied reply =>
          obtain ⟨packet, outcome, source⟩ := fits
          exact ⟨packet, outcome.imp_right (And.imp_right (kept _ _)), source⟩
  | release rel buf size origin =>
      cases answer with
      | asked message =>
          cases message with
          | request => exact fits
          | release => exact fits.imp_right (kept _ _)
          | initializeAddrs => exact fits
      | replied reply => exact fits
  | timeout ptr =>
      have equal := same ptr rfl
      cases answer with
      | asked message =>
          cases message with
          | request => exact fits
          | release => exact ⟨fits.1.trans equal.symm, kept _ _ fits.2⟩
          | initializeAddrs => exact fits
      | replied reply => exact ⟨fits.1, fits.2.trans equal.symm⟩

theorem Fits.askable {message : Message} (fits : Fits server heap item (.asked message)) :
    Askable server message := by
  cases item with
  | request buf size =>
      cases message with
      | request protocol ipSrc portSrc =>
          obtain ⟨-, same⟩ := fits
          have isSource : ipSrc = (swap32 (endpoint buf .source).ip).toNat :=
            congrArg (fun source : Nat × Nat × Int => source.2.1) same
          rw [Askable, isSource]
          exact (swap32 (endpoint buf .source).ip).isLt
      | release => exact absurd fits id
      | initializeAddrs => exact absurd fits id
  | release rel buf size origin =>
      cases message with
      | request => exact absurd fits id
      | release => exact fits
      | initializeAddrs => exact absurd fits id
  | timeout ptr =>
      cases message with
      | request => exact absurd fits id
      | release =>
          refine ⟨?_, fits.2⟩
          rw [fits.1]
          exact fieldsOf_words _
      | initializeAddrs => exact absurd fits id

theorem answered (inv : server.Inv) (socketId : JsString) {message : Message}
    (askable : Askable server message) :
    ∃ after reply, server.mkMessage socketId message = (after, .reply reply) ∧
      Answers server after message reply := by
  cases message with
  | request protocol ipSrc portSrc ipDst portDst =>
      exact Server.mkMessage_request inv socketId protocol askable portSrc ipDst portDst
  | release fields =>
      obtain ⟨after, result, serves, mapped⟩ :=
        Server.mkMessage_release inv socketId askable.1 askable.2
      exact ⟨after, _, result, rfl, serves, mapped⟩
  | initializeAddrs => exact absurd askable id

theorem Answers.serves {message : Message} {reply : Reply}
    (answers : Answers server after message reply) : server.Serves after := by
  cases message with
  | request => exact Server.Requested.serves answers
  | release => exact answers.2.1
  | initializeAddrs => exact absurd answers id

theorem Fits.replied {message : Message} {reply : Reply} {later : Server}
    (fits : Fits later heap item (.asked message))
    (answers : Answers server after message reply) : Fits after heap item (.replied reply) := by
  cases item with
  | request buf size =>
      cases message with
      | request protocol ipSrc portSrc =>
          obtain ⟨packet, source⟩ := fits
          obtain ⟨-, sameProtocol, sameIp, samePort, outcome⟩ := answers
          refine ⟨packet, ?_, ?_⟩
          · rcases outcome with ⟨discarded, -⟩ | ⟨granted, row, -⟩
            · exact .inl discarded
            · rw [sameProtocol, sameIp]
              exact .inr ⟨granted, row⟩
          · rw [sameProtocol, sameIp, samePort]
            exact source
      | release => exact absurd fits id
      | initializeAddrs => exact absurd fits id
  | release rel buf size origin =>
      cases message with
      | request => exact absurd fits id
      | release =>
          rw [answers.1]
          rfl
      | initializeAddrs => exact absurd fits id
  | timeout ptr =>
      cases message with
      | request => exact absurd fits id
      | release =>
          rw [answers.1]
          exact ⟨rfl, fits.1⟩
      | initializeAddrs => exact absurd fits id

end Exchange

def SenderPc.unsent : SenderPc → Option RecvItem
  | .sending item _ => some item
  | _ => none

structure ExchangeInv (state : State) : Prop where
  timeouts : TimeoutInv state
  server : state.server.Inv
  rows : ∀ ptr ∈ state.table.l2w, state.server.HasRow
    (fieldsOf (state.table.heap ptr)).protocol (fieldsOf (state.table.heap ptr)).lanIp
  requests : ∀ buf size, state.Sends (.sendReq buf size) → TransportPacket buf size
  turning : ∀ packet ptr, state.divert = .hairpin packet ptr → ipP packet.buf = ipprotoUdp
  parsed : ∀ reply, state.receiver.reply = some reply → parses reply = true
  aligned : Aligned (Fits state.server state.table.heap) state.items state.replies state.messages
  made : ∀ item message, state.sender.made = some (item, message) →
    Fits state.server state.table.heap item (.asked message)
  popped : state.popped ++ state.hRecv = state.sent ++ state.sender.unsent.toList

section Exchange

variable {settings : Settings} {state after : State} {event : Event}

theorem pending_of_item {item : RecvItem} {release : Release} (member : item ∈ state.items)
    (isPending : item.pending = some release) : release ∈ state.pending :=
  Multiset.mem_add.mpr (.inr (Multiset.mem_coe.mpr
    (List.mem_filterMap.mpr ⟨item, member, isPending⟩)))

theorem pending_of_sender {release : Release} (isPending : state.sender.pending = some release) :
    release ∈ state.pending := by
  refine Multiset.mem_add.mpr (.inl (Multiset.mem_add.mpr (.inr ?_)))
  rw [isPending, one_some]
  exact Multiset.mem_singleton_self release

theorem ExchangeInv.row (inv : ExchangeInv state) {ptr : Ptr} (pending : .timeout ptr ∈ state.pending) :
    state.server.HasRow (fieldsOf (state.table.heap ptr)).protocol
      (fieldsOf (state.table.heap ptr)).lanIp :=
  inv.rows ptr (inv.timeouts.expired ptr pending).1

theorem ExchangeInv.handled (inv : ExchangeInv state) {reply : Reply} {item : RecvItem}
    (handling : state.receiver = .handling reply item) :
    Fits state.server state.table.heap item (.replied reply) := by
  have aligned := inv.aligned
  have items : state.items = item :: state.hRecv := by
    rw [State.items, handling]
    rfl
  have replies : state.replies = reply :: state.toClient := by
    rw [State.replies, handling]
    rfl
  rw [items, replies] at aligned
  exact aligned.front.1

theorem ExchangeInv.reached (inv : ExchangeInv state) {message : Message} {rest : List Message}
    (front : state.messages = message :: rest) (socketId : JsString) :
    ∃ server reply, state.server.mkMessage socketId message = (server, .reply reply) ∧
      Answers state.server server message reply := by
  have aligned := inv.aligned
  rw [front] at aligned
  obtain ⟨item, -, fits⟩ := aligned.asked
  exact answered inv.server socketId fits.askable

theorem ExchangeInv.serves (inv : ExchangeInv state) (flow : FlowCase settings state after) :
    state.server.Serves after.server := by
  cases flow with
  | same items replies messages server =>
      rw [server]
      exact Server.Serves.refl inv.server
  | formatted kept message result items replies messages server =>
      rw [server]
      exact Server.Serves.refl inv.server
  | pushed item message pushing items replies messages server =>
      rw [server]
      exact Server.Serves.refl inv.server
  | answered message reply answer items replies messages =>
      obtain ⟨server, given, result, answers⟩ := inv.reached messages settings.socketId
      rw [answer] at result
      obtain ⟨isServer, -⟩ := Prod.mk.inj result
      rw [isServer]
      exact answers.serves
  | silent message answer result noReply items replies messages =>
      obtain ⟨server, given, replied, -⟩ := inv.reached messages settings.socketId
      rw [result] at replied
      exact absurd (Prod.mk.inj replied).2 (noReply given)
  | finished reply item handling items replies messages server =>
      rw [server]
      exact Server.Serves.refl inv.server

theorem releaseEntry_member {table : Table} (inv : TableInv table) {rel : Side} {buf : Buffer}
    {size : Nat} {ptr : Ptr} (found : releaseEntry table rel buf size = some ptr) :
    ptr ∈ table.l2w := by
  cases rel with
  | lan => exact KeyedSet.mem_of_find found
  | wan => exact (inv.sameNodes ptr).mpr (KeyedSet.mem_of_find found)

theorem ExchangeInv.format (inv : ExchangeInv state) (allowed : UpToDate state .sender)
    {kept : RecvItem} {message : Message}
    (result : System.format state.table state.sender = some (kept, message)) :
    Fits state.server state.table.heap kept (.asked message) := by
  cases pc : state.sender with
  | formatting item =>
      rw [pc] at result
      cases item with
      | sendReq buf size =>
          have packet := inv.requests buf size (.inr (.inr (.inr (by rw [pc]; rfl))))
          cases result
          refine ⟨packet, ?_⟩
          obtain ⟨protocol, lan, -⟩ := mkNode_packet packet
          rw [protocol, lan]
          rfl
      | sendRel buf size origin => cases result
      | timeout ptr =>
          have pending : Release.timeout ptr ∈ state.pending := by
            apply pending_of_sender
            rw [pc]
            rfl
          cases result
          exact ⟨rfl, inv.row pending⟩
  | matched rel buf size origin ptr =>
      have member := releaseEntry_member inv.timeouts.table (allowed.prints pc)
      rw [pc] at result
      cases result
      exact ⟨fieldsOf_words _, inv.rows ptr member⟩
  | popping => rw [pc] at result; cases result
  | unmatched => rw [pc] at result; cases result
  | pushing => rw [pc] at result; cases result
  | sending => rw [pc] at result; cases result

theorem ExchangeInv.fields (inv : ExchangeInv state) (core : CoreCase settings state event after)
    {ptr : Ptr} (pending : .timeout ptr ∈ state.pending) :
    fieldsOf (after.table.heap ptr) = fieldsOf (state.table.heap ptr) := by
  obtain ⟨member, -⟩ := inv.timeouts.expired ptr pending
  exact fieldsOf_congr (mapping_kept inv.timeouts.table inv.timeouts.live core
    (inv.timeouts.live ptr member))

theorem ExchangeInv.aligned_step (inv : ExchangeInv state)
    (moved : StepCase settings state event after) (allowed : UpToDate state event) :
    Aligned (Fits after.server after.table.heap) after.items after.replies after.messages ∧
      ∀ item message, after.sender.made = some (item, message) →
        Fits after.server after.table.heap item (.asked message) := by
  have core := core_case moved
  have flow := flow_case moved
  have rows := (inv.serves flow).kept
  have made : ∀ item message, state.sender.made = some (item, message) →
      Fits after.server after.table.heap item (.asked message) := by
    intro item message isMade
    apply (inv.made item message isMade).mono rows
    intro ptr isTimeout
    apply inv.fields core
    apply pending_of_sender
    rw [made_pending isMade, isTimeout]
    rfl
  constructor
  · apply aligned_flow flow inv.aligned _ made
    · intro message rest answer front result
      obtain ⟨server, reply, replied, answers⟩ := inv.reached front settings.socketId
      rw [result] at replied
      cases replied
      exact ⟨reply, rfl, fun item fits => fits.replied answers⟩
    · intro item member answer fits
      apply fits.mono rows
      intro ptr isTimeout
      apply inv.fields core
      apply pending_of_item member
      rw [isTimeout]
      rfl
  · apply made_flow flow made
    intro kept message result isMade
    have idle : state.sender.made ≠ some (kept, message) := by
      rw [format_made result]
      nofun
    have isSender := formatting_event moved idle isMade
    subst isSender
    apply (inv.format allowed result).mono rows
    intro ptr isTimeout
    apply inv.fields core
    apply pending_of_sender
    apply (format_pending result).symm.trans
    rw [isTimeout]
    rfl

theorem ExchangeInv.requested (inv : ExchangeInv state) {reply : Reply} {item : RecvItem}
    (handling : state.receiver = .handling reply item) (type : reply.type = .requestAck) :
    ∃ buf size, TransportPacket buf size ∧ reply.fields.protocol = (ipP buf).toNat ∧
      state.server.HasRow reply.fields.protocol reply.fields.lanIp := by
  have fits := inv.handled handling
  cases item with
  | request buf size =>
      obtain ⟨packet, outcome, source⟩ := fits
      refine ⟨buf, size, packet, congrArg Prod.fst source, ?_⟩
      rcases outcome with discarded | granted
      · rw [type] at discarded
        cases discarded
      · exact granted.2
  | release rel buf size origin =>
      rw [fits] at type
      cases type
  | timeout node =>
      rw [fits.1] at type
      cases type

theorem ExchangeInv.granted (inv : ExchangeInv state) {reply : Reply} {item : RecvItem}
    (handling : state.receiver = .handling reply item) (type : reply.type = .requestAck) :
    state.server.HasRow reply.fields.protocol reply.fields.lanIp ∧
      fieldsOf (parsedNode state.now reply.fields) = reply.fields := by
  have fit := inv.parsed reply (by rw [handling]; rfl)
  rw [parses, type] at fit
  obtain ⟨buf, size, -, isProtocol, row⟩ := inv.requested handling type
  have byte : reply.fields.protocol < 2 ^ 8 := isProtocol ▸ (ipP buf).isLt
  exact ⟨row, fieldsOf_parsedNode state.now fit byte⟩

theorem ExchangeInv.rows_step (inv : ExchangeInv state)
    (core : CoreCase settings state event after) (flow : FlowCase settings state after) :
    ∀ ptr ∈ after.table.l2w, after.server.HasRow
      (fieldsOf (after.table.heap ptr)).protocol (fieldsOf (after.table.heap ptr)).lanIp := by
  have serves := inv.serves flow
  have live := inv.timeouts.live
  have old : ∀ ptr ∈ state.table.l2w, after.server.HasRow
      (fieldsOf (after.table.heap ptr)).protocol (fieldsOf (after.table.heap ptr)).lanIp := by
    intro ptr member
    rw [fieldsOf_congr (mapping_kept inv.timeouts.table live core (live ptr member))]
    exact serves.kept _ _ (inv.rows ptr member)
  intro ptr member
  rcases core_l2w inv.timeouts core with fewer | grown
  · exact old ptr (fewer ptr member)
  · obtain ⟨reply, item, handling, type, fresh, l2w, self⟩ := grown
    rw [l2w] at member
    rcases List.mem_cons.mp member with same | member
    · subst same
      obtain ⟨row, fields⟩ := inv.granted handling type
      rw [fieldsOf_congr self, fields]
      exact serves.kept _ _ row
    · exact old ptr member

theorem turning_step (moved : StepCase settings state event after)
    (turning : ∀ packet ptr, state.divert = .hairpin packet ptr → ipP packet.buf = ipprotoUdp) :
    ∀ packet ptr, after.divert = .hairpin packet ptr → ipP packet.buf = ipprotoUdp := by
  intro packet ptr turns
  cases moved with
  | hairpin side packet source reading found =>
      cases turns
      exact hairpinEntry_udp found
  | missed | requested | found | translated | released | closed | turned | turnedAway | returned
  | dropRequest | pushRequest | pushRelease | closeNothing | closeFound | arm | suspend | rearm =>
      cases turns
  | _ => exact turning packet ptr turns

theorem requests_step (moved : StepCase settings state event after)
    (turning : ∀ packet ptr, state.divert = .hairpin packet ptr → ipP packet.buf = ipprotoUdp)
    (requests : ∀ buf size, state.Sends (.sendReq buf size) → TransportPacket buf size) :
    ∀ buf size, after.Sends (.sendReq buf size) → TransportPacket buf size := by
  intro buf size sends
  rcases sends_step moved sends with before | starts
  · exact requests buf size before
  · cases starts with
    | request packet verdict =>
        exact lan2wanAlias_noTable settings.nat state.now state.bucket packet.formed verdict
    | turned packet ptr hairpin =>
        have transport := packet.formed (.inr (turning packet ptr hairpin))
        exact (rewrite_only settings.nat .destination _ _ transport).packet
          (transport.setEndpoint .destination _)

theorem parsed_step (moved : StepCase settings state event after)
    (parsed : ∀ reply, state.receiver.reply = some reply → parses reply = true) :
    ∀ reply, after.receiver.reply = some reply → parses reply = true := by
  intro reply held
  cases moved with
  | receive ptr received rest receiving front isParsed =>
      cases held
      exact isParsed
  | popRecv ptr received item rest popping =>
      cases held
      exact parsed reply (by rw [popping]; rfl)
  | discard => cases held
  | refuse => cases held
  | insert =>
      simp only [State.inserted] at held
      split at held
      · cases held
      · cases held
  | add => cases held
  | forwarded => cases held
  | timeoutAck => cases held
  | skip => cases held
  | ignore => cases held
  | delete => cases held
  | _ => exact parsed reply held

theorem format_unsent {table : Table} {pc : SenderPc} {kept : RecvItem} {message : Message}
    (made : System.format table pc = some (kept, message)) : pc.unsent = none := by
  cases pc with
  | sending => cases made
  | _ => rfl

theorem popped_step (moved : StepCase settings state event after)
    (popped : state.popped ++ state.hRecv = state.sent ++ state.sender.unsent.toList) :
    after.popped ++ after.hRecv = after.sent ++ after.sender.unsent.toList := by
  cases moved with
  | popSend item rest popping =>
      rw [popping] at popped
      exact popped
  | unmatched buf size origin formatting =>
      rw [formatting] at popped
      exact popped
  | matched rel buf size origin ptr looking =>
      rcases looking with ⟨-, formatting⟩ | ⟨-, unmatched⟩
      · rw [formatting] at popped
        exact popped
      · rw [unmatched] at popped
        exact popped
  | formatted kept message made =>
      rw [format_unsent made] at popped
      exact popped
  | pushRecv item message pushing =>
      rw [pushing] at popped
      have sent : state.popped ++ state.hRecv = state.sent := popped.trans (List.append_nil _)
      change state.popped ++ (state.hRecv ++ [item]) = state.sent ++ [item]
      rw [← List.append_assoc, sent]
  | send item message sending =>
      rw [sending] at popped
      exact popped.trans (List.append_nil _).symm
  | popRecv ptr reply item rest popping front =>
      rw [front] at popped
      exact (List.append_assoc ..).trans popped
  | _ => exact popped

theorem ExchangeInv.step (inv : ExchangeInv state) (moved : StepCase settings state event after)
    (allowed : UpToDate state event) : ExchangeInv after := by
  have core := core_case moved
  have flow := flow_case moved
  obtain ⟨aligned, made⟩ := inv.aligned_step moved allowed
  exact
    { timeouts := inv.timeouts.step core allowed
      server := (inv.serves flow).inv
      rows := inv.rows_step core flow
      requests := requests_step moved inv.turning inv.requests
      turning := turning_step moved inv.turning
      parsed := parsed_step moved inv.parsed
      aligned := aligned
      made := made
      popped := popped_step moved inv.popped }

end Exchange

theorem startServer_inv (settings : Settings) : (startServer settings).Inv :=
  have database := (newEntry_database settings.startPort settings.endPort settings.maxConnection
    settings.poolAddr).1
  ⟨database, database⟩

theorem start_exchange (settings : Settings) (memory : Ptr → Node) :
    ExchangeInv (start settings memory) where
  timeouts :=
    { table := sInit_inv memory, live := nofun, expired := nofun
      once := fun _ => Nat.zero_le 1, owned := nofun, distinct := List.nodup_nil }
  server := startServer_inv settings
  rows := nofun
  requests := by
    intro buf size sends
    rcases sends with here | timer | queued | source
    · cases here
    · cases timer
    · cases queued
    · cases source
  turning := nofun
  parsed := nofun
  aligned := Aligned.nil
  made := nofun
  popped := rfl

/-- What the claim of a reply is about: the packet or the entry that it was asked for. -/
def Concerns (heap : Ptr → Node) (reply : Reply) : RecvItem → Prop
  | .request buf _ =>
      reply.type ≠ .releaseAck ∧
        (reply.fields.protocol, reply.fields.lanIp, reply.fields.lanPort) = sourceOf buf
  | .release _ _ _ _ => reply.type = .releaseAck
  | .timeout ptr => reply.type = .releaseAck ∧ reply.fields = fieldsOf (heap ptr)

/-- One item is popped for each reply, in the order of the messages. -/
structure Paired (state : State) : Prop where
  inOrder : state.popped <+: state.sent
  balanced : state.items.length = state.replies.length + state.messages.length
  concerns : ∀ reply item, state.receiver = .handling reply item →
    Concerns state.table.heap reply item

theorem ExchangeInv.inOrder {state : State} (inv : ExchangeInv state) :
    state.popped <+: state.sent := by
  have balanced := inv.aligned.length
  have popped := congrArg List.length inv.popped
  have unsent : state.sender.unsent.toList.length ≤ state.messages.length := by
    rw [State.messages, List.length_append]
    cases state.sender <;> exact Nat.le_add_left _ _
  have held : state.receiver.item.toList.length ≤ state.receiver.reply.toList.length := by
    cases state.receiver with
    | receiving => exact Nat.le_refl 0
    | popping => exact Nat.zero_le 1
    | handling => exact Nat.le_refl 1
    | adding => exact Nat.le_refl 0
    | forwarding => exact Nat.le_refl 0
  rw [State.items, State.replies, List.length_append, List.length_append] at balanced
  rw [List.length_append, List.length_append] at popped
  have later : state.popped <+: state.sent ++ state.sender.unsent.toList :=
    inv.popped ▸ List.prefix_append _ _
  exact List.prefix_of_prefix_length_le later (List.prefix_append _ _) (by omega)

theorem replies_paired (settings : Settings) (memory : Ptr → Node) {state : State}
    (reached : Reachable (step settings) UpToDate (start settings memory) state) :
    Paired state := by
  have inv : ExchangeInv state := by
    refine Reachable.invariant (start_exchange settings memory) ?_ reached
    intro before event after inv allowed stepped
    exact inv.step (step_case stepped) allowed
  refine ⟨inv.inOrder, inv.aligned.length, ?_⟩
  intro reply item handling
  have fits := inv.handled handling
  cases item with
  | request buf size =>
      have source := fits.2.2
      exact ⟨Fits.notReleased fits, source⟩
  | release rel buf size origin => exact fits
  | timeout ptr => exact fits

/-! ### A small network

One client, one peer, one public address with four ports, and timeouts of zero. -/

instance (buf : Buffer) (size : Nat) : Decidable (TransportPacket buf size) :=
  decidable_of_iff
    (ipV buf = 4 ∧ 5 ≤ ipHl buf ∧
      (ipP buf = ipprotoTcp ∧ headerLength buf + 20 ≤ size ∨
        ipP buf = ipprotoUdp ∧ headerLength buf + 8 ≤ size) ∧ size ≤ buf.length)
    ⟨fun ⟨version, header, transport, inBuffer⟩ => ⟨version, header, transport, inBuffer⟩,
      fun packet => ⟨packet.version, packet.header, packet.transport, packet.inBuffer⟩⟩

/-- A TCP header without data; an end is four octets and a port. -/
def segment (source destination : List (BitVec 8)) (flags : BitVec 8) : Datagram :=
  let buf : Buffer :=
    [0x45, 0, 0, 40, 0, 0, 0, 0, 64, 6, 0, 0] ++ source.take 4 ++ destination.take 4 ++
      source.drop 4 ++ destination.drop 4 ++ List.replicate 8 0 ++ [0x50, flags] ++
      List.replicate 6 0
  if packet : TransportPacket buf 40 then { buf := buf, size := 40, formed := fun _ => packet }
  else { buf := [], size := 0, formed := by decide }

def client : List (BitVec 8) := [10, 0, 0, 1, 0, 80]
def otherClient : List (BitVec 8) := [10, 0, 0, 2, 0, 80]
def peer : List (BitVec 8) := [198, 51, 100, 7, 0, 80]

/-- What the first client is mapped to, and the ident of its timer. -/
def clientWan : List (BitVec 8) := [192, 0, 2, 1, 16, 1]
def clientIdent : BitVec 64 := 0x000650000100000A

def smallSettings : Settings :=
  { nat :=
      { build :=
          { waitTimeDelete := true, diffCksum := true, ipChecksum := false, optHostid := false }
        optHostid := false, optNageteDf := false, wanIfMtu := 1500, lanIfMtu := 1500
        lanAddr := [], wanAddr := [], icmpWanAddr := 0 }
    sendSlots := 4, recvSlots := 4, timeoutTcp := 0, timeoutUdp := 0, startPort := 4097
    endPort := 4100, maxConnection := 3, poolAddr := [0xC0000201], socketId := [] }

def smallStart : State := start smallSettings fun _ => mkNode [] 0

def replayed (events : List Event) : State :=
  (run (step smallSettings) smallStart events).getD smallStart

/-- From the front of `h_send` to the reply that the receiver handles next. -/
def roundTrip : List Event :=
  [.sender, .sender, .sender, .sender, .server, .receiver 0, .receiver 0]

/-- The client's mapping is node 1. -/
def opening : List Event :=
  [.packet .lan (segment client peer 0x02), .divert] ++ roundTrip ++
    [.receiver 1, .receiver 0, .receiver 0]

def bothFins : List Event :=
  [.packet .wan (segment peer clientWan 0x12), .divert,
   .packet .lan (segment client peer 0x11), .divert,
   .packet .wan (segment peer clientWan 0x11), .divert]

/-- The last segment of the closing handshake, and the close timer. -/
def lastAck : List Event :=
  [.packet .lan (segment client peer 0x10), .divert, .divert, .divert, .divert, .divert]

def timerFires : List Event := [.kevent clientIdent, .timer, .timer, .timer, .timer]

/-- A conversation from its first segment to the acknowledgement of its release. -/
def conversation : List Event :=
  opening ++ bothFins ++ lastAck ++ [.clock 10] ++ timerFires ++ roundTrip

theorem replies_paired_conversation :
    (replayed conversation).receiver =
      .handling
        { type := .releaseAck
          fields :=
            { protocol := 6, lanIp := 0x0A000001, lanPort := 80, wanIp := 0xC0000201
              wanPort := 4097 } } (.timeout 1) ∧
      Paired (replayed conversation) := by
  refine ⟨by decide +kernel, ?_⟩
  exact replies_paired smallSettings _ (reachable_of_meets conversation .start (by decide +kernel))

/-- The timer fires before the last segment and is armed again.  When the second
timeout is formatted, the node is free memory that names a client without a row;
the server never answers, and the grant for the next client meets the timeout. -/
def rearming : List Event :=
  opening ++ bothFins ++ [.clock 10] ++ timerFires ++ lastAck ++ timerFires ++ roundTrip ++
    [.receiver 0, .scribble 1 (mkNode (segment [10, 0, 0, 9, 0, 80] peer 0).buf 40),
     .sender, .sender, .sender, .sender, .server,
     .packet .lan (segment otherClient peer 0x02), .divert] ++ roundTrip

theorem replies_paired_fails :
    ¬∀ (settings : Settings) (memory : Ptr → Node) (state : State),
      Reachable (step settings) (fun _ _ => True) (start settings memory) state →
        state.status = .running → Paired state := by
  intro paired
  have reached : Reachable (step smallSettings) (fun _ _ => True) smallStart (replayed rearming) :=
    reachable_of_meets rearming .start (meets_trivial rearming smallStart)
  have concerns := (paired _ _ _ reached (by decide +kernel)).concerns
    { type := .requestAck
      fields :=
        { protocol := 6, lanIp := 0x0A000002, lanPort := 80, wanIp := 0xC0000201
          wanPort := 4098 } } (.timeout 1) (by decide +kernel)
  cases concerns.1

end System
end NatPorte
