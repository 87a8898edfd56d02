/-
One release for a mapping.

A segment, the close timer and the idle timer can each decide that an entry goes.
Nothing stops a second one from deciding while the first release is in flight;
`Orderly` lists the steps at which that happens.  In a run without them the release
in flight is the only one for its entry, the entry stays in the table until the
acknowledgement takes it out, and the node is freed once.
-/

import NatPorte.ClosingEntry
import NatPorte.Pairing

namespace NatPorte
namespace System

open TcpState Structure Packet Checksum Alias Tracking Lookup PoolServer Entry StepSystem Pipeline
  KeyedSet

/-- The tracker state in which a segment leaves an entry that it asks a release for. -/
def Releasing (settings : Settings) (node : Node) : Prop :=
  node.flags = .reset ∨ node.flags = .closed ∧ settings.nat.build.waitTimeDelete = false

instance (settings : Settings) (node : Node) : Decidable (Releasing settings node) :=
  inferInstanceAs (Decidable (_ ∨ _))

instance (settings : Settings) (verdict : Verdict) : Decidable (AsksRelease settings verdict) :=
  inferInstanceAs (Decidable (_ ∨ _))

/-- The entry of a client whose address is the source of a packet from the WAN:
`addrpool_sender` finds it first when it handles the packet's release. -/
def State.mistaken (state : State) : Option Ptr :=
  match state.sender with
  | .formatting (.sendRel buf size { side := .wan, ptr := _ }) =>
      releaseEntry state.table .lan buf size
  | _ => none

/-- The packet whose entry the divert thread has found. -/
structure Hit where
  side : Side
  packet : Datagram
  ptr : Ptr

def DivertPc.hit : DivertPc → Option Hit
  | .found side packet ptr => some { side := side, packet := packet, ptr := ptr }
  | _ => none

/-- The entry is the one that a lookup still finds; a segment that asks for its release
finds its timer registered and its tracker on track. -/
def Hit.Orderly (settings : Settings) (state : State) (hit : Hit) : Prop :=
  resolved settings.nat state.table hit.side hit.packet.buf hit.packet.size = some hit.ptr ∧
    (AsksRelease settings (state.used settings hit.side hit.packet hit.ptr).verdict →
      state.table.l2wKeyOf hit.ptr ∈ state.timers ∧
        tcpStateCheck (state.table.heap hit.ptr).flags (thFlags hit.packet.buf)
          hit.side.direction ≠ .unknown)

instance (settings : Settings) (state : State) (hit : Hit) : Decidable (hit.Orderly settings state) :=
  inferInstanceAs (Decidable (_ ∧ (_ → _ ∧ _)))

/-- The entry whose close timer is marked is the one that the lookup still finds. -/
def DivertPc.arms (table : Table) : DivertPc → Option (Option Ptr × Ptr)
  | .arming side buf size ptr => some (closingEntry table side buf size, ptr)
  | _ => none

/-- Whatever a thread has looked up is still what the lookup finds when the thread uses
it.  A segment asks for a release only while the entry's timer is registered and never
because the tracker lost track; the close timer is only armed while the timer is
registered; the timer loop leaves alone what a segment released and what another thread
is about to add the timer of; no packet from the WAN pretends to come from a client. -/
def Orderly (settings : Settings) (state : State) : Event → Prop
  | .divert =>
      UpToDate state .divert ∧ (∀ hit ∈ state.divert.hit, hit.Orderly settings state) ∧
        ∀ arms ∈ state.divert.arms state.table, arms.1 = some arms.2
  | .timer =>
      UpToDate state .timer ∧ ∀ late ∈ state.timer.expires,
        late.1 ∉ state.owed ∧ ¬Releasing settings (state.table.heap late.2)
  | .sender => UpToDate state .sender ∧ state.mistaken = none
  | _ => True

instance (settings : Settings) (state : State) : (event : Event) →
    Decidable (Orderly settings state event)
  | .divert => inferInstanceAs (Decidable (_ ∧ (∀ hit ∈ state.divert.hit,
      hit.Orderly settings state) ∧ ∀ arms ∈ state.divert.arms state.table, arms.1 = some arms.2))
  | .timer => inferInstanceAs (Decidable (_ ∧ ∀ late ∈ state.timer.expires,
      late.1 ∉ state.owed ∧ ¬Releasing settings (state.table.heap late.2)))
  | .sender => inferInstanceAs (Decidable (_ ∧ state.mistaken = none))
  | .clock _ | .scribble _ _ | .packet _ _ | .kevent _ | .server | .receiver _ | .sendto =>
      isTrue trivial

section Orderly

variable {settings : Settings} {state : State}

theorem Orderly.upToDate {event : Event} (orderly : Orderly settings state event) :
    UpToDate state event := by
  cases event with
  | divert => exact orderly.1
  | timer => exact orderly.1
  | sender => exact orderly.1
  | _ => trivial

theorem Orderly.hit (orderly : Orderly settings state .divert) {side : Side} {packet : Datagram}
    {ptr : Ptr} (found : state.divert = .found side packet ptr) :
    Hit.Orderly settings state { side := side, packet := packet, ptr := ptr } :=
  orderly.2.1 _ (by rw [found]; rfl)

theorem Orderly.arms (orderly : Orderly settings state .divert) {side : Side} {buf : Buffer}
    {size : Nat} {ptr : Ptr} (arming : state.divert = .arming side buf size ptr) :
    closingEntry state.table side buf size = some ptr :=
  orderly.2.2 (closingEntry state.table side buf size, ptr) (by rw [arming]; rfl)

theorem Orderly.expires (orderly : Orderly settings state .timer) {ident : BitVec 64} {ptr : Ptr}
    (late : state.timer = .late ident ptr) :
    ident ∉ state.owed ∧ ¬Releasing settings (state.table.heap ptr) :=
  orderly.2 (ident, ptr) (by rw [late]; rfl)

end Orderly

/-- A packet on its way to be released, up to its acknowledgement. -/
def State.Carries (state : State) (buf : Buffer) (size : Nat) (origin : Origin) : Prop :=
  state.Sends (.sendRel buf size origin) ∨
    (∃ rel message, state.sender.made = some (.release rel buf size origin, message)) ∨
    ∃ rel, RecvItem.release rel buf size origin ∈ state.items

/-- A release message names the entry that its packet resolved to. -/
def Names (heap : Ptr → Node) : RecvItem → Due Message Reply → Prop
  | .release rel _ _ origin, .asked message =>
      rel = origin.side ∧ message = .release (fieldsOf (heap origin.ptr))
  | .release rel _ _ origin, .replied reply =>
      rel = origin.side ∧ reply.fields = fieldsOf (heap origin.ptr)
  | _, _ => True

/-- The side from which the sender looks for the entry, or has found it. -/
def SenderPc.rel : SenderPc → Option (Side × Origin)
  | .unmatched _ _ origin => some (.wan, origin)
  | .matched rel _ _ origin _ => some (rel, origin)
  | _ => none

/-- The entry is the one whose close timer the divert thread is arming. -/
def State.Closes (state : State) (ptr : Ptr) : Prop :=
  match state.divert with
  | .closing side buf size => closingEntry state.table side buf size = some ptr
  | .arming side buf size _ => closingEntry state.table side buf size = some ptr
  | .suspending _ _ _ ident => state.table.l2wKeyOf ptr = ident
  | .rearming _ _ _ ident => state.table.l2wKeyOf ptr = ident
  | _ => False

structure ReleaseInv (settings : Settings) (state : State) : Prop where
  exchange : ExchangeInv state
  once : (state.pending.map Release.ptr).Nodup
  segments : ∀ origin, .segment origin ∈ state.pending →
    origin.ptr ∈ state.table.l2w ∧ Releasing settings (state.table.heap origin.ptr)
  closes : ∀ origin, .segment origin ∈ state.pending → ¬state.Closes origin.ptr
  packets : ∀ buf size origin, state.Carries buf size origin →
    Tracked settings.nat state.table origin.side buf size origin.ptr
  sides : ∀ rel origin, state.sender.rel = some (rel, origin) → rel = origin.side
  aligned : Aligned (Names state.table.heap) state.items state.replies state.messages
  made : ∀ item message, state.sender.made = some (item, message) →
    Names state.table.heap item (.asked message)

section Formats

variable {config : Alias.Config} {table : Table} {buf : Buffer} {size : Nat} {origin : Origin}

theorem tracked_found (tracked : Tracked config table origin.side buf size origin.ptr) :
    releaseEntry table origin.side buf size = some origin.ptr := by
  obtain ⟨protocol, lan, wan⟩ := mkNode_ends tracked.passes.long (.inl tracked.tcp)
  have found := tracked.found
  cases side : origin.side with
  | lan =>
      rw [side] at found
      have probe : (withKeys (mkNode buf size)).l2wKey =
          (probeLan (ipP buf) (endpoint buf .source)).l2wKey := by
        simp only [withKeys, varLan, protocol, lan, probeLan]
      simp only [releaseEntry, findL2w, probe]
      exact found
  | wan =>
      rw [side] at found
      have probe : (withKeys (mkNode buf size)).w2lKey =
          (probeWan (ipP buf) (endpoint buf .destination)).w2lKey := by
        simp only [withKeys, varWan, protocol, wan, probeWan]
      simp only [releaseEntry, findW2l, probe]
      exact found

theorem tracked_protocol (inv : TableInv table) {side : Side} {ptr : Ptr}
    (tracked : Tracked config table side buf size ptr) : (table.heap ptr).protocol = ipprotoTcp := by
  have found := tracked.found
  cases side with
  | lan => exact ((findL2w_eq_some inv).mp found).2.1.trans tracked.tcp
  | wan => exact ((findW2l_eq_some inv).mp found).2.1.trans tracked.tcp

theorem tracked_member (inv : TableInv table) {side : Side} {ptr : Ptr}
    (tracked : Tracked config table side buf size ptr) : ptr ∈ table.l2w := by
  have found := tracked.found
  cases side with
  | lan => exact ((findL2w_eq_some inv).mp found).1
  | wan => exact ((findW2l_eq_some inv).mp found).1

end Formats

section Flags

variable {settings : Settings} {state after : State} {event : Event} {ptr : Ptr}

theorem flags_kept (moved : CoreCase settings state event after) (isLive : ptr ∈ state.live)
    (settled : (state.table.heap ptr).flags = .closed ∨ (state.table.heap ptr).flags = .reset) :
    (after.table.heap ptr).flags = (state.table.heap ptr).flags := by
  have released : ∀ item, ((releasedOutcome settings state item).table.heap ptr).flags =
      (state.table.heap ptr).flags := by
    intro item
    cases item with
    | request => rfl
    | release rel buf size => exact aliasPacket_settled settings.nat state.now state.bucket settled
    | timeout => rfl
  cases moved with
  | shifted pending table => rw [table]
  | scribbled other node dead pending table =>
      have different : ptr ≠ other := fun same => dead (same ▸ isLive)
      rw [table, Table.store_heap_other _ _ _ _ different]
  | touched pending table => exact table.settled ptr settled
  | released side packet node isEvent found asks pending table =>
      rw [table]
      exact (used_translates settings state side packet node).settled ptr settled
  | suspended ident isEvent suspending pending table => rw [table]
  | restored ident pending table => rw [table]
  | expired ident node isEvent late registered pending table => rw [table]
  | discarded reply item handling type pending table => rw [table]
  | refused fresh reply item holder handling type unused taken pending table =>
      have different : ptr ≠ fresh := fun same => unused (same ▸ isLive)
      rw [table, sInsert_heap, Table.store_heap_other _ _ _ _ different]
  | inserted fresh reply item buf size handling type unused free pending result =>
      have different : ptr ≠ fresh := fun same => unused (same ▸ isLive)
      rw [result]
      simp only [State.inserted, sInsert_heap, Table.store_heap_other _ _ _ _ different]
  | timedOut reply node handling pending table =>
      rw [table]
      rfl
  | kept reply item handling type isPacket reason pending table =>
      rw [table]
      exact released item
  | deleted reply item node handling type isPacket found registered pending table =>
      rw [table]
      exact released item
  | stopped reply item handling pending table =>
      rw [table]
      exact released item

theorem Releasing.settled {node : Node} (releasing : Releasing settings node) :
    node.flags = .closed ∨ node.flags = .reset :=
  releasing.symm.imp And.left id

theorem Releasing.kept (moved : CoreCase settings state event after) (isLive : ptr ∈ state.live)
    (releasing : Releasing settings (state.table.heap ptr)) :
    Releasing settings (after.table.heap ptr) := by
  rw [Releasing, flags_kept moved isLive releasing.settled]
  exact releasing

end Flags

/-- A release starts for an entry that has none, or it ends and takes its entry
along, or neither; and a grant adds an entry. -/
inductive Effect (settings : Settings) (state after : State) : Prop
  | quiet (pending : after.pending = state.pending) (l2w : after.table.l2w = state.table.l2w)
      (unread : state.replies <+: after.replies)
  | asked (release : Release) (pending : after.pending = {release} + state.pending)
      (l2w : after.table.l2w = state.table.l2w) (unread : state.replies <+: after.replies)
      (member : release.ptr ∈ state.table.l2w)
      (first : ∀ other ∈ state.pending, other.ptr ≠ release.ptr)
      (releasing : ∀ origin, release = .segment origin →
        Releasing settings (after.table.heap origin.ptr))
  | declined (reply : Reply) (item : RecvItem) (handling : state.receiver = .handling reply item)
      (pending : after.pending = state.pending) (l2w : after.table.l2w = state.table.l2w)
      (replies : state.replies = reply :: after.replies)
      (reason : reply.type = .requestDiscard ∨ reply.type = .requestAck ∧
        ∃ holder ∈ state.table.l2w,
          state.table.l2wKeyOf holder = (parsedNode state.now reply.fields).l2wKey ∨
            state.table.w2lKeyOf holder = (parsedNode state.now reply.fields).w2lKey)
  | granted (fresh : Ptr) (reply : Reply) (item : RecvItem)
      (handling : state.receiver = .handling reply item) (type : reply.type = .requestAck)
      (pending : after.pending = state.pending)
      (unused : fresh ∉ state.live) (forgotten : fresh ∉ after.releases)
      (grows : Grows state.table after.table fresh (parsedNode state.now reply.fields))
      (replies : state.replies = reply :: after.replies)
  | gone (release : Release) (reply : Reply) (item : RecvItem)
      (handling : state.receiver = .handling reply item) (type : reply.type = .releaseAck)
      (isPending : item.pending = some release)
      (fields : reply.fields = fieldsOf (state.table.heap release.ptr))
      (pending : state.pending = {release} + after.pending)
      (l2w : ∀ ptr, ptr ∈ after.table.l2w ↔ ptr ≠ release.ptr ∧ ptr ∈ state.table.l2w)
      (replies : state.replies = reply :: after.replies)

section Effects

variable {settings : Settings} {state after : State} {event : Event}

theorem sInsert_taken {table : Table} (inv : TableInv table) {fresh holder : Ptr} {node : Node}
    (outside : fresh ∉ table.l2w) (taken : (sInsert (table.store fresh node) fresh).2 = some holder) :
    ∃ holder ∈ table.l2w, table.l2wKeyOf holder = node.l2wKey ∨
      table.w2lKeyOf holder = node.w2lKey := by
  have other : ∀ ptr ∈ table.l2w, (table.store fresh node).heap ptr = table.heap ptr :=
    fun ptr member => Table.store_heap_other _ _ _ _ (fun same => outside (same ▸ member))
  have self : (table.store fresh node).heap fresh = node := Table.store_heap_self ..
  rcases sInsert_cases (inv.store_fresh node outside) fresh with ⟨found, member, key, result⟩ |
    ⟨found, member, key, result⟩ | ⟨-, -, result⟩
  · rw [Table.l2wKeyOf, Table.l2wKeyOf, other found member, self] at key
    exact ⟨found, member, .inl key⟩
  · rw [Table.w2lKeyOf, Table.w2lKeyOf, other found member, self] at key
    exact ⟨found, member, .inr key⟩
  · rw [result] at taken
    cases taken

theorem ExchangeInv.noRelease (inv : ExchangeInv state) {reply : Reply} {item : RecvItem}
    (handling : state.receiver = .handling reply item) (type : reply.type ≠ .releaseAck) :
    item.pending = none := by
  have fits := inv.handled handling
  cases item with
  | request => rfl
  | release => exact absurd fits type
  | timeout => exact absurd fits.1 type

theorem ExchangeInv.pendingKept (inv : ExchangeInv state) {reply : Reply} {item : RecvItem}
    {rest : Multiset Release} (handling : state.receiver = .handling reply item)
    (type : reply.type ≠ .releaseAck) (pending : state.pending = one item.pending + rest) :
    rest = state.pending := by
  rw [pending, inv.noRelease handling type, one_none, zero_add]

theorem ReleaseInv.handled (inv : ReleaseInv settings state) {reply : Reply} {item : RecvItem}
    (handling : state.receiver = .handling reply item) (type : reply.type = .releaseAck)
    (isPacket : ∀ node, item ≠ .timeout node) :
    ∃ buf size origin, item = .release origin.side buf size origin ∧
      Tracked settings.nat state.table origin.side buf size origin.ptr ∧
      .segment origin ∈ state.pending ∧ reply.fields = fieldsOf (state.table.heap origin.ptr) := by
  have items : state.items = item :: state.hRecv := by
    rw [State.items, handling]
    rfl
  have fits := inv.exchange.handled handling
  have aligned := inv.aligned
  rw [items, replies_handling handling] at aligned
  cases item with
  | request buf size =>
      exact absurd type (Fits.notReleased fits)
  | release rel buf size origin =>
      obtain ⟨side, fields⟩ := aligned.front.1
      subst side
      have member : RecvItem.release origin.side buf size origin ∈ state.items :=
        items ▸ List.mem_cons_self
      refine ⟨buf, size, origin, rfl, ?_, pending_of_item member rfl, fields⟩
      exact inv.packets buf size origin (.inr (.inr ⟨_, member⟩))
  | timeout node => exact absurd rfl (isPacket node)

/-- What is done with an entry that is still there is what the alias function does. -/
theorem State.used_eq {side : Side} {packet : Datagram} {ptr : Ptr}
    (found : resolved settings.nat state.table side packet.buf packet.size = some ptr) :
    state.used settings side packet ptr = state.outcome settings side packet :=
  (aliasPacket_resolved state.now state.bucket found).symm

theorem Orderly.asks {side : Side} {packet : Datagram} {ptr : Ptr}
    (allowed : Orderly settings state .divert) (found : state.divert = .found side packet ptr)
    (asks : AsksRelease settings (state.used settings side packet ptr).verdict) :
    Tracked settings.nat state.table side packet.buf packet.size ptr ∧
      (state.used settings side packet ptr).buf = packet.buf ∧
      Moves state.table (state.used settings side packet ptr) ptr
        ((state.used settings side packet ptr).table.heap ptr).flags ∧
      Releasing settings ((state.used settings side packet ptr).table.heap ptr) ∧
      state.table.l2wKeyOf ptr ∈ state.timers := by
  obtain ⟨still, onTrack⟩ := allowed.hit found
  obtain ⟨registered, known⟩ := onTrack asks
  have used : state.used settings side packet ptr = state.outcome settings side packet :=
    State.used_eq still
  rw [used] at asks ⊢
  have owner : ∀ {other : Ptr},
      Tracked settings.nat state.table side packet.buf packet.size other → other = ptr := by
    intro other tracked
    have same := still.symm.trans (resolved_of_tracked tracked)
    exact (Option.some.inj same).symm
  rcases asks with reset | ⟨closed, wait⟩
  · obtain ⟨other, flags, tracked, checked, moves, outcome, buf⟩ :=
      aliasPacket_resetTable settings.nat state.now state.bucket reset
    cases owner tracked
    refine ⟨tracked, buf, ⟨moves.live, rfl⟩, .inl ?_, registered⟩
    rcases outcome with isReset | ⟨unknown, -⟩
    · exact moves.moved.trans isReset
    · exact absurd (checked.symm.trans unknown) known
  · obtain ⟨other, tracked, checked, moves, buf⟩ :=
      aliasPacket_delTable settings.nat state.now state.bucket closed
    cases owner tracked
    exact ⟨tracked, buf wait, ⟨moves.live, rfl⟩, .inr ⟨moves.moved, wait⟩, registered⟩

/-- The entry that an acknowledgement deletes by value is the one it was asked for. -/
theorem ReleaseInv.deletedNode (inv : ReleaseInv settings state) {reply : Reply} {item : RecvItem}
    (handling : state.receiver = .handling reply item) (type : reply.type = .releaseAck)
    (isPacket : ∀ node, item ≠ .timeout node) {node : Ptr}
    (found : (sDeleteForValue (releasedOutcome settings state item).table
      (parsedNode state.now reply.fields)).2 = some node) :
    ∃ origin, node = origin.ptr ∧ item.pending = some (.segment origin) ∧
      reply.fields = fieldsOf (state.table.heap origin.ptr) ∧ .segment origin ∈ state.pending := by
  have timeouts := inv.exchange.timeouts
  obtain ⟨buf, size, origin, isItem, tracked, isPending, fields⟩ :=
    inv.handled handling type isPacket
  obtain ⟨member, -⟩ := inv.segments origin isPending
  have remaps := releasedOutcome_same settings state item
  have sound := remaps.inv timeouts.table
  have isNode : node = origin.ptr := by
    have same := mappingOf_parsedNode state.now (timeouts.table.keyed origin.ptr member)
    have inTable := (sDeleteForValue_some found).1
    apply sound.distinctL2w.eq_of_key (mem_of_find inTable) (remaps.l2w ▸ member)
    rw [key_of_find inTable, fields]
    exact (congrArg Mapping.l2wKey same).trans (remaps.l2wKey origin.ptr).symm
  refine ⟨origin, isNode, ?_, fields, isPending⟩
  rw [isItem]
  rfl

theorem ReleaseInv.effect (inv : ReleaseInv settings state)
    (moved : CoreCase settings state event after) (allowed : Orderly settings state event) :
    Effect settings state after := by
  have timeouts := inv.exchange.timeouts
  cases moved with
  | shifted pending table timers live unread => exact .quiet pending (by rw [table]) unread
  | scribbled ptr node dead pending table timers live unread =>
      exact .quiet pending (by rw [table]; rfl) unread
  | touched pending table timers live unread => exact .quiet pending table.remaps.l2w unread
  | released side packet ptr isEvent found asks pending table timers live unread =>
      subst isEvent
      obtain ⟨tracked, -, moves, releasing, registered⟩ := Orderly.asks allowed found asks
      have member := tracked_member timeouts.table tracked
      apply Effect.asked _ pending _ unread member
      · intro other isPending same
        cases other with
        | segment origin =>
            have same : origin.ptr = ptr := same
            obtain ⟨-, settled⟩ := inv.segments origin isPending
            rw [same] at settled
            rcases settled.settled with closed | reset
            · exact moves.live.1 closed
            · exact moves.live.2 reset
        | timeout other =>
            have same : other = ptr := same
            subst same
            exact (timeouts.expired other isPending).2 (armed_of_timer registered)
      · intro origin same
        cases same
        rw [table]
        exact releasing
      · rw [table]
        exact (used_translates settings state side packet ptr).same.l2w
  | suspended ident isEvent suspending pending table timers owed live unread =>
      exact .quiet pending (by rw [table]) unread
  | restored ident pending table timers owed live unread =>
      exact .quiet pending (by rw [table]) unread
  | expired ident ptr isEvent late registered pending table timers owed live unread =>
      subst isEvent
      obtain ⟨member, key⟩ := timerEntry_key timeouts registered (allowed.upToDate.expires late)
      apply Effect.asked _ pending (by rw [table]) unread member
      · intro other isPending same
        cases other with
        | segment origin =>
            have same : origin.ptr = ptr := same
            obtain ⟨-, releasing⟩ := inv.segments origin isPending
            rw [same] at releasing
            exact (allowed.expires late).2 releasing
        | timeout other =>
            have same : other = ptr := same
            subst same
            exact (timeouts.expired other isPending).2 (key ▸ armed_of_timer registered)
      · intro origin same
        cases same
  | discarded reply item handling type pending table timers live replies =>
      have same := inv.exchange.pendingKept handling (by rw [type]; simp) pending
      exact .declined reply item handling same (by rw [table]) replies (.inl type)
  | refused fresh reply item holder handling type unused taken pending table timers live replies =>
      have same := inv.exchange.pendingKept handling (by rw [type]; simp) pending
      apply Effect.declined reply item handling same _ replies
      · exact .inr ⟨type, sInsert_taken timeouts.table (timeouts.outside unused) taken⟩
      · rw [table, timeouts.refused unused taken]
        rfl
  | inserted fresh reply item buf size handling type unused free pending result replies =>
      have same := inv.exchange.pendingKept handling (by rw [type]; simp) pending
      apply Effect.granted fresh reply item handling type same unused _ _ replies
      · rw [result]
        intro member
        exact of_decide_eq_true (List.mem_filter.mp member).2 rfl
      · rw [result]
        exact inserted_grows timeouts.table (timeouts.outside unused) reply.fields buf size free
  | timedOut reply node handling pending table timers live replies =>
      obtain ⟨type, fields⟩ := inv.exchange.handled handling
      apply Effect.gone (.timeout node) reply _ handling type rfl fields pending _ replies
      intro ptr
      rw [table]
      exact timeouts.table.distinctL2w.mem_remove
  | kept reply item handling type isPacket reason pending table timers live replies =>
      obtain ⟨buf, size, origin, isItem, tracked, isPending, fields⟩ :=
        inv.handled handling type isPacket
      subst isItem
      obtain ⟨member, releasing⟩ := inv.segments origin isPending
      have same := mappingOf_parsedNode state.now (timeouts.table.keyed origin.ptr member)
      have isTcp : (parsedNode state.now reply.fields).protocol = ipprotoTcp := by
        rw [fields]
        exact (congrArg Mapping.protocol same).trans (tracked_protocol timeouts.table tracked)
      rcases reason with verdict | ⟨notTcp, -⟩
      · exact absurd (aliasPacket_settled_doalias settings.nat state.now state.bucket tracked
          releasing.settled) verdict
      · exact absurd isTcp notTcp
  | deleted reply item node handling type isPacket found registered pending table timers owed live
      replies =>
      obtain ⟨origin, isNode, isPending, fields, -⟩ :=
        inv.deletedNode handling type isPacket found
      have remaps := releasedOutcome_same settings state item
      have sound := remaps.inv timeouts.table
      rw [isNode] at table
      rw [isPending, one_some] at pending
      apply Effect.gone (.segment origin) reply _ handling type isPending fields pending _ replies
      intro ptr
      rw [table, ← remaps.l2w]
      exact sound.distinctL2w.mem_remove
  | stopped reply item handling pending table timers live unread =>
      apply Effect.quiet pending _ unread
      rw [table]
      exact (releasedOutcome_same settings state item).l2w

theorem source_pending {pc : SenderPc} {item : SendItem} (source : pc.source = some item) :
    pc.pending = item.pending := by
  cases pc with
  | formatting => cases source; rfl
  | unmatched => cases source; rfl
  | matched => cases source; rfl
  | popping => cases source
  | pushing => cases source
  | sending => cases source

theorem divert_item_pending {pc : DivertPc} {item : SendItem} (held : pc.item = some item) :
    pc.pending = item.pending := by
  cases pc with
  | requesting => cases held; rfl
  | releasing => cases held; rfl
  | _ => cases held

theorem timer_item_pending {pc : TimerPc} {item : SendItem} (held : pc.item = some item) :
    pc.pending = item.pending := by
  cases pc with
  | expiring => cases held; rfl
  | _ => cases held

theorem sends_pending {item : SendItem} {release : Release} (sends : state.Sends item)
    (isPending : item.pending = some release) : release ∈ state.pending := by
  rcases sends with divert | timer | queued | source
  · have held := (divert_item_pending divert).trans isPending
    simp only [State.pending, held, one_some, Multiset.mem_add, Multiset.mem_singleton, true_or]
  · have held := (timer_item_pending timer).trans isPending
    simp only [State.pending, held, one_some, Multiset.mem_add, Multiset.mem_singleton, or_true,
      true_or]
  · have inQueue : release ∈ state.hSend.filterMap SendItem.pending :=
      List.mem_filterMap.mpr ⟨item, queued, isPending⟩
    simp only [State.pending, Multiset.mem_add, Multiset.mem_coe, inQueue, or_true, true_or]
  · exact pending_of_sender ((source_pending source).trans isPending)

theorem carries_pending {buf : Buffer} {size : Nat} {origin : Origin}
    (carries : state.Carries buf size origin) : .segment origin ∈ state.pending := by
  rcases carries with sends | ⟨rel, message, made⟩ | ⟨rel, member⟩
  · exact sends_pending sends rfl
  · apply pending_of_sender
    rw [made_pending made]
    rfl
  · exact pending_of_item member rfl

theorem format_release {table : Table} {pc : SenderPc} {rel : Side} {buf : Buffer} {size : Nat}
    {origin : Origin} {message : Message}
    (made : format table pc = some (.release rel buf size origin, message)) :
    ∃ ptr, pc = .matched rel buf size origin ptr ∧
      message = .release (fieldsOf (table.heap ptr)) := by
  cases pc with
  | matched _ _ _ _ ptr =>
      cases made
      exact ⟨ptr, rfl, rfl⟩
  | formatting item => cases item <;> cases made
  | popping => cases made
  | unmatched => cases made
  | pushing => cases made
  | sending => cases made

theorem carries_step (moved : StepCase settings state event after) {buf : Buffer} {size : Nat}
    {origin : Origin} (carries : after.Carries buf size origin) :
    state.Carries buf size origin ∨ Starts settings state event (.sendRel buf size origin) := by
  have flow := flow_case moved
  rcases carries with sends | ⟨rel, message, made⟩ | ⟨rel, member⟩
  · exact (sends_step moved sends).imp_left .inl
  · have unmoved : after.sender = state.sender → state.Carries buf size origin := by
      intro sender
      rw [sender] at made
      exact .inr (.inl ⟨rel, message, made⟩)
    apply Or.inl
    cases flow with
    | same items replies messages server sender =>
        rcases sender with none | sender
        · rw [none] at made
          cases made
        · exact unmoved sender
    | formatted kept other result items replies messages server sender =>
        rw [sender] at made
        cases made
        obtain ⟨ptr, matched, -⟩ := format_release result
        exact .inl (.inr (.inr (.inr (by rw [matched]; rfl))))
    | pushed item other pushing items replies messages server none =>
        rw [none] at made
        cases made
    | answered other reply answer items replies messages sender => exact unmoved sender
    | silent other answer result noReply items replies messages sender => exact unmoved sender
    | finished reply item handling items replies messages server sender => exact unmoved sender
  · apply Or.inl
    cases flow with
    | pushed item message pushing items =>
        rw [items] at member
        rcases List.mem_append.mp member with old | new
        · exact .inr (.inr ⟨rel, old⟩)
        · cases List.mem_singleton.mp new
          exact .inr (.inl ⟨rel, message, by rw [pushing]; rfl⟩)
    | finished reply item handling items =>
        exact .inr (.inr ⟨rel, items ▸ List.mem_cons_of_mem _ member⟩)
    | same items => exact .inr (.inr ⟨rel, items ▸ member⟩)
    | formatted kept message result items => exact .inr (.inr ⟨rel, items ▸ member⟩)
    | answered message reply answer items => exact .inr (.inr ⟨rel, items ▸ member⟩)
    | silent message answer result noReply items => exact .inr (.inr ⟨rel, items ▸ member⟩)

theorem ReleaseInv.only (inv : ReleaseInv settings state) {release other : Release}
    {rest : Multiset Release} (pending : state.pending = {release} + rest) (isOther : other ∈ rest) :
    other.ptr ≠ release.ptr := by
  have once := inv.once
  rw [pending, Multiset.map_add, Multiset.map_singleton, Multiset.singleton_add,
    Multiset.nodup_cons] at once
  intro same
  exact once.1 (same ▸ Multiset.mem_map_of_mem Release.ptr isOther)

theorem ReleaseInv.once_step (inv : ReleaseInv settings state)
    (effect : Effect settings state after) : (after.pending.map Release.ptr).Nodup := by
  cases effect with
  | quiet pending => exact pending ▸ inv.once
  | asked release pending l2w unread member first =>
      rw [pending, Multiset.map_add, Multiset.map_singleton, Multiset.singleton_add,
        Multiset.nodup_cons]
      refine ⟨?_, inv.once⟩
      intro taken
      obtain ⟨other, isPending, same⟩ := Multiset.mem_map.mp taken
      exact first other isPending same
  | declined reply item handling pending => exact pending ▸ inv.once
  | granted fresh reply item handling type pending => exact pending ▸ inv.once
  | gone release reply item handling type isPending fields pending =>
      have once := inv.once
      rw [pending] at once
      exact Multiset.nodup_of_le (Multiset.map_le_map (Multiset.le_add_left _ _)) once

theorem ReleaseInv.segments_step (inv : ReleaseInv settings state)
    (moved : CoreCase settings state event after) (effect : Effect settings state after) :
    ∀ origin, .segment origin ∈ after.pending →
      origin.ptr ∈ after.table.l2w ∧ Releasing settings (after.table.heap origin.ptr) := by
  have old : ∀ origin, .segment origin ∈ state.pending → origin.ptr ∈ state.table.l2w ∧
      Releasing settings (after.table.heap origin.ptr) := by
    intro origin isPending
    obtain ⟨member, releasing⟩ := inv.segments origin isPending
    exact ⟨member, releasing.kept moved (inv.exchange.timeouts.live _ member)⟩
  intro origin isPending
  cases effect with
  | quiet pending l2w =>
      rw [l2w]
      exact old origin (pending ▸ isPending)
  | asked release pending l2w unread member first releasing =>
      rw [l2w]
      rw [pending] at isPending
      rcases Multiset.mem_add.mp isPending with new | before
      · have isRelease := Multiset.mem_singleton.mp new
        subst isRelease
        exact ⟨member, releasing origin rfl⟩
      · exact old origin before
  | declined reply item handling pending l2w =>
      rw [l2w]
      exact old origin (pending ▸ isPending)
  | granted fresh reply item handling type pending unused forgotten grows =>
      rw [grows.l2w]
      exact (old origin (pending ▸ isPending)).imp_left (List.mem_cons_of_mem _)
  | gone release reply item handling type isRelease fields pending l2w =>
      have before : .segment origin ∈ state.pending :=
        pending ▸ Multiset.mem_add.mpr (.inr isPending)
      obtain ⟨member, releasing⟩ := old origin before
      exact ⟨(l2w origin.ptr).mpr ⟨inv.only pending isPending, member⟩, releasing⟩

theorem tracked_kept {config : Alias.Config} {table table' : Table} {side : Side} {buf : Buffer}
    {size : Nat} {ptr : Ptr} (inv : TableInv table) (inv' : TableInv table')
    (tracked : Tracked config table side buf size ptr) (member : ptr ∈ table'.l2w)
    (same : mappingOf (table'.heap ptr) = mappingOf (table.heap ptr)) :
    Tracked config table' side buf size ptr := by
  refine ⟨tracked.passes, tracked.tcp, tracked.stranger, ?_⟩
  have found := tracked.found
  have protocol := congrArg Mapping.protocol same
  have lan := congrArg Mapping.lan same
  have wan := congrArg Mapping.wan same
  cases side with
  | lan =>
      obtain ⟨-, isProtocol, isLan⟩ := (findL2w_eq_some inv).mp found
      exact (findL2w_eq_some inv').mpr ⟨member, protocol.trans isProtocol, lan.trans isLan⟩
  | wan =>
      obtain ⟨-, isProtocol, isWan⟩ := (findW2l_eq_some inv).mp found
      exact (findW2l_eq_some inv').mpr ⟨member, protocol.trans isProtocol, wan.trans isWan⟩

theorem ReleaseInv.kept (inv : ReleaseInv settings state)
    (moved : CoreCase settings state event after) {origin : Origin}
    (isPending : .segment origin ∈ state.pending) :
    mappingOf (after.table.heap origin.ptr) = mappingOf (state.table.heap origin.ptr) := by
  have timeouts := inv.exchange.timeouts
  obtain ⟨member, -⟩ := inv.segments origin isPending
  exact mapping_kept timeouts.table timeouts.live moved (timeouts.live _ member)

theorem ReleaseInv.packets_step (inv : ReleaseInv settings state)
    (moved : StepCase settings state event after) (exchange : ExchangeInv after)
    (segments : ∀ origin, .segment origin ∈ after.pending → origin.ptr ∈ after.table.l2w ∧
      Releasing settings (after.table.heap origin.ptr))
    (allowed : Orderly settings state event) :
    ∀ buf size origin, after.Carries buf size origin →
      Tracked settings.nat after.table origin.side buf size origin.ptr := by
  intro buf size origin carries
  have timeouts := inv.exchange.timeouts
  obtain ⟨member, -⟩ := segments origin (carries_pending carries)
  rcases carries_step moved carries with before | starts
  · have isPending := carries_pending before
    exact tracked_kept timeouts.table exchange.timeouts.table (inv.packets buf size origin before)
      member (inv.kept (core_case moved) isPending)
  · cases starts with
    | release side packet ptr found asks =>
        obtain ⟨tracked, buf, -⟩ := Orderly.asks allowed found asks
        rw [buf]
        have inTable := tracked_member timeouts.table tracked
        exact tracked_kept timeouts.table exchange.timeouts.table tracked member
          (mapping_kept timeouts.table timeouts.live (core_case moved) (timeouts.live _ inTable))

theorem Names.mono {heap heap' : Ptr → Node} {item : RecvItem} {answer : Due Message Reply}
    (names : Names heap item answer)
    (same : ∀ origin, item.pending = some (.segment origin) →
      fieldsOf (heap' origin.ptr) = fieldsOf (heap origin.ptr)) : Names heap' item answer := by
  cases item with
  | request => trivial
  | timeout => trivial
  | release rel buf size origin =>
      have fields := same origin rfl
      cases answer with
      | asked message => exact ⟨names.1, by rw [fields]; exact names.2⟩
      | replied reply => exact ⟨names.1, by rw [fields]; exact names.2⟩

theorem ReleaseInv.aligned_step (inv : ReleaseInv settings state)
    (moved : StepCase settings state event after) (allowed : Orderly settings state event) :
    Aligned (Names after.table.heap) after.items after.replies after.messages ∧
      ∀ item message, after.sender.made = some (item, message) →
        Names after.table.heap item (.asked message) := by
  have core := core_case moved
  have flow := flow_case moved
  have fields : ∀ origin, .segment origin ∈ state.pending →
      fieldsOf (after.table.heap origin.ptr) = fieldsOf (state.table.heap origin.ptr) :=
    fun origin isPending => fieldsOf_congr (inv.kept core isPending)
  have made : ∀ item message, state.sender.made = some (item, message) →
      Names after.table.heap item (.asked message) := by
    intro item message isMade
    apply (inv.made item message isMade).mono
    intro origin isPending
    apply fields
    apply pending_of_sender
    rw [made_pending isMade]
    exact isPending
  constructor
  · apply aligned_flow flow inv.aligned _ made
    · intro message rest answer front result
      obtain ⟨server, reply, replied, answers⟩ := inv.exchange.reached front settings.socketId
      rw [result] at replied
      cases replied
      refine ⟨reply, rfl, ?_⟩
      intro item names
      cases item with
      | request => trivial
      | timeout => trivial
      | release rel buf size origin =>
          obtain ⟨side, isMessage⟩ := names
          rw [isMessage] at answers
          exact ⟨side, congrArg Reply.fields answers.1⟩
    · intro item member answer names
      apply names.mono
      intro origin isPending
      exact fields origin (pending_of_item member isPending)
  · apply made_flow flow made
    intro kept message result isMade
    have idle : state.sender.made ≠ some (kept, message) := by
      rw [format_made result]
      nofun
    have isSender := formatting_event moved idle isMade
    subst isSender
    cases kept with
    | request => trivial
    | timeout => trivial
    | release rel buf size origin =>
        obtain ⟨ptr, matched, isMessage⟩ := format_release result
        have carries : state.Carries buf size origin :=
          .inl (.inr (.inr (.inr (by rw [matched]; rfl))))
        have side : rel = origin.side := inv.sides rel origin (by rw [matched]; rfl)
        have current := allowed.upToDate.prints matched
        rw [side, tracked_found (inv.packets buf size origin carries)] at current
        rw [← Option.some.inj current] at isMessage
        exact ⟨side, by rw [isMessage, fields origin (carries_pending carries)]⟩

/-- The sender looks for a packet's entry from the side that the packet came from. -/
theorem ReleaseInv.sides_step (inv : ReleaseInv settings state)
    (moved : StepCase settings state event after) (allowed : Orderly settings state event) :
    ∀ rel origin, after.sender.rel = some (rel, origin) → rel = origin.side := by
  intro rel origin looks
  have tracked : ∀ buf size other, state.sender = .formatting (.sendRel buf size other) →
      releaseEntry state.table other.side buf size = some other.ptr := by
    intro buf size other formatting
    exact tracked_found (inv.packets buf size other
      (.inl (.inr (.inr (.inr (by rw [formatting]; rfl))))))
  cases moved with
  | unmatched buf size other formatting nothing =>
      cases looks
      cases side : origin.side with
      | lan =>
          have found := tracked buf size origin formatting
          rw [side, nothing] at found
          cases found
      | wan => rfl
  | matched _ buf size other ptr looking found =>
      cases looks
      rcases looking with ⟨isLan, formatting⟩ | ⟨isWan, unmatched⟩
      · cases origin with
        | mk side target =>
            cases side with
            | lan => exact isLan
            | wan =>
                have unmistaken : state.mistaken = none := allowed.2
                rw [State.mistaken, formatting] at unmistaken
                rw [isLan] at found
                exact absurd (found.symm.trans unmistaken) nofun
      · rw [isWan]
        exact inv.sides .wan origin (by rw [unmatched]; rfl)
  | popSend => cases looks
  | formatted => cases looks
  | pushRecv => cases looks
  | send => cases looks
  | _ => exact inv.sides rel origin looks

theorem closingEntry_kept {table table' : Table} {side : Side} {buf : Buffer} {size : Nat} {ptr : Ptr}
    (inv : TableInv table) (inv' : TableInv table') (member : ptr ∈ table.l2w)
    (same : mappingOf (table'.heap ptr) = mappingOf (table.heap ptr))
    (found : closingEntry table' side buf size = some ptr) :
    closingEntry table side buf size = some ptr := by
  have protocol := congrArg Mapping.protocol same
  have lan := congrArg Mapping.lan same
  have wan := congrArg Mapping.wan same
  cases side with
  | lan =>
      obtain ⟨-, isProtocol, isWan⟩ := (findW2l_eq_some inv').mp found
      exact (findW2l_eq_some inv).mpr ⟨member, protocol.symm.trans isProtocol, wan.symm.trans isWan⟩
  | wan =>
      obtain ⟨-, isProtocol, isLan⟩ := (findL2w_eq_some inv').mp found
      exact (findL2w_eq_some inv).mpr ⟨member, protocol.symm.trans isProtocol, lan.symm.trans isLan⟩

theorem closingEntry_member {table : Table} {side : Side} {buf : Buffer} {size : Nat} {ptr : Ptr}
    (inv : TableInv table) (found : closingEntry table side buf size = some ptr) :
    ptr ∈ table.l2w := by
  cases side with
  | lan => exact ((findW2l_eq_some inv).mp found).1
  | wan => exact ((findL2w_eq_some inv).mp found).1

theorem State.Closes.kept {ptr : Ptr} (inv : TableInv state.table) (inv' : TableInv after.table)
    (member : ptr ∈ state.table.l2w)
    (same : mappingOf (after.table.heap ptr) = mappingOf (state.table.heap ptr))
    (divert : after.divert = state.divert) (closes : after.Closes ptr) : state.Closes ptr := by
  have key : after.table.l2wKeyOf ptr = state.table.l2wKeyOf ptr := congrArg Mapping.l2wKey same
  rw [State.Closes, divert] at closes
  rw [State.Closes]
  cases pc : state.divert with
  | closing side buf size =>
      rw [pc] at closes
      exact closingEntry_kept inv inv' member same closes
  | arming side buf size other =>
      rw [pc] at closes
      exact closingEntry_kept inv inv' member same closes
  | suspending side buf size ident =>
      rw [pc] at closes
      exact key.symm.trans closes
  | rearming side buf size ident =>
      rw [pc] at closes
      exact key.symm.trans closes
  | _ =>
      rw [pc] at closes
      exact closes

theorem segment_before (moved : CoreCase settings state event after) {origin : Origin}
    (isPending : .segment origin ∈ after.pending) :
    .segment origin ∈ state.pending ∨
      ∃ buf size other, after.divert = .releasing buf size other := by
  cases moved with
  | shifted pending | scribbled _ _ _ pending | touched pending | suspended _ _ _ pending
  | restored _ pending | stopped _ _ _ pending => exact .inl (pending ▸ isPending)
  | released side packet ptr isEvent found asks pending table timers live unread divert =>
      exact .inr ⟨_, _, _, divert⟩
  | expired ident ptr isEvent late registered pending =>
      rw [pending] at isPending
      rcases Multiset.mem_add.mp isPending with new | old
      · cases Multiset.mem_singleton.mp new
      · exact .inl old
  | inserted fresh reply item buf size handling type unused free pending =>
      exact .inl (pending ▸ Multiset.mem_add.mpr (.inr isPending))
  | discarded _ _ _ _ pending | refused _ _ _ _ _ _ _ _ pending | timedOut _ _ _ pending
  | kept _ _ _ _ _ _ pending | deleted _ _ _ _ _ _ _ _ pending =>
      exact .inl (pending ▸ Multiset.mem_add.mpr (.inr isPending))

theorem Orderly.closing (inv : TableInv state.table) {side : Side} {packet : Datagram} {ptr : Ptr}
    (allowed : Orderly settings state .divert) (found : state.divert = .found side packet ptr)
    (wait : settings.nat.build.waitTimeDelete = true)
    (verdict : (state.used settings side packet ptr).verdict = .delTable) :
    closingEntry (state.used settings side packet ptr).table side
        (state.used settings side packet ptr).buf packet.size = some ptr ∧
      ((state.used settings side packet ptr).table.heap ptr).flags = .closed := by
  obtain ⟨still, -⟩ := allowed.hit found
  rw [State.used_eq still] at verdict ⊢
  obtain ⟨other, tracked, -, result⟩ := aliasPacket_closing settings.nat state.now state.table
    state.bucket packet.buf packet.size side wait verdict
  have owner : other = ptr :=
    (Option.some.inj (still.symm.trans (resolved_of_tracked tracked))).symm
  subst owner
  have protocol := tracked_protocol inv tracked
  rw [State.outcome, result]
  refine ⟨?_, by rw [attach_flags, setFlags_flags_self]⟩
  refine closingEntry_forwarded inv ?_ (packet.formed (.inl tracked.tcp)) tracked.passes.long side
    (tracked_member inv tracked) (protocol.trans tracked.tcp.symm)
  exact (SameMappings.setFlags state.table other .closed).trans (.attach _ state.now other)

/-- An entry with a segment's release in flight is not among those being closed. -/
theorem ReleaseInv.closes_step (inv : ReleaseInv settings state)
    (moved : StepCase settings state event after) (exchange : ExchangeInv after)
    (segments : ∀ origin, .segment origin ∈ after.pending → origin.ptr ∈ after.table.l2w ∧
      Releasing settings (after.table.heap origin.ptr))
    (allowed : Orderly settings state event) :
    ∀ origin, .segment origin ∈ after.pending → ¬after.Closes origin.ptr := by
  intro origin isPending closes
  have core := core_case moved
  have timeouts := inv.exchange.timeouts
  rcases segment_before core isPending with before | ⟨buf, size, other, releasing⟩
  · obtain ⟨member, -⟩ := inv.segments origin before
    have closed := inv.closes origin before
    have kept : after.divert = state.divert → False := fun divert =>
      closed (closes.kept timeouts.table exchange.timeouts.table member (inv.kept core before) divert)
    cases moved with
    | closed side packet ptr found verdict wait =>
        obtain ⟨leads, flags⟩ := allowed.closing timeouts.table found wait verdict
        have same : ptr = origin.ptr := Option.some.inj (leads.symm.trans closes)
        obtain ⟨-, reset | ⟨-, noWait⟩⟩ := segments origin isPending
        · rw [← same] at reset
          cases flags.symm.trans reset
        · cases noWait.symm.trans wait
    | closeFound side buf size ptr closing found =>
        apply closed
        rw [State.Closes, closing]
        exact closes
    | arm side buf size ptr arming =>
        apply closed
        have leads := allowed.arms arming
        have key : state.table.l2wKeyOf origin.ptr = state.table.l2wKeyOf ptr :=
          (congrArg Mapping.l2wKey (inv.kept core before)).symm.trans closes
        have same := timeouts.table.distinctL2w.eq_of_key member
          (closingEntry_member timeouts.table leads) key
        rw [State.Closes, arming, same]
        exact leads
    | suspend side buf size ident suspending =>
        apply closed
        rw [State.Closes, suspending]
        exact closes
    | missed | requested | found | hairpin | translated | released | turned | turnedAway | returned
    | dropRequest | pushRequest | pushRelease | closeNothing | rearm => exact closes
    | _ => exact kept rfl
  · rw [State.Closes, releasing] at closes
    exact closes

theorem ReleaseInv.step (inv : ReleaseInv settings state)
    (moved : StepCase settings state event after) (allowed : Orderly settings state event) :
    ReleaseInv settings after := by
  have core := core_case moved
  have effect := inv.effect core allowed
  have exchange := inv.exchange.step moved allowed.upToDate
  have segments := inv.segments_step core effect
  obtain ⟨aligned, made⟩ := inv.aligned_step moved allowed
  exact
    { exchange := exchange
      once := inv.once_step effect
      segments := segments
      closes := inv.closes_step moved exchange segments allowed
      packets := inv.packets_step moved exchange segments allowed
      sides := inv.sides_step moved allowed
      aligned := aligned
      made := made }

end Effects

/-- `releases` and `frees` since the addresses were last handed out. -/
structure RecordInv (state : State) : Prop where
  released : ∀ ptr ∈ state.releases, ptr ∈ state.table.l2w →
    ∃ release ∈ state.pending, release.ptr = ptr
  divert : ∀ release, state.divert.pending = some release → release.ptr ∉ state.releases
  timer : ∀ release, state.timer.pending = some release → release.ptr ∉ state.releases
  releases : state.releases.Nodup
  frees : state.frees.Nodup
  freed : ∀ ptr ∈ state.frees, ptr ∉ state.live
  live : state.live.Nodup

section Records

variable {settings : Settings} {state after : State} {event : Event}

theorem releases_case (moved : StepCase settings state event after) :
    after.releases = state.releases ∨
      (∃ release, (state.divert.pending = some release ∨ state.timer.pending = some release) ∧
        release ∈ after.pending ∧ after.releases = release.ptr :: state.releases) ∨
      ∃ fresh, fresh ∉ state.live ∧
        after.releases = state.releases.filter fun ptr => ptr ≠ fresh := by
  cases moved with
  | pushRelease buf size origin releasing =>
      refine .inr (.inl ⟨.segment origin, .inl (by rw [releasing]; rfl), ?_, rfl⟩)
      apply carries_pending
      exact .inl (.inr (.inr (.inl (List.mem_append_right _ List.mem_cons_self))))
  | pushTimeout ptr expiring =>
      refine .inr (.inl ⟨.timeout ptr, .inr (by rw [expiring]; rfl), ?_, rfl⟩)
      have inQueue : Release.timeout ptr ∈
          (state.hSend ++ [SendItem.timeout ptr]).filterMap SendItem.pending :=
        List.mem_filterMap.mpr ⟨_, List.mem_append_right _ List.mem_cons_self, rfl⟩
      simp only [State.pending, Multiset.mem_add, Multiset.mem_coe, inQueue, or_true, true_or]
  | insert fresh reply item buf size handling type isPacket unused =>
      exact .inr (.inr ⟨fresh, unused, rfl⟩)
  | _ => exact .inl rfl

theorem RecordInv.released_step (records : RecordInv state)
    (moved : StepCase settings state event after) (effect : Effect settings state after) :
    ∀ ptr ∈ after.releases, ptr ∈ after.table.l2w → ∃ release ∈ after.pending, release.ptr = ptr := by
  intro ptr recorded member
  have before : (∃ release ∈ after.pending, release.ptr = ptr) ∨ ptr ∈ state.releases := by
    rcases releases_case moved with same | ⟨release, -, isPending, pushed⟩ | ⟨fresh, -, filtered⟩
    · exact .inr (same ▸ recorded)
    · rw [pushed] at recorded
      rcases List.mem_cons.mp recorded with new | old
      · exact .inl ⟨release, isPending, new.symm⟩
      · exact .inr old
    · rw [filtered] at recorded
      exact .inr (List.mem_filter.mp recorded).1
  rcases before with done | old
  · exact done
  cases effect with
  | quiet pending l2w =>
      rw [pending]
      exact records.released ptr old (l2w ▸ member)
  | asked release pending l2w =>
      obtain ⟨other, isPending, same⟩ := records.released ptr old (l2w ▸ member)
      rw [pending]
      exact ⟨other, Multiset.mem_add.mpr (.inr isPending), same⟩
  | declined reply item handling pending l2w =>
      rw [pending]
      exact records.released ptr old (l2w ▸ member)
  | granted fresh reply item handling type pending unused forgotten grows =>
      rw [grows.l2w] at member
      rcases List.mem_cons.mp member with new | before
      · exact absurd (new ▸ recorded) forgotten
      · rw [pending]
        exact records.released ptr old before
  | gone release reply item handling type isRelease fields pending l2w =>
      obtain ⟨different, before⟩ := (l2w ptr).mp member
      obtain ⟨other, isPending, same⟩ := records.released ptr old before
      rw [pending] at isPending
      rcases Multiset.mem_add.mp isPending with isGone | left
      · cases Multiset.mem_singleton.mp isGone
        exact absurd same.symm different
      · exact ⟨other, left, same⟩

/-- The release that a thread is about to push and the one another thread pushes
are for different entries. -/
theorem ReleaseInv.apart (inv : ReleaseInv settings state) {left right : Release}
    (divert : state.divert.pending = some left) (timer : state.timer.pending = some right) :
    left.ptr ≠ right.ptr := by
  have pending : state.pending = {left} + ({right} +
      ((state.hSend.filterMap SendItem.pending : Multiset Release) + one state.sender.pending +
        (state.items.filterMap RecvItem.pending : Multiset Release))) := by
    simp only [State.pending, divert, timer, one_some]
    abel
  exact (inv.only pending (Multiset.mem_add.mpr (.inl (Multiset.mem_singleton_self right)))).symm

theorem RecordInv.new (records : RecordInv state)
    {release : Release}
    (once : (({release} + state.pending).map Release.ptr).Nodup)
    (member : release.ptr ∈ state.table.l2w) : release.ptr ∉ state.releases := by
  intro recorded
  obtain ⟨other, isPending, same⟩ := records.released release.ptr recorded member
  rw [Multiset.map_add, Multiset.map_singleton, Multiset.singleton_add, Multiset.nodup_cons] at once
  exact once.1 (same ▸ Multiset.mem_map_of_mem Release.ptr isPending)

theorem RecordInv.pushing_step (inv : ReleaseInv settings state) (later : ReleaseInv settings after)
    (records : RecordInv state) (moved : StepCase settings state event after)
    (allowed : Orderly settings state event) :
    (∀ release, after.divert.pending = some release → release.ptr ∉ after.releases) ∧
      ∀ release, after.timer.pending = some release → release.ptr ∉ after.releases := by
  have timeouts := inv.exchange.timeouts
  cases moved with
  | missed | requested | found | hairpin | translated | closed | turned | turnedAway | returned
  | dropRequest | pushRequest | closeNothing | closeFound | arm | suspend | rearm =>
      exact ⟨nofun, records.timer⟩
  | fetch | notYet | find | test => exact ⟨records.divert, nofun⟩
  | released side packet ptr found asks =>
      refine ⟨?_, records.timer⟩
      intro release isRelease
      cases isRelease
      obtain ⟨tracked, -⟩ := allowed.asks found asks
      apply records.new
      · rw [← pending_releasing (by rw [found]; rfl)]
        exact later.once
      · exact tracked_member timeouts.table tracked
  | expire ident ptr late registered =>
      refine ⟨records.divert, ?_⟩
      intro release isRelease
      cases isRelease
      apply records.new
      · rw [← pending_expiring (by rw [late]; rfl)]
        exact later.once
      · exact (timerEntry_key timeouts registered (allowed.upToDate.expires late)).1
  | pushRelease buf size origin releasing =>
      refine ⟨nofun, ?_⟩
      intro release timer recorded
      rcases List.mem_cons.mp recorded with same | old
      · have divert : state.divert.pending = some (.segment origin) := by rw [releasing]; rfl
        exact inv.apart divert timer same.symm
      · exact records.timer release timer old
  | pushTimeout ptr expiring =>
      refine ⟨?_, nofun⟩
      intro release divert recorded
      rcases List.mem_cons.mp recorded with same | old
      · have timer : state.timer.pending = some (.timeout ptr) := by rw [expiring]; rfl
        exact inv.apart divert timer same
      · exact records.divert release divert old
  | insert =>
      exact ⟨fun release pending recorded =>
          records.divert release pending (List.mem_filter.mp recorded).1,
        fun release pending recorded =>
          records.timer release pending (List.mem_filter.mp recorded).1⟩
  | _ => exact ⟨records.divert, records.timer⟩

/-- A freed node was allocated, and it is recorded until its address comes back. -/
theorem RecordInv.freed_step (inv : ReleaseInv settings state) (records : RecordInv state)
    (moved : StepCase settings state event after) :
    after.frees.Nodup ∧ (∀ ptr ∈ after.frees, ptr ∉ after.live) ∧ after.live.Nodup := by
  have timeouts := inv.exchange.timeouts
  have free : ∀ node ∈ state.table.l2w, (node :: state.frees).Nodup ∧
      (∀ ptr ∈ node :: state.frees, ptr ∉ state.live.erase node) ∧ (state.live.erase node).Nodup := by
    intro node member
    have isLive := timeouts.live node member
    refine ⟨List.nodup_cons.mpr ⟨fun freed => records.freed node freed isLive, records.frees⟩, ?_,
      records.live.erase node⟩
    intro ptr freed left
    obtain ⟨different, isLive⟩ := records.live.mem_erase_iff.mp left
    rcases List.mem_cons.mp freed with same | old
    · exact different same
    · exact records.freed ptr old isLive
  cases moved with
  | insert fresh reply item buf size handling type isPacket unused =>
      refine ⟨records.frees.filter _, ?_, List.nodup_cons.mpr ⟨unused, records.live⟩⟩
      intro ptr freed isLive
      obtain ⟨old, different⟩ := List.mem_filter.mp freed
      rcases List.mem_cons.mp isLive with same | before
      · exact of_decide_eq_true different same
      · exact records.freed ptr old before
  | timeoutAck ptr reply node handling =>
      apply free node
      apply (timeouts.expired node _).1
      rw [pending_handling handling]
      exact Multiset.mem_add.mpr (.inl (Multiset.mem_singleton_self _))
  | delete ptr reply item node handling type isPacket found =>
      apply free node
      rw [← (releasedOutcome_same settings state item).l2w]
      exact mem_of_find (sDeleteForValue_some found).1
  | _ => exact ⟨records.frees, records.freed, records.live⟩

theorem RecordInv.step (inv : ReleaseInv settings state) (records : RecordInv state)
    (moved : StepCase settings state event after) (allowed : Orderly settings state event) :
    RecordInv after := by
  have later := inv.step moved allowed
  have effect := inv.effect (core_case moved) allowed
  obtain ⟨divert, timer⟩ := records.pushing_step inv later moved allowed
  obtain ⟨frees, freed, live⟩ := records.freed_step inv moved
  have releases : after.releases.Nodup := by
    rcases releases_case moved with same | ⟨release, waits, -, pushed⟩ | ⟨fresh, -, filtered⟩
    · exact same ▸ records.releases
    · rw [pushed]
      refine List.nodup_cons.mpr ⟨?_, records.releases⟩
      rcases waits with waits | waits
      · exact records.divert release waits
      · exact records.timer release waits
    · exact filtered ▸ records.releases.filter _
  exact
    { released := records.released_step moved effect
      divert := divert
      timer := timer
      releases := releases
      frees := frees
      freed := freed
      live := live }

end Records

/-- A conversation up to the end of its acknowledgement. -/
def finished : List Event := conversation ++ [.receiver 0]

end System
end NatPorte
