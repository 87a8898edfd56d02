/-
The NAT table and the pool server's databases.

The table follows the databases through the replies: a `request_ack` adds the
mapping that the server has added, a `release_ack` drops the one that it has
dropped.  In an orderly run the table is exactly where the databases were when the
oldest reply that is not handled yet was sent.
-/

import NatPorte.Library.ReplicaLog
import NatPorte.Releases

namespace NatPorte
namespace System

open TcpState Structure Packet Checksum Alias Tracking Lookup PoolServer Entry StepSystem Pipeline
  KeyedSet ReplicaLog

def State.view (state : State) : Set Fields :=
  fun fields => ∃ ptr ∈ state.table.l2w, fieldsOf (state.table.heap ptr) = fields

def mappings (server : Server) : Set Fields := fun fields => server.Mapped fields

def changeOf (reply : Reply) : Option (Change Fields) :=
  match reply.type with
  | .requestAck => some (.add reply.fields)
  | .requestDiscard => none
  | .releaseAck => some (.drop reply.fields)

/-- A LAN endpoint has one mapping and so has a WAN endpoint. -/
structure OneToOne (facts : Set Fields) : Prop where
  lan : ∀ left ∈ facts, ∀ right ∈ facts, left.protocol = right.protocol →
    left.lanIp = right.lanIp → left.lanPort = right.lanPort → left = right
  wan : ∀ left ∈ facts, ∀ right ∈ facts, left.protocol = right.protocol →
    left.wanIp = right.wanIp → left.wanPort = right.wanPort → left = right

section Databases

variable {server after : Server}

theorem mappings_oneToOne (inv : server.Inv) : OneToOne (mappings server) := by
  constructor
  · intro left leftIn right rightIn protocol ip port
    obtain ⟨leftWords, pool, found, leftEntry⟩ := leftIn
    obtain ⟨rightWords, rightEntry⟩ := (Server.mapped_iff found protocol.symm).mp rightIn
    apply Fields.connection_inj leftWords rightWords protocol
    exact connection_unique (inv.databaseOf found).formed leftEntry rightEntry
      (congrArg inetNtoa ip) port
  · intro left leftIn right rightIn protocol ip port
    obtain ⟨leftWords, pool, found, leftEntry⟩ := leftIn
    obtain ⟨rightWords, rightEntry⟩ := (Server.mapped_iff found protocol.symm).mp rightIn
    apply Fields.connection_inj leftWords rightWords protocol
    exact connection_exclusive (inv.databaseOf found) leftEntry rightEntry
      (congrArg inetNtoa ip) port

theorem Answers.mappings {message : Message} {reply : Reply}
    (answers : Answers server after message reply) :
    changeOf reply = none ∧ mappings after = mappings server ∨
      ∃ change, changeOf reply = some change ∧
        System.mappings after = change.apply (System.mappings server) := by
  cases message with
  | request protocol ipSrc portSrc =>
      rcases answers.outcome with ⟨type, kept⟩ | ⟨type, -, added⟩
      · refine .inl ⟨by rw [changeOf, type], Set.ext kept⟩
      · refine .inr ⟨.add reply.fields, by rw [changeOf, type], Set.ext ?_⟩
        intro fields
        exact (added fields).trans or_comm
  | release fields =>
      obtain ⟨isReply, -, dropped⟩ := answers
      refine .inr ⟨.drop fields, by rw [isReply]; rfl, Set.ext dropped⟩
  | initializeAddrs => exact absurd answers id

end Databases

/-- The table is behind the databases by the replies that are not handled. -/
def Follows (state : State) : Prop :=
  Catches OneToOne state.view (state.replies.filterMap changeOf) (mappings state.server)

section Steps

variable {settings : Settings} {state after : State} {event : Event}

theorem not_unread {reply : Reply} {replies : List Reply} (consumed : state.replies = reply :: replies)
    (unread : state.replies <+: replies) : False := by
  have shorter := unread.length_le
  rw [consumed, List.length_cons] at shorter
  omega

theorem ReleaseInv.fields_kept (inv : ReleaseInv settings state)
    (core : CoreCase settings state event after) {ptr : Ptr} (member : ptr ∈ state.table.l2w) :
    fieldsOf (after.table.heap ptr) = fieldsOf (state.table.heap ptr) := by
  have timeouts := inv.exchange.timeouts
  exact fieldsOf_congr (mapping_kept timeouts.table timeouts.live core (timeouts.live ptr member))

theorem ReleaseInv.view_kept (inv : ReleaseInv settings state)
    (core : CoreCase settings state event after) (l2w : after.table.l2w = state.table.l2w) :
    after.view = state.view := by
  apply Set.ext
  intro fields
  constructor
  · intro held
    obtain ⟨ptr, member, isFields⟩ := held
    rw [l2w] at member
    exact ⟨ptr, member, (inv.fields_kept core member).symm.trans isFields⟩
  · intro held
    obtain ⟨ptr, member, isFields⟩ := held
    exact ⟨ptr, l2w ▸ member, (inv.fields_kept core member).trans isFields⟩

theorem ReleaseInv.view_granted (inv : ReleaseInv settings state)
    (core : CoreCase settings state event after) {fresh : Ptr} {reply : Reply} {item : RecvItem}
    (handling : state.receiver = .handling reply item) (type : reply.type = .requestAck)
    (grows : Grows state.table after.table fresh (parsedNode state.now reply.fields)) :
    after.view = insert reply.fields state.view := by
  obtain ⟨-, isFields⟩ := inv.exchange.granted handling type
  have self : fieldsOf (after.table.heap fresh) = reply.fields :=
    (fieldsOf_congr grows.self).trans isFields
  apply Set.ext
  intro fields
  constructor
  · intro held
    obtain ⟨ptr, member, same⟩ := held
    rw [grows.l2w] at member
    rcases List.mem_cons.mp member with new | old
    · rw [new, self] at same
      exact .inl same.symm
    · exact .inr ⟨ptr, old, (inv.fields_kept core old).symm.trans same⟩
  · intro held
    change ∃ ptr ∈ after.table.l2w, fieldsOf (after.table.heap ptr) = fields
    rw [grows.l2w]
    rcases held with new | ⟨ptr, member, same⟩
    · exact ⟨fresh, List.mem_cons_self, self.trans new.symm⟩
    · exact ⟨ptr, List.mem_cons_of_mem fresh member, (inv.fields_kept core member).trans same⟩

theorem ReleaseInv.fields_inj (inv : ReleaseInv settings state) {left right : Ptr}
    (leftIn : left ∈ state.table.l2w) (rightIn : right ∈ state.table.l2w)
    (same : fieldsOf (state.table.heap left) = fieldsOf (state.table.heap right)) : left = right := by
  have table := inv.exchange.timeouts.table
  have leftNode := mappingOf_parsedNode state.now (table.keyed left leftIn)
  have rightNode := mappingOf_parsedNode state.now (table.keyed right rightIn)
  rw [same] at leftNode
  have mapping := leftNode.symm.trans rightNode
  exact table.distinctL2w.eq_of_key leftIn rightIn (congrArg Mapping.l2wKey mapping)

theorem ReleaseInv.view_gone (inv : ReleaseInv settings state)
    (core : CoreCase settings state event after) {release : Release}
    (isIn : release.ptr ∈ state.table.l2w)
    (l2w : ∀ ptr, ptr ∈ after.table.l2w ↔ ptr ≠ release.ptr ∧ ptr ∈ state.table.l2w) :
    after.view = state.view \ {fieldsOf (state.table.heap release.ptr)} := by
  apply Set.ext
  intro fields
  constructor
  · intro held
    obtain ⟨ptr, member, isFields⟩ := held
    obtain ⟨different, before⟩ := (l2w ptr).mp member
    rw [inv.fields_kept core before] at isFields
    refine ⟨⟨ptr, before, isFields⟩, ?_⟩
    intro same
    exact different (inv.fields_inj before isIn (isFields.trans same))
  · intro held
    obtain ⟨⟨ptr, member, isFields⟩, other⟩ := held
    have different : ptr ≠ release.ptr := by
      intro same
      subst same
      exact other isFields.symm
    exact ⟨ptr, (l2w ptr).mpr ⟨different, member⟩, (inv.fields_kept core member).trans isFields⟩

theorem ReleaseInv.refused (inv : ReleaseInv settings state) {reply : Reply} {item : RecvItem}
    (handling : state.receiver = .handling reply item) (type : reply.type = .requestAck)
    (sound : OneToOne (insert reply.fields state.view))
    (taken : ∃ holder ∈ state.table.l2w,
      state.table.l2wKeyOf holder = (parsedNode state.now reply.fields).l2wKey ∨
        state.table.w2lKeyOf holder = (parsedNode state.now reply.fields).w2lKey) :
    insert reply.fields state.view = state.view := by
  obtain ⟨-, isFields⟩ := inv.exchange.granted handling type
  obtain ⟨l2wKey, w2lKey⟩ := parsedNode_keyed state.now reply.fields
  have table := inv.exchange.timeouts.table
  obtain ⟨holder, member, key⟩ := taken
  have held : fieldsOf (state.table.heap holder) ∈ insert reply.fields state.view :=
    .inr ⟨holder, member, rfl⟩
  have same : fieldsOf (state.table.heap holder) = reply.fields := by
    rcases key with key | key
    · rw [table.l2wKey_eq member, l2wKey] at key
      obtain ⟨protocol, lan⟩ := packKey_inj.mp key
      apply sound.lan _ held _ (.inl rfl)
      · rw [← isFields, fieldsOf, fieldsOf, protocol]
      · rw [← isFields, fieldsOf, fieldsOf, lan]
      · rw [← isFields, fieldsOf, fieldsOf, lan]
    · rw [table.w2lKey_eq member, w2lKey] at key
      obtain ⟨protocol, wan⟩ := packKey_inj.mp key
      apply sound.wan _ held _ (.inl rfl)
      · rw [← isFields, fieldsOf, fieldsOf, protocol]
      · rw [← isFields, fieldsOf, fieldsOf, wan]
      · rw [← isFields, fieldsOf, fieldsOf, wan]
  exact Set.insert_eq_of_mem ⟨holder, member, same⟩

theorem ReleaseInv.inTable (inv : ReleaseInv settings state) {release : Release}
    (isPending : release ∈ state.pending) : release.ptr ∈ state.table.l2w := by
  cases release with
  | segment origin => exact (inv.segments origin isPending).1
  | timeout ptr => exact (inv.exchange.timeouts.expired ptr isPending).1

theorem pending_of_handling {reply : Reply} {item : RecvItem} {release : Release}
    (handling : state.receiver = .handling reply item) (isPending : item.pending = some release) :
    release ∈ state.pending := by
  rw [pending_handling handling, isPending]
  exact Multiset.mem_add.mpr (.inl (Multiset.mem_singleton_self release))

theorem ReleaseInv.view_unread (inv : ReleaseInv settings state)
    (core : CoreCase settings state event after) (effect : Effect settings state after)
    (unread : state.replies <+: after.replies) : after.view = state.view := by
  cases effect with
  | quiet pending l2w => exact inv.view_kept core l2w
  | asked release pending l2w => exact inv.view_kept core l2w
  | declined reply item handling pending l2w => exact inv.view_kept core l2w
  | granted fresh reply item handling type pending unused forgotten grows replies =>
      exact absurd unread (not_unread replies)
  | gone release reply item handling type isPending fields pending l2w replies =>
      exact absurd unread (not_unread replies)

theorem Follows.handled (follows : Follows state) (inv : ReleaseInv settings state)
    (core : CoreCase settings state event after) (effect : Effect settings state after)
    {reply : Reply} {item : RecvItem} (handling : state.receiver = .handling reply item)
    (replies : state.replies = reply :: after.replies) (server : after.server = state.server) :
    Follows after := by
  rw [Follows, replies] at follows
  rw [Follows, server]
  cases effect with
  | quiet pending l2w unread => exact absurd unread (not_unread replies)
  | asked release pending l2w unread => exact absurd unread (not_unread replies)
  | declined other otherItem handled pending l2w consumed reason =>
      rw [handling] at handled
      cases handled
      rw [inv.view_kept core l2w]
      rcases reason with type | ⟨type, taken⟩
      · have silent : changeOf reply = none := by rw [changeOf, type]
        rw [List.filterMap_cons_none silent] at follows
        exact follows
      · have change : changeOf reply = some (.add reply.fields) := by rw [changeOf, type]
        rw [List.filterMap_cons_some change] at follows
        obtain ⟨sound, later⟩ := follows.next
        rw [Change.apply, inv.refused handling type sound taken] at later
        exact later
  | granted fresh other otherItem handled type pending unused forgotten grows =>
      rw [handling] at handled
      cases handled
      have change : changeOf reply = some (.add reply.fields) := by rw [changeOf, type]
      rw [List.filterMap_cons_some change] at follows
      rw [inv.view_granted core handling type grows]
      exact follows.next.2
  | gone release other otherItem handled type isPending fields pending l2w =>
      rw [handling] at handled
      cases handled
      have change : changeOf reply = some (.drop reply.fields) := by rw [changeOf, type]
      rw [List.filterMap_cons_some change] at follows
      rw [inv.view_gone core (inv.inTable (pending_of_handling handling isPending)) l2w, ← fields]
      exact follows.next.2

theorem Follows.step (follows : Follows state) (inv : ReleaseInv settings state)
    (moved : StepCase settings state event after) (allowed : Orderly settings state event) :
    Follows after := by
  have core := core_case moved
  have flow := flow_case moved
  have effect := inv.effect core allowed
  have unread : state.replies <+: after.replies → after.view = state.view :=
    inv.view_unread core effect
  cases flow with
  | same items replies messages server =>
      rw [Follows, unread (replies ▸ List.prefix_refl _), replies, server]
      exact follows
  | formatted kept message result items replies messages server =>
      rw [Follows, unread (replies ▸ List.prefix_refl _), replies, server]
      exact follows
  | pushed item message pushing items replies messages server =>
      rw [Follows, unread (replies ▸ List.prefix_refl _), replies, server]
      exact follows
  | answered message reply answer items replies messages =>
      obtain ⟨server, given, result, answers⟩ := inv.exchange.reached messages settings.socketId
      rw [answer] at result
      cases result
      rw [Follows, unread (replies ▸ List.prefix_append _ _), replies, List.filterMap_append]
      rcases answers.mappings with ⟨silent, same⟩ | ⟨change, announced, applied⟩
      · rw [List.filterMap_cons_none silent, List.filterMap_nil, List.append_nil, same]
        exact follows
      · rw [List.filterMap_cons_some announced, List.filterMap_nil, applied]
        apply follows.append
        rw [← applied]
        exact mappings_oneToOne (inv.exchange.serves (flow_case moved)).inv
  | silent message answer result noReply items replies messages =>
      obtain ⟨server, given, replied, -⟩ := inv.exchange.reached messages settings.socketId
      rw [result] at replied
      exact absurd (Prod.mk.inj replied).2 (noReply given)
  | finished reply item handling items replies messages server =>
      exact follows.handled inv core effect handling replies server

end Steps

section Agreement

variable {settings : Settings} {state after : State}

/-- An acknowledgement that is not handled yet waits for the release it answers. -/
theorem ReleaseInv.releasedItem (inv : ReleaseInv settings state) {reply : Reply}
    (member : reply ∈ state.replies) (type : reply.type = .releaseAck) {ptr : Ptr}
    (inTable : ptr ∈ state.table.l2w) (same : reply.fields = fieldsOf (state.table.heap ptr)) :
    ∃ item ∈ state.items, ∃ release, item.pending = some release ∧ release.ptr = ptr := by
  obtain ⟨item, isItem, fits, names⟩ := (inv.exchange.aligned.and inv.aligned).replied member
  have named : ∀ release, item.pending = some release →
      reply.fields = fieldsOf (state.table.heap release.ptr) → release.ptr = ptr := by
    intro release isPending fields
    have released := inv.inTable (pending_of_item isItem isPending)
    exact inv.fields_inj released inTable (fields.symm.trans same)
  cases item with
  | request buf size =>
      exact absurd type (Fits.notReleased fits)
  | release rel buf size origin =>
      exact ⟨_, isItem, .segment origin, rfl, named _ rfl names.2⟩
  | timeout node => exact ⟨_, isItem, .timeout node, rfl, named _ rfl fits.2⟩

theorem consumed {fresh : Ptr} (moved : StepCase settings state (.receiver fresh) after)
    {reply : Reply} {item : RecvItem} (handling : state.receiver = .handling reply item)
    (running : after.status = .running) : state.replies = reply :: after.replies := by
  have done : ∀ {other : Reply} {otherItem : RecvItem},
      state.receiver = .handling other otherItem → state.replies = reply :: state.toClient := by
    intro other otherItem _
    exact replies_handling handling
  cases moved with
  | receive ptr other rest receiving => rw [handling] at receiving; cases receiving
  | popRecv ptr other otherItem rest popping => rw [handling] at popping; cases popping
  | discard ptr other otherItem handled => exact done handled
  | refuse ptr other otherItem holder handled => exact done handled
  | insert fresh other otherItem buf size handled =>
      refine (done handled).trans (congrArg (reply :: ·) ?_)
      simp only [State.replies, State.inserted]
      split
      · rfl
      · rfl
  | add fresh ident protocol buf size adding => rw [handling] at adding; cases adding
  | forwarded fresh protocol buf size forwarding => rw [handling] at forwarding; cases forwarding
  | timeoutAck ptr other node handled => exact done handled
  | skip ptr other rel buf size origin handled => exact done handled
  | ignore ptr other otherItem handled => exact done handled
  | delete ptr other otherItem node handled => exact done handled
  | stop event status stopped => exact absurd running stopped
  | stopAck => cases running

theorem Follows.mapped (follows : Follows state) (inv : ReleaseInv settings state) {ptr : Ptr}
    (member : ptr ∈ state.table.l2w) :
    state.server.Mapped (fieldsOf (state.table.heap ptr)) ∨
      ∃ item ∈ state.items, ∃ release, item.pending = some release ∧ release.ptr = ptr := by
  rcases follows.mem_leader ⟨ptr, member, rfl⟩ with mapped | dropped
  · exact .inl mapped
  · obtain ⟨reply, isReply, change⟩ := List.mem_filterMap.mp dropped
    rw [changeOf] at change
    cases type : reply.type with
    | requestAck => rw [type] at change; cases change
    | requestDiscard => rw [type] at change; cases change
    | releaseAck =>
        rw [type] at change
        have fields := Change.drop.inj (Option.some.inj change)
        exact .inr (inv.releasedItem isReply type member fields)

theorem Follows.known (follows : Follows state) {fields : Fields}
    (mapped : state.server.Mapped fields) :
    (∃ ptr ∈ state.table.l2w, fieldsOf (state.table.heap ptr) = fields) ∨
      ∃ reply ∈ state.replies, reply.type = .requestAck ∧ reply.fields = fields := by
  rcases follows.mem_follower mapped with held | added
  · exact .inl held
  · obtain ⟨reply, isReply, change⟩ := List.mem_filterMap.mp added
    rw [changeOf] at change
    cases type : reply.type with
    | requestAck =>
        rw [type] at change
        exact .inr ⟨reply, isReply, type, Change.add.inj (Option.some.inj change)⟩
    | requestDiscard => rw [type] at change; cases change
    | releaseAck => rw [type] at change; cases change

end Agreement

/-- A segment that the tracker does not understand asks for a release; the server
drops the mapping, and the receiver skips the deletion because the segment is
still not understood. -/
def strayAck : List Event :=
  opening ++ [.packet .lan (segment client peer 0x10), .divert, .divert, .sender] ++ roundTrip ++
    [.receiver 0]

end System
end NatPorte
