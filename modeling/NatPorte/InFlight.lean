/-
Releases and messages in flight.

`State.pending` collects the releases on their way from the thread that decided on
them to the acknowledgement that is handled for them; a step adds one, moves one
along or takes one out.  `State.items`, `State.replies` and `State.messages` are the
three queues of the exchange with the server.
-/

import Mathlib.Algebra.BigOperators.Group.Multiset.Basic
import Mathlib.Tactic.Abel
import NatPorte.Library.Pipeline
import NatPorte.Steps

namespace NatPorte
namespace System

open TcpState Structure Packet Checksum Alias Tracking Lookup PoolServer Entry StepSystem Pipeline

inductive Release where
  | segment (origin : Origin)
  | timeout (ptr : Ptr)
  deriving DecidableEq, Repr

def Release.ptr : Release → Ptr
  | .segment origin => origin.ptr
  | .timeout ptr => ptr

def SendItem.pending : SendItem → Option Release
  | .sendReq _ _ => none
  | .sendRel _ _ origin => some (.segment origin)
  | .timeout ptr => some (.timeout ptr)

def RecvItem.pending : RecvItem → Option Release
  | .request _ _ => none
  | .release _ _ _ origin => some (.segment origin)
  | .timeout ptr => some (.timeout ptr)

def DivertPc.pending : DivertPc → Option Release
  | .releasing _ _ origin => some (.segment origin)
  | _ => none

def TimerPc.pending : TimerPc → Option Release
  | .expiring ptr => some (.timeout ptr)
  | _ => none

/-- An item that is being pushed is not in the ring yet. -/
def SenderPc.pending : SenderPc → Option Release
  | .formatting item => item.pending
  | .unmatched _ _ origin => some (.segment origin)
  | .matched _ _ _ origin _ => some (.segment origin)
  | .pushing item _ => item.pending
  | _ => none

/-- The item and the message that the sender has made and not pushed yet. -/
def SenderPc.made : SenderPc → Option (RecvItem × Message)
  | .pushing item message => some (item, message)
  | _ => none

def ReceiverPc.item : ReceiverPc → Option RecvItem
  | .handling _ item => some item
  | _ => none

def ReceiverPc.reply : ReceiverPc → Option Reply
  | .popping reply => some reply
  | .handling reply _ => some reply
  | _ => none

def SenderPc.message : SenderPc → Option Message
  | .sending _ message => some message
  | _ => none

def State.items (state : State) : List RecvItem := state.receiver.item.toList ++ state.hRecv

def State.replies (state : State) : List Reply := state.receiver.reply.toList ++ state.toClient

def State.messages (state : State) : List Message :=
  state.toServer ++ state.sender.message.toList

def one (release : Option Release) : Multiset Release := release.toList

def State.pending (state : State) : Multiset Release :=
  one state.divert.pending + one state.timer.pending +
    (state.hSend.filterMap SendItem.pending : Multiset Release) + one state.sender.pending +
    (state.items.filterMap RecvItem.pending : Multiset Release)

@[simp] theorem one_none : one none = 0 := rfl
@[simp] theorem one_some (release : Release) : one (some release) = {release} := rfl

theorem coe_filterMap_cons {Item : Type} (release : Item → Option Release) (item : Item)
    (items : List Item) : ((item :: items).filterMap release : Multiset Release) =
      one (release item) + (items.filterMap release : Multiset Release) := by
  cases found : release item with
  | none => rw [List.filterMap_cons_none found, one_none, zero_add]
  | some found' => rw [List.filterMap_cons_some found]; rfl

theorem coe_filterMap_snoc {Item : Type} (release : Item → Option Release) (item : Item)
    (items : List Item) : ((items ++ [item]).filterMap release : Multiset Release) =
      (items.filterMap release : Multiset Release) + one (release item) := by
  rw [List.filterMap_append, ← Multiset.coe_add, coe_filterMap_cons]
  exact congrArg _ (add_zero _)

theorem format_pending {table : Table} {pc : SenderPc} {kept : RecvItem} {message : Message}
    (made : format table pc = some (kept, message)) : kept.pending = pc.pending := by
  cases pc with
  | formatting item =>
      cases item with
      | sendReq buf size =>
          cases made
          rfl
      | sendRel buf size origin => cases made
      | timeout ptr =>
          cases made
          rfl
  | matched rel buf size origin ptr =>
      cases made
      rfl
  | popping => cases made
  | unmatched => cases made
  | pushing => cases made
  | sending => cases made

theorem made_pending {pc : SenderPc} {item : RecvItem} {message : Message}
    (isMade : pc.made = some (item, message)) : pc.pending = item.pending := by
  cases pc with
  | pushing kept other =>
      cases isMade
      rfl
  | popping => cases isMade
  | formatting => cases isMade
  | unmatched => cases isMade
  | matched => cases isMade
  | sending => cases isMade

/-- The ident that `EV_DELETE` is called for next. -/
def DivertPc.suspends : DivertPc → Option (BitVec 64)
  | .suspending _ _ _ ident => some ident
  | _ => none

def DivertPc.owed : DivertPc → List (BitVec 64)
  | .rearming _ _ _ ident => [ident]
  | _ => []

def ReceiverPc.owed : ReceiverPc → List (BitVec 64)
  | .adding ident _ _ _ => [ident]
  | _ => []

/-- The timers that a thread is about to add. -/
def State.owed (state : State) : List (BitVec 64) := state.divert.owed ++ state.receiver.owed

structure KeepsTimers (state after : State) : Prop where
  timers : after.timers = state.timers
  owed : after.owed = state.owed

structure Mapping where
  protocol : BitVec 8
  lan : Endpoint
  wan : Endpoint
  l2wKey : BitVec 64
  w2lKey : BitVec 64

def mappingOf (node : Node) : Mapping :=
  { protocol := node.protocol, lan := node.lan, wan := node.wan
    l2wKey := node.l2wKey, w2lKey := node.w2lKey }

/-- The trees are the same and every node still describes the same mapping. -/
structure Remaps (before after : Table) : Prop where
  l2w : after.l2w = before.l2w
  w2l : after.w2l = before.w2l
  mapping : ∀ ptr, mappingOf (after.heap ptr) = mappingOf (before.heap ptr)

/-- ... and a closed or reset connection is still closed or reset. -/
structure Touches (before after : Table) : Prop where
  remaps : Remaps before after
  settled : ∀ ptr, (before.heap ptr).flags = .closed ∨ (before.heap ptr).flags = .reset →
    (after.heap ptr).flags = (before.heap ptr).flags

/-- How the table side of the system changes. -/
inductive CoreCase (settings : Settings) (state : State) (event : Event) (after : State) : Prop
  | shifted (pending : after.pending = state.pending) (table : after.table = state.table)
      (timers : KeepsTimers state after) (live : after.live = state.live)
      (unread : state.replies <+: after.replies)
  | scribbled (ptr : Ptr) (node : Node) (dead : ptr ∉ state.live)
      (pending : after.pending = state.pending) (table : after.table = state.table.store ptr node)
      (timers : KeepsTimers state after) (live : after.live = state.live)
      (unread : state.replies <+: after.replies)
  | touched (pending : after.pending = state.pending) (table : Touches state.table after.table)
      (timers : KeepsTimers state after) (live : after.live = state.live)
      (unread : state.replies <+: after.replies)
  | released (side : Side) (packet : Datagram) (ptr : Ptr) (isEvent : event = .divert)
      (found : state.divert = .found side packet ptr)
      (asks : AsksRelease settings (state.used settings side packet ptr).verdict)
      (pending : after.pending = {.segment { side := side, ptr := ptr }} + state.pending)
      (table : after.table = (state.used settings side packet ptr).table)
      (timers : KeepsTimers state after) (live : after.live = state.live)
      (unread : state.replies <+: after.replies)
      (divert : after.divert =
        .releasing (state.used settings side packet ptr).buf packet.size { side := side, ptr := ptr })
  | suspended (ident : BitVec 64) (isEvent : event = .divert)
      (suspending : state.divert.suspends = some ident)
      (pending : after.pending = state.pending) (table : after.table = state.table)
      (timers : after.timers = state.timers.filter fun other => other ≠ ident)
      (owed : after.owed = ident :: state.owed) (live : after.live = state.live)
      (unread : state.replies <+: after.replies)
  | restored (ident : BitVec 64) (pending : after.pending = state.pending)
      (table : after.table = state.table)
      (timers : after.timers = addTimerEvent state.timers ident)
      (owed : state.owed.Perm (ident :: after.owed))
      (live : after.live = state.live) (unread : state.replies <+: after.replies)
  | expired (ident : BitVec 64) (ptr : Ptr) (isEvent : event = .timer)
      (late : state.timer = .late ident ptr)
      (registered : ident ∈ state.timers)
      (pending : after.pending = {.timeout ptr} + state.pending)
      (table : after.table = state.table)
      (timers : after.timers = state.timers.filter fun other => other ≠ ident)
      (owed : after.owed = state.owed) (live : after.live = state.live)
      (unread : state.replies <+: after.replies)
      (timer : after.timer = .expiring ptr)
  | discarded (reply : Reply) (item : RecvItem) (handling : state.receiver = .handling reply item)
      (type : reply.type = .requestDiscard)
      (pending : state.pending = one item.pending + after.pending)
      (table : after.table = state.table)
      (timers : KeepsTimers state after) (live : after.live = state.live)
      (replies : state.replies = reply :: after.replies)
  | refused (fresh : Ptr) (reply : Reply) (item : RecvItem) (holder : Ptr)
      (handling : state.receiver = .handling reply item) (type : reply.type = .requestAck)
      (unused : fresh ∉ state.live)
      (taken : (sInsert (state.table.store fresh (parsedNode state.now reply.fields)) fresh).2 =
        some holder)
      (pending : state.pending = one item.pending + after.pending)
      (table : after.table =
        (sInsert (state.table.store fresh (parsedNode state.now reply.fields)) fresh).1)
      (timers : KeepsTimers state after) (live : after.live = state.live)
      (replies : state.replies = reply :: after.replies)
  | inserted (fresh : Ptr) (reply : Reply) (item : RecvItem) (buf : Buffer) (size : Nat)
      (handling : state.receiver = .handling reply item) (type : reply.type = .requestAck)
      (unused : fresh ∉ state.live)
      (free : (sInsert (state.table.store fresh (parsedNode state.now reply.fields)) fresh).2 =
        none)
      (pending : state.pending = one item.pending + after.pending)
      (result : after = state.inserted fresh reply.fields buf size)
      (replies : state.replies = reply :: after.replies)
  | timedOut (reply : Reply) (node : Ptr)
      (handling : state.receiver = .handling reply (.timeout node))
      (pending : state.pending = {.timeout node} + after.pending)
      (table : after.table = (sDeleteForPoint state.table node).1)
      (timers : KeepsTimers state after) (live : after.live = state.live.erase node)
      (replies : state.replies = reply :: after.replies)
  | kept (reply : Reply) (item : RecvItem) (handling : state.receiver = .handling reply item)
      (type : reply.type = .releaseAck) (isPacket : ∀ node, item ≠ .timeout node)
      (reason : (releasedOutcome settings state item).verdict ≠ .doalias ∨
        (parsedNode state.now reply.fields).protocol ≠ ipprotoTcp ∧
          (parsedNode state.now reply.fields).protocol ≠ ipprotoUdp)
      (pending : state.pending = one item.pending + after.pending)
      (table : after.table = (releasedOutcome settings state item).table)
      (timers : KeepsTimers state after) (live : after.live = state.live)
      (replies : state.replies = reply :: after.replies)
  | deleted (reply : Reply) (item : RecvItem) (node : Ptr)
      (handling : state.receiver = .handling reply item) (type : reply.type = .releaseAck)
      (isPacket : ∀ node, item ≠ .timeout node)
      (found : (sDeleteForValue (releasedOutcome settings state item).table
        (parsedNode state.now reply.fields)).2 = some node)
      (registered : (releasedOutcome settings state item).table.l2wKeyOf node ∈ state.timers)
      (pending : state.pending = one item.pending + after.pending)
      (table : after.table = (sDeleteForPoint (releasedOutcome settings state item).table node).1)
      (timers : after.timers = state.timers.filter fun other =>
        other ≠ (releasedOutcome settings state item).table.l2wKeyOf node)
      (owed : after.owed = state.owed)
      (live : after.live = state.live.erase node)
      (replies : state.replies = reply :: after.replies)
  | stopped (reply : Reply) (item : RecvItem) (handling : state.receiver = .handling reply item)
      (pending : after.pending = state.pending)
      (table : after.table = (releasedOutcome settings state item).table)
      (timers : KeepsTimers state after) (live : after.live = state.live)
      (unread : state.replies <+: after.replies)

section Moves

variable {settings : Settings} {state after : State} {event : Event}

theorem pending_handling {reply : Reply} {item : RecvItem}
    (handling : state.receiver = .handling reply item) :
    state.pending = one item.pending + (one state.divert.pending + one state.timer.pending +
      (state.hSend.filterMap SendItem.pending : Multiset Release) + one state.sender.pending +
      (state.hRecv.filterMap RecvItem.pending : Multiset Release)) := by
  simp only [State.pending, State.items, handling, ReceiverPc.item, Option.toList_some,
    List.singleton_append, coe_filterMap_cons]
  abel

theorem replies_handling {reply : Reply} {item : RecvItem}
    (handling : state.receiver = .handling reply item) :
    state.replies = reply :: state.toClient := by
  rw [State.replies, handling]
  rfl

theorem pending_releasing {outcome : Outcome} {buf : Buffer} {size : Nat} {origin : Origin}
    (silent : state.divert.pending = none) :
    State.pending { state.aliased outcome with divert := .releasing buf size origin } =
      {.segment origin} + state.pending := by
  have pushed : (DivertPc.releasing buf size origin).pending = some (.segment origin) := rfl
  simp only [State.pending, State.aliased, State.items, silent, pushed, one_none, one_some]
  abel

theorem pending_expiring {timers : List (BitVec 64)} {ptr : Ptr}
    (silent : state.timer.pending = none) :
    State.pending { state with timers := timers, timer := .expiring ptr } =
      {.timeout ptr} + state.pending := by
  have pushed : (TimerPc.expiring ptr).pending = some (.timeout ptr) := rfl
  simp only [State.pending, State.items, silent, pushed, one_none, one_some]
  abel

theorem Touches.refl (table : Table) : Touches table table :=
  ⟨⟨rfl, rfl, fun _ => rfl⟩, fun _ _ => rfl⟩

theorem Remaps.ofSame {before after : Table} (same : SameMappings before after) :
    Remaps before after := by
  refine ⟨same.l2w, same.w2l, fun ptr => ?_⟩
  rw [mappingOf, mappingOf, same.protocol, same.lan, same.wan, same.l2wKey, same.w2lKey]

theorem Touches.ofTranslates {before after : Table} (translates : Translates before after) :
    Touches before after :=
  ⟨.ofSame translates.same, translates.settled⟩

theorem touches_close (table : Table) (ptr : Ptr) :
    Touches table (table.store ptr { table.heap ptr with timerFlags := .close }) := by
  constructor
  · refine ⟨rfl, rfl, fun other => ?_⟩
    by_cases same : other = ptr
    · subst same
      rw [Table.store_heap_self]
      rfl
    · rw [Table.store_heap_other _ _ _ _ same]
  · intro other settled
    by_cases same : other = ptr
    · subst same
      rw [Table.store_heap_self]
    · rw [Table.store_heap_other _ _ _ _ same]

private theorem divert_moves (next : DivertPc) (table : Table) (bucket : IcmpBucket)
    (pending : state.divert.pending = next.pending) (owed : state.divert.owed = next.owed)
    (touches : Touches state.table table) :
    CoreCase settings state event
      { state with table := table, bucket := bucket, divert := next } := by
  refine .touched ?_ touches ⟨rfl, ?_⟩ rfl (List.prefix_refl _)
  · simp only [State.pending, pending]
    rfl
  · simp only [State.owed, owed]

private theorem timer_moves (next : TimerPc) (pending : state.timer.pending = next.pending) :
    CoreCase settings state event { state with timer := next } := by
  refine .shifted ?_ rfl ⟨rfl, rfl⟩ rfl (List.prefix_refl _)
  simp only [State.pending, pending]
  rfl

private theorem sender_moves (next : SenderPc) (pending : state.sender.pending = next.pending) :
    CoreCase settings state event { state with sender := next } := by
  refine .shifted ?_ rfl ⟨rfl, rfl⟩ rfl (List.prefix_refl _)
  simp only [State.pending, pending]
  rfl

private theorem owed_handling {reply : Reply} {item : RecvItem}
    (handling : state.receiver = .handling reply item)
    (receiver : after.receiver = .receiving) (divert : after.divert = state.divert) :
    after.owed = state.owed := by
  simp only [State.owed, handling, receiver, divert]
  rfl

theorem used_translates (settings : Settings) (state : State) (side : Side) (packet : Datagram)
    (ptr : Ptr) : Translates state.table (state.used settings side packet ptr).table :=
  useEntry_translates settings.nat state.now state.table state.bucket side packet.buf packet.size ptr

theorem forward_translates (settings : Settings) (now : Int) (table : Table) (bucket : IcmpBucket)
    (protocol : BitVec 8) (buf : Buffer) (size : Nat) :
    Translates table (forward settings now table bucket protocol buf size).table := by
  have hairpin := aliasPacket_translates settings.nat now table bucket .wan buf size
  have onward := fun table bucket buf =>
    aliasPacket_translates settings.nat now table bucket .lan buf size
  simp only [forward]
  split
  · split
    · exact hairpin
    · exact hairpin.trans (onward _ _ _)
  · exact onward table bucket buf

theorem core_case (moved : StepCase settings state event after) :
    CoreCase settings state event after := by
  cases moved with
  | clock => exact .shifted rfl rfl ⟨rfl, rfl⟩ rfl (List.prefix_refl _)
  | scribble ptr node dead =>
      exact .scribbled ptr node dead rfl rfl ⟨rfl, rfl⟩ rfl (List.prefix_refl _)
  | missed side packet reading nothing =>
      apply divert_moves .reading _ _ (by rw [reading]) (by rw [reading])
      change Touches state.table (state.outcome settings side packet).table
      rw [nothing]
      exact .refl _
  | requested packet reading nothing =>
      apply divert_moves (.requesting _ _) _ _ (by rw [reading]; rfl) (by rw [reading]; rfl)
      change Touches state.table (state.outcome settings .lan packet).table
      rw [nothing]
      exact .refl _
  | found side packet ptr reading =>
      exact divert_moves (.found _ _ _) _ _ (by rw [reading]; rfl) (by rw [reading]; rfl)
        (.refl _)
  | hairpin side packet ptr reading =>
      exact divert_moves (.hairpin _ _) _ _ (by rw [reading]; rfl) (by rw [reading]; rfl)
        (.refl _)
  | translated side packet ptr found =>
      exact divert_moves .reading _ _ (by rw [found]; rfl) (by rw [found]; rfl)
        (.ofTranslates (used_translates settings state side packet ptr))
  | released side packet ptr found asks =>
      refine .released side packet ptr rfl found asks ?_ rfl ⟨rfl, ?_⟩ rfl (List.prefix_refl _) rfl
      · exact pending_releasing (by rw [found]; rfl)
      · simp only [State.owed, State.aliased, found]
        rfl
  | closed side packet ptr found =>
      exact divert_moves (.closing _ _ _) _ _ (by rw [found]; rfl) (by rw [found]; rfl)
        (.ofTranslates (used_translates settings state side packet ptr))
  | turned packet ptr source hairpin =>
      exact divert_moves (.turned _ _ _) _ _ (by rw [hairpin]; rfl) (by rw [hairpin]; rfl)
        (.ofTranslates (attach_translates state.table state.now ptr))
  | turnedAway packet ptr hairpin =>
      exact divert_moves (.requesting _ _) _ _ (by rw [hairpin]; rfl) (by rw [hairpin]; rfl)
        (.ofTranslates (attach_translates state.table state.now ptr))
  | returned packet buf ptr turned =>
      exact divert_moves .reading _ _ (by rw [turned]; rfl) (by rw [turned]; rfl)
        (.ofTranslates (attach_translates state.table state.now ptr))
  | dropRequest buf size requesting =>
      exact divert_moves .reading _ _ (by rw [requesting]; rfl) (by rw [requesting]; rfl) (.refl _)
  | pushRequest buf size requesting =>
      refine .shifted ?_ rfl ⟨rfl, ?_⟩ rfl (List.prefix_refl _)
      · simp only [State.pending, State.items, requesting, coe_filterMap_snoc, DivertPc.pending,
          SendItem.pending, one_none, add_zero]
      · simp only [State.owed, requesting]
        rfl
  | pushRelease buf size origin releasing =>
      refine .shifted ?_ rfl ⟨rfl, ?_⟩ rfl (List.prefix_refl _)
      · simp only [State.pending, State.items, releasing, coe_filterMap_snoc, DivertPc.pending,
          SendItem.pending, one_none]
        abel
      · simp only [State.owed, releasing]
        rfl
  | closeNothing side buf size closing =>
      exact divert_moves .reading _ _ (by rw [closing]; rfl) (by rw [closing]; rfl) (.refl _)
  | closeFound side buf size ptr closing =>
      exact divert_moves (.arming _ _ _ _) _ _ (by rw [closing]; rfl) (by rw [closing]; rfl)
        (.refl _)
  | arm side buf size ptr arming =>
      exact divert_moves (.suspending _ _ _ _) _ _ (by rw [arming]; rfl) (by rw [arming]; rfl)
        (touches_close state.table ptr)
  | suspend side buf size ident suspending =>
      refine .suspended ident rfl (by rw [suspending]; rfl) ?_ rfl rfl ?_ rfl (List.prefix_refl _)
      · simp only [State.pending, suspending]
        rfl
      · simp only [State.owed, suspending]
        rfl
  | rearm side buf size ident rearming =>
      refine .restored ident ?_ rfl rfl ?_ rfl (List.prefix_refl _)
      · simp only [State.pending, rearming]
        rfl
      · simp only [State.owed, rearming]
        exact .refl _
  | fetch ident waiting => exact timer_moves _ (by rw [waiting]; rfl)
  | notYet looking =>
      refine timer_moves .waiting ?_
      rcases looking with ⟨ident, fetched⟩ | ⟨ident, ptr, found⟩
      · rw [fetched]
        rfl
      · rw [found]
        rfl
  | find ident ptr fetched => exact timer_moves _ (by rw [fetched]; rfl)
  | test ident ptr found => exact timer_moves _ (by rw [found]; rfl)
  | expire ident ptr late registered =>
      exact .expired ident ptr rfl late registered (pending_expiring (by rw [late]; rfl)) rfl rfl
        rfl rfl (List.prefix_refl _) rfl
  | pushTimeout ptr expiring =>
      refine .shifted ?_ rfl ⟨rfl, rfl⟩ rfl (List.prefix_refl _)
      simp only [State.pending, State.items, expiring, coe_filterMap_snoc, TimerPc.pending,
        SendItem.pending, one_none]
      abel
  | popSend item rest popping front =>
      refine .shifted ?_ rfl ⟨rfl, rfl⟩ rfl (List.prefix_refl _)
      simp only [State.pending, State.items, popping, front, coe_filterMap_cons, SenderPc.pending,
        one_none]
      abel
  | unmatched buf size origin formatting => exact sender_moves _ (by rw [formatting]; rfl)
  | matched rel buf size origin ptr looking =>
      refine sender_moves (.matched rel buf size origin ptr) ?_
      rcases looking with ⟨-, formatting⟩ | ⟨-, unmatched⟩
      · rw [formatting]
        rfl
      · rw [unmatched]
        rfl
  | formatted kept message made =>
      exact sender_moves (.pushing kept message) (format_pending made).symm
  | pushRecv item message pushing =>
      refine .shifted ?_ rfl ⟨rfl, rfl⟩ rfl (List.prefix_refl _)
      simp only [State.pending, State.items, pushing, SenderPc.pending, one_none,
        ← List.append_assoc, coe_filterMap_snoc]
      abel
  | send item message sending =>
      refine .shifted ?_ rfl ⟨rfl, rfl⟩ rfl (List.prefix_refl _)
      simp only [State.pending, State.items, sending, SenderPc.pending]
  | answer message rest server reply =>
      exact .shifted rfl rfl ⟨rfl, rfl⟩ rfl ⟨[reply], List.append_assoc ..⟩
  | silent => exact .shifted rfl rfl ⟨rfl, rfl⟩ rfl (List.prefix_refl _)
  | receive ptr reply rest receiving front =>
      refine .shifted ?_ rfl ⟨rfl, ?_⟩ rfl ?_
      · simp only [State.pending, State.items, receiving, ReceiverPc.item]
      · simp only [State.owed, receiving]
        rfl
      · rw [State.replies, receiving, front]
        exact List.prefix_refl _
  | popRecv ptr reply item rest popping front =>
      refine .shifted ?_ rfl ⟨rfl, ?_⟩ rfl ?_
      · simp only [State.pending, State.items, popping, front, ReceiverPc.item, Option.toList_none,
          Option.toList_some, List.nil_append, List.singleton_append]
      · simp only [State.owed, popping]
        rfl
      · rw [State.replies, popping]
        exact List.prefix_refl _
  | discard ptr reply item handling type =>
      exact .discarded reply item handling type (pending_handling handling) rfl
        ⟨rfl, owed_handling handling rfl rfl⟩ rfl (replies_handling handling)
  | refuse fresh reply item holder handling type isPacket unused taken =>
      exact .refused fresh reply item holder handling type unused taken (pending_handling handling)
        rfl ⟨rfl, owed_handling handling rfl rfl⟩ rfl (replies_handling handling)
  | insert fresh reply item buf size handling type isPacket unused free =>
      refine .inserted fresh reply item buf size handling type unused free ?_ rfl ?_
      · rw [pending_handling handling]
        simp only [State.pending, State.items, State.inserted]
        split
        · rfl
        · rfl
      · rw [replies_handling handling]
        simp only [State.replies, State.inserted]
        split
        · rfl
        · rfl
  | add fresh ident protocol buf size adding =>
      refine .restored ident ?_ rfl rfl ?_ rfl ?_
      · simp only [State.pending, State.items, adding]
        rfl
      · simp only [State.owed, adding, ReceiverPc.owed, List.append_nil]
        exact List.perm_append_singleton ident _
      · simp only [State.replies, adding]
        exact List.prefix_refl _
  | forwarded fresh protocol buf size forwarding =>
      refine .touched ?_ (.ofTranslates (forward_translates settings state.now state.table
        state.bucket protocol buf size)) ⟨rfl, ?_⟩ rfl ?_
      · simp only [State.pending, State.items, State.aliased, forwarding]
        rfl
      · simp only [State.owed, State.aliased, forwarding]
        rfl
      · simp only [State.replies, State.aliased, forwarding]
        exact List.prefix_refl _
  | timeoutAck ptr reply node handling =>
      exact .timedOut reply node handling (pending_handling handling) rfl
        ⟨rfl, owed_handling handling rfl rfl⟩ rfl (replies_handling handling)
  | skip ptr reply rel buf size origin handling type verdict =>
      exact .kept reply _ handling type (fun _ => RecvItem.noConfusion) (.inl verdict)
        (pending_handling handling) rfl ⟨rfl, owed_handling handling rfl rfl⟩ rfl
        (replies_handling handling)
  | ignore ptr reply item handling type isPacket other =>
      exact .kept reply item handling type isPacket (.inr other) (pending_handling handling) rfl
        ⟨rfl, owed_handling handling rfl rfl⟩ rfl (replies_handling handling)
  | delete ptr reply item node handling type isPacket found registered =>
      exact .deleted reply item node handling type isPacket found registered
        (pending_handling handling) rfl rfl (owed_handling handling rfl rfl) rfl
        (replies_handling handling)
  | stop => exact .shifted rfl rfl ⟨rfl, rfl⟩ rfl (List.prefix_refl _)
  | stopAck ptr reply item handling =>
      exact .stopped reply item handling rfl rfl ⟨rfl, rfl⟩ rfl (List.prefix_refl _)

end Moves

def DivertPc.item : DivertPc → Option SendItem
  | .requesting buf size => some (.sendReq buf size)
  | .releasing buf size origin => some (.sendRel buf size origin)
  | _ => none

def TimerPc.item : TimerPc → Option SendItem
  | .expiring ptr => some (.timeout ptr)
  | _ => none

def SenderPc.source : SenderPc → Option SendItem
  | .formatting item => some item
  | .unmatched buf size origin => some (.sendRel buf size origin)
  | .matched _ buf size origin _ => some (.sendRel buf size origin)
  | _ => none

/-- The item is going to be pushed, in `h_send`, or about to be formatted. -/
def State.Sends (state : State) (item : SendItem) : Prop :=
  state.divert.item = some item ∨ state.timer.item = some item ∨ item ∈ state.hSend ∨
    state.sender.source = some item

inductive Starts (settings : Settings) (state : State) : Event → SendItem → Prop
  | request (packet : Datagram) (verdict : (state.outcome settings .lan packet).verdict = .noTable) :
      Starts settings state (.packet .lan packet)
        (.sendReq (state.outcome settings .lan packet).buf packet.size)
  | turned (packet : Datagram) (ptr : Ptr) (hairpin : state.divert = .hairpin packet ptr) :
      Starts settings state .divert
        (.sendReq (toLan settings.nat state.table ptr packet.buf packet.size) packet.size)
  | release (side : Side) (packet : Datagram) (ptr : Ptr)
      (found : state.divert = .found side packet ptr)
      (asks : AsksRelease settings (state.used settings side packet ptr).verdict) :
      Starts settings state .divert
        (.sendRel (state.used settings side packet ptr).buf packet.size { side := side, ptr := ptr })
  | timeout (ptr : Ptr) : Starts settings state .timer (.timeout ptr)

section Sends

variable {settings : Settings} {state after : State} {event : Event} {item : SendItem}

theorem sends_step (moved : StepCase settings state event after) (sends : after.Sends item) :
    state.Sends item ∨ Starts settings state event item := by
  have still : (state.timer.item = some item ∨ item ∈ state.hSend ∨
      state.sender.source = some item) → state.Sends item ∨ Starts settings state event item :=
    fun rest => .inl (.inr rest)
  cases moved with
  | requested packet reading nothing verdict =>
      rcases sends with divert | rest
      · cases divert
        exact .inr (.request packet verdict)
      · exact still rest
  | turnedAway packet ptr hairpin =>
      rcases sends with divert | rest
      · cases divert
        exact .inr (.turned packet ptr hairpin)
      · exact still rest
  | released side packet ptr found asks =>
      rcases sends with divert | rest
      · cases divert
        exact .inr (.release side packet ptr found asks)
      · exact still rest
  -- the divert thread goes on without an item
  | missed | found | hairpin | translated | closed | turned | returned | dropRequest | closeNothing
  | closeFound | arm | suspend | rearm =>
      rcases sends with divert | rest
      · cases divert
      · exact still rest
  | pushRequest buf size requesting =>
      rcases sends with divert | timer | queued | source
      · cases divert
      · exact still (.inl timer)
      · rcases List.mem_append.mp queued with old | new
        · exact still (.inr (.inl old))
        · cases List.mem_singleton.mp new
          exact .inl (.inl (by rw [requesting]; rfl))
      · exact still (.inr (.inr source))
  | pushRelease buf size origin releasing =>
      rcases sends with divert | timer | queued | source
      · cases divert
      · exact still (.inl timer)
      · rcases List.mem_append.mp queued with old | new
        · exact still (.inr (.inl old))
        · cases List.mem_singleton.mp new
          exact .inl (.inl (by rw [releasing]; rfl))
      · exact still (.inr (.inr source))
  -- and so does the timer loop
  | fetch | notYet | find | test =>
      rcases sends with divert | timer | rest
      · exact .inl (.inl divert)
      · cases timer
      · exact still (.inr rest)
  | expire ident ptr =>
      rcases sends with divert | timer | rest
      · exact .inl (.inl divert)
      · cases timer
        exact .inr (.timeout ptr)
      · exact still (.inr rest)
  | pushTimeout ptr expiring =>
      rcases sends with divert | timer | queued | source
      · exact .inl (.inl divert)
      · cases timer
      · rcases List.mem_append.mp queued with old | new
        · exact still (.inr (.inl old))
        · cases List.mem_singleton.mp new
          exact still (.inl (by rw [expiring]; rfl))
      · exact still (.inr (.inr source))
  | popSend front rest popping isFront =>
      rcases sends with divert | timer | queued | source
      · exact .inl (.inl divert)
      · exact still (.inl timer)
      · exact still (.inr (.inl (isFront ▸ List.mem_cons_of_mem _ queued)))
      · cases source
        exact still (.inr (.inl (isFront ▸ List.mem_cons_self)))
  | unmatched buf size origin formatting =>
      rcases sends with divert | timer | queued | source
      · exact .inl (.inl divert)
      · exact still (.inl timer)
      · exact still (.inr (.inl queued))
      · cases source
        exact still (.inr (.inr (by rw [formatting]; rfl)))
  | matched rel buf size origin ptr looking =>
      rcases sends with divert | timer | queued | source
      · exact .inl (.inl divert)
      · exact still (.inl timer)
      · exact still (.inr (.inl queued))
      · cases source
        refine still (.inr (.inr ?_))
        rcases looking with ⟨-, formatting⟩ | ⟨-, unmatched⟩
        · rw [formatting]
          rfl
        · rw [unmatched]
          rfl
  | formatted | pushRecv | send =>
      rcases sends with divert | timer | queued | source
      · exact .inl (.inl divert)
      · exact still (.inl timer)
      · exact still (.inr (.inl queued))
      · cases source
  | _ => exact .inl sends

end Sends

/-! ### How a step moves the exchange with the server -/

inductive FlowCase (settings : Settings) (state : State) (after : State) : Prop
  | same (items : after.items = state.items) (replies : after.replies = state.replies)
      (messages : after.messages = state.messages) (server : after.server = state.server)
      (made : after.sender.made = none ∨ after.sender = state.sender)
  | formatted (kept : RecvItem) (message : Message)
      (result : format state.table state.sender = some (kept, message))
      (items : after.items = state.items) (replies : after.replies = state.replies)
      (messages : after.messages = state.messages) (server : after.server = state.server)
      (made : after.sender.made = some (kept, message))
  | pushed (item : RecvItem) (message : Message) (pushing : state.sender = .pushing item message)
      (items : after.items = state.items ++ [item]) (replies : after.replies = state.replies)
      (messages : after.messages = state.messages ++ [message])
      (server : after.server = state.server) (made : after.sender.made = none)
  | answered (message : Message) (reply : Reply)
      (answer : state.server.mkMessage settings.socketId message = (after.server, .reply reply))
      (items : after.items = state.items) (replies : after.replies = state.replies ++ [reply])
      (messages : state.messages = message :: after.messages) (sender : after.sender = state.sender)
  | silent (message : Message) (answer : Answer)
      (answered : state.server.mkMessage settings.socketId message = (after.server, answer))
      (noReply : ∀ reply, answer ≠ .reply reply)
      (items : after.items = state.items) (replies : after.replies = state.replies)
      (messages : state.messages = message :: after.messages) (sender : after.sender = state.sender)
  | finished (reply : Reply) (item : RecvItem) (handling : state.receiver = .handling reply item)
      (items : state.items = item :: after.items) (replies : state.replies = reply :: after.replies)
      (messages : after.messages = state.messages) (server : after.server = state.server)
      (sender : after.sender = state.sender)

section Flow

variable {settings : Settings} {state after : State} {event : Event}

private theorem finished_case {reply : Reply} {item : RecvItem}
    (handling : state.receiver = .handling reply item)
    (noItem : after.receiver.item = none) (noReply : after.receiver.reply = none)
    (hRecv : after.hRecv = state.hRecv)
    (toClient : after.toClient = state.toClient) (toServer : after.toServer = state.toServer)
    (sender : after.sender = state.sender) (server : after.server = state.server) :
    FlowCase settings state after := by
  refine .finished reply item handling ?_ ?_ ?_ server sender
  · simp only [State.items, handling, noItem, hRecv]
    rfl
  · simp only [State.replies, handling, noReply, toClient]
    rfl
  · simp only [State.messages, toServer, sender]

private theorem sender_steps (next : SenderPc) (silent : state.sender.message = none)
    (still : next.message = none) (made : next.made = none) :
    FlowCase settings state { state with sender := next } := by
  refine .same rfl rfl ?_ rfl (.inl made)
  simp only [State.messages, silent, still]

theorem format_message {table : Table} {pc : SenderPc} {kept : RecvItem} {message : Message}
    (made : format table pc = some (kept, message)) : pc.message = none := by
  cases pc with
  | sending => cases made
  | _ => rfl

theorem flow_case (moved : StepCase settings state event after) :
    FlowCase settings state after := by
  cases moved with
  | clock => exact .same rfl rfl rfl rfl (.inr rfl)
  | scribble => exact .same rfl rfl rfl rfl (.inr rfl)
  | missed | requested | found | hairpin | translated | released | closed | turned | turnedAway
  | returned | dropRequest | pushRequest | pushRelease | closeNothing | closeFound | arm | suspend
  | rearm => exact .same rfl rfl rfl rfl (.inr rfl)
  | fetch | notYet | find | test | expire | pushTimeout => exact .same rfl rfl rfl rfl (.inr rfl)
  | popSend item rest popping =>
      refine .same rfl rfl ?_ rfl (.inl rfl)
      simp only [State.messages, popping]
      rfl
  | unmatched buf size origin formatting =>
      exact sender_steps _ (by rw [formatting]; rfl) rfl rfl
  | matched rel buf size origin ptr looking =>
      refine sender_steps (.matched rel buf size origin ptr) ?_ rfl rfl
      rcases looking with ⟨-, formatting⟩ | ⟨-, unmatched⟩
      · rw [formatting]
        rfl
      · rw [unmatched]
        rfl
  | formatted kept message made =>
      refine .formatted kept message made rfl rfl ?_ rfl rfl
      simp only [State.messages, format_message made]
      rfl
  | pushRecv item message pushing =>
      refine .pushed item message pushing (List.append_assoc ..).symm rfl ?_ rfl rfl
      simp only [State.messages, pushing, SenderPc.message, Option.toList_none, Option.toList_some,
        List.append_nil]
  | send item message sending =>
      refine .same rfl rfl ?_ rfl (.inl rfl)
      simp only [State.messages, sending, SenderPc.message, Option.toList_none, Option.toList_some,
        List.append_nil]
  | answer message rest server reply front answered =>
      refine .answered message reply answered rfl (List.append_assoc ..).symm ?_ rfl
      simp only [State.messages, front, List.cons_append]
  | silent message rest server answer front answered noReply =>
      refine .silent message answer answered noReply rfl rfl ?_ rfl
      simp only [State.messages, front, List.cons_append]
  | receive ptr reply rest receiving front =>
      refine .same ?_ ?_ rfl rfl (.inr rfl)
      · simp only [State.items, receiving]
        rfl
      · simp only [State.replies, receiving, front]
        rfl
  | popRecv ptr reply item rest popping front =>
      refine .same ?_ ?_ rfl rfl (.inr rfl)
      · simp only [State.items, popping, front]
        rfl
      · simp only [State.replies, popping]
        rfl
  | discard ptr reply item handling => exact finished_case handling rfl rfl rfl rfl rfl rfl rfl
  | refuse fresh reply item holder handling =>
      exact finished_case handling rfl rfl rfl rfl rfl rfl rfl
  | insert fresh reply item buf size handling =>
      refine finished_case handling ?_ ?_ rfl rfl rfl rfl rfl
      · simp only [State.inserted]
        split <;> rfl
      · simp only [State.inserted]
        split <;> rfl
  | add fresh ident protocol buf size adding =>
      refine .same ?_ ?_ rfl rfl (.inr rfl)
      · simp only [State.items, adding]
        rfl
      · simp only [State.replies, adding]
        rfl
  | forwarded fresh protocol buf size forwarding =>
      refine .same ?_ ?_ rfl rfl (.inr rfl)
      · simp only [State.items, State.aliased, forwarding]
        rfl
      · simp only [State.replies, State.aliased, forwarding]
        rfl
  | timeoutAck ptr reply node handling => exact finished_case handling rfl rfl rfl rfl rfl rfl rfl
  | skip ptr reply rel buf size origin handling =>
      exact finished_case handling rfl rfl rfl rfl rfl rfl rfl
  | ignore ptr reply item handling => exact finished_case handling rfl rfl rfl rfl rfl rfl rfl
  | delete ptr reply item node handling => exact finished_case handling rfl rfl rfl rfl rfl rfl rfl
  | stop => exact .same rfl rfl rfl rfl (.inr rfl)
  | stopAck => exact .same rfl rfl rfl rfl (.inr rfl)

section Due

variable {Fits Fits' : RecvItem → Due Message Reply → Prop}

/-- A relation between the items and what they are due survives a step if it
survives every part of it. -/
theorem aligned_flow (flow : FlowCase settings state after)
    (aligned : Aligned Fits state.items state.replies state.messages)
    (kept : ∀ item ∈ state.items, ∀ answer, Fits item answer → Fits' item answer)
    (made : ∀ item message, state.sender.made = some (item, message) → Fits' item (.asked message))
    (answers : ∀ message rest answer, state.messages = message :: rest →
      state.server.mkMessage settings.socketId message = (after.server, answer) →
      ∃ reply, answer = .reply reply ∧
        ∀ item, Fits' item (.asked message) → Fits' item (.replied reply)) :
    Aligned Fits' after.items after.replies after.messages := by
  have later := aligned.imp kept
  cases flow with
  | same items replies messages =>
      rw [items, replies, messages]
      exact later
  | formatted kept message result items replies messages =>
      rw [items, replies, messages]
      exact later
  | pushed item message pushing items replies messages =>
      rw [items, replies, messages]
      apply later.send
      apply made item message
      rw [pushing]
      rfl
  | answered message reply answer items replies messages =>
      obtain ⟨given, same, replied⟩ := answers message after.messages _ messages answer
      cases same
      rw [items, replies]
      rw [messages] at later
      exact later.answer reply (fun item _ => replied item)
  | silent message answer result noReply items replies messages =>
      obtain ⟨given, same, -⟩ := answers message after.messages answer messages result
      exact absurd same (noReply given)
  | finished reply item handling items replies messages =>
      rw [items, replies] at later
      rw [messages]
      exact later.front.2

theorem formatting_event {made : RecvItem × Message} (moved : StepCase settings state event after)
    (idle : state.sender.made ≠ some made) (isMade : after.sender.made = some made) :
    event = .sender := by
  cases moved with
  | popSend => rfl
  | unmatched => rfl
  | matched => rfl
  | formatted => rfl
  | pushRecv => rfl
  | send => rfl
  | _ => exact absurd isMade idle

theorem format_made {table : Table} {pc : SenderPc} {kept : RecvItem} {message : Message}
    (made : format table pc = some (kept, message)) : pc.made = none := by
  cases pc with
  | pushing => cases made
  | _ => rfl

theorem made_flow (flow : FlowCase settings state after)
    (made : ∀ item message, state.sender.made = some (item, message) → Fits' item (.asked message))
    (formatted : ∀ kept message, format state.table state.sender = some (kept, message) →
      after.sender.made = some (kept, message) → Fits' kept (.asked message)) :
    ∀ item message, after.sender.made = some (item, message) → Fits' item (.asked message) := by
  intro item message isMade
  have unmoved : after.sender = state.sender → Fits' item (.asked message) := by
    intro sender
    rw [sender] at isMade
    exact made item message isMade
  cases flow with
  | same items replies messages server sender =>
      rcases sender with none | sender
      · rw [none] at isMade
        cases isMade
      · exact unmoved sender
  | formatted kept other result items replies messages server sender =>
      rw [sender] at isMade
      cases isMade
      exact formatted item message result sender
  | pushed kept other pushing items replies messages server none =>
      rw [none] at isMade
      cases isMade
  | answered other reply answer items replies messages sender => exact unmoved sender
  | silent other answer result noReply items replies messages sender => exact unmoved sender
  | finished reply kept handling items replies messages server sender => exact unmoved sender

end Due

end Flow

theorem releasedOutcome_same (settings : Settings) (state : State) (item : RecvItem) :
    SameMappings state.table (releasedOutcome settings state item).table := by
  cases item with
  | request => exact .refl _
  | release rel buf size => exact aliasPacket_same settings.nat state.now state.table _ rel buf size
  | timeout => exact .refl _

theorem withKeys_keyed (node : Node) : (withKeys node).Keyed := ⟨rfl, rfl⟩

theorem parsedNode_keyed (now : Int) (fields : Fields) : (parsedNode now fields).Keyed :=
  withKeys_keyed _

namespace Remaps

variable {before after : Table}

theorem l2wKey (same : Remaps before after) (ptr : Ptr) :
    after.l2wKeyOf ptr = before.l2wKeyOf ptr := congrArg Mapping.l2wKey (same.mapping ptr)

theorem w2lKey (same : Remaps before after) (ptr : Ptr) :
    after.w2lKeyOf ptr = before.w2lKeyOf ptr := congrArg Mapping.w2lKey (same.mapping ptr)

theorem keyed (same : Remaps before after) {ptr : Ptr} (keyed : (before.heap ptr).Keyed) :
    (after.heap ptr).Keyed := by
  have protocol := congrArg Mapping.protocol (same.mapping ptr)
  have lan := congrArg Mapping.lan (same.mapping ptr)
  have wan := congrArg Mapping.wan (same.mapping ptr)
  have l2w := congrArg Mapping.l2wKey (same.mapping ptr)
  have w2l := congrArg Mapping.w2lKey (same.mapping ptr)
  simp only [mappingOf] at protocol lan wan l2w w2l
  rw [Node.Keyed, varLan, varWan, protocol, lan, wan, l2w, w2l]
  exact keyed

theorem inv (same : Remaps before after) (inv : TableInv before) : TableInv after :=
  inv.congr same.l2w same.w2l (fun ptr _ => ⟨same.l2wKey ptr, same.w2lKey ptr⟩)
    (fun ptr member => same.keyed (inv.keyed ptr member))

end Remaps

/-- A mapping that was free on both sides joins the table. -/
structure Grows (before after : Table) (fresh : Ptr) (node : Node) : Prop where
  inv : TableInv after
  l2w : after.l2w = fresh :: before.l2w
  self : mappingOf (after.heap fresh) = mappingOf node
  others : ∀ ptr, ptr ≠ fresh → mappingOf (after.heap ptr) = mappingOf (before.heap ptr)
  freeLan : ∀ ptr ∈ before.l2w, before.l2wKeyOf ptr ≠ node.l2wKey
  freeWan : ∀ ptr ∈ before.l2w, before.w2lKeyOf ptr ≠ node.w2lKey

theorem sInsert_grows {table after : Table} (inv : TableInv table) {fresh : Ptr} {node : Node}
    (outside : fresh ∉ table.l2w) (keyed : node.Keyed)
    (free : (sInsert (table.store fresh node) fresh).2 = none)
    (same : SameMappings (sInsert (table.store fresh node) fresh).1 after) :
    Grows table after fresh node := by
  have stored := inv.store_fresh node outside
  have self : (table.store fresh node).heap fresh = node := Table.store_heap_self ..
  have other : ∀ ptr, ptr ≠ fresh → (table.store fresh node).heap ptr = table.heap ptr :=
    fun ptr different => Table.store_heap_other _ _ _ _ different
  have grown := sInsert_inv stored outside (by rw [self]; exact keyed)
  rcases sInsert_cases stored fresh with ⟨_, _, _, result⟩ | ⟨_, _, _, result⟩ |
    ⟨freeL2w, freeW2l, result⟩
  · rw [result] at free
    cases free
  · rw [result] at free
    cases free
  rw [result] at same grown
  have remaps := Remaps.ofSame same
  refine ⟨same.inv grown, remaps.l2w, ?_, ?_, ?_, ?_⟩
  · rw [remaps.mapping]
    exact congrArg mappingOf self
  · intro ptr different
    rw [remaps.mapping]
    exact congrArg mappingOf (other ptr different)
  · intro ptr member taken
    have different : ptr ≠ fresh := fun same => outside (same ▸ member)
    refine KeyedSet.find_eq_none.mp freeL2w ptr member ?_
    rw [Table.l2wKeyOf, Table.l2wKeyOf, other ptr different, self]
    exact taken
  · intro ptr member taken
    have different : ptr ≠ fresh := fun same => outside (same ▸ member)
    refine KeyedSet.find_eq_none.mp freeW2l ptr ((inv.sameNodes ptr).mp member) ?_
    rw [Table.w2lKeyOf, Table.w2lKeyOf, other ptr different, self]
    exact taken

theorem inserted_grows {state : State} (inv : TableInv state.table)
    {fresh : Ptr} (outside : fresh ∉ state.table.l2w) (fields : Fields) (buf : Buffer) (size : Nat)
    (free : (sInsert (state.table.store fresh (parsedNode state.now fields)) fresh).2 = none) :
    Grows state.table (state.inserted fresh fields buf size).table fresh
      (parsedNode state.now fields) :=
  sInsert_grows inv outside (parsedNode_keyed state.now fields) free (.refl _)

theorem mapping_kept {settings : Settings} {state after : State} {event : Event}
    (inv : TableInv state.table) (live : ∀ ptr ∈ state.table.l2w, ptr ∈ state.live)
    (moved : CoreCase settings state event after) {ptr : Ptr} (isLive : ptr ∈ state.live) :
    mappingOf (after.table.heap ptr) = mappingOf (state.table.heap ptr) := by
  cases moved with
  | shifted pending table => rw [table]
  | scribbled other node dead pending table =>
      have different : ptr ≠ other := fun same => dead (same ▸ isLive)
      rw [table, Table.store_heap_other _ _ _ _ different]
  | touched pending table => exact table.remaps.mapping ptr
  | released side packet node isEvent found asks pending table =>
      rw [table]
      exact (Remaps.ofSame (used_translates settings state side packet node).same).mapping ptr
  | suspended ident isEvent suspending pending table => rw [table]
  | restored ident pending table => rw [table]
  | expired ident node isEvent late registered pending table => rw [table]
  | discarded reply item handling type pending table => rw [table]
  | refused fresh reply item holder handling type unused taken pending table =>
      have different : ptr ≠ fresh := fun same => unused (same ▸ isLive)
      rw [table, sInsert_heap, Table.store_heap_other _ _ _ _ different]
  | inserted fresh reply item buf size handling type unused free pending result =>
      have outside : fresh ∉ state.table.l2w := fun member => unused (live fresh member)
      rw [result]
      exact (inserted_grows inv outside reply.fields buf size free).others ptr
        (fun same => unused (same ▸ isLive))
  | timedOut reply node handling pending table => rw [table]; rfl
  | kept reply item handling type isPacket reason pending table =>
      rw [table]
      exact (Remaps.ofSame (releasedOutcome_same settings state item)).mapping ptr
  | deleted reply item node handling type isPacket found registered pending table =>
      rw [table]
      exact (Remaps.ofSame (releasedOutcome_same settings state item)).mapping ptr
  | stopped reply item handling pending table =>
      rw [table]
      exact (Remaps.ofSame (releasedOutcome_same settings state item)).mapping ptr

theorem mkNode_ends {buf : Buffer} {size : Nat} (long : 20 < size)
    (transport : ipP buf = ipprotoTcp ∨ ipP buf = ipprotoUdp) :
    (mkNode buf size).protocol = ipP buf ∧ (mkNode buf size).lan = endpoint buf .source ∧
      (mkNode buf size).wan = endpoint buf .destination := by
  simp only [mkNode, if_neg (Nat.not_le_of_lt long), if_pos transport, and_self]

theorem mkNode_packet {buf : Buffer} {size : Nat} (packet : TransportPacket buf size) :
    (mkNode buf size).protocol = ipP buf ∧ (mkNode buf size).lan = endpoint buf .source ∧
      (mkNode buf size).wan = endpoint buf .destination := by
  have header : 20 ≤ headerLength buf := Nat.mul_le_mul_right 4 packet.header
  apply mkNode_ends
  · rcases packet.transport with ⟨-, fits⟩ | ⟨-, fits⟩ <;> omega
  · exact packet.transport.imp And.left And.left

theorem fieldsOf_congr {left right : Node} (same : mappingOf left = mappingOf right) :
    fieldsOf left = fieldsOf right := by
  obtain ⟨protocol, lan, wan, -, -⟩ := Mapping.mk.inj same
  rw [fieldsOf, fieldsOf, protocol, lan, wan]

theorem fieldsOf_words (node : Node) : (fieldsOf node).Words :=
  ⟨(swap32 node.lan.ip).isLt, (swap32 node.wan.ip).isLt⟩

theorem mappingOf_parsedNode (now : Int) {node : Node} (keyed : node.Keyed) :
    mappingOf (parsedNode now (fieldsOf node)) = mappingOf node := by
  have port : ∀ port : BitVec 16, BitVec.ofInt 16 ((swap16 port).toNat : Int) = swap16 port := by
    intro port
    rw [BitVec.ofInt_natCast, BitVec.ofNat_toNat, BitVec.setWidth_eq]
  have protocol : (parsedNode now (fieldsOf node)).protocol = node.protocol := by
    simp only [parsedNode, withKeys, fieldsOf, BitVec.ofNat_toNat, BitVec.setWidth_eq]
  have lan : (parsedNode now (fieldsOf node)).lan = node.lan := by
    simp only [parsedNode, withKeys, fieldsOf, port, swap16_swap16, BitVec.ofNat_toNat,
      BitVec.setWidth_eq, swap32_swap32]
  have wan : (parsedNode now (fieldsOf node)).wan = node.wan := by
    simp only [parsedNode, withKeys, fieldsOf, port, swap16_swap16, BitVec.ofNat_toNat,
      BitVec.setWidth_eq, swap32_swap32]
  obtain ⟨l2wKey, w2lKey⟩ := parsedNode_keyed now (fieldsOf node)
  rw [mappingOf, mappingOf, l2wKey, w2lKey, varLan, varWan, protocol, lan, wan, keyed.1, keyed.2]
  rfl

theorem fieldsOf_parsedNode (now : Int) {fields : Fields} (fit : numbersFit fields = true)
    (byte : fields.protocol < 2 ^ 8) : fieldsOf (parsedNode now fields) = fields := by
  simp only [numbersFit, Bool.and_eq_true, decide_eq_true_eq] at fit
  obtain ⟨⟨⟨⟨-, lanIp⟩, wanIp⟩, lanLow, lanHigh⟩, wanLow, wanHigh⟩ := fit
  have port : ∀ port : Int, 0 ≤ port → port < 2 ^ 16 →
      ((BitVec.ofInt 16 port).toNat : Int) = port := by
    intro port low high
    rw [BitVec.toNat_ofInt]
    omega
  simp only [parsedNode, withKeys, fieldsOf, swap16_swap16, swap32_swap32]
  rw [port _ lanLow lanHigh, port _ wanLow wanHigh, BitVec.toNat_ofNat, BitVec.toNat_ofNat,
    BitVec.toNat_ofNat, Nat.mod_eq_of_lt byte, Nat.mod_eq_of_lt lanIp, Nat.mod_eq_of_lt wanIp]

end System
end NatPorte
