/-
What one step of the system can do.

`step_case` names every outcome of every thread with the state it leaves, so that
the invariants of the later modules never look into the threads again.
-/

import NatPorte.System

namespace NatPorte
namespace System

open TcpState Structure Packet Checksum Alias Tracking Lookup PoolServer Entry StepSystem

def State.aliased (state : State) (outcome : Outcome) : State :=
  { state with table := outcome.table, bucket := outcome.bucket }

/-- What an alias function answers when nobody comes between its two halves. -/
def State.outcome (settings : Settings) (state : State) (side : Side) (packet : Datagram) : Outcome :=
  aliasPacket settings.nat state.now state.table state.bucket side packet.buf packet.size

/-- The verdicts that make the divert thread push a release. -/
def AsksRelease (settings : Settings) (verdict : Verdict) : Prop :=
  verdict = .resetTable ∨ verdict = .delTable ∧ settings.nat.build.waitTimeDelete = false

/-- The table in which `deleteMapping` looks for the mapping. -/
def releasedOutcome (settings : Settings) (state : State) : RecvItem → Outcome
  | .release rel buf size _ =>
      aliasPacket settings.nat state.now state.table state.bucket rel buf size
  | _ => { verdict := .doalias, table := state.table, bucket := state.bucket, buf := [] }

/-- The packet that an item keeps. -/
def RecvItem.packet : RecvItem → Option (Buffer × Nat)
  | .request buf size => some (buf, size)
  | .release _ buf size _ => some (buf, size)
  | .timeout _ => none

def State.inserted (state : State) (fresh : Ptr) (fields : Fields) (buf : Buffer) (size : Nat) :
    State :=
  let node := parsedNode state.now fields
  { state with
    table := (sInsert (state.table.store fresh node) fresh).1
    live := fresh :: state.live
    releases := state.releases.filter fun ptr => ptr ≠ fresh
    frees := state.frees.filter fun ptr => ptr ≠ fresh
    receiver :=
      if node.protocol = ipprotoTcp ∨ node.protocol = ipprotoUdp then
        .adding node.l2wKey node.protocol buf size
      else .forwarding node.protocol buf size }

inductive StepCase (settings : Settings) (state : State) : Event → State → Prop
  | clock (now : Int) : StepCase settings state (.clock now) { state with now := now }
  | scribble (ptr : Ptr) (node : Node) (dead : ptr ∉ state.live) :
      StepCase settings state (.scribble ptr node) { state with table := state.table.store ptr node }
  | missed (side : Side) (packet : Datagram) (reading : state.divert = .reading)
      (nothing : (state.outcome settings side packet).table = state.table) :
      StepCase settings state (.packet side packet)
        { state.aliased (state.outcome settings side packet) with divert := .reading }
  | requested (packet : Datagram) (reading : state.divert = .reading)
      (nothing : (state.outcome settings .lan packet).table = state.table)
      (verdict : (state.outcome settings .lan packet).verdict = .noTable) :
      StepCase settings state (.packet .lan packet)
        { state.aliased (state.outcome settings .lan packet) with
          divert := .requesting (state.outcome settings .lan packet).buf packet.size }
  | found (side : Side) (packet : Datagram) (ptr : Ptr) (reading : state.divert = .reading)
      (found : resolved settings.nat state.table side packet.buf packet.size = some ptr) :
      StepCase settings state (.packet side packet)
        { state with divert := .found side packet ptr }
  | hairpin (side : Side) (packet : Datagram) (ptr : Ptr) (reading : state.divert = .reading)
      (found : hairpinEntry settings.nat state.table side packet.buf packet.size = some ptr) :
      StepCase settings state (.packet side packet)
        { state with divert := .hairpin packet ptr }
  | translated (side : Side) (packet : Datagram) (ptr : Ptr)
      (found : state.divert = .found side packet ptr)
      (kept : ¬AsksRelease settings (state.used settings side packet ptr).verdict) :
      StepCase settings state .divert
        { state.aliased (state.used settings side packet ptr) with divert := .reading }
  | released (side : Side) (packet : Datagram) (ptr : Ptr)
      (found : state.divert = .found side packet ptr)
      (asks : AsksRelease settings (state.used settings side packet ptr).verdict) :
      StepCase settings state .divert
        { state.aliased (state.used settings side packet ptr) with
          divert := .releasing (state.used settings side packet ptr).buf packet.size
            { side := side, ptr := ptr } }
  | closed (side : Side) (packet : Datagram) (ptr : Ptr)
      (found : state.divert = .found side packet ptr)
      (verdict : (state.used settings side packet ptr).verdict = .delTable)
      (wait : settings.nat.build.waitTimeDelete = true) :
      StepCase settings state .divert
        { state.aliased (state.used settings side packet ptr) with
          divert := .closing side (state.used settings side packet ptr).buf packet.size }
  | turned (packet : Datagram) (ptr source : Ptr) (hairpin : state.divert = .hairpin packet ptr)
      (found : lookup (attach state.table state.now ptr) .lan packet.buf = some source) :
      StepCase settings state .divert
        { state with
          table := attach state.table state.now ptr
          divert :=
            .turned packet (toLan settings.nat state.table ptr packet.buf packet.size) source }
  | turnedAway (packet : Datagram) (ptr : Ptr) (hairpin : state.divert = .hairpin packet ptr)
      (nothing : lookup (attach state.table state.now ptr) .lan packet.buf = none) :
      StepCase settings state .divert
        { state with
          table := attach state.table state.now ptr
          divert :=
            .requesting (toLan settings.nat state.table ptr packet.buf packet.size) packet.size }
  | returned (packet : Datagram) (buf : Buffer) (ptr : Ptr)
      (turned : state.divert = .turned packet buf ptr) :
      StepCase settings state .divert
        { state with table := attach state.table state.now ptr, divert := .reading }
  | dropRequest (buf : Buffer) (size : Nat) (requesting : state.divert = .requesting buf size) :
      StepCase settings state .divert { state with divert := .reading }
  | pushRequest (buf : Buffer) (size : Nat) (requesting : state.divert = .requesting buf size) :
      StepCase settings state .divert
        { state with divert := .reading, hSend := state.hSend ++ [.sendReq buf size] }
  | pushRelease (buf : Buffer) (size : Nat) (origin : Origin)
      (releasing : state.divert = .releasing buf size origin) :
      StepCase settings state .divert
        { state with
          divert := .reading
          hSend := state.hSend ++ [.sendRel buf size origin]
          releases := origin.ptr :: state.releases }
  | closeNothing (side : Side) (buf : Buffer) (size : Nat)
      (closing : state.divert = .closing side buf size) :
      StepCase settings state .divert { state with divert := .reading }
  | closeFound (side : Side) (buf : Buffer) (size : Nat) (ptr : Ptr)
      (closing : state.divert = .closing side buf size)
      (found : closingEntry state.table side buf size = some ptr) :
      StepCase settings state .divert { state with divert := .arming side buf size ptr }
  | arm (side : Side) (buf : Buffer) (size : Nat) (ptr : Ptr)
      (arming : state.divert = .arming side buf size ptr) :
      StepCase settings state .divert
        { state with
          table := state.table.store ptr { state.table.heap ptr with timerFlags := .close }
          divert := .suspending side buf size (state.table.l2wKeyOf ptr) }
  | suspend (side : Side) (buf : Buffer) (size : Nat) (ident : BitVec 64)
      (suspending : state.divert = .suspending side buf size ident) :
      StepCase settings state .divert
        { state with
          timers := state.timers.filter fun other => other ≠ ident
          divert := .rearming side buf size ident }
  | rearm (side : Side) (buf : Buffer) (size : Nat) (ident : BitVec 64)
      (rearming : state.divert = .rearming side buf size ident) :
      StepCase settings state .divert
        { state with timers := addTimerEvent state.timers ident, divert := .reading }
  | fetch (ident : BitVec 64) (waiting : state.timer = .waiting)
      (registered : ident ∈ state.timers) :
      StepCase settings state (.kevent ident) { state with timer := .fetched ident }
  | notYet (looking : (∃ ident, state.timer = .fetched ident) ∨
        ∃ ident ptr, state.timer = .found ident ptr) :
      StepCase settings state .timer { state with timer := .waiting }
  | find (ident : BitVec 64) (ptr : Ptr) (fetched : state.timer = .fetched ident)
      (found : timerEntry state.table ident = some ptr) :
      StepCase settings state .timer { state with timer := .found ident ptr }
  | test (ident : BitVec 64) (ptr : Ptr) (found : state.timer = .found ident ptr)
      (idle : expires settings state.now (state.table.heap ptr) = true) :
      StepCase settings state .timer { state with timer := .late ident ptr }
  | expire (ident : BitVec 64) (ptr : Ptr) (late : state.timer = .late ident ptr)
      (registered : ident ∈ state.timers) :
      StepCase settings state .timer
        { state with
          timers := state.timers.filter fun other => other ≠ ident, timer := .expiring ptr }
  | pushTimeout (ptr : Ptr) (expiring : state.timer = .expiring ptr) :
      StepCase settings state .timer
        { state with
          timer := .waiting
          hSend := state.hSend ++ [.timeout ptr]
          releases := ptr :: state.releases }
  | popSend (item : SendItem) (rest : List SendItem) (popping : state.sender = .popping)
      (front : state.hSend = item :: rest) :
      StepCase settings state .sender { state with hSend := rest, sender := .formatting item }
  | unmatched (buf : Buffer) (size : Nat) (origin : Origin)
      (formatting : state.sender = .formatting (.sendRel buf size origin))
      (nothing : releaseEntry state.table .lan buf size = none) :
      StepCase settings state .sender { state with sender := .unmatched buf size origin }
  | matched (rel : Side) (buf : Buffer) (size : Nat) (origin : Origin) (ptr : Ptr)
      (looking : rel = .lan ∧ state.sender = .formatting (.sendRel buf size origin) ∨
        rel = .wan ∧ state.sender = .unmatched buf size origin)
      (found : releaseEntry state.table rel buf size = some ptr) :
      StepCase settings state .sender { state with sender := .matched rel buf size origin ptr }
  | formatted (kept : RecvItem) (message : Message)
      (made : format state.table state.sender = some (kept, message)) :
      StepCase settings state .sender { state with sender := .pushing kept message }
  | pushRecv (item : RecvItem) (message : Message) (pushing : state.sender = .pushing item message) :
      StepCase settings state .sender
        { state with hRecv := state.hRecv ++ [item], sender := .sending item message }
  | send (item : RecvItem) (message : Message) (sending : state.sender = .sending item message) :
      StepCase settings state .sender
        { state with
          toServer := state.toServer ++ [message]
          sender := .popping
          sent := state.sent ++ [item] }
  | answer (message : Message) (rest : List Message) (server : Server) (reply : Reply)
      (front : state.toServer = message :: rest)
      (answered : state.server.mkMessage settings.socketId message = (server, .reply reply)) :
      StepCase settings state .server
        { state with
          toServer := rest, server := server, toClient := state.toClient ++ [reply] }
  | silent (message : Message) (rest : List Message) (server : Server) (answer : Answer)
      (front : state.toServer = message :: rest)
      (answered : state.server.mkMessage settings.socketId message = (server, answer))
      (noReply : ∀ reply, answer ≠ .reply reply) :
      StepCase settings state .server { state with toServer := rest, server := server }
  | receive (ptr : Ptr) (reply : Reply) (rest : List Reply)
      (receiving : state.receiver = .receiving) (front : state.toClient = reply :: rest)
      (parsed : parses reply = true) :
      StepCase settings state (.receiver ptr)
        { state with toClient := rest, receiver := .popping reply }
  | popRecv (ptr : Ptr) (reply : Reply) (item : RecvItem) (rest : List RecvItem)
      (popping : state.receiver = .popping reply) (front : state.hRecv = item :: rest) :
      StepCase settings state (.receiver ptr)
        { state with
          hRecv := rest
          receiver := .handling reply item
          popped := state.popped ++ [item] }
  | discard (ptr : Ptr) (reply : Reply) (item : RecvItem)
      (handling : state.receiver = .handling reply item) (type : reply.type = .requestDiscard)
      (isPacket : ∀ node, item ≠ .timeout node) :
      StepCase settings state (.receiver ptr) { state with receiver := .receiving }
  | refuse (fresh : Ptr) (reply : Reply) (item : RecvItem) (holder : Ptr)
      (handling : state.receiver = .handling reply item) (type : reply.type = .requestAck)
      (isPacket : ∀ node, item ≠ .timeout node)
      (unused : fresh ∉ state.live)
      (taken : (sInsert (state.table.store fresh (parsedNode state.now reply.fields)) fresh).2 =
        some holder) :
      StepCase settings state (.receiver fresh)
        { state with
          table :=
            (sInsert (state.table.store fresh (parsedNode state.now reply.fields)) fresh).1
          receiver := .receiving }
  | insert (fresh : Ptr) (reply : Reply) (item : RecvItem) (buf : Buffer) (size : Nat)
      (handling : state.receiver = .handling reply item) (type : reply.type = .requestAck)
      (isPacket : ∀ node, item ≠ .timeout node)
      (unused : fresh ∉ state.live)
      (free : (sInsert (state.table.store fresh (parsedNode state.now reply.fields)) fresh).2 =
        none)
      (waiting : item.packet = some (buf, size)) :
      StepCase settings state (.receiver fresh) (state.inserted fresh reply.fields buf size)
  | add (fresh : Ptr) (ident : BitVec 64) (protocol : BitVec 8) (buf : Buffer) (size : Nat)
      (adding : state.receiver = .adding ident protocol buf size) :
      StepCase settings state (.receiver fresh)
        { state with
          timers := addTimerEvent state.timers ident, receiver := .forwarding protocol buf size }
  | forwarded (fresh : Ptr) (protocol : BitVec 8) (buf : Buffer) (size : Nat)
      (forwarding : state.receiver = .forwarding protocol buf size) :
      StepCase settings state (.receiver fresh)
        { state.aliased (forward settings state.now state.table state.bucket protocol buf size) with
          receiver := .receiving }
  | timeoutAck (ptr : Ptr) (reply : Reply) (node : Ptr)
      (handling : state.receiver = .handling reply (.timeout node))
      (type : reply.type = .releaseAck) :
      StepCase settings state (.receiver ptr)
        (State.free
          { state with table := (sDeleteForPoint state.table node).1, receiver := .receiving }
          node)
  | skip (ptr : Ptr) (reply : Reply) (rel : Side) (buf : Buffer) (size : Nat) (origin : Origin)
      (handling : state.receiver = .handling reply (.release rel buf size origin))
      (type : reply.type = .releaseAck)
      (verdict : (releasedOutcome settings state (.release rel buf size origin)).verdict ≠
        .doalias) :
      StepCase settings state (.receiver ptr)
        { state.aliased (releasedOutcome settings state (.release rel buf size origin)) with
          receiver := .receiving }
  | ignore (ptr : Ptr) (reply : Reply) (item : RecvItem)
      (handling : state.receiver = .handling reply item) (type : reply.type = .releaseAck)
      (isPacket : ∀ node, item ≠ .timeout node)
      (other : (parsedNode state.now reply.fields).protocol ≠ ipprotoTcp ∧
        (parsedNode state.now reply.fields).protocol ≠ ipprotoUdp) :
      StepCase settings state (.receiver ptr)
        { state.aliased (releasedOutcome settings state item) with receiver := .receiving }
  | delete (ptr : Ptr) (reply : Reply) (item : RecvItem) (node : Ptr)
      (handling : state.receiver = .handling reply item) (type : reply.type = .releaseAck)
      (isPacket : ∀ node, item ≠ .timeout node)
      (found : (sDeleteForValue (releasedOutcome settings state item).table
        (parsedNode state.now reply.fields)).2 = some node)
      (registered : (releasedOutcome settings state item).table.l2wKeyOf node ∈ state.timers) :
      StepCase settings state (.receiver ptr)
        (State.free
          { state.aliased (releasedOutcome settings state item) with
            table := (sDeleteForPoint (releasedOutcome settings state item).table node).1
            timers := state.timers.filter fun other =>
              other ≠ (releasedOutcome settings state item).table.l2wKeyOf node
            receiver := .receiving } node)
  | stop (event : Event) (status : Status) (stopped : status ≠ .running) :
      StepCase settings state event { state with status := status }
  | stopAck (ptr : Ptr) (reply : Reply) (item : RecvItem)
      (handling : state.receiver = .handling reply item) :
      StepCase settings state (.receiver ptr)
        (State.exit (state.aliased (releasedOutcome settings state item)))

theorem delTimerEvent_getD (timers : List (BitVec 64)) (ident : BitVec 64) :
    (delTimerEvent timers ident).getD timers = timers.filter fun other => other ≠ ident := by
  rw [delTimerEvent]
  split
  · rfl
  · next absent =>
      refine (List.filter_eq_self.mpr fun other registered => decide_eq_true ?_).symm
      intro same
      exact absent (same ▸ registered)

section Cases

variable {settings : Settings} {state after : State}

private theorem missed_case (side : Side) (packet : Datagram) (reading : state.divert = .reading)
    (nothing : resolved settings.nat state.table side packet.buf packet.size = none)
    (straight : hairpinEntry settings.nat state.table side packet.buf packet.size = none) :
    StepCase settings state (.packet side packet)
      (divertVerdict settings state side packet.size 0 (state.outcome settings side packet)) := by
  obtain ⟨same, quiet⟩ := aliasPacket_missing state.now state.bucket nothing straight
  simp only [divertVerdict]
  split
  · next verdict =>
      cases side with
      | lan => exact .requested packet reading same verdict
      | wan => exact .missed .wan packet reading same
  · next verdict => exact absurd verdict quiet.notReset
  · next verdict => exact absurd verdict quiet.notDel
  · exact .missed side packet reading same

private theorem divertPacket_case (side : Side) (packet : Datagram)
    (reading : state.divert = .reading) :
    StepCase settings state (.packet side packet) (divertPacket settings state side packet) := by
  unfold divertPacket
  split
  · next ptr found => exact .found side packet ptr reading found
  · next nothing =>
      split
      · next ptr found => exact .hairpin side packet ptr reading found
      · next straight => exact missed_case side packet reading nothing straight

private theorem used_case (side : Side) (packet : Datagram) (ptr : Ptr)
    (found : state.divert = .found side packet ptr) :
    StepCase settings state .divert
      (divertVerdict settings state side packet.size ptr (state.used settings side packet ptr)) := by
  have kept : ∀ verdict : Verdict, (state.used settings side packet ptr).verdict = verdict →
      ¬AsksRelease settings verdict →
      ¬AsksRelease settings (state.used settings side packet ptr).verdict := by
    intro verdict same notAsked
    rw [same]
    exact notAsked
  simp only [divertVerdict]
  cases verdict : (state.used settings side packet ptr).verdict with
  | noTable => exact absurd verdict (useEntry_known _ _ ptr)
  | resetTable => exact .released side packet ptr found (.inl verdict)
  | delTable =>
      cases wait : settings.nat.build.waitTimeDelete with
      | true => exact .closed side packet ptr found verdict wait
      | false => exact .released side packet ptr found (.inr ⟨verdict, wait⟩)
  | _ => exact .translated side packet ptr found (kept _ verdict nofun)

private theorem divertStep_case (stepped : divertStep settings state = some after) :
    StepCase settings state .divert after := by
  unfold divertStep at stepped
  split at stepped
  · cases stepped
  · next side packet ptr found =>
      cases stepped
      exact used_case side packet ptr found
  · next packet ptr hairpin =>
      simp only at stepped
      split at stepped
      · next nothing =>
          cases stepped
          exact .turnedAway packet ptr hairpin nothing
      · next source found =>
          cases stepped
          exact .turned packet ptr source hairpin found
  · next packet buf ptr turned =>
      cases stepped
      exact .returned packet buf ptr turned
  · next buf size requesting =>
      split at stepped
      · cases stepped
        exact .pushRequest buf size requesting
      · cases stepped
        exact .dropRequest buf size requesting
  · next buf size origin releasing =>
      split at stepped
      · cases stepped
        exact .pushRelease buf size origin releasing
      · cases stepped
  · next side buf size closing =>
      split at stepped
      · cases stepped
        exact .closeNothing side buf size closing
      · next ptr found =>
          cases stepped
          exact .closeFound side buf size ptr closing found
  · next side buf size ptr arming =>
      cases stepped
      exact .arm side buf size ptr arming
  · next side buf size ident suspending =>
      cases stepped
      rw [delTimerEvent_getD]
      exact .suspend side buf size ident suspending
  · next side buf size ident rearming =>
      cases stepped
      exact .rearm side buf size ident rearming

private theorem timerStep_case (stepped : timerStep settings state = some after) :
    StepCase settings state .timer after := by
  unfold timerStep at stepped
  split at stepped
  · cases stepped
  · next ident fetched =>
      split at stepped
      · cases stepped
        exact .notYet (.inl ⟨ident, fetched⟩)
      · next ptr found =>
          cases stepped
          exact .find ident ptr fetched found
  · next ident ptr found =>
      split at stepped
      · next idle =>
          cases stepped
          exact .test ident ptr found idle
      · cases stepped
        exact .notYet (.inr ⟨ident, ptr, found⟩)
  · next ident ptr late =>
      rw [delTimerEvent] at stepped
      by_cases registered : ident ∈ state.timers
      · rw [if_pos registered] at stepped
        cases stepped
        exact .expire ident ptr late registered
      · rw [if_neg registered] at stepped
        cases stepped
        exact .stop .timer .exited nofun
  · next ptr expiring =>
      split at stepped
      · cases stepped
        exact .pushTimeout ptr expiring
      · cases stepped

private theorem senderStep_case (stepped : senderStep settings state = some after) :
    StepCase settings state .sender after := by
  unfold senderStep at stepped
  split at stepped
  · next popping =>
      split at stepped
      · cases stepped
      · next item rest front =>
          cases stepped
          exact .popSend item rest popping front
  · next buf size origin formatting =>
      split at stepped
      · next ptr found =>
          cases stepped
          exact .matched .lan buf size origin ptr (.inl ⟨rfl, formatting⟩) found
      · next nothing =>
          cases stepped
          exact .unmatched buf size origin formatting nothing
  · next buf size origin unmatched =>
      split at stepped
      · next ptr found =>
          cases stepped
          exact .matched .wan buf size origin ptr (.inr ⟨rfl, unmatched⟩) found
      · cases stepped
        exact .stop .sender .crashed nofun
  · next item message pushing =>
      split at stepped
      · cases stepped
        exact .pushRecv item message pushing
      · cases stepped
  · next item message sending =>
      cases stepped
      exact .send item message sending
  · obtain ⟨⟨kept, message⟩, made, isAfter⟩ := Option.map_eq_some_iff.mp stepped
    cases isAfter
    exact .formatted kept message made

private theorem serverStep_case (stepped : serverStep settings state = some after) :
    StepCase settings state .server after := by
  unfold serverStep at stepped
  split at stepped
  · cases stepped
  · next message rest front =>
      split at stepped
      · next server reply answered =>
          cases stepped
          exact .answer message rest server reply front answered
      · next server answer noReply answered =>
          cases stepped
          exact .silent message rest server answer front answered noReply

private theorem requestAck_case {fresh : Ptr} {reply : Reply} {item : RecvItem} {buf : Buffer}
    {size : Nat} (handling : state.receiver = .handling reply item)
    (type : reply.type = .requestAck) (isPacket : ∀ node, item ≠ .timeout node)
    (unused : fresh ∉ state.live) (waiting : item.packet = some (buf, size)) :
    StepCase settings state (.receiver fresh) (requestAck state fresh reply.fields buf size) := by
  simp only [requestAck]
  split
  · next table holder inserted =>
      have refused := @StepCase.refuse settings _ fresh reply item holder handling type isPacket
        unused (congrArg Prod.snd inserted)
      rw [congrArg Prod.fst inserted] at refused
      exact refused
  · next table inserted =>
      have grown := @StepCase.insert settings _ fresh reply item buf size handling type isPacket
        unused (congrArg Prod.snd inserted) waiting
      simp only [State.inserted] at grown
      rw [congrArg Prod.fst inserted] at grown
      exact grown

private theorem deleteMapping_case {ptr : Ptr} {reply : Reply} {item : RecvItem}
    (handling : state.receiver = .handling reply item) (type : reply.type = .releaseAck)
    (isPacket : ∀ node, item ≠ .timeout node) :
    StepCase settings state (.receiver ptr)
      (deleteMapping (state.aliased (releasedOutcome settings state item)) reply.fields) := by
  simp only [deleteMapping]
  split
  · split
    · exact .stopAck ptr reply item handling
    · next table node deleted =>
        have found := congrArg Prod.snd deleted
        have removed : table =
            (sDeleteForPoint (releasedOutcome settings state item).table node).1 :=
          (congrArg Prod.fst deleted).symm.trans
            (congrArg Prod.fst (sDeleteForValue_some found).2.2)
        rw [delTimerEvent]
        by_cases registered :
            (releasedOutcome settings state item).table.l2wKeyOf node ∈ state.timers
        · subst removed
          rw [if_pos (by exact registered)]
          exact .delete ptr reply item node handling type isPacket found registered
        · subst removed
          rw [if_neg (by exact registered)]
          exact .stopAck ptr reply item handling
  · next other =>
      exact .ignore ptr reply item handling type isPacket (not_or.mp other)

private theorem receiverStep_case {fresh : Ptr}
    (stepped : receiverStep settings state fresh = some after) :
    StepCase settings state (.receiver fresh) after := by
  unfold receiverStep at stepped
  split at stepped
  · next receiving =>
      split at stepped
      · cases stepped
      · next reply rest front =>
          split at stepped
          · next parsed =>
              cases stepped
              exact .receive fresh reply rest receiving front parsed
          · cases stepped
            exact .stop _ .exited nofun
  · next reply popping =>
      split at stepped
      · cases stepped
      · next item rest front =>
          cases stepped
          exact .popRecv fresh reply item rest popping front
  · next reply item handling =>
      unfold handleReply at stepped
      cases type : reply.type with
      | requestAck =>
          rw [type] at stepped
          cases item with
          | request buf size =>
              simp only at stepped
              split at stepped
              · cases stepped
              · next unused =>
                  cases stepped
                  exact requestAck_case handling type nofun unused rfl
          | release rel buf size origin =>
              simp only at stepped
              split at stepped
              · cases stepped
              · next unused =>
                  cases stepped
                  exact requestAck_case handling type nofun unused rfl
          | timeout node =>
              cases stepped
              exact .stop _ .crashed nofun
      | requestDiscard =>
          rw [type] at stepped
          cases item with
          | request buf size =>
              cases stepped
              exact .discard fresh reply _ handling type nofun
          | release rel buf size origin =>
              cases stepped
              exact .discard fresh reply _ handling type nofun
          | timeout node =>
              cases stepped
              exact .stop _ .crashed nofun
      | releaseAck =>
          rw [type] at stepped
          cases stepped
          cases item with
          | request buf size => exact deleteMapping_case handling type nofun
          | release rel buf size origin =>
              simp only [releaseAck]
              split
              · next verdict =>
                  exact .skip fresh reply rel buf size origin handling type verdict
              · exact deleteMapping_case handling type nofun
          | timeout node => exact .timeoutAck fresh reply node handling type
  · next ident protocol buf size adding =>
      cases stepped
      exact .add fresh ident protocol buf size adding
  · next protocol buf size forwarding =>
      cases stepped
      exact .forwarded fresh protocol buf size forwarding

theorem step_case {event : Event} (stepped : step settings state event = some after) :
    StepCase settings state event after := by
  unfold step at stepped
  split at stepped
  · cases event with
    | clock now =>
        cases stepped
        exact .clock now
    | scribble ptr node =>
        simp only [running] at stepped
        split at stepped
        · cases stepped
        · next dead =>
            cases stepped
            exact .scribble ptr node dead
    | packet side packet =>
        simp only [running] at stepped
        split at stepped
        · next reading =>
            cases stepped
            exact divertPacket_case side packet reading
        · cases stepped
    | divert => exact divertStep_case stepped
    | kevent ident =>
        simp only [running, timerFetch] at stepped
        split at stepped
        · next waiting =>
            split at stepped
            · next registered =>
                cases stepped
                exact .fetch ident waiting registered.1
            · cases stepped
        · cases stepped
    | timer => exact timerStep_case stepped
    | sender => exact senderStep_case stepped
    | server => exact serverStep_case stepped
    | receiver fresh => exact receiverStep_case stepped
    | sendto =>
        cases stepped
        exact .stop _ .exited nofun
  · cases stepped

end Cases

end System
end NatPorte
