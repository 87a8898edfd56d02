/-
A process in order keeps running and settles in agreement with its server.

Every way to stop that the threads have (a NULL entry, a timer that is not there, a
number that does not parse, a reply for the wrong item) is excluded by what the other
modules show of orderly runs, so that the pending work of such a run drains into a state
in which the table, the timers and the databases describe the same mappings.
-/

import NatPorte.Agreement
import NatPorte.Progress
import NatPorte.Timers

namespace NatPorte
namespace PoolServer

open ObjectMap Entry

section Ports

variable {startPort endPort maxConnection : Int} {server : Server}

theorem wanPort_range {pool : Pool} (formed : WellFormed pool)
    (stocked : Stocked List.Subperm pool) {entry : Connection}
    (member : entry ∈ pool.connections) :
    pool.startPort ≤ entry.wanPort ∧ entry.wanPort ≤ pool.endPort := by
  have owned : entry.wanPort ∈ portsOf entry.wanIp pool.connections :=
    List.mem_map.mpr ⟨entry, List.mem_filter.mpr ⟨member, decide_eq_true rfl⟩, rfl⟩
  have inStock : entry.wanPort ∈ pool.stock entry.wanIp := List.mem_append_right _ owned
  exact mem_portRange.mp ((stocked entry.wanIp (formed.pooled entry member)).subset inStock)

/-- What a message asks of the database of its protocol, or of both. -/
def Message.call : Message → Call
  | .request _ ipSrc portSrc _ _ => .assignConnection (inetNtoa ipSrc) portSrc
  | .release fields =>
      .releaseConnection (inetNtoa fields.lanIp) fields.lanPort (inetNtoa fields.wanIp)
        fields.wanPort
  | .initializeAddrs wanAddrs => .addPoolAddresses (wanAddrs.map inetNtoa)

theorem mkMessage_both {property : Pool → Prop} (inv : server.Inv) (both : Both property server)
    (socketId : JsString) (message : Message)
    (kept : ∀ pool, DatabaseInv pool → property pool → property (pool.apply message.call)) :
    Both property (server.mkMessage socketId message).1 := by
  cases message with
  | request protocol ipSrc portSrc ipDst portDst =>
      cases found : server.databaseOf protocol with
      | none =>
          simp only [Server.mkMessage, Server.request, found]
          exact both
      | some pool =>
          have later := kept pool (inv.databaseOf found) (both.databaseOf found)
          simp only [Server.mkMessage, Server.request, found]
          rw [Message.call, Pool.apply] at later
          generalize assignConnection pool (inetNtoa ipSrc) portSrc = result at later ⊢
          obtain ⟨newPool, outcome⟩ := result
          cases outcome <;> exact both.withDatabase protocol later
  | release fields =>
      cases found : server.databaseOf fields.protocol with
      | none =>
          simp only [Server.mkMessage, Server.release, found]
          exact both
      | some pool =>
          have later := kept pool (inv.databaseOf found) (both.databaseOf found)
          simp only [Server.mkMessage, Server.release, found]
          rw [Message.call, Pool.apply] at later
          generalize releaseConnection pool (inetNtoa fields.lanIp) fields.lanPort
            (inetNtoa fields.wanIp) fields.wanPort = result at later ⊢
          obtain ⟨newPool, outcome⟩ := result
          cases outcome <;> exact both.withDatabase fields.protocol later
  | initializeAddrs wanAddrs =>
      exact ⟨kept _ inv.tcp both.tcp, kept _ inv.udp both.udp⟩

theorem mkMessage_configured (inv : server.Inv)
    (configured : Both (Configured startPort endPort maxConnection) server) (socketId : JsString)
    (message : Message) :
    Both (Configured startPort endPort maxConnection) (server.mkMessage socketId message).1 :=
  mkMessage_both inv configured socketId message
    fun _ database configured => apply_configured database.formed configured message.call

end Ports

end PoolServer

namespace System

open TcpState Structure Packet Checksum Alias Tracking Lookup PoolServer Entry StepSystem Pipeline
  KeyedSet

def Event.Fails : Event → Prop
  | .sendto => True
  | _ => False

instance : (event : Event) → Decidable event.Fails
  | .sendto => isTrue trivial
  | .clock _ | .scribble _ _ | .packet _ _ | .divert | .kevent _ | .timer | .sender | .server
  | .receiver _ => isFalse id

/-- The ports that the server hands out are ports. -/
structure Settings.InPortRange (settings : Settings) : Prop where
  low : 0 ≤ settings.startPort
  high : settings.endPort < 2 ^ 16

/-- An orderly step, and not a `sendto` that fails for good. -/
def Healthy (settings : Settings) (state : State) (event : Event) : Prop :=
  Orderly settings state event ∧ ¬event.Fails

instance (settings : Settings) (state : State) (event : Event) :
    Decidable (Healthy settings state event) :=
  inferInstanceAs (Decidable (_ ∧ _))

/-- What keeps every thread from stopping. -/
structure RunningInv (settings : Settings) (state : State) : Prop where
  status : state.status = .running
  release : ReleaseInv settings state
  timers : TimerInv state
  follows : Follows state
  configured :
    Both (Configured settings.startPort settings.endPort settings.maxConnection) state.server
  parsed : ∀ reply ∈ state.toClient, parses reply = true

section Replies

variable {settings : Settings} {state after : State} {event : Event}

theorem numbersFit_fieldsOf (node : Node) : numbersFit (fieldsOf node) = true := by
  have protocol := node.protocol.isLt
  have lanIp := (swap32 node.lan.ip).isLt
  have wanIp := (swap32 node.wan.ip).isLt
  have lanPort := (swap16 node.lan.port).isLt
  have wanPort := (swap16 node.wan.port).isLt
  simp only [numbersFit, Bool.and_eq_true, decide_eq_true_eq]
  simp only [fieldsOf]
  omega

theorem RunningInv.answer_parses (inv : RunningInv settings state) (ports : settings.InPortRange)
    {message : Message} {rest : List Message} {server : Server} {reply : Reply}
    (front : state.messages = message :: rest)
    (answered : state.server.mkMessage settings.socketId message = (server, .reply reply)) :
    parses reply = true := by
  obtain ⟨server', reply', answered', answers⟩ :=
    inv.release.exchange.reached front settings.socketId
  rw [answered] at answered'
  cases answered'
  have aligned := inv.release.exchange.aligned.and inv.release.aligned
  rw [front] at aligned
  obtain ⟨item, -, fits, names⟩ := aligned.asked
  cases message with
  | initializeAddrs => exact absurd answers id
  | release fields =>
      have isNode : ∃ node, fields = fieldsOf node := by
        cases item with
        | request => exact absurd fits id
        | release rel buf size origin => exact ⟨_, Message.release.inj names.2⟩
        | timeout ptr => exact ⟨_, fits.1⟩
      obtain ⟨node, rfl⟩ := isNode
      rw [answers.1]
      exact numbersFit_fieldsOf node
  | request protocol ipSrc portSrc ipDst portDst =>
      cases item with
      | release => exact absurd fits id
      | timeout => exact absurd fits id
      | request buf size =>
          obtain ⟨-, source⟩ := fits
          obtain ⟨serves, sameProtocol, sameIp, samePort, outcome⟩ := answers
          rcases outcome with ⟨type, -⟩ | ⟨type, -, mapped⟩
          · rw [parses, type]
          · obtain ⟨words, pool, found, member⟩ := (mapped reply.fields).mpr (.inr rfl)
            have database := serves.inv.databaseOf found
            have configured := mkMessage_configured inv.release.exchange.server inv.configured
              settings.socketId (.request protocol ipSrc portSrc ipDst portDst)
            rw [answered] at configured
            have isPool := configured.databaseOf found
            have range := wanPort_range database.formed database.stocked member
            rw [isPool.start, isPool.stop] at range
            obtain ⟨low, high⟩ := range
            change settings.startPort ≤ reply.fields.wanPort at low
            change reply.fields.wanPort ≤ settings.endPort at high
            have lower := ports.low
            have upper := ports.high
            have wanWord := words.wan
            simp only [sourceOf, Prod.mk.injEq] at source
            obtain ⟨isProtocol, isIp, isPort⟩ := source
            have protocolByte := (ipP buf).isLt
            have lanWord := (swap32 (endpoint buf .source).ip).isLt
            have lanPort := (swap16 (endpoint buf .source).port).isLt
            rw [parses, type]
            simp only [numbersFit, Bool.and_eq_true, decide_eq_true_eq, sameProtocol, sameIp,
              samePort]
            omega

theorem RunningInv.parsed_step (inv : RunningInv settings state) (ports : settings.InPortRange)
    (moved : StepCase settings state event after) :
    ∀ reply ∈ after.toClient, parses reply = true := by
  intro reply member
  cases moved with
  | answer message rest server answer front answered =>
      rcases List.mem_append.mp member with old | new
      · exact inv.parsed reply old
      · rw [List.mem_singleton.mp new]
        have messages : state.messages = message :: (rest ++ state.sender.message.toList) := by
          rw [State.messages, front, List.cons_append]
        exact inv.answer_parses ports messages answered
  | receive ptr received rest receiving front =>
      exact inv.parsed reply (front ▸ List.mem_cons_of_mem received member)
  | _ => exact inv.parsed reply member

theorem RunningInv.configured_step (inv : RunningInv settings state)
    (moved : StepCase settings state event after) :
    Both (Configured settings.startPort settings.endPort settings.maxConnection) after.server := by
  cases moved with
  | answer message rest server answer front answered =>
      have kept := mkMessage_configured inv.release.exchange.server inv.configured
        settings.socketId message
      rw [answered] at kept
      exact kept
  | silent message rest server answer front answered =>
      have kept := mkMessage_configured inv.release.exchange.server inv.configured
        settings.socketId message
      rw [answered] at kept
      exact kept
  | _ => exact inv.configured

end Replies

section Running

variable {settings : Settings} {state after : State} {event : Event}

theorem divertVerdict_status (side : Side) (size : Nat) (ptr : Ptr) (outcome : Outcome) :
    (divertVerdict settings state side size ptr outcome).status = state.status := by
  simp only [divertVerdict]
  split
  · split <;> rfl
  · rfl
  · split <;> rfl
  · rfl

theorem divertPacket_status (side : Side) (packet : Datagram) :
    (divertPacket settings state side packet).status = state.status := by
  simp only [divertPacket]
  split
  · rfl
  split
  · rfl
  · exact divertVerdict_status ..

theorem divertStep_status (stepped : divertStep settings state = some after) :
    after.status = state.status := by
  rw [divertStep] at stepped
  split at stepped
  · cases stepped
  · cases stepped
    exact divertVerdict_status ..
  · simp only at stepped
    split at stepped <;> cases stepped <;> rfl
  · cases stepped
    rfl
  · split at stepped <;> cases stepped <;> rfl
  · split at stepped <;> cases stepped
    rfl
  · split at stepped <;> cases stepped <;> rfl
  all_goals
    cases stepped
    rfl

theorem RunningInv.timer_status (inv : RunningInv settings state)
    (allowed : Orderly settings state .timer) (stepped : timerStep settings state = some after) :
    after.status = .running := by
  have status := inv.status
  rw [timerStep] at stepped
  split at stepped
  · cases stepped
  · split at stepped <;> cases stepped <;> exact status
  · split at stepped <;> cases stepped <;> exact status
  · next ident ptr late =>
      have registered := inv.timers.expires inv.release allowed late
      rw [delTimerEvent, if_pos registered] at stepped
      cases stepped
      exact status
  · split at stepped <;> cases stepped
    exact status

theorem RunningInv.sender_status (inv : RunningInv settings state)
    (stepped : senderStep settings state = some after) : after.status = .running := by
  have status := inv.status
  rw [senderStep] at stepped
  split at stepped
  · split at stepped <;> cases stepped
    exact status
  · split at stepped <;> cases stepped <;> exact status
  · next buf size origin unmatched =>
      have side : Side.wan = origin.side :=
        inv.release.sides .wan origin (by rw [unmatched]; rfl)
      have carries : state.Carries buf size origin :=
        .inl (.inr (.inr (.inr (by rw [unmatched]; rfl))))
      have found := tracked_found (inv.release.packets buf size origin carries)
      rw [← side] at found
      rw [found] at stepped
      cases stepped
      exact status
  · split at stepped <;> cases stepped
    exact status
  · cases stepped
    exact status
  · obtain ⟨made, -, isAfter⟩ := Option.map_eq_some_iff.mp stepped
    rw [← isAfter]
    exact status

theorem serverStep_status (stepped : serverStep settings state = some after) :
    after.status = state.status := by
  rw [serverStep] at stepped
  split at stepped
  · cases stepped
  · split at stepped <;> cases stepped <;> rfl

theorem requestAck_status (fresh : Ptr) (fields : Fields) (buf : Buffer) (size : Nat) :
    (requestAck state fresh fields buf size).status = state.status := by
  simp only [requestAck]
  split <;> rfl

theorem RunningInv.releaseAck_status (inv : RunningInv settings state) {reply : Reply}
    {item : RecvItem} (handling : state.receiver = .handling reply item)
    (type : reply.type = .releaseAck) :
    (releaseAck settings state reply.fields item).status = .running := by
  have status := inv.status
  cases item with
  | timeout ptr => exact status
  | request buf size =>
      exact absurd type (Fits.notReleased (inv.release.exchange.handled handling))
  | release rel buf size origin =>
      obtain ⟨_, _, _, isItem, tracked, isPending, fields⟩ :=
        inv.release.handled handling type (fun node isTimeout => by cases isTimeout)
      cases isItem
      have table := inv.release.exchange.timeouts.table
      have member := (inv.release.segments origin isPending).1
      have registered := inv.timers.releasing inv.release handling isPending
      have remaps := releasedOutcome_same settings state
        (.release origin.side buf size origin)
      have same := mappingOf_parsedNode state.now (table.keyed origin.ptr member)
      have found := sDeleteForValue_of_match (remaps.inv table)
        (parsedNode state.now (fieldsOf (state.table.heap origin.ptr)))
        (remaps.l2w ▸ member)
        ((remaps.l2wKey origin.ptr).trans (congrArg Mapping.l2wKey same).symm)
        ((remaps.w2lKey origin.ptr).trans (congrArg Mapping.w2lKey same).symm)
      have key := remaps.l2wKey origin.ptr
      simp only [releasedOutcome] at found key
      simp only [releaseAck]
      split
      · exact status
      · simp only [deleteMapping, fields]
        split
        · rw [found]
          simp only [sDeleteForPoint, delTimerEvent]
          rw [if_pos (by
            simp only [Table.l2wKeyOf] at key registered ⊢
            rw [key]
            exact registered)]
          exact status
        · exact status

theorem RunningInv.receiver_status (inv : RunningInv settings state) {fresh : Ptr}
    (stepped : receiverStep settings state fresh = some after) : after.status = .running := by
  have status := inv.status
  rw [receiverStep] at stepped
  split at stepped
  · split at stepped
    · cases stepped
    · next reply rest front =>
        have parsed := inv.parsed reply (front ▸ List.mem_cons_self)
        rw [if_pos parsed] at stepped
        cases stepped
        exact status
  · split at stepped <;> cases stepped
    exact status
  · next reply item handling =>
      have fits := inv.release.exchange.handled handling
      cases type : reply.type with
      | requestAck =>
          cases item with
          | request buf size =>
              simp only [handleReply, type] at stepped
              split at stepped <;> cases stepped
              exact (requestAck_status ..).trans status
          | release rel buf size origin =>
              simp only [handleReply, type] at stepped
              split at stepped <;> cases stepped
              exact (requestAck_status ..).trans status
          | timeout ptr =>
              rw [fits.1] at type
              cases type
      | requestDiscard =>
          cases item with
          | request buf size =>
              simp only [handleReply, type] at stepped
              cases stepped
              exact status
          | release rel buf size origin =>
              simp only [handleReply, type] at stepped
              cases stepped
              exact status
          | timeout ptr =>
              rw [fits.1] at type
              cases type
      | releaseAck =>
          simp only [handleReply, type] at stepped
          cases stepped
          exact inv.releaseAck_status handling type
  · cases stepped
    exact status
  · cases stepped
    exact status

theorem RunningInv.status_step (inv : RunningInv settings state)
    (allowed : Healthy settings state event)
    (stepped : System.step settings state event = some after) : after.status = .running := by
  have status := inv.status
  rw [System.step, status] at stepped
  cases event with
  | clock now =>
      cases stepped
      exact status
  | scribble ptr node =>
      simp only [running] at stepped
      split at stepped <;> cases stepped
      exact status
  | packet side packet =>
      simp only [running] at stepped
      split at stepped <;> cases stepped
      exact (divertPacket_status side packet).trans status
  | divert => exact (divertStep_status stepped).trans status
  | kevent ident =>
      simp only [running, timerFetch] at stepped
      split at stepped
      · split at stepped <;> cases stepped
        exact status
      · cases stepped
  | timer => exact inv.timer_status allowed.1 stepped
  | sender => exact inv.sender_status stepped
  | server => exact (serverStep_status stepped).trans status
  | receiver fresh => exact inv.receiver_status stepped
  | sendto => exact absurd trivial allowed.2

theorem RunningInv.step (inv : RunningInv settings state) (ports : settings.InPortRange)
    (stepped : System.step settings state event = some after)
    (allowed : Healthy settings state event) : RunningInv settings after :=
  have moved := step_case stepped
  { status := inv.status_step allowed stepped
    release := inv.release.step moved allowed.1
    timers := inv.timers.step inv.release moved allowed.1.upToDate
    follows := inv.follows.step inv.release moved allowed.1
    configured := inv.configured_step moved
    parsed := inv.parsed_step ports moved }

end Running

/-- The table, the timers and the databases describe the same mappings. -/
structure Settled (state : State) : Prop where
  quiescent : state.Quiescent
  answered : state.popped = state.sent
  agrees : ∀ fields, state.server.Mapped fields ↔
    ∃ ptr ∈ state.table.l2w, fieldsOf (state.table.heap ptr) = fields
  armed : ∀ ptr ∈ state.table.l2w, state.table.l2wKeyOf ptr ∈ state.timers
  owned : ∀ ident ∈ state.timers, ∃ ptr ∈ state.table.l2w, state.table.l2wKeyOf ptr = ident

theorem State.Quiescent.pending {state : State} (quiescent : state.Quiescent) :
    state.pending = 0 := by
  simp [State.pending, State.items, quiescent.divert, quiescent.timer, quiescent.hSend,
    quiescent.sender, quiescent.receiver, quiescent.hRecv, DivertPc.pending, TimerPc.pending,
    SenderPc.pending, ReceiverPc.item]

theorem RunningInv.settled {settings : Settings} {state : State} (inv : RunningInv settings state)
    (quiescent : state.Quiescent) : Settled state := by
  have popped := inv.release.exchange.popped
  rw [quiescent.hRecv, quiescent.sender] at popped
  have follows := inv.follows
  rw [Follows, State.replies, quiescent.receiver, quiescent.toClient] at follows
  have same : state.view = mappings state.server := follows
  have owed : state.owed = [] := by
    rw [State.owed, quiescent.divert, quiescent.receiver]
    rfl
  refine ⟨quiescent, by simpa [SenderPc.unsent] using popped, ?_, ?_, fun ident registered =>
    inv.release.exchange.timeouts.owned ident (armed_of_timer registered)⟩
  · intro fields
    change mappings state.server fields ↔ state.view fields
    rw [same]
  · intro ptr member
    rcases inv.timers.armed ptr member with armed | expired
    · refine (armed_iff.mp armed).resolve_left ?_
      rw [owed]
      exact List.not_mem_nil
    · rw [quiescent.pending] at expired
      exact absurd expired (Multiset.notMem_zero _)

end System
end NatPorte
