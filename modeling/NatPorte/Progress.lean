/-
Whatever is under way comes to an end.

Without new packets, timer events and clock ticks the five threads only hand on what
they have.  Every hand-over brings some item closer to its end, and as long as there is
an item some thread can move, so that after finitely many steps every ring, both
directions of the connection and every thread are empty.
-/

import NatPorte.Pairing

namespace NatPorte
namespace System

open TcpState Structure Packet Checksum Alias Tracking Lookup PoolServer Entry StepSystem Pipeline

/-- A step of one of the five threads on something that it was handed. -/
def Event.Internal : Event → Prop
  | .divert | .timer | .sender | .server | .receiver _ => True
  | _ => False

def DivertPc.work : DivertPc → Nat
  | .reading => 0
  | .found _ _ _ => 14
  | .hairpin _ _ => 14
  | .turned _ _ _ => 1
  | .requesting _ _ => 13
  | .releasing _ _ _ => 13
  | .closing _ _ _ => 4
  | .arming _ _ _ _ => 3
  | .suspending _ _ _ _ => 2
  | .rearming _ _ _ _ => 1

def TimerPc.work : TimerPc → Nat
  | .waiting => 0
  | .fetched _ => 16
  | .found _ _ => 15
  | .late _ _ => 14
  | .expiring _ => 13

def SenderPc.work : SenderPc → Nat
  | .popping => 0
  | .formatting _ => 11
  | .unmatched _ _ _ => 10
  | .matched _ _ _ _ _ => 9
  | .pushing _ _ => 8
  | .sending _ _ => 7

def ReceiverPc.work : ReceiverPc → Nat
  | .receiving => 0
  | .popping _ => 4
  | .handling _ _ => 3
  | .adding _ _ _ _ => 2
  | .forwarding _ _ _ => 1

def Status.work : Status → Nat
  | .running => 1
  | _ => 0

/-- How many hand-overs are left at most. -/
def State.work (state : State) : Nat :=
  state.status.work + state.divert.work + state.timer.work + 12 * state.hSend.length +
    state.sender.work + 6 * state.toServer.length + 5 * state.toClient.length +
    state.receiver.work

section Work

variable {settings : Settings} {state after : State} {event : Event}

theorem running_of_step (stepped : step settings state event = some after) :
    state.status = .running := by
  cases status : state.status with
  | running => rfl
  | exited =>
      rw [step, status] at stepped
      cases stepped
  | crashed =>
      rw [step, status] at stepped
      cases stepped

theorem format_work {table : Table} {pc : SenderPc} {kept : RecvItem} {message : Message}
    (made : format table pc = some (kept, message)) : 9 ≤ pc.work := by
  cases pc with
  | formatting item => exact (by decide : 9 ≤ 11)
  | matched => exact Nat.le_refl 9
  | popping => cases made
  | unmatched => cases made
  | pushing => cases made
  | sending => cases made

theorem work_step (internal : event.Internal) (stepped : step settings state event = some after) :
    after.work < state.work := by
  have running := running_of_step stepped
  cases step_case stepped with
  | clock | scribble | missed | requested | found | hairpin | fetch => exact absurd internal id
  | translated side packet ptr found | released side packet ptr found
  | closed side packet ptr found =>
      simp only [State.work, State.aliased, found, DivertPc.work]
      omega
  | turned packet ptr source hairpin | turnedAway packet ptr hairpin =>
      simp only [State.work, hairpin, DivertPc.work]
      omega
  | returned packet buf ptr turned =>
      simp only [State.work, turned, DivertPc.work]
      omega
  | dropRequest buf size requesting =>
      simp only [State.work, requesting, DivertPc.work]
      omega
  | pushRequest buf size requesting =>
      simp only [State.work, requesting, DivertPc.work, List.length_append, List.length_singleton]
      omega
  | pushRelease buf size origin releasing =>
      simp only [State.work, releasing, DivertPc.work, List.length_append, List.length_singleton]
      omega
  | closeNothing side buf size closing | closeFound side buf size ptr closing =>
      simp only [State.work, closing, DivertPc.work]
      omega
  | arm side buf size ptr arming =>
      simp only [State.work, arming, DivertPc.work]
      omega
  | suspend side buf size ident suspending =>
      simp only [State.work, suspending, DivertPc.work]
      omega
  | rearm side buf size ident rearming =>
      simp only [State.work, rearming, DivertPc.work]
      omega
  | notYet looking =>
      rcases looking with ⟨ident, fetched⟩ | ⟨ident, ptr, found⟩
      · simp only [State.work, fetched, TimerPc.work]
        omega
      · simp only [State.work, found, TimerPc.work]
        omega
  | find ident ptr fetched =>
      simp only [State.work, fetched, TimerPc.work]
      omega
  | test ident ptr found =>
      simp only [State.work, found, TimerPc.work]
      omega
  | expire ident ptr late =>
      simp only [State.work, late, TimerPc.work]
      omega
  | pushTimeout ptr expiring =>
      simp only [State.work, expiring, TimerPc.work, List.length_append, List.length_singleton]
      omega
  | popSend item rest popping front =>
      simp only [State.work, popping, front, SenderPc.work, List.length_cons]
      omega
  | unmatched buf size origin formatting =>
      simp only [State.work, formatting, SenderPc.work]
      omega
  | matched rel buf size origin ptr looking =>
      rcases looking with ⟨-, formatting⟩ | ⟨-, unmatched⟩
      · simp only [State.work, formatting, SenderPc.work]
        omega
      · simp only [State.work, unmatched, SenderPc.work]
        omega
  | formatted kept message made =>
      have more := format_work made
      have less : (SenderPc.pushing kept message).work = 8 := rfl
      simp only [State.work, less]
      omega
  | pushRecv item message pushing =>
      simp only [State.work, pushing, SenderPc.work]
      omega
  | send item message sending =>
      simp only [State.work, sending, SenderPc.work, List.length_append, List.length_singleton]
      omega
  | answer message rest server reply front =>
      simp only [State.work, front, List.length_append, List.length_cons, List.length_nil]
      omega
  | silent message rest server answer front =>
      simp only [State.work, front, List.length_cons]
      omega
  | receive ptr reply rest receiving front =>
      simp only [State.work, receiving, front, ReceiverPc.work, List.length_cons]
      omega
  | popRecv ptr reply item rest popping =>
      simp only [State.work, popping, ReceiverPc.work]
      omega
  | discard ptr reply item handling | refuse fresh reply item holder handling =>
      simp only [State.work, handling, ReceiverPc.work]
      omega
  | insert fresh reply item buf size handling =>
      simp only [State.work, State.inserted, handling]
      split
      · simp only [ReceiverPc.work]
        omega
      · simp only [ReceiverPc.work]
        omega
  | add fresh ident protocol buf size adding =>
      simp only [State.work, adding, ReceiverPc.work]
      omega
  | forwarded fresh protocol buf size forwarding =>
      simp only [State.work, State.aliased, forwarding, ReceiverPc.work]
      omega
  | timeoutAck ptr reply node handling =>
      simp only [State.work, State.free, handling, ReceiverPc.work]
      omega
  | skip ptr reply rel buf size origin handling =>
      simp only [State.work, State.aliased, handling, ReceiverPc.work]
      omega
  | ignore ptr reply item handling =>
      simp only [State.work, State.aliased, handling, ReceiverPc.work]
      omega
  | delete ptr reply item node handling =>
      simp only [State.work, State.free, State.aliased, handling, ReceiverPc.work]
      omega
  | stop event status stopped =>
      simp only [State.work, running, Status.work]
      omega
  | stopAck ptr reply item handling =>
      simp only [State.work, State.exit, State.aliased, running, Status.work]
      omega

end Work

structure State.Quiescent (state : State) : Prop where
  divert : state.divert = .reading
  timer : state.timer = .waiting
  hSend : state.hSend = []
  sender : state.sender = .popping
  toServer : state.toServer = []
  toClient : state.toClient = []
  receiver : state.receiver = .receiving
  hRecv : state.hRecv = []

/-- A ring of two slots or more takes an item when it is empty. -/
structure Settings.Roomy (settings : Settings) : Prop where
  send : 2 ≤ settings.sendSlots
  recv : 2 ≤ settings.recvSlots

section Stuck

variable {settings : Settings} {state : State}

theorem hasRoom_nil {Item : Type} {slots : Nat} (roomy : 2 ≤ slots) :
    hasRoom slots ([] : List Item) = true := by
  rw [hasRoom, List.length_nil, decide_eq_true_eq]
  omega

theorem receiverStep_none (fresh : Ptr) (unused : fresh ∉ state.live)
    (stuck : receiverStep settings state fresh = none) :
    state.receiver = .receiving ∧ state.toClient = [] ∨
      ∃ reply, state.receiver = .popping reply ∧ state.hRecv = [] := by
  rw [receiverStep] at stuck
  cases receiver : state.receiver with
  | receiving =>
      cases toClient : state.toClient with
      | nil => exact .inl ⟨rfl, rfl⟩
      | cons reply rest =>
          rw [receiver, toClient] at stuck
          simp only at stuck
          split at stuck <;> cases stuck
  | popping reply =>
      cases hRecv : state.hRecv with
      | nil => exact .inr ⟨reply, rfl, rfl⟩
      | cons item rest =>
          rw [receiver, hRecv] at stuck
          cases stuck
  | handling reply item =>
      rw [receiver] at stuck
      simp only [handleReply] at stuck
      split at stuck
      · rw [if_neg unused] at stuck
        cases stuck
      · rw [if_neg unused] at stuck
        cases stuck
      all_goals cases stuck
  | adding ident protocol buf size =>
      rw [receiver] at stuck
      cases stuck
  | forwarding protocol buf size =>
      rw [receiver] at stuck
      cases stuck

theorem senderStep_none (stuck : senderStep settings state = none) :
    state.sender = .popping ∧ state.hSend = [] ∨
      ∃ item message, state.sender = .pushing item message ∧
        hasRoom settings.recvSlots state.hRecv = false := by
  rw [senderStep] at stuck
  cases sender : state.sender with
  | popping =>
      cases hSend : state.hSend with
      | nil => exact .inl ⟨rfl, rfl⟩
      | cons item rest =>
          rw [sender, hSend] at stuck
          cases stuck
  | formatting item =>
      rw [sender] at stuck
      cases item with
      | sendReq => cases stuck
      | sendRel buf size origin =>
          simp only at stuck
          split at stuck <;> cases stuck
      | timeout => cases stuck
  | unmatched buf size origin =>
      rw [sender] at stuck
      simp only at stuck
      split at stuck <;> cases stuck
  | matched rel buf size origin ptr =>
      rw [sender] at stuck
      cases stuck
  | pushing item message =>
      rw [sender] at stuck
      simp only at stuck
      split at stuck
      · cases stuck
      · next full => exact .inr ⟨item, message, rfl, Bool.eq_false_iff.mpr full⟩
  | sending item message =>
      rw [sender] at stuck
      cases stuck

theorem serverStep_none (stuck : serverStep settings state = none) : state.toServer = [] := by
  rw [serverStep] at stuck
  cases toServer : state.toServer with
  | nil => rfl
  | cons message rest =>
      rw [toServer] at stuck
      simp only at stuck
      split at stuck <;> cases stuck

theorem divertStep_none (room : hasRoom settings.sendSlots state.hSend = true)
    (stuck : divertStep settings state = none) : state.divert = .reading := by
  rw [divertStep] at stuck
  cases divert : state.divert with
  | reading => rfl
  | requesting buf size =>
      rw [divert] at stuck
      simp only at stuck
      split at stuck <;> cases stuck
  | releasing buf size origin =>
      rw [divert] at stuck
      simp only [room, if_true] at stuck
      cases stuck
  | closing side buf size =>
      rw [divert] at stuck
      simp only at stuck
      split at stuck <;> cases stuck
  | hairpin packet ptr =>
      rw [divert] at stuck
      simp only at stuck
      split at stuck <;> cases stuck
  | found | turned | arming | suspending | rearming =>
      rw [divert] at stuck
      cases stuck

theorem timerStep_none (room : hasRoom settings.sendSlots state.hSend = true)
    (stuck : timerStep settings state = none) : state.timer = .waiting := by
  rw [timerStep] at stuck
  cases timer : state.timer with
  | waiting => rfl
  | fetched ident =>
      rw [timer] at stuck
      simp only at stuck
      split at stuck <;> cases stuck
  | found ident ptr =>
      rw [timer] at stuck
      simp only at stuck
      split at stuck <;> cases stuck
  | late ident ptr =>
      rw [timer] at stuck
      simp only at stuck
      split at stuck <;> cases stuck
  | expiring ptr =>
      rw [timer] at stuck
      simp only [room, if_true] at stuck
      cases stuck

/-- Only an empty system is stuck: what waits for a slot of `h_recv` has replies ahead. -/
theorem ExchangeInv.quiescent (inv : ExchangeInv state) (roomy : settings.Roomy)
    (running : state.status = .running)
    (stuck : ∀ event, Event.Internal event → System.step settings state event = none) :
    state.Quiescent := by
  have refused : ∀ event, event.Internal → System.running settings state event = none := by
    intro event internal
    have nothing := stuck event internal
    rw [System.step, running] at nothing
    exact nothing
  have toServer : state.toServer = [] := serverStep_none (refused .server trivial)
  have balanced := inv.aligned.length
  rw [State.items, State.replies, State.messages, toServer] at balanced
  simp only [List.length_append, List.length_nil, Nat.zero_add] at balanced
  obtain ⟨fresh, unused⟩ := Infinite.exists_notMem_finset state.live.toFinset
  rw [List.mem_toFinset] at unused
  have receives : state.receiver = .receiving ∧ state.toClient = [] := by
    rcases receiverStep_none fresh unused (refused (.receiver fresh) trivial) with idle | waits
    · exact idle
    · obtain ⟨reply, receiver, hRecv⟩ := waits
      rw [receiver, hRecv] at balanced
      simp only [ReceiverPc.item, ReceiverPc.reply, Option.toList_none, Option.toList_some,
        List.length_nil, List.length_singleton] at balanced
      omega
  obtain ⟨receiver, toClient⟩ := receives
  rw [receiver, toClient] at balanced
  simp only [ReceiverPc.item, ReceiverPc.reply, Option.toList_none, List.length_nil] at balanced
  have sends : state.sender = .popping ∧ state.hSend = [] := by
    rcases senderStep_none (refused .sender trivial) with idle | waits
    · exact idle
    · obtain ⟨item, message, sender, full⟩ := waits
      rw [sender] at balanced
      have empty : state.hRecv = [] := by
        refine List.eq_nil_of_length_eq_zero ?_
        simpa [SenderPc.message] using balanced
      rw [empty, hasRoom_nil roomy.recv] at full
      cases full
  obtain ⟨sender, hSend⟩ := sends
  rw [sender] at balanced
  have room : hasRoom settings.sendSlots state.hSend = true := by
    rw [hSend]
    exact hasRoom_nil roomy.send
  exact
    { divert := divertStep_none room (refused .divert trivial)
      timer := timerStep_none room (refused .timer trivial)
      hSend := hSend
      sender := sender
      toServer := toServer
      toClient := toClient
      receiver := receiver
      hRecv := List.eq_nil_of_length_eq_zero (by simpa [SenderPc.message] using balanced) }

end Stuck

theorem State.Quiescent.stuck {settings : Settings} {state : State} (quiescent : state.Quiescent)
    (event : Event) (internal : event.Internal) : step settings state event = none := by
  have nothing : running settings state event = none := by
    cases event with
    | clock | scribble | packet | kevent | sendto => exact absurd internal id
    | divert => rw [running, divertStep, quiescent.divert]
    | timer => rw [running, timerStep, quiescent.timer]
    | sender => rw [running, senderStep, quiescent.sender, quiescent.hSend]
    | server => rw [running, serverStep, quiescent.toServer]
    | receiver fresh => rw [running, receiverStep, quiescent.receiver, quiescent.toClient]
  rw [step]
  split
  · exact nothing
  · rfl

theorem reachable_exchange {settings : Settings} {memory : Ptr → Node} {state : State}
    (reached : Reachable (step settings) UpToDate (start settings memory) state) :
    ExchangeInv state := by
  refine Reachable.invariant (start_exchange settings memory) ?_ reached
  intro before event after inv allowed stepped
  exact inv.step (step_case stepped) allowed

instance : (event : Event) → Decidable event.Internal
  | .divert | .timer | .sender | .server | .receiver _ => isTrue trivial
  | .clock _ | .scribble _ _ | .packet _ _ | .kevent _ | .sendto => isFalse id

/-- From any state, however the threads take turns, they stop after at most `work` steps;
a process that still runs then has nothing under way, and for every message that it sent
an item was popped. -/
theorem pending_work_drains (settings : Settings) (memory : Ptr → Node) (roomy : settings.Roomy)
    {state : State}
    (reached : Reachable (step settings) UpToDate (start settings memory) state)
    (events : List Event) (internal : ∀ event ∈ events, event.Internal) (after : State)
    (replayed : run (step settings) state events = some after)
    (allowed : meets (step settings) UpToDate state events = true) :
    events.length ≤ state.work ∧
      (after.status = .running →
        (∀ event, Event.Internal event → step settings after event = none) →
        after.Quiescent ∧ after.popped = after.sent) := by
  have bound : events.length + after.work ≤ state.work :=
    run_length_le (fun _ _ _ => work_step) events state after internal replayed
  refine ⟨by omega, ?_⟩
  intro running stuck
  have later := reachable_of_meets events reached allowed
  rw [replayed] at later
  have inv := reachable_exchange later
  have quiescent := inv.quiescent roomy running stuck
  refine ⟨quiescent, ?_⟩
  have popped := inv.popped
  rw [quiescent.hRecv, quiescent.sender] at popped
  simpa [SenderPc.unsent] using popped

/-- The first packet of a client, until its mapping is in the table. -/
theorem pending_work_drains_opening :
    (opening.drop 1).length ≤ (replayed (opening.take 1)).work ∧
      (replayed opening).Quiescent ∧ (replayed opening).popped = (replayed opening).sent := by
  have reached : Reachable (step smallSettings) UpToDate smallStart
      (replayed (opening.take 1)) :=
    reachable_of_meets (opening.take 1) .start (by decide +kernel)
  have idle : (replayed opening).Quiescent := by
    constructor <;> decide +kernel
  have drained := pending_work_drains smallSettings _ ⟨by decide, by decide⟩ reached
    (opening.drop 1) (by decide) (replayed opening) (by rfl) (by decide +kernel)
  exact ⟨drained.1, drained.2 (by decide +kernel) idle.stuck⟩

end System
end NatPorte
