/-
Idle timeouts.

The timer loop compares the clock with the access time of an entry.  Nothing but
`attach` and a grant writes an access time, and both write the present one, so the
translation of a packet puts the idle timeout of its entry off.
-/

import NatPorte.Closing
import NatPorte.Settling

namespace NatPorte
namespace System

open TcpState Structure Packet Checksum Alias Tracking Lookup PoolServer Entry StepSystem KeyedSet

/-- Every access time is the one before or the present one. -/
def Stamped (now : Int) (before after : Table) : Prop :=
  ∀ ptr, (after.heap ptr).atime = (before.heap ptr).atime ∨ (after.heap ptr).atime = now

namespace Stamped

variable {now : Int}

theorem refl (table : Table) : Stamped now table table := fun _ => .inl rfl

theorem trans {first second third : Table} (left : Stamped now first second)
    (right : Stamped now second third) : Stamped now first third := by
  intro ptr
  rcases right ptr with kept | stamped
  · rw [kept]
    exact left ptr
  · exact .inr stamped

theorem store {table : Table} {ptr : Ptr} {node : Node}
    (entry : node.atime = (table.heap ptr).atime ∨ node.atime = now) :
    Stamped now table (table.store ptr node) := by
  intro other
  by_cases same : other = ptr
  · subst same
    rw [Table.store_heap_self]
    exact entry
  · rw [table.store_heap_other ptr other node same]
    exact .inl rfl

theorem attach (table : Table) (ptr : Ptr) : Stamped now table (Alias.attach table now ptr) :=
  store (.inr rfl)

theorem setFlags (table : Table) (ptr : Ptr) (flags : TcpFlag) :
    Stamped now table (Alias.setFlags table ptr flags) :=
  store (.inl rfl)

end Stamped

@[simp] theorem attach_atime_self (table : Table) (now : Int) (ptr : Ptr) :
    ((attach table now ptr).heap ptr).atime = now := by
  rw [attach, Table.store_heap_self]

section Packets

variable (config : Config) (now : Int) (table : Table) (bucket : IcmpBucket) (buf : Buffer)
  (size : Nat)

theorem dispatch_stamped (direction : AliasFrom) {tcp udp icmp : Outcome}
    (tcpStamped : Stamped now table tcp.table) (udpStamped : Stamped now table udp.table)
    (icmpStamped : Stamped now table icmp.table) :
    Stamped now table (dispatch config table bucket buf size direction tcp udp icmp).table := by
  rcases dispatch_cases config table bucket buf size direction tcp udp icmp with
    ⟨verdict, -, result⟩ | ⟨-, result⟩ | ⟨-, result⟩ | ⟨-, result⟩
  · rw [result]
    exact .refl table
  · rw [result]
    exact tcpStamped
  · rw [result]
    exact udpStamped
  · rw [result]
    exact icmpStamped

theorem tcpEntry_stamped (ptr : Ptr) (direction : AliasFrom) (onUnknown : Verdict)
    (translated ordinary : Buffer) :
    Stamped now table
      (tcpEntry config now table bucket buf ptr direction onUnknown translated ordinary).table := by
  have flagged : ∀ flags, Stamped now table (attach (setFlags table ptr flags) now ptr) :=
    fun flags => (Stamped.setFlags table ptr flags).trans (Stamped.attach _ ptr)
  have taken := tcpEntry_case config now table bucket buf ptr direction onUnknown translated
    ordinary
  generalize tcpEntry config now table bucket buf ptr direction onUnknown translated ordinary =
    outcome at taken ⊢
  cases taken with
  | settled => exact .attach table ptr
  | waiting => exact flagged _
  | closing => exact .setFlags table ptr _
  | reset => exact .setFlags table ptr _
  | unknown => exact .setFlags table ptr _
  | ordinary => exact flagged _

theorem wan2lanAlias_stamped :
    Stamped now table (wan2lanAlias config now table bucket buf size).table := by
  have tcp : Stamped now table (wan2lanTcp config now table bucket buf size).table := by
    unfold wan2lanTcp
    split
    · exact .refl table
    · exact tcpEntry_stamped config now table bucket buf _ _ _ _ _
  have udp : Stamped now table (wan2lanUdp config now table bucket buf size).table := by
    unfold wan2lanUdp
    split
    · exact .refl table
    · exact .attach table _
  have quoted : ∀ protocol,
      Stamped now table (wan2lanQuoted config now table bucket buf size protocol).table := by
    intro protocol
    simp only [wan2lanQuoted]
    split
    · exact .refl table
    · split
      · exact .attach table _
      · exact .refl table
  have icmp : Stamped now table (wan2lanIcmp config now table bucket buf size).table := by
    simp only [wan2lanIcmp]
    repeat' split
    all_goals first | exact .refl table | exact quoted _
  exact dispatch_stamped config now table bucket buf size _ tcp udp icmp

theorem lan2wanAlias_stamped :
    Stamped now table (lan2wanAlias config now table bucket buf size).table := by
  have hairpin := wan2lanAlias_stamped config now table bucket buf size
  have tcp : Stamped now table (lan2wanTcp config now table bucket buf size).table := by
    simp only [lan2wanTcp]
    split
    · exact .refl table
    · split
      · split <;> exact .refl table
      · exact tcpEntry_stamped config now table bucket buf _ _ _ _ _
  have udp : Stamped now table (lan2wanUdp config now table bucket buf size).table := by
    simp only [lan2wanUdp]
    split
    · split
      · exact hairpin
      · split
        · exact hairpin
        · exact hairpin.trans (.attach _ _)
    · split
      · exact .refl table
      · exact .attach table _
  have icmp : Stamped now table (lan2wanIcmp config table bucket buf).table := by
    simp only [lan2wanIcmp]
    repeat' split
    all_goals exact .refl table
  exact dispatch_stamped config now table bucket buf size _ tcp udp icmp

theorem aliasPacket_stamped (side : Side) :
    Stamped now table (aliasPacket config now table bucket side buf size).table := by
  cases side with
  | lan => exact lan2wanAlias_stamped config now table bucket buf size
  | wan => exact wan2lanAlias_stamped config now table bucket buf size

theorem forward_stamped (settings : Settings) (protocol : BitVec 8) :
    Stamped now table (forward settings now table bucket protocol buf size).table := by
  have hairpin := wan2lanAlias_stamped settings.nat now table bucket buf size
  simp only [forward]
  split
  · split
    · exact hairpin
    · exact hairpin.trans (lan2wanAlias_stamped settings.nat now _ _ _ size)
  · exact lan2wanAlias_stamped settings.nat now table bucket buf size

theorem tcpEntry_touches (ptr : Ptr) (direction : AliasFrom) {onUnknown : Verdict}
    (refused : onUnknown ≠ .doalias) (translated ordinary : Buffer)
    (verdict : (tcpEntry config now table bucket buf ptr direction onUnknown translated
      ordinary).verdict = .doalias) :
    ((tcpEntry config now table bucket buf ptr direction onUnknown translated ordinary).table.heap
      ptr).atime = now := by
  have taken := tcpEntry_case config now table bucket buf ptr direction onUnknown translated
    ordinary
  generalize tcpEntry config now table bucket buf ptr direction onUnknown translated ordinary =
    outcome at taken verdict ⊢
  cases taken with
  | settled => exact attach_atime_self table now ptr
  | waiting => cases verdict
  | closing => cases verdict
  | reset => cases verdict
  | unknown => exact absurd verdict refused
  | ordinary => exact attach_atime_self _ now ptr

theorem useEntry_stamped (side : Side) (ptr : Ptr) :
    Stamped now table (useEntry config now table bucket side buf size ptr).table := by
  rw [useEntry]
  split
  · exact tcpEntry_stamped config now table bucket buf ptr _ _ _ _
  split
  · exact .attach table ptr
  dsimp only
  split
  · exact .attach table ptr
  · exact .refl table

theorem useEntry_touches (side : Side) (ptr : Ptr) (carried : Transport buf)
    (verdict : (useEntry config now table bucket side buf size ptr).verdict = .doalias) :
    ((useEntry config now table bucket side buf size ptr).table.heap ptr).atime = now := by
  have refused : onUnknown side ≠ .doalias := by cases side <;> decide
  rw [useEntry] at verdict ⊢
  rcases carried with isTcp | isUdp
  · rw [if_pos isTcp] at verdict ⊢
    exact tcpEntry_touches config now table bucket buf ptr side.direction refused _ _ verdict
  · have notTcp : ¬ipP buf = ipprotoTcp := by
      rw [isUdp]
      decide
    rw [if_neg notTcp, if_pos isUdp]
    exact attach_atime_self table now ptr

/-- What `lan2wan_alias` lets through stamps the entry of the packet's source. -/
theorem lan2wanAlias_touches {ptr : Ptr} (carried : Transport buf) (away : ¬ToLanAddr config buf)
    (found : lookup table .lan buf = some ptr)
    (verdict : (lan2wanAlias config now table bucket buf size).verdict = .doalias) :
    ((lan2wanAlias config now table bucket buf size).table.heap ptr).atime = now := by
  have passes : Passes config .lan buf size :=
    passes_of_goesOn config table bucket buf size .lan (by decide) verdict
  have resolves : resolved config table .lan buf size = some ptr := by
    unfold resolved
    rw [if_pos passes]
    simp only [if_pos (And.intro carried away)]
    exact found
  have halves := aliasPacket_resolved now bucket resolves
  rw [aliasPacket] at halves
  rw [halves] at verdict ⊢
  exact useEntry_touches config now table bucket buf size .lan ptr carried verdict

end Packets

/-- The entry by which a step translates a packet, or which it grants.  A packet that the
receiver forwards to one of the router's own addresses is left out. -/
def State.uses (settings : Settings) (state : State) : Event → Option Ptr
  | .divert =>
      match state.divert with
      | .found side packet ptr =>
          if Transport packet.buf ∧ (state.used settings side packet ptr).verdict = .doalias then
            some ptr
          else none
      | .hairpin _ ptr => some ptr
      | .turned _ _ ptr => some ptr
      | _ => none
  | .receiver fresh =>
      match state.receiver with
      | .handling reply (.request _ _) => if reply.type = .requestAck then some fresh else none
      | .forwarding _ buf size =>
          if Transport buf ∧ ¬ToLanAddr settings.nat buf ∧
              (lan2wanAlias settings.nat state.now state.table state.bucket buf size).verdict =
                .doalias then
            lookup state.table .lan buf
          else none
      | _ => none
  | _ => none

/-- The clock does not run backwards. -/
def Paced (state : State) : Event → Prop
  | .clock later => state.now ≤ later
  | _ => True

instance (state : State) : (event : Event) → Decidable (Paced state event)
  | .clock later => inferInstanceAs (Decidable (state.now ≤ later))
  | .scribble _ _ | .packet _ _ | .divert | .kevent _ | .timer | .sender | .server | .receiver _
  | .sendto => isTrue trivial

/-- Since then the clock has not been set back and the entry was not forgotten. -/
structure AccessedSince (since : Int) (ptr : Ptr) (state : State) : Prop where
  clock : since ≤ state.now
  access : ptr ∈ state.live → since ≤ (state.table.heap ptr).atime

section Steps

variable {settings : Settings} {state after : State} {event : Event} {ptr : Ptr}

theorem inserted_atime (fresh : Ptr) (fields : Fields) (buf : Buffer) (size : Nat) :
    ((state.inserted fresh fields buf size).table.heap fresh).atime = state.now := by
  simp only [State.inserted]
  rw [sInsert_heap, Table.store_heap_self]
  rfl

/-- Whatever a step does, an allocated node keeps its access time or has the present one,
and so has a node that the step allocates. -/
theorem atime_kept (moved : StepCase settings state event after) (isLive : ptr ∈ after.live) :
    ptr ∈ state.live ∧ (after.table.heap ptr).atime = (state.table.heap ptr).atime ∨
      (after.table.heap ptr).atime = state.now := by
  have stamped : Stamped state.now state.table after.table → ptr ∈ state.live →
      ptr ∈ state.live ∧ (after.table.heap ptr).atime = (state.table.heap ptr).atime ∨
        (after.table.heap ptr).atime = state.now :=
    fun stamped before => (stamped ptr).imp_left (And.intro before)
  have used := fun side (packet : Datagram) node => useEntry_stamped settings.nat state.now
    state.table state.bucket packet.buf packet.size side node
  have released : ∀ item,
      Stamped state.now state.table (releasedOutcome settings state item).table := by
    intro item
    cases item with
    | request => exact .refl _
    | release rel buf size =>
        exact aliasPacket_stamped settings.nat state.now state.table state.bucket buf size rel
    | timeout => exact .refl _
  cases moved with
  | scribble other node dead =>
      have isLive : ptr ∈ state.live := isLive
      have different : ptr ≠ other := fun same => dead (same ▸ isLive)
      rw [Table.store_heap_other _ _ _ _ different]
      exact .inl ⟨isLive, rfl⟩
  | missed side packet reading nothing => exact stamped (nothing ▸ .refl _) isLive
  | requested packet reading nothing => exact stamped (nothing ▸ .refl _) isLive
  | translated side packet node => exact stamped (used side packet node) isLive
  | released side packet node => exact stamped (used side packet node) isLive
  | closed side packet node => exact stamped (used side packet node) isLive
  | turned packet node => exact stamped (.attach _ node) isLive
  | turnedAway packet node => exact stamped (.attach _ node) isLive
  | returned packet buf node => exact stamped (.attach _ node) isLive
  | arm side buf size node => exact stamped (.store (.inl rfl)) isLive
  | refuse fresh reply item holder handling type isPacket unused =>
      have isLive : ptr ∈ state.live := isLive
      have different : ptr ≠ fresh := fun same => unused (same ▸ isLive)
      rw [sInsert_heap, Table.store_heap_other _ _ _ _ different]
      exact .inl ⟨isLive, rfl⟩
  | insert fresh reply item buf size handling type isPacket unused =>
      rcases List.mem_cons.mp isLive with new | before
      · subst new
        exact .inr (inserted_atime ptr reply.fields buf size)
      · have different : ptr ≠ fresh := fun same => unused (same ▸ before)
        simp only [State.inserted]
        rw [sInsert_heap, Table.store_heap_other _ _ _ _ different]
        exact .inl ⟨before, rfl⟩
  | forwarded fresh protocol buf size =>
      exact stamped (forward_stamped state.now state.table state.bucket buf size settings protocol)
        isLive
  | timeoutAck => exact stamped (.refl _) (List.mem_of_mem_erase isLive)
  | skip _ _ rel buf size origin => exact stamped (released (.release rel buf size origin)) isLive
  | ignore _ _ item => exact stamped (released item) isLive
  | delete _ _ item => exact stamped (released item) (List.mem_of_mem_erase isLive)
  | stopAck _ _ item => exact stamped (released item) isLive
  | _ => exact stamped (.refl _) isLive

theorem clock_forward (moved : StepCase settings state event after) (paced : Paced state event) :
    state.now ≤ after.now := by
  cases moved with
  | clock now => exact paced
  | _ => exact Int.le_refl _

theorem AccessedSince.step {since : Int} (accessed : AccessedSince since ptr state)
    (moved : StepCase settings state event after) (paced : Paced state event) :
    AccessedSince since ptr after where
  clock := accessed.clock.trans (clock_forward moved paced)
  access := by
    intro isLive
    rcases atime_kept moved isLive with ⟨before, kept⟩ | stamped
    · rw [kept]
      exact accessed.access before
    · rw [stamped]
      exact accessed.clock

theorem divertVerdict_table (side : Side) (size : Nat) (ptr : Ptr) (outcome : Outcome) :
    (divertVerdict settings state side size ptr outcome).table = outcome.table ∧
      (divertVerdict settings state side size ptr outcome).now = state.now := by
  simp only [divertVerdict]
  split
  · split <;> exact ⟨rfl, rfl⟩
  · exact ⟨rfl, rfl⟩
  · split <;> exact ⟨rfl, rfl⟩
  · exact ⟨rfl, rfl⟩

theorem requestAck_atime (fresh : Ptr) (fields : Fields) (buf : Buffer) (size : Nat) :
    ((requestAck state fresh fields buf size).table.heap fresh).atime = state.now ∧
      (requestAck state fresh fields buf size).now = state.now := by
  have heap := sInsert_heap (state.table.store fresh (parsedNode state.now fields)) fresh
  have stored : ((sInsert (state.table.store fresh (parsedNode state.now fields)) fresh).1.heap
      fresh).atime = state.now := by
    rw [heap, Table.store_heap_self]
    rfl
  simp only [requestAck]
  split
  · next inserted =>
      rw [inserted] at stored
      exact ⟨stored, rfl⟩
  · next inserted =>
      rw [inserted] at stored
      exact ⟨stored, rfl⟩

theorem divert_touches (stepped : divertStep settings state = some after)
    (used : state.uses settings .divert = some ptr) :
    (after.table.heap ptr).atime = state.now ∧ after.now = state.now := by
  cases divert : state.divert with
  | found side packet node =>
      simp only [State.uses, divert] at used
      split at used
      · next translated =>
          cases used
          simp only [divertStep, divert, Option.some.injEq] at stepped
          obtain ⟨table, now⟩ := @divertVerdict_table settings state side packet.size ptr
            (state.used settings side packet ptr)
          rw [← stepped, table]
          exact ⟨useEntry_touches settings.nat state.now state.table state.bucket packet.buf
            packet.size side ptr translated.1 translated.2, now⟩
      · cases used
  | hairpin packet node =>
      simp only [State.uses, divert] at used
      cases used
      simp only [divertStep, divert] at stepped
      split at stepped
      · cases stepped
        exact ⟨attach_atime_self _ _ _, rfl⟩
      · cases stepped
        exact ⟨attach_atime_self _ _ _, rfl⟩
  | turned packet buf node =>
      simp only [State.uses, divert] at used
      cases used
      simp only [divertStep, divert] at stepped
      cases stepped
      exact ⟨attach_atime_self _ _ _, rfl⟩
  | _ =>
      simp only [State.uses, divert] at used
      cases used

theorem uses_touches (stepped : step settings state event = some after)
    (used : state.uses settings event = some ptr) :
    (after.table.heap ptr).atime = state.now ∧ after.now = state.now := by
  have moved : running settings state event = some after := by
    rw [step, running_of_step stepped] at stepped
    exact stepped
  cases event with
  | divert => exact divert_touches moved used
  | receiver fresh =>
      simp only [State.uses] at used
      split at used
      · next reply buf size handling =>
          split at used
          · next type =>
              cases used
              simp only [running, receiverStep, handling, handleReply, type] at moved
              split at moved
              · cases moved
              · cases moved
                exact requestAck_atime ptr reply.fields buf size
          · cases used
      · next protocol buf size forwarding =>
          split at used
          · next forwards =>
              obtain ⟨carried, away, verdict⟩ := forwards
              simp only [running, receiverStep, forwarding] at moved
              cases moved
              refine ⟨?_, rfl⟩
              have same : forward settings state.now state.table state.bucket protocol buf size =
                  lan2wanAlias settings.nat state.now state.table state.bucket buf size := by
                rw [forward, if_neg fun own => away own.2]
              dsimp only
              rw [same]
              exact lan2wanAlias_touches settings.nat state.now state.table state.bucket buf size
                carried away used verdict
          · cases used
      · cases used
  | _ => cases used

end Steps

/-- The seconds for which an entry may be idle. -/
def Settings.idleLimit (settings : Settings) (protocol : BitVec 8) : Int :=
  if protocol = ipprotoTcp then settings.timeoutTcp.tdiv 1000 else settings.timeoutUdp.tdiv 1000

/-- The close timer of the entry is armed. -/
def Closing (settings : Settings) (node : Node) : Prop :=
  settings.nat.build.waitTimeDelete = true ∧ node.timerFlags ≠ .loop

theorem expires_why {settings : Settings} {now : Int} {node : Node}
    (late : expires settings now node = true) :
    Closing settings node ∨ settings.idleLimit node.protocol < now - node.atime := by
  have why : ∀ limit : Int, (decide (now - node.atime > limit) ||
      (settings.nat.build.waitTimeDelete && node.timerFlags != .loop)) = true →
      Closing settings node ∨ limit < now - node.atime := by
    intro limit either
    rw [Bool.or_eq_true, decide_eq_true_eq, Bool.and_eq_true, bne_iff_ne] at either
    exact either.symm
  rw [expires] at late
  rw [Settings.idleLimit]
  split at late
  · next tcp =>
      rw [if_pos tcp]
      exact why _ late
  · next notTcp =>
      rw [if_neg notTcp]
      split at late
      · exact why _ late
      · cases late

/-- After a packet was translated by an entry, or the entry was granted, the timer loop
finds the entry idle no earlier than its idle limit, unless the connection is closing. -/
theorem traffic_keeps_entries (settings : Settings) {before after current : State} {event : Event}
    {ptr : Ptr} (stepped : step settings before event = some after)
    (used : before.uses settings event = some ptr)
    (later : Reachable (step settings) Paced after current)
    {ident : BitVec 64} (found : current.timer = .found ident ptr) (allocated : ptr ∈ current.live)
    {late : State} (tested : step settings current .timer = some late)
    (isLate : late.timer = .late ident ptr) :
    Closing settings (current.table.heap ptr) ∨
      settings.idleLimit (current.table.heap ptr).protocol < current.now - before.now := by
  obtain ⟨touched, now⟩ := uses_touches stepped used
  have atUse : AccessedSince before.now ptr after :=
    ⟨Int.le_of_eq now.symm, fun _ => Int.le_of_eq touched.symm⟩
  have accessed : AccessedSince before.now ptr current := by
    refine Reachable.invariant atUse ?_ later
    intro state next nextState accessed paced moved
    exact accessed.step (step_case moved) paced
  have idle : expires settings current.now (current.table.heap ptr) = true := by
    cases step_case tested with
    | test _ _ other idle =>
        cases other.symm.trans found
        exact idle
    | notYet => cases isLate
    | find _ _ fetched => cases fetched.symm.trans found
    | expire _ _ failed => cases failed.symm.trans found
    | pushTimeout _ expiring => cases expiring.symm.trans found
    | stop => cases isLate.symm.trans found
  have since := accessed.access allocated
  rcases expires_why idle with closing | idle
  · exact .inl closing
  · exact .inr (by omega)

/-- The peer's answer to the client, and what follows ten seconds after. -/
def peerAnswered : List Event := opening ++ bothFins.take 2

def lateFire : List Event := [.clock 10, .kevent clientIdent, .timer]

def foundLate : State :=
  (run (step smallSettings) (replayed peerAnswered) lateFire).getD (replayed peerAnswered)

theorem traffic_keeps_entries_answered :
    Closing smallSettings (foundLate.table.heap 1) ∨
      smallSettings.idleLimit (foundLate.table.heap 1).protocol <
        foundLate.now - (replayed (opening ++ bothFins.take 1)).now := by
  have later : Reachable (step smallSettings) Paced (replayed peerAnswered) foundLate :=
    reachable_of_meets lateFire .start (by decide +kernel)
  have answer : step smallSettings (replayed (opening ++ bothFins.take 1)) .divert =
      some (replayed peerAnswered) := by rfl
  have used : (replayed (opening ++ bothFins.take 1)).uses smallSettings .divert = some 1 := by
    decide +kernel
  have tested : step smallSettings foundLate .timer =
      some { foundLate with timer := .late clientIdent 1 } := by rfl
  exact traffic_keeps_entries smallSettings answer used later (by decide +kernel)
    (by decide +kernel) tested rfl

section Idle

variable {settings : Settings} {state after : State} {ptr : Ptr}

end Idle

end System
end NatPorte
