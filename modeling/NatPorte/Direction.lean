/-
Which mapping a release names.

The ring to `addrpool_sender` carries a packet and no direction.  The sender looks
the packet's source up among the LAN endpoints first and its destination among the
WAN endpoints only when that fails, so a packet from the WAN is taken for one from
the LAN as soon as its source is somebody's LAN endpoint.
-/

import NatPorte.Releases

namespace NatPorte
namespace System

open TcpState Structure Packet Checksum Alias Tracking Lookup PoolServer StepSystem KeyedSet

/-- Other entries may have new access times, tracker states and timers. -/
structure SameKeys (table later : Table) : Prop where
  members : ∀ ptr, ptr ∈ later.l2w ↔ ptr ∈ table.l2w
  mapping : ∀ ptr ∈ table.l2w, mappingOf (later.heap ptr) = mappingOf (table.heap ptr)

def PosesAsClient (table : Table) (buf : Buffer) : Prop :=
  ∃ ptr ∈ table.l2w, (table.heap ptr).protocol = ipP buf ∧
    (table.heap ptr).lan = endpoint buf .source

section Guess

variable {config : Alias.Config} {table later : Table} {buf : Buffer} {size : Nat}

theorem SameKeys.ends (same : SameKeys table later) {ptr : Ptr} (member : ptr ∈ table.l2w) :
    (later.heap ptr).protocol = (table.heap ptr).protocol ∧
      (later.heap ptr).lan = (table.heap ptr).lan ∧
      (later.heap ptr).wan = (table.heap ptr).wan := by
  obtain ⟨protocol, lan, wan, -, -⟩ := Mapping.mk.inj (same.mapping ptr member)
  exact ⟨protocol, lan, wan⟩

theorem SameKeys.lookup_eq (same : SameKeys table later) (inv : TableInv table)
    (laterInv : TableInv later) {side : Side} {ptr : Ptr}
    (found : lookup table side buf = some ptr) : lookup later side buf = some ptr := by
  cases side with
  | lan =>
      obtain ⟨member, protocol, lan⟩ := (findL2w_eq_some inv).mp found
      obtain ⟨sameProtocol, sameLan, -⟩ := same.ends member
      exact (findL2w_eq_some laterInv).mpr
        ⟨(same.members ptr).mpr member, sameProtocol.trans protocol, sameLan.trans lan⟩
  | wan =>
      obtain ⟨member, protocol, wan⟩ := (findW2l_eq_some inv).mp found
      obtain ⟨sameProtocol, -, sameWan⟩ := same.ends member
      exact (findW2l_eq_some laterInv).mpr
        ⟨(same.members ptr).mpr member, sameProtocol.trans protocol, sameWan.trans wan⟩

theorem releaseEntry_lan (long : 20 < size) (isTcp : ipP buf = ipprotoTcp) :
    releaseEntry later .lan buf size =
      findL2w later (probeLan (ipP buf) (endpoint buf .source)) := by
  obtain ⟨protocol, lan, -⟩ := mkNode_ends long (.inl isTcp)
  simp only [releaseEntry, findL2w, withKeys, varLan, protocol, lan, probeLan]

theorem findL2w_source_none (same : SameKeys table later) (laterInv : TableInv later) :
    findL2w later (probeLan (ipP buf) (endpoint buf .source)) = none ↔
      ¬PosesAsClient table buf := by
  constructor
  · intro nobody poses
    obtain ⟨ptr, member, protocol, lan⟩ := poses
    obtain ⟨sameProtocol, sameLan, -⟩ := same.ends member
    have found := (findL2w_eq_some laterInv).mpr
      ⟨(same.members ptr).mpr member, sameProtocol.trans protocol, sameLan.trans lan⟩
    rw [nobody] at found
    cases found
  · intro stranger
    cases found : findL2w later (probeLan (ipP buf) (endpoint buf .source)) with
    | none => rfl
    | some ptr =>
        obtain ⟨member, protocol, lan⟩ := (findL2w_eq_some laterInv).mp found
        have inTable := (same.members ptr).mp member
        obtain ⟨sameProtocol, sameLan, -⟩ := same.ends inTable
        exact absurd ⟨ptr, inTable, sameProtocol.symm.trans protocol, sameLan.symm.trans lan⟩
          stranger

end Guess

/-- What the sender makes of a released packet: the item for `h_recv` and the message. -/
def releaseMessage (table : Table) (buf : Buffer) (size : Nat) (origin : Origin) :
    Option (RecvItem × Message) :=
  match releaseEntry table .lan buf size with
  | some ptr => format table (.matched .lan buf size origin ptr)
  | none =>
      match releaseEntry table .wan buf size with
      | some ptr => format table (.matched .wan buf size origin ptr)
      | none => none

theorem releaseMessage_steps (settings : Settings) {state : State} {buf : Buffer} {size : Nat}
    {origin : Origin} {item : RecvItem} {message : Message} (running : state.status = .running)
    (formatting : state.sender = .formatting (.sendRel buf size origin))
    (made : releaseMessage state.table buf size origin = some (item, message)) :
    ∃ events, (∀ event ∈ events, event = Event.sender) ∧
      run (step settings) state events = some { state with sender := .pushing item message } := by
  have moves : ∀ {current next : State}, current.status = .running →
      senderStep settings current = some next → step settings current .sender = some next := by
    intro current next still stepped
    rw [step, still]
    exact stepped
  have prints : ∀ (rel : Side) (ptr : Ptr),
      format state.table (.matched rel buf size origin ptr) = some (item, message) →
      step settings { state with sender := .matched rel buf size origin ptr } .sender =
        some { state with sender := .pushing item message } := by
    intro rel ptr result
    cases result
    exact moves running rfl
  rw [releaseMessage] at made
  cases lan : releaseEntry state.table .lan buf size with
  | some ptr =>
      rw [lan] at made
      refine ⟨[.sender, .sender], by simp, ?_⟩
      have first : step settings state .sender =
          some { state with sender := .matched .lan buf size origin ptr } := by
        apply moves running
        rw [senderStep, formatting]
        simp only [lan]
      rw [run_step first, run_step (prints .lan ptr made), run]
  | none =>
      rw [lan] at made
      simp only at made
      cases wan : releaseEntry state.table .wan buf size with
      | none =>
          rw [wan] at made
          cases made
      | some ptr =>
          rw [wan] at made
          refine ⟨[.sender, .sender, .sender], by simp, ?_⟩
          have first : step settings state .sender =
              some { state with sender := .unmatched buf size origin } := by
            apply moves running
            rw [senderStep, formatting]
            simp only [lan]
          have second : step settings { state with sender := .unmatched buf size origin } .sender =
              some { state with sender := .matched .wan buf size origin ptr } := by
            refine @moves { state with sender := .unmatched buf size origin } _ running ?_
            rw [senderStep]
            simp only [wan]
          rw [run_step first, run_step second, run_step (prints .wan ptr made), run]

theorem releaseMessage_posing {later : Table} {buf : Buffer} {size : Nat} {origin : Origin}
    {ptr : Ptr} (found : releaseEntry later .lan buf size = some ptr) :
    releaseMessage later buf size origin =
      some (.release .lan buf size origin, .release (fieldsOf (later.heap ptr))) := by
  rw [releaseMessage, found]
  rfl

/-- The release for a reset segment names the segment's entry and side, except when
the segment came from the WAN with the LAN endpoint of an entry as its source. -/
theorem release_names_mapping (config : Alias.Config) (now : Int) (table later : Table)
    (bucket : IcmpBucket) (side : Side) (buf : Buffer) (size : Nat) (inv : TableInv table)
    (laterInv : TableInv later) (same : SameKeys table later)
    (reset : (aliasPacket config now table bucket side buf size).verdict = .resetTable) :
    ∃ ptr ∈ table.l2w, lookup table side buf = some ptr ∧
      ∀ origin, releaseMessage later (aliasPacket config now table bucket side buf size).buf size
          origin =
        some (.release side (aliasPacket config now table bucket side buf size).buf size origin,
          .release (fieldsOf (table.heap ptr))) ↔
        ¬(side = .wan ∧ PosesAsClient table buf) := by
  obtain ⟨ptr, -, tracked, -, -, -, unchanged⟩ := aliasPacket_resetTable config now bucket reset
  have member := tracked_member inv tracked
  have found := same.lookup_eq inv laterInv tracked.found
  have laterTracked : Tracked config later side buf size ptr :=
    { passes := tracked.passes, tcp := tracked.tcp, stranger := tracked.stranger, found := found }
  have named := fieldsOf_congr (same.mapping ptr member)
  have matched : releaseEntry later side buf size = some ptr :=
    @tracked_found config later buf size ⟨side, ptr⟩ laterTracked
  have stranger := @findL2w_source_none table later buf same laterInv
  rw [← releaseEntry_lan tracked.passes.long tracked.tcp] at stranger
  refine ⟨ptr, member, tracked.found, ?_⟩
  intro origin
  rw [unchanged, ← named]
  cases side with
  | lan =>
      have honest : ¬(Side.lan = .wan ∧ PosesAsClient table buf) := nofun
      simp only [releaseMessage_posing matched, honest, not_false_iff]
  | wan =>
      cases source : releaseEntry later .lan buf size with
      | none =>
          have honest := stranger.mp source
          simp only [releaseMessage, format, source, matched, honest, and_false, not_false_iff]
      | some client =>
          constructor
          · intro formatted
            rw [releaseMessage_posing source] at formatted
            cases formatted
          · intro honest
            have nobody := stranger.mpr (fun poses => honest ⟨rfl, poses⟩)
            rw [source] at nobody
            cases nobody

/-- 10.0.0.2 and 10.0.0.3, each with its port 80, share the address 198.51.100.7. -/
private def twoClients : Table :=
  let entry := fun (lan wan : Endpoint) =>
    ({ ctime := 0, atime := 0, flags := .established, timerFlags := .loop, protocol := 6
       wan := wan, lan := lan, l2wKey := packKey 6 lan, w2lKey := packKey 6 wan } : Node)
  { heap := fun ptr =>
      if ptr = 1 then entry { port := 0x5000, ip := 0x0200000A } { port := 0x0010, ip := 0x076433C6 }
      else entry { port := 0x5000, ip := 0x0300000A } { port := 0x0110, ip := 0x076433C6 }
    l2w := [1, 2], w2l := [1, 2] }

private theorem twoClients_inv : TableInv twoClients where
  sameNodes _ := Iff.rfl
  keyed := by decide
  distinctL2w := by
    change List.Nodup _
    decide
  distinctW2l := by
    change List.Nodup _
    decide

private def twoClientsConfig : Alias.Config :=
  { build := ⟨true, true, true, false⟩, optHostid := false, optNageteDf := false
    wanIfMtu := 1500, lanIfMtu := 1500, lanAddr := [0x0A000001], wanAddr := [0xC6336407]
    icmpWanAddr := 0 }

private def honestRst : Buffer :=
  [69, 0, 0, 40, 0, 1, 0, 0, 64, 6, 142, 139, 192, 0, 2, 9, 198, 51, 100, 7,
    0, 80, 16, 1, 0, 0, 0, 1, 0, 0, 0, 0, 80, 4, 32, 0, 147, 74, 0, 0]

private def forgedRst : Buffer :=
  [69, 0, 0, 40, 0, 1, 0, 0, 64, 6, 70, 147, 10, 0, 0, 2, 198, 51, 100, 7,
    0, 80, 16, 1, 0, 0, 0, 1, 0, 0, 0, 0, 80, 4, 32, 0, 75, 82, 0, 0]

theorem release_names_mapping_honest :
    ∃ ptr ∈ twoClients.l2w, lookup twoClients .wan honestRst = some ptr ∧
      ∀ origin, releaseMessage twoClients
          (aliasPacket twoClientsConfig 7 twoClients ⟨0, 0⟩ .wan honestRst 40).buf 40 origin =
        some (.release .wan
            (aliasPacket twoClientsConfig 7 twoClients ⟨0, 0⟩ .wan honestRst 40).buf 40 origin,
          .release (fieldsOf (twoClients.heap ptr))) ↔
        ¬(Side.wan = .wan ∧ PosesAsClient twoClients honestRst) :=
  release_names_mapping twoClientsConfig 7 twoClients twoClients ⟨0, 0⟩ .wan honestRst 40
    twoClients_inv twoClients_inv ⟨fun _ => Iff.rfl, fun _ _ => rfl⟩ (by decide)

/-- The forged segment resets the second client's entry; its release names the
first client's and calls it a packet from the LAN. -/
theorem forged_reset_names_other_mapping :
    let reset := aliasPacket twoClientsConfig 7 twoClients ⟨0, 0⟩ .wan forgedRst 40
    reset.verdict = .resetTable ∧ lookup twoClients .wan forgedRst = some 2 ∧
      (reset.table.heap 2).flags = .reset ∧
      fieldsOf (twoClients.heap 1) ≠ fieldsOf (twoClients.heap 2) ∧
      ∀ origin, releaseMessage reset.table reset.buf 40 origin =
        some (.release .lan reset.buf 40 origin, .release (fieldsOf (twoClients.heap 1))) := by
  intro reset
  have source : releaseEntry reset.table .lan reset.buf 40 = some 1 := by decide
  refine ⟨by decide, by decide, by decide, by decide, ?_⟩
  intro origin
  rw [releaseMessage_posing source]
  rfl

end System
end NatPorte
