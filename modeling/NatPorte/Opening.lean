/-
Opening segments without an entry.

`lan2wan_alias` compares the whole flag byte with `TH_SYN` where the tracker looks
at single bits.  A SYN that carries any other bit is therefore not an opening one.
-/

import NatPorte.Refusals

namespace NatPorte
namespace Opening

open TcpState Structure Packet Checksum Alias Tracking Refusals

/-- TH_PUSH, TH_URG, TH_ECE and TH_CWR, which say nothing about opening. -/
def thOthers : BitVec 8 := 0xE8

/-- SYN without ACK, RST and FIN, whatever the other flags. -/
def Opens (pflag : BitVec 8) : Prop :=
  anyOf pflag thSyn = true ∧ anyOf pflag (thAck ||| thRst ||| thFin) = false

instance (pflag : BitVec 8) : Decidable (Opens pflag) := inferInstanceAs (Decidable (_ ∧ _))

def NoEntry (table : Table) (buf : Buffer) : Prop :=
  ∀ ptr ∈ table.l2w, (table.heap ptr).protocol = ipprotoTcp →
    (table.heap ptr).lan ≠ endpoint buf .source

/-- An opening segment that passes every check before the table. -/
structure Admitted (config : Config) (buf : Buffer) (size : Nat) : Prop where
  packet : TransportPacket buf size
  opens : Opens (thFlags buf)
  passes : Passes config .lan buf size
  stranger : chkSelfaddr config (ipDst buf) .lan2wan = false

/-- The caller is asked for a mapping and still has the segment. -/
structure Asks (table : Table) (bucket : IcmpBucket) (buf : Buffer) (outcome : Outcome) :
    Prop where
  verdict : outcome.verdict = .noTable
  untouched : Untouched table bucket buf outcome

theorem opens_plain (pflag : BitVec 8) :
    pflag = thSyn ↔ Opens pflag ∧ anyOf pflag thOthers = false := by
  unfold Opens
  revert pflag
  decide

section Segment

variable {config : Config} {now : Int} {table : Table} {bucket : IcmpBucket} {buf : Buffer}
  {size : Nat}

theorem noEntry_iff (inv : TableInv table) (tcp : ipP buf = ipprotoTcp) :
    NoEntry table buf ↔ findL2w table (probeLan (ipP buf) (endpoint buf .source)) = none := by
  rw [tcp]
  constructor
  · intro missing
    cases found : findL2w table (probeLan ipprotoTcp (endpoint buf .source)) with
    | none => rfl
    | some ptr =>
        obtain ⟨member, protocol, lan⟩ := (findL2w_eq_some inv).mp found
        exact absurd lan (missing ptr member protocol)
  · intro missing ptr member protocol lan
    have found := (findL2w_eq_some inv).mpr ⟨member, protocol, lan⟩
    rw [missing] at found
    cases found

theorem lan2wanTcp_missing (stranger : chkSelfaddr config (ipDst buf) .lan2wan = false)
    (missing : findL2w table (probeLan (ipP buf) (endpoint buf .source)) = none) :
    lan2wanTcp config now table bucket buf size =
      { verdict := if thFlags buf = thSyn then .noTable else .dodrop, table := table
        bucket := bucket, buf := buf } := by
  unfold lan2wanTcp
  simp only [stranger, Bool.false_eq_true, if_false, missing]
  split <;> rfl

theorem lan2wanAlias_asks (tcp : ipP buf = ipprotoTcp)
    (missing : findL2w table (probeLan (ipP buf) (endpoint buf .source)) = none)
    (asks : (lan2wanAlias config now table bucket buf size).verdict = .noTable) :
    thFlags buf = thSyn := by
  unfold lan2wanAlias at asks
  rcases dispatch_split config table bucket buf size .lan
      (lan2wanTcp config now table bucket buf size) (lan2wanUdp config now table bucket buf size)
      (lan2wanIcmp config table bucket buf) with
    ⟨verdict, stops, result⟩ | ⟨-, ⟨-, result⟩ | ⟨udp, -⟩ | ⟨icmp, -⟩⟩
  · change (dispatch config table bucket buf size .lan2wan _ _ _) = _ at result
    rw [result] at asks
    exact absurd asks (stops.ne (by simp [Verdict.Stops]))
  · change (dispatch config table bucket buf size .lan2wan _ _ _) = _ at result
    rw [result] at asks
    cases self : chkSelfaddr config (ipDst buf) .lan2wan with
    | true =>
        unfold lan2wanTcp at asks
        simp only [self, if_true] at asks
        cases asks
    | false =>
        rw [lan2wanTcp_missing self missing] at asks
        by_cases plain : thFlags buf = thSyn
        · exact plain
        · rw [if_neg plain] at asks
          cases asks
  · rw [tcp] at udp
    cases udp
  · rw [tcp] at icmp
    cases icmp

theorem lan2wanAlias_opening (tcp : ipP buf = ipprotoTcp)
    (missing : findL2w table (probeLan (ipP buf) (endpoint buf .source)) = none)
    (admitted : Admitted config buf size) (plain : thFlags buf = thSyn) :
    Asks table bucket buf (lan2wanAlias config now table bucket buf size) := by
  have branch : lan2wanAlias config now table bucket buf size =
      lan2wanTcp config now table bucket buf size :=
    dispatch_passes config table bucket buf size .lan admitted.passes tcp _ _ _
  rw [branch, lan2wanTcp_missing admitted.stranger missing, if_pos plain]
  exact ⟨rfl, rfl, rfl, rfl⟩

end Segment

/-- For a source without an entry: an opening segment asks for one exactly when none of
its irrelevant flags is set, and no segment without SYN ever does. -/
theorem opening_asks_iff (config : Config) (now : Int) (table : Table) (bucket : IcmpBucket)
    (buf : Buffer) (size : Nat) (inv : TableInv table) (tcp : ipP buf = ipprotoTcp)
    (noEntry : NoEntry table buf) :
    ((Admitted config buf size →
        Asks table bucket buf (lan2wanAlias config now table bucket buf size)) ∧
      (anyOf (thFlags buf) thSyn = false →
        (lan2wanAlias config now table bucket buf size).verdict ≠ .noTable)) ↔
      (Admitted config buf size → anyOf (thFlags buf) thOthers = false) := by
  have missing := (noEntry_iff inv tcp).mp noEntry
  constructor
  · intro ⟨opens, _⟩ admitted
    have plain := lan2wanAlias_asks tcp missing (opens admitted).verdict
    exact ((opens_plain _).mp plain).2
  · intro others
    constructor
    · intro admitted
      have plain := (opens_plain (thFlags buf)).mpr ⟨admitted.opens, others admitted⟩
      exact lan2wanAlias_opening tcp missing admitted plain
    · intro notSyn asks
      have plain := lan2wanAlias_asks tcp missing asks
      rw [plain] at notSyn
      cases notSyn

private def askingConfig : Config :=
  { build := ⟨true, true, true, false⟩, optHostid := false, optNageteDf := false
    wanIfMtu := 1500, lanIfMtu := 1500, lanAddr := [0x0A0000FF, 0x0A000001]
    wanAddr := [0xC63364FF, 0xC6336407], icmpWanAddr := 0x076433C6 }

private def noEntries : Table :=
  { heap := fun _ =>
      { ctime := 0, atime := 0, flags := .closed, timerFlags := .loop, protocol := 0
        wan := { port := 0, ip := 0 }, lan := { port := 0, ip := 0 }, l2wKey := 0, w2lKey := 0 }
    l2w := [], w2l := [] }

private theorem noEntries_inv : TableInv noEntries where
  sameNodes _ := Iff.rfl
  keyed := by decide
  distinctL2w := by
    unfold KeyedSet.DistinctKeys
    decide
  distinctW2l := by
    unfold KeyedSet.DistinctKeys
    decide

private def opener (pflag : BitVec 8) : Buffer :=
  [69, 0, 0, 40, 0, 1, 64, 0, 64, 6, 0, 0, 10, 0, 0, 2, 203, 0, 113, 5,
    16, 1, 0, 80, 0, 0, 0, 1, 0, 0, 0, 0, 80, pflag, 255, 255, 0, 0, 0, 0]

private theorem opener_admitted : Admitted askingConfig (opener 0xC2) 40 where
  packet := ⟨by decide, by decide, by decide, by decide⟩
  opens := by decide
  passes := ⟨by decide, by decide, by decide, by decide⟩
  stranger := by decide

theorem opening_asks_iff_syn :
    Asks noEntries ⟨0, 0⟩ (opener 2)
      (lan2wanAlias askingConfig 7 noEntries ⟨0, 0⟩ (opener 2) 40) := by
  have settled := opening_asks_iff askingConfig 7 noEntries ⟨0, 0⟩ (opener 2) 40 noEntries_inv
    (by decide) (by unfold NoEntry; decide)
  refine (settled.mpr (fun _ => by decide)).1 ?_
  exact ⟨⟨by decide, by decide, by decide, by decide⟩, by decide,
    ⟨by decide, by decide, by decide, by decide⟩, by decide⟩

/-- The SYN that offers ECN is dropped. -/
theorem ecn_syn_dropped :
    ¬∀ (config : Config) (now : Int) (table : Table) (bucket : IcmpBucket) (buf : Buffer)
        (size : Nat), TableInv table → ipP buf = ipprotoTcp → NoEntry table buf →
      (Admitted config buf size →
        Asks table bucket buf (lan2wanAlias config now table bucket buf size)) ∧
      (anyOf (thFlags buf) thSyn = false →
        (lan2wanAlias config now table bucket buf size).verdict ≠ .noTable) := by
  intro claimed
  have asks := (claimed askingConfig 7 noEntries ⟨0, 0⟩ (opener 0xC2) 40 noEntries_inv (by decide)
    (by unfold NoEntry; decide)).1 opener_admitted
  have verdict := asks.verdict
  revert verdict
  decide

end Opening
end NatPorte
