/-
Packets that reach the tracker of an entry.

The threads around the table see only a verdict.  This module says which packets
get as far as the tracker, that such a packet gets there again as long as its
entry is in the table, and that every other packet leaves all tracker states
alone and asks for no release.
-/

import NatPorte.Alias

namespace NatPorte
namespace Tracking

open TcpState Structure Packet Checksum Alias

def aliasPacket (config : Config) (now : Int) (table : Table) (bucket : IcmpBucket) (side : Side)
    (buf : Buffer) (size : Nat) : Outcome :=
  match side with
  | .lan => lan2wanAlias config now table bucket buf size
  | .wan => wan2lanAlias config now table bucket buf size

theorem aliasPacket_same (config : Config) (now : Int) (table : Table) (bucket : IcmpBucket)
    (side : Side) (buf : Buffer) (size : Nat) :
    SameMappings table (aliasPacket config now table bucket side buf size).table := by
  cases side with
  | lan => exact lan2wanAlias_same config now table bucket buf size
  | wan => exact wan2lanAlias_same config now table bucket buf size

/-- The entry a packet from one interface resolves to. -/
def lookup (table : Table) (side : Side) (buf : Buffer) : Option Ptr :=
  match side with
  | .lan => findL2w table (probeLan (ipP buf) (endpoint buf .source))
  | .wan => findW2l table (probeWan (ipP buf) (endpoint buf .destination))

/-- What the two functions answer to a segment the tracker does not understand. -/
def onUnknown : Side → Verdict
  | .lan => .resetTable
  | .wan => .dodrop

/-- The checks that come before the protocol switch. -/
structure Passes (config : Config) (side : Side) (buf : Buffer) (size : Nat) : Prop where
  long : aliasMinSize < size
  version : ipV buf = 4
  accepted : chkDrop (ipSrc buf) (ipDst buf) side.direction = false
  fits : isTooBig config buf size side.direction = false

instance (config : Config) (side : Side) (buf : Buffer) (size : Nat) :
    Decidable (Passes config side buf size) :=
  decidable_of_iff
    (aliasMinSize < size ∧ ipV buf = 4 ∧
      chkDrop (ipSrc buf) (ipDst buf) side.direction = false ∧
      isTooBig config buf size side.direction = false)
    ⟨fun ⟨long, version, accepted, fits⟩ => ⟨long, version, accepted, fits⟩,
      fun passes => ⟨passes.long, passes.version, passes.accepted, passes.fits⟩⟩

structure Tracked (config : Config) (table : Table) (side : Side) (buf : Buffer) (size : Nat)
    (ptr : Ptr) : Prop where
  passes : Passes config side buf size
  tcp : ipP buf = ipprotoTcp
  stranger : side = .lan → chkSelfaddr config (ipDst buf) .lan2wan = false
  found : lookup table side buf = some ptr

/-- No release is asked for and no tracker state moves. -/
structure Quiet (table : Table) (outcome : Outcome) : Prop where
  notReset : outcome.verdict ≠ .resetTable
  notDel : outcome.verdict ≠ .delTable
  flags : ∀ ptr, (outcome.table.heap ptr).flags = (table.heap ptr).flags

@[simp] theorem attach_flags (table : Table) (now : Int) (ptr other : Ptr) :
    ((attach table now ptr).heap other).flags = (table.heap other).flags := by
  by_cases same : other = ptr
  · subst same
    rw [attach, Table.store_heap_self]
  · rw [attach, table.store_heap_other ptr other _ same]

@[simp] theorem setFlags_flags_self (table : Table) (ptr : Ptr) (flags : TcpFlag) :
    ((setFlags table ptr flags).heap ptr).flags = flags := by
  rw [setFlags, Table.store_heap_self]

theorem setFlags_flags_other (table : Table) {ptr other : Ptr} (flags : TcpFlag)
    (different : other ≠ ptr) :
    ((setFlags table ptr flags).heap other).flags = (table.heap other).flags := by
  rw [setFlags, table.store_heap_other ptr other _ different]

section Quiet

variable (config : Config) (now : Int) (table : Table) (bucket : IcmpBucket) (buf : Buffer)
  (size : Nat)

theorem Verdict.Stops.quiet {verdict : Verdict} (stops : verdict.Stops) :
    Quiet table { verdict := verdict, table := table, bucket := bucket, buf := buf } :=
  ⟨stops.ne (by decide), stops.ne (by decide), fun _ => rfl⟩

theorem wan2lanMissing_quiet : Quiet table (wan2lanMissing config table bucket buf) := by
  rw [wan2lanMissing]
  refine ⟨?_, ?_, fun _ => rfl⟩
  · split <;> simp
  · split <;> simp

theorem wan2lanUdp_quiet : Quiet table (wan2lanUdp config now table bucket buf size) := by
  rw [wan2lanUdp]
  split
  · exact wan2lanMissing_quiet config table bucket buf
  · exact ⟨by simp, by simp, attach_flags table now _⟩

theorem wan2lanQuoted_quiet (protocol : BitVec 8) :
    Quiet table (wan2lanQuoted config now table bucket buf size protocol) := by
  simp only [wan2lanQuoted]
  split
  · exact wan2lanMissing_quiet config table bucket buf
  · split
    · exact ⟨by simp, by simp, attach_flags table now _⟩
    · exact ⟨by simp, by simp, fun _ => rfl⟩

theorem wan2lanIcmp_quiet : Quiet table (wan2lanIcmp config now table bucket buf size) := by
  simp only [wan2lanIcmp]
  repeat' split
  all_goals first
    | exact ⟨by simp, by simp, fun _ => rfl⟩
    | exact wan2lanQuoted_quiet config now table bucket buf size _

theorem lan2wanIcmp_quiet : Quiet table (lan2wanIcmp config table bucket buf) := by
  simp only [lan2wanIcmp]
  repeat' split
  all_goals exact ⟨by simp, by simp, fun _ => rfl⟩

theorem wan2lanAlias_quiet (notTcp : ipP buf ≠ ipprotoTcp) :
    Quiet table (wan2lanAlias config now table bucket buf size) := by
  rw [wan2lanAlias]
  rcases dispatch_cases config table bucket buf size .wan2lan _ _ _ with
    ⟨verdict, stops, result⟩ | ⟨isTcp, -⟩ | ⟨-, result⟩ | ⟨-, result⟩
  · rw [result]
    exact Verdict.Stops.quiet table bucket buf stops
  · exact absurd isTcp notTcp
  · rw [result]
    exact wan2lanUdp_quiet config now table bucket buf size
  · rw [result]
    exact wan2lanIcmp_quiet config now table bucket buf size

theorem lan2wanUdp_quiet (notTcp : ipP buf ≠ ipprotoTcp) :
    Quiet table (lan2wanUdp config now table bucket buf size) := by
  have hairpin := wan2lanAlias_quiet config now table bucket buf size notTcp
  simp only [lan2wanUdp]
  split
  · split
    · exact ⟨by simp, by simp, hairpin.flags⟩
    · split
      · exact ⟨by simp, by simp, hairpin.flags⟩
      · refine ⟨by simp, by simp, fun other => ?_⟩
        rw [attach_flags]
        exact hairpin.flags other
  · split
    · exact ⟨by simp, by simp, fun _ => rfl⟩
    · exact ⟨by simp, by simp, attach_flags table now _⟩

end Quiet

section Packets

variable (config : Config) (now : Int) (table : Table) (bucket : IcmpBucket) (buf : Buffer)
  (size : Nat) (side : Side)

/-- `dispatch` with the checks that the packet passed. -/
theorem dispatch_split (tcp udp icmp : Outcome) :
    (∃ verdict : Verdict, verdict.Stops ∧
      dispatch config table bucket buf size side.direction tcp udp icmp =
        { verdict := verdict, table := table, bucket := bucket, buf := buf }) ∨
    Passes config side buf size ∧
      (ipP buf = ipprotoTcp ∧ dispatch config table bucket buf size side.direction tcp udp icmp = tcp ∨
      ipP buf = ipprotoUdp ∧ dispatch config table bucket buf size side.direction tcp udp icmp = udp ∨
      ipP buf = ipprotoIcmp ∧
        dispatch config table bucket buf size side.direction tcp udp icmp = icmp) := by
  by_cases passes : Passes config side buf size
  · rcases dispatch_cases config table bucket buf size side.direction tcp udp icmp with
      stopped | branch
    · exact .inl stopped
    · exact .inr ⟨passes, branch⟩
  · refine .inl ?_
    simp only [dispatch]
    split
    · exact ⟨_, .inl rfl, rfl⟩
    · next long =>
        split
        · exact ⟨_, .inr (.inl rfl), rfl⟩
        · next version =>
            split
            · exact ⟨_, .inr (.inl rfl), rfl⟩
            · next accepted =>
                split
                · exact ⟨_, .inr (.inr (.inl rfl)), rfl⟩
                · next fits =>
                    exact absurd ⟨Nat.lt_of_not_le long, Decidable.not_not.mp version,
                      Bool.eq_false_iff.mpr accepted, Bool.eq_false_iff.mpr fits⟩ passes

theorem passes_of_goesOn {tcp udp icmp : Outcome} {verdict : Verdict} (goesOn : ¬verdict.Stops)
    (answer : (dispatch config table bucket buf size side.direction tcp udp icmp).verdict = verdict) :
    Passes config side buf size := by
  rcases dispatch_split config table bucket buf size side tcp udp icmp with
    ⟨stopped, stops, result⟩ | ⟨passes, -⟩
  · rw [result] at answer
    exact absurd answer (stops.ne goesOn)
  · exact passes

theorem dispatch_accepted (passes : Passes config side buf size) (tcp udp icmp : Outcome) :
    dispatch config table bucket buf size side.direction tcp udp icmp =
      if ipP buf = ipprotoTcp then tcp
      else if ipP buf = ipprotoUdp then udp
      else if ipP buf = ipprotoIcmp then icmp
      else { verdict := .notSupport, table := table, bucket := bucket, buf := buf } := by
  have long : ¬size ≤ aliasMinSize := Nat.not_le_of_lt passes.long
  simp only [dispatch, if_neg long, passes.version, passes.accepted, passes.fits, ne_eq,
    not_true_eq_false, if_false, Bool.false_eq_true]

theorem dispatch_passes (passes : Passes config side buf size) (isTcp : ipP buf = ipprotoTcp)
    (tcp udp icmp : Outcome) :
    dispatch config table bucket buf size side.direction tcp udp icmp = tcp := by
  rw [dispatch_accepted config table bucket buf size side passes, if_pos isTcp]

theorem dispatch_udp (passes : Passes config side buf size) (isUdp : ipP buf = ipprotoUdp)
    (tcp udp icmp : Outcome) :
    dispatch config table bucket buf size side.direction tcp udp icmp = udp := by
  have notTcp : ¬ipprotoUdp = ipprotoTcp := by decide
  rw [dispatch_accepted config table bucket buf size side passes, isUdp, if_neg notTcp, if_pos rfl]

/-- The packet as the entry at `ptr` translates it. -/
def forwarded (ptr : Ptr) : Buffer :=
  match side with
  | .lan => toWan config table ptr buf size
  | .wan => toLan config table ptr buf size

/-- ... in the branches that identify the host on the way out. -/
def forwardedHostid (ptr : Ptr) : Buffer :=
  match side with
  | .lan => toWanHostid config table ptr buf size
  | .wan => toLan config table ptr buf size

theorem aliasPacket_tracked_eq {ptr : Ptr} (tracked : Tracked config table side buf size ptr) :
    aliasPacket config now table bucket side buf size =
      tcpEntry config now table bucket buf ptr side.direction (onUnknown side)
        (forwarded config table buf size side ptr) (forwardedHostid config table buf size side ptr) := by
  have found := tracked.found
  cases side with
  | lan =>
      change lan2wanAlias config now table bucket buf size = _
      unfold lan2wanAlias
      refine (dispatch_passes config table bucket buf size .lan tracked.passes tracked.tcp
        _ _ _).trans ?_
      rw [lookup] at found
      simp only [lan2wanTcp, tracked.stranger rfl, found]
      rfl
  | wan =>
      change wan2lanAlias config now table bucket buf size = _
      unfold wan2lanAlias
      refine (dispatch_passes config table bucket buf size .wan tracked.passes tracked.tcp
        _ _ _).trans ?_
      rw [lookup] at found
      simp only [wan2lanTcp, found]
      rfl

theorem aliasPacket_tracked {ptr : Ptr} (tracked : Tracked config table side buf size ptr) :
    ∃ translated ordinary, aliasPacket config now table bucket side buf size =
      tcpEntry config now table bucket buf ptr side.direction (onUnknown side) translated
        ordinary :=
  ⟨_, _, aliasPacket_tracked_eq config now table bucket buf size side tracked⟩

theorem quiet_or_tcp {tcp udp icmp : Outcome} (udpQuiet : ipP buf ≠ ipprotoTcp → Quiet table udp)
    (icmpQuiet : Quiet table icmp) :
    Quiet table (dispatch config table bucket buf size side.direction tcp udp icmp) ∨
      Passes config side buf size ∧ ipP buf = ipprotoTcp ∧
        dispatch config table bucket buf size side.direction tcp udp icmp = tcp := by
  rcases dispatch_split config table bucket buf size side tcp udp icmp with
    ⟨verdict, stops, result⟩ | ⟨passes, ⟨isTcp, result⟩ | ⟨isUdp, result⟩ | ⟨-, result⟩⟩
  · rw [result]
    exact .inl (Verdict.Stops.quiet table bucket buf stops)
  · exact .inr ⟨passes, isTcp, result⟩
  · rw [result]
    refine .inl (udpQuiet ?_)
    rw [isUdp]
    decide
  · rw [result]
    exact .inl icmpQuiet

theorem aliasPacket_cases :
    (∃ ptr, Tracked config table side buf size ptr) ∨
      Quiet table (aliasPacket config now table bucket side buf size) := by
  cases side with
  | lan =>
      rcases quiet_or_tcp config table bucket buf size .lan
        (lan2wanUdp_quiet config now table bucket buf size)
        (lan2wanIcmp_quiet config table bucket buf) with quiet | ⟨passes, isTcp, result⟩
      · exact .inr quiet
      change _ ∨ Quiet table (dispatch config table bucket buf size Side.lan.direction
        (lan2wanTcp config now table bucket buf size) _ _)
      rw [result]
      cases selfaddr : chkSelfaddr config (ipDst buf) .lan2wan with
      | true =>
          simp only [lan2wanTcp, selfaddr, if_true]
          exact .inr ⟨by simp, by simp, fun _ => rfl⟩
      | false =>
          cases found : findL2w table (probeLan (ipP buf) (endpoint buf .source)) with
          | some ptr => exact .inl ⟨ptr, passes, isTcp, fun _ => selfaddr, found⟩
          | none =>
              simp only [lan2wanTcp, selfaddr, Bool.false_eq_true, if_false, found]
              refine .inr ?_
              split <;> exact ⟨by simp, by simp, fun _ => rfl⟩
  | wan =>
      rcases quiet_or_tcp config table bucket buf size .wan
        (fun _ => wan2lanUdp_quiet config now table bucket buf size)
        (wan2lanIcmp_quiet config now table bucket buf size) with quiet | ⟨passes, isTcp, result⟩
      · exact .inr quiet
      change _ ∨ Quiet table (dispatch config table bucket buf size Side.wan.direction
        (wan2lanTcp config now table bucket buf size) _ _)
      rw [result]
      cases found : findW2l table (probeWan (ipP buf) (endpoint buf .destination)) with
      | some ptr => exact .inl ⟨ptr, passes, isTcp, by simp, found⟩
      | none =>
          simp only [wan2lanTcp, found]
          exact .inr (wan2lanMissing_quiet config table bucket buf)

end Packets

section Effects

variable (config : Config) (now : Int) {table : Table} (bucket : IcmpBucket) {buf : Buffer}
  {size : Nat} {side : Side}

theorem tcpEntry_flags_other (ptr : Ptr) (direction : AliasFrom) (onUnknown : Verdict)
    (translated ordinary : Buffer) {other : Ptr} (different : other ≠ ptr) :
    ((tcpEntry config now table bucket buf ptr direction onUnknown translated ordinary).table.heap
      other).flags = (table.heap other).flags := by
  have taken := tcpEntry_case config now table bucket buf ptr direction onUnknown translated
    ordinary
  generalize tcpEntry config now table bucket buf ptr direction onUnknown translated ordinary =
    outcome at taken ⊢
  cases taken with
  | settled => exact attach_flags table now ptr other
  | waiting =>
      rw [attach_flags]
      exact setFlags_flags_other table _ different
  | closing => exact setFlags_flags_other table _ different
  | reset => exact setFlags_flags_other table _ different
  | unknown => exact setFlags_flags_other table _ different
  | ordinary =>
      rw [attach_flags]
      exact setFlags_flags_other table _ different

theorem tcpEntry_settled {ptr : Ptr} {direction : AliasFrom} (onUnknown : Verdict)
    (translated ordinary : Buffer)
    (settled : (table.heap ptr).flags = .closed ∨ (table.heap ptr).flags = .reset) :
    ((tcpEntry config now table bucket buf ptr direction onUnknown translated ordinary).table.heap
      ptr).flags = (table.heap ptr).flags := by
  have taken := tcpEntry_case config now table bucket buf ptr direction onUnknown translated
    ordinary
  generalize tcpEntry config now table bucket buf ptr direction onUnknown translated ordinary =
    outcome at taken ⊢
  cases taken with
  | settled => exact attach_flags table now ptr ptr
  | waiting live => exact absurd settled (not_or.mpr live)
  | closing live => exact absurd settled (not_or.mpr live)
  | reset live => exact absurd settled (not_or.mpr live)
  | unknown live => exact absurd settled (not_or.mpr live)
  | ordinary live => exact absurd settled (not_or.mpr live)

theorem aliasPacket_settled {ptr : Ptr}
    (settled : (table.heap ptr).flags = .closed ∨ (table.heap ptr).flags = .reset) :
    ((aliasPacket config now table bucket side buf size).table.heap ptr).flags =
      (table.heap ptr).flags := by
  rcases aliasPacket_cases config now table bucket buf size side with ⟨owner, tracked⟩ | quiet
  · obtain ⟨translated, ordinary, result⟩ := aliasPacket_tracked config now table bucket buf size
      side tracked
    rw [result]
    by_cases same : ptr = owner
    · subst same
      exact tcpEntry_settled config now bucket (onUnknown side) translated ordinary settled
    · exact tcpEntry_flags_other config now bucket owner _ _ _ _ same
  · exact quiet.flags ptr

theorem aliasPacket_settled_doalias {ptr : Ptr} (tracked : Tracked config table side buf size ptr)
    (settled : (table.heap ptr).flags = .closed ∨ (table.heap ptr).flags = .reset) :
    (aliasPacket config now table bucket side buf size).verdict = .doalias := by
  obtain ⟨translated, ordinary, result⟩ := aliasPacket_tracked config now table bucket buf size
    side tracked
  rw [result]
  have taken := tcpEntry_case config now table bucket buf ptr side.direction (onUnknown side)
    translated ordinary
  generalize tcpEntry config now table bucket buf ptr side.direction (onUnknown side)
    translated ordinary = outcome at taken ⊢
  cases taken with
  | settled => rfl
  | waiting live => exact absurd settled (not_or.mpr live)
  | closing live => exact absurd settled (not_or.mpr live)
  | reset live => exact absurd settled (not_or.mpr live)
  | unknown live => exact absurd settled (not_or.mpr live)
  | ordinary live => exact absurd settled (not_or.mpr live)

/-- The tracker state that a segment moves a live entry to. -/
structure Moves (table : Table) (outcome : Outcome) (ptr : Ptr) (flags : TcpFlag) : Prop where
  live : (table.heap ptr).flags ≠ .closed ∧ (table.heap ptr).flags ≠ .reset
  moved : (outcome.table.heap ptr).flags = flags

theorem aliasPacket_resetTable
    (verdict : (aliasPacket config now table bucket side buf size).verdict = .resetTable) :
    ∃ ptr flags, Tracked config table side buf size ptr ∧
      flags = tcpStateCheck (table.heap ptr).flags (thFlags buf) side.direction ∧
      Moves table (aliasPacket config now table bucket side buf size) ptr flags ∧
      (flags = .reset ∨ flags = .unknown ∧ side = .lan) ∧
      (aliasPacket config now table bucket side buf size).buf = buf := by
  rcases aliasPacket_cases config now table bucket buf size side with ⟨ptr, tracked⟩ | quiet
  · obtain ⟨translated, ordinary, result⟩ := aliasPacket_tracked config now table bucket buf size
      side tracked
    rw [result] at verdict ⊢
    have taken := tcpEntry_case config now table bucket buf ptr side.direction (onUnknown side)
      translated ordinary
    generalize tcpEntry config now table bucket buf ptr side.direction (onUnknown side)
      translated ordinary = outcome at taken verdict ⊢
    have checked : (table.heap ptr).flags ≠ .closed ∧ (table.heap ptr).flags ≠ .reset →
        nextFlags (table.heap ptr).flags (thFlags buf) side.direction =
          tcpStateCheck (table.heap ptr).flags (thFlags buf) side.direction := by
      intro live
      rw [nextFlags, if_neg live.1, if_neg live.2]
    cases taken with
    | settled => cases verdict
    | waiting => cases verdict
    | closing => cases verdict
    | reset live isReset =>
        exact ⟨ptr, _, tracked, rfl, ⟨live, (setFlags_flags_self table ptr _).trans (checked live)⟩,
          .inl ((checked live).symm.trans isReset), rfl⟩
    | unknown live lost =>
        have fromLan : side = .lan := by
          cases side with
          | lan => rfl
          | wan => cases verdict
        exact ⟨ptr, _, tracked, rfl, ⟨live, (setFlags_flags_self table ptr _).trans (checked live)⟩,
          .inr ⟨(checked live).symm.trans lost, fromLan⟩, rfl⟩
    | ordinary => cases verdict
  · exact absurd verdict quiet.notReset

theorem aliasPacket_delTable
    (verdict : (aliasPacket config now table bucket side buf size).verdict = .delTable) :
    ∃ ptr, Tracked config table side buf size ptr ∧
      tcpStateCheck (table.heap ptr).flags (thFlags buf) side.direction = .closed ∧
      Moves table (aliasPacket config now table bucket side buf size) ptr .closed ∧
      (config.build.waitTimeDelete = false →
        (aliasPacket config now table bucket side buf size).buf = buf) := by
  rcases aliasPacket_cases config now table bucket buf size side with ⟨ptr, tracked⟩ | quiet
  · obtain ⟨translated, ordinary, result⟩ := aliasPacket_tracked config now table bucket buf size
      side tracked
    rw [result] at verdict ⊢
    have taken := tcpEntry_case config now table bucket buf ptr side.direction (onUnknown side)
      translated ordinary
    generalize tcpEntry config now table bucket buf ptr side.direction (onUnknown side)
      translated ordinary = outcome at taken verdict ⊢
    have checked : (table.heap ptr).flags ≠ .closed ∧ (table.heap ptr).flags ≠ .reset →
        tcpStateCheck (table.heap ptr).flags (thFlags buf) side.direction =
          nextFlags (table.heap ptr).flags (thFlags buf) side.direction := by
      intro live
      rw [nextFlags, if_neg live.1, if_neg live.2]
    cases taken with
    | settled => cases verdict
    | waiting live closed wait =>
        refine ⟨ptr, tracked, (checked live).trans closed, ⟨live, ?_⟩, ?_⟩
        · rw [attach_flags, setFlags_flags_self, closed]
        · intro noWait
          rw [wait] at noWait
          cases noWait
    | closing live closed =>
        refine ⟨ptr, tracked, (checked live).trans closed, ⟨live, ?_⟩, fun _ => rfl⟩
        rw [setFlags_flags_self, closed]
    | reset => cases verdict
    | unknown =>
        cases side with
        | lan => cases verdict
        | wan => cases verdict
    | ordinary => cases verdict
  · exact absurd verdict quiet.notDel

/-- A packet that asks for an entry can still be read by `mk_node`. -/
theorem lan2wanAlias_noTable
    (formed : ipP buf = ipprotoTcp ∨ ipP buf = ipprotoUdp → TransportPacket buf size)
    (verdict : (lan2wanAlias config now table bucket buf size).verdict = .noTable) :
    TransportPacket (lan2wanAlias config now table bucket buf size).buf size := by
  rw [lan2wanAlias] at verdict ⊢
  rcases dispatch_cases config table bucket buf size .lan2wan
    (lan2wanTcp config now table bucket buf size) (lan2wanUdp config now table bucket buf size)
    (lan2wanIcmp config table bucket buf) with
    ⟨stopped, stops, result⟩ | ⟨isTcp, result⟩ | ⟨isUdp, result⟩ | ⟨-, result⟩
  · rw [result] at verdict
    exact absurd verdict (stops.ne (by decide))
  · have packet := formed (.inl isTcp)
    rw [result] at verdict ⊢
    simp only [lan2wanTcp] at verdict ⊢
    split at verdict
    · cases verdict
    · next notSelf =>
        rw [if_neg notSelf]
        cases found : findL2w table (probeLan (ipP buf) (endpoint buf .source)) with
        | none =>
            simp only
            split <;> exact packet
        | some ptr =>
            rw [found] at verdict
            have taken := tcpEntry_case config now table bucket buf ptr .lan2wan .resetTable
              (toWan config table ptr buf size) (toWanHostid config table ptr buf size)
            simp only at verdict
            generalize tcpEntry config now table bucket buf ptr .lan2wan .resetTable
              (toWan config table ptr buf size) (toWanHostid config table ptr buf size) =
                outcome at taken verdict
            cases taken <;> cases verdict
  · have packet := formed (.inr isUdp)
    rw [result] at verdict ⊢
    simp only [lan2wanUdp] at verdict ⊢
    split at verdict
    · next toMe =>
        rw [if_pos toMe]
        split at verdict
        · cases verdict
        · next hairpin =>
            rw [if_neg hairpin]
            have doalias := Decidable.not_not.mp hairpin
            obtain ⟨ptr, -, rewritten⟩ := wan2lanAlias_doalias config now table bucket buf size
              packet doalias
            cases found : findL2w (wan2lanAlias config now table bucket buf size).table
              (probeLan (ipP buf) (endpoint buf .source)) with
            | none =>
                rw [rewritten]
                exact (rewrite_only config .destination _ _ packet).packet
                  (packet.setEndpoint .destination _)
            | some source =>
                rw [found] at verdict
                cases verdict
    · next notMe =>
        rw [if_neg notMe]
        cases found : findL2w table (probeLan (ipP buf) (endpoint buf .source)) with
        | none => exact packet
        | some source =>
            rw [found] at verdict
            cases verdict
  · rw [result] at verdict
    simp only [lan2wanIcmp] at verdict
    repeat' split at verdict
    all_goals cases verdict

end Effects

end Tracking
end NatPorte
