/-
The two halves of the alias functions.

An alias function looks an entry up under the table's lock, gives the lock back and
then works on the entry.  `resolved` is the first half and `useEntry` the second;
`aliasPacket_resolved` puts them together for a table that nobody touches in between.
-/

import NatPorte.Tracking

namespace NatPorte
namespace Lookup

open TcpState Structure ByteBuffer Packet Checksum Alias Tracking

def Transport (buf : Buffer) : Prop := ipP buf = ipprotoTcp ∨ ipP buf = ipprotoUdp

instance (buf : Buffer) : Decidable (Transport buf) := inferInstanceAs (Decidable (_ ∨ _))

/-- The protocol and the WAN endpoint of the packet that an ICMP error quotes. -/
def quotedProtocol (buf : Buffer) : BitVec 8 := getByte buf (extIphdr buf + 9)

def quotedWan (buf : Buffer) : Endpoint :=
  { ip := read32 buf (extIphdr buf + 12), port := read16 buf (extL4 buf) }

def Quotes (buf : Buffer) : Prop :=
  ipP buf = ipprotoIcmp ∧
    ((icmpType buf).toNat = 3 ∨ (icmpType buf).toNat = 4 ∨ (icmpType buf).toNat = 11 ∨
      (icmpType buf).toNat = 12) ∧
    (quotedProtocol buf = ipprotoTcp ∨ quotedProtocol buf = ipprotoUdp)

instance (buf : Buffer) : Decidable (Quotes buf) := inferInstanceAs (Decidable (_ ∧ _ ∧ _))

/-- The packet goes from the LAN to one of the router's own LAN addresses. -/
def ToLanAddr (config : Config) (buf : Buffer) : Prop := chkSelfaddr config (ipDst buf) .lan2wan = true

instance (config : Config) (buf : Buffer) : Decidable (ToLanAddr config buf) :=
  inferInstanceAs (Decidable (_ = _))

/-- The entry that a packet is looked up to.  Hairpin packets are left to `hairpinEntry`. -/
def resolved (config : Config) (table : Table) (side : Side) (buf : Buffer) (size : Nat) :
    Option Ptr :=
  if Passes config side buf size then
    match side with
    | .lan => if Transport buf ∧ ¬ToLanAddr config buf then lookup table .lan buf else none
    | .wan =>
        if Transport buf then lookup table .wan buf
        else if Quotes buf then findW2l table (probeWan (quotedProtocol buf) (quotedWan buf))
        else none
  else none

/-- The first lookup for a hairpin packet, which `wan2lan_alias` makes. -/
def hairpinEntry (config : Config) (table : Table) (side : Side) (buf : Buffer) (size : Nat) :
    Option Ptr :=
  if side = .lan ∧ Passes config .lan buf size ∧ ipP buf = ipprotoUdp ∧ ToLanAddr config buf ∧
      Passes config .wan buf size then
    lookup table .wan buf
  else none

section Halves

variable (config : Config) (now : Int) (table : Table) (bucket : IcmpBucket) (side : Side)
  (buf : Buffer) (size : Nat)

/-- What is done with an entry that was looked up, whatever has become of it. -/
def useEntry (ptr : Ptr) : Outcome :=
  if ipP buf = ipprotoTcp then
    tcpEntry config now table bucket buf ptr side.direction (onUnknown side)
      (forwarded config table buf size side ptr) (forwardedHostid config table buf size side ptr)
  else if ipP buf = ipprotoUdp then
    { verdict := .doalias, table := attach table now ptr, bucket := bucket
      buf := forwardedHostid config table buf size side ptr }
  else
    let node := table.heap ptr
    if node.protocol = ipprotoTcp || node.protocol = ipprotoUdp then
      let answer := write32 buf 16 node.lan.ip
      let answer := write32 answer (extIphdr buf + 12) node.lan.ip
      let answer := write16 answer (extL4 buf) node.lan.port
      { verdict := .doalias, table := attach table now ptr, bucket := bucket
        buf := refreshIcmp answer size }
    else { verdict := .notSupport, table := table, bucket := bucket, buf := buf }

variable {config side buf size table}

theorem resolved_passes {ptr : Ptr} (found : resolved config table side buf size = some ptr) :
    Passes config side buf size := by
  by_contra stopped
  unfold resolved at found
  rw [if_neg stopped] at found
  cases found

theorem resolved_lan {ptr : Ptr} (found : resolved config table .lan buf size = some ptr) :
    Transport buf ∧ ¬ToLanAddr config buf ∧ lookup table .lan buf = some ptr := by
  have passes := resolved_passes found
  simp only [resolved, if_pos passes] at found
  split at found
  · next carried => exact ⟨carried.1, carried.2, found⟩
  · cases found

theorem resolved_wan {ptr : Ptr} (found : resolved config table .wan buf size = some ptr) :
    Transport buf ∧ lookup table .wan buf = some ptr ∨
      ¬Transport buf ∧ Quotes buf ∧
        findW2l table (probeWan (quotedProtocol buf) (quotedWan buf)) = some ptr := by
  have passes := resolved_passes found
  simp only [resolved, if_pos passes] at found
  split at found
  · next carried => exact .inl ⟨carried, found⟩
  · next other =>
      split at found
      · next quotes => exact .inr ⟨other, quotes, found⟩
      · cases found

theorem hairpinEntry_udp {ptr : Ptr} (found : hairpinEntry config table side buf size = some ptr) :
    ipP buf = ipprotoUdp := by
  rw [hairpinEntry] at found
  split at found
  · next turns => exact turns.2.2.1
  · cases found

/-- A packet that asks the tracker is looked up to the entry that the tracker is asked about. -/
theorem tracked_of_resolved {ptr : Ptr} (found : resolved config table side buf size = some ptr)
    (isTcp : ipP buf = ipprotoTcp) : Tracked config table side buf size ptr := by
  have passes := resolved_passes found
  cases side with
  | lan =>
      obtain ⟨-, away, same⟩ := resolved_lan found
      exact ⟨passes, isTcp, fun _ => Bool.eq_false_iff.mpr away, same⟩
  | wan =>
      rcases resolved_wan found with ⟨-, same⟩ | ⟨other, -⟩
      · exact ⟨passes, isTcp, nofun, same⟩
      · exact absurd (.inl isTcp) other

theorem resolved_of_tracked {ptr : Ptr} (tracked : Tracked config table side buf size ptr) :
    resolved config table side buf size = some ptr := by
  have carried : Transport buf := .inl tracked.tcp
  unfold resolved
  rw [if_pos tracked.passes]
  cases side with
  | lan =>
      have away : ¬ToLanAddr config buf := Bool.eq_false_iff.mp (tracked.stranger rfl)
      simp only [if_pos (And.intro carried away)]
      exact tracked.found
  | wan =>
      simp only [if_pos carried]
      exact tracked.found

theorem wan2lanIcmp_quotes (quotes : Quotes buf) :
    wan2lanIcmp config now table bucket buf size =
      wan2lanQuoted config now table bucket buf size (quotedProtocol buf) := by
  obtain ⟨-, type, protocol⟩ := quotes
  have notIcmp : ¬getByte buf (extIphdr buf + 9) = ipprotoIcmp := by
    rcases protocol with isTcp | isUdp
    · rw [quotedProtocol] at isTcp
      rw [isTcp]
      decide
    · rw [quotedProtocol] at isUdp
      rw [isUdp]
      decide
  have carried : (getByte buf (extIphdr buf + 9) = ipprotoTcp ||
      getByte buf (extIphdr buf + 9) = ipprotoUdp) = true := by
    rw [Bool.or_eq_true, decide_eq_true_eq, decide_eq_true_eq]
    exact protocol
  rcases type with type | type | type | type
  all_goals
    simp only [wan2lanIcmp, type]
    rw [if_neg notIcmp, if_pos carried]
    rfl

theorem aliasPacket_resolved {ptr : Ptr} (found : resolved config table side buf size = some ptr) :
    aliasPacket config now table bucket side buf size =
      useEntry config now table bucket side buf size ptr := by
  have passes := resolved_passes found
  by_cases isTcp : ipP buf = ipprotoTcp
  · rw [useEntry, if_pos isTcp]
    exact aliasPacket_tracked_eq config now table bucket buf size side
      (tracked_of_resolved found isTcp)
  rw [useEntry, if_neg isTcp]
  cases side with
  | lan =>
      obtain ⟨carried, away, same⟩ := resolved_lan found
      have isUdp := carried.resolve_left isTcp
      change lan2wanAlias config now table bucket buf size = _
      unfold lan2wanAlias
      refine (dispatch_udp config table bucket buf size .lan passes isUdp _ _ _).trans ?_
      rw [if_pos isUdp]
      rw [lookup] at same
      simp only [lan2wanUdp, if_neg (show ¬chkSelfaddr config (ipDst buf) .lan2wan = true from away),
        same]
      rfl
  | wan =>
      change wan2lanAlias config now table bucket buf size = _
      unfold wan2lanAlias
      rcases resolved_wan found with ⟨carried, same⟩ | ⟨other, quotes, same⟩
      · have isUdp := carried.resolve_left isTcp
        refine (dispatch_udp config table bucket buf size .wan passes isUdp _ _ _).trans ?_
        rw [if_pos isUdp]
        rw [lookup] at same
        simp only [wan2lanUdp, same]
        rfl
      · have notUdp : ¬ipP buf = ipprotoUdp := fun isUdp => other (.inr isUdp)
        refine (dispatch_accepted config table bucket buf size .wan passes _ _ _).trans ?_
        rw [if_neg isTcp, if_neg notUdp, if_pos quotes.1, if_neg notUdp,
          wan2lanIcmp_quotes now bucket quotes]
        rw [quotedWan] at same
        simp only [wan2lanQuoted, same]

theorem wan2lanAlias_missing (nothing : resolved config table .wan buf size = none) :
    (wan2lanAlias config now table bucket buf size).table = table ∧
      (ipP buf = ipprotoUdp → (wan2lanAlias config now table bucket buf size).verdict ≠ .doalias) := by
  have unlisted : Passes config .wan buf size → Transport buf → lookup table .wan buf = none := by
    intro passes carried
    simp only [resolved, if_pos passes, if_pos carried] at nothing
    exact nothing
  have missing : (wan2lanMissing config table bucket buf).verdict ≠ .doalias := by
    rw [wan2lanMissing]
    split
    · simp
    · simp
  unfold wan2lanAlias
  rcases dispatch_split config table bucket buf size .wan
    (wan2lanTcp config now table bucket buf size) (wan2lanUdp config now table bucket buf size)
    (wan2lanIcmp config now table bucket buf size) with
    ⟨verdict, stops, result⟩ | ⟨passes, ⟨isTcp, result⟩ | ⟨isUdp, result⟩ | ⟨isIcmp, result⟩⟩
  · change dispatch config table bucket buf size .wan2lan _ _ _ = _ at result
    rw [result]
    exact ⟨rfl, fun _ => stops.ne (by decide)⟩
  · change dispatch config table bucket buf size .wan2lan _ _ _ = _ at result
    have absent := unlisted passes (.inl isTcp)
    rw [lookup] at absent
    rw [result, wan2lanTcp, absent]
    exact ⟨rfl, fun _ => missing⟩
  · change dispatch config table bucket buf size .wan2lan _ _ _ = _ at result
    have absent := unlisted passes (.inr isUdp)
    rw [lookup] at absent
    rw [result, wan2lanUdp, absent]
    exact ⟨rfl, fun _ => missing⟩
  · change dispatch config table bucket buf size .wan2lan _ _ _ = _ at result
    have notTcp : ¬ipprotoIcmp = ipprotoTcp := by decide
    have notUdp : ¬ipprotoIcmp = ipprotoUdp := by decide
    have other : ¬Transport buf := by
      rw [Transport, isIcmp]
      exact not_or.mpr ⟨notTcp, notUdp⟩
    rw [result]
    refine ⟨?_, fun isUdp => absurd (.inr isUdp) other⟩
    by_cases quotes : Quotes buf
    · simp only [resolved, if_pos passes, if_neg other, if_pos quotes, quotedWan] at nothing
      rw [wan2lanIcmp_quotes now bucket quotes, wan2lanQuoted]
      simp only [nothing]
      rfl
    · have unquoted : ∀ type, (icmpType buf).toNat = type →
          (type = 3 ∨ type = 4 ∨ type = 11 ∨ type = 12) →
          ¬(getByte buf (extIphdr buf + 9) = ipprotoTcp ||
            getByte buf (extIphdr buf + 9) = ipprotoUdp) = true := by
        intro type same isError carried
        rw [Bool.or_eq_true, decide_eq_true_eq, decide_eq_true_eq] at carried
        exact quotes ⟨isIcmp, same ▸ isError, carried⟩
      simp only [wan2lanIcmp]
      split
      case h_1 | h_2 => split <;> rfl
      case h_7 => rfl
      all_goals
        next type =>
          rw [if_neg (unquoted _ type (by decide))]
          split <;> rfl

theorem aliasPacket_missing (nothing : resolved config table side buf size = none)
    (straight : hairpinEntry config table side buf size = none) :
    (aliasPacket config now table bucket side buf size).table = table ∧
      Quiet table (aliasPacket config now table bucket side buf size) := by
  refine ⟨?_, ?_⟩
  · cases side with
    | wan => exact (wan2lanAlias_missing now bucket nothing).1
    | lan =>
        have unlisted : Passes config .lan buf size → Transport buf → ¬ToLanAddr config buf →
            lookup table .lan buf = none := by
          intro passes carried away
          simp only [resolved, if_pos passes] at nothing
          rw [if_pos ⟨carried, away⟩] at nothing
          exact nothing
        change (lan2wanAlias config now table bucket buf size).table = table
        unfold lan2wanAlias
        rcases dispatch_split config table bucket buf size .lan
          (lan2wanTcp config now table bucket buf size)
          (lan2wanUdp config now table bucket buf size) (lan2wanIcmp config table bucket buf) with
          ⟨verdict, -, result⟩ | ⟨passes, ⟨isTcp, result⟩ | ⟨isUdp, result⟩ | ⟨-, result⟩⟩
        · change dispatch config table bucket buf size .lan2wan _ _ _ = _ at result
          rw [result]
        · change dispatch config table bucket buf size .lan2wan _ _ _ = _ at result
          rw [result]
          simp only [lan2wanTcp]
          split
          · rfl
          · next away =>
              have absent := unlisted passes (.inl isTcp) away
              rw [lookup] at absent
              simp only [absent]
              split <;> rfl
        · change dispatch config table bucket buf size .lan2wan _ _ _ = _ at result
          rw [result]
          simp only [lan2wanUdp]
          split
          · next toMe =>
              have absent : resolved config table .wan buf size = none := by
                by_contra found
                obtain ⟨ptr, found⟩ := Option.ne_none_iff_exists'.mp found
                have returns := resolved_passes found
                rcases resolved_wan found with ⟨-, listed⟩ | ⟨other, -⟩
                · rw [hairpinEntry, if_pos ⟨rfl, passes, isUdp, toMe, returns⟩, listed] at straight
                  cases straight
                · exact other (.inr isUdp)
              obtain ⟨same, stopped⟩ := wan2lanAlias_missing now bucket absent
              rw [if_pos (stopped isUdp)]
              exact same
          · next away =>
              have absent := unlisted passes (.inr isUdp) away
              rw [lookup] at absent
              simp only [absent]
        · change dispatch config table bucket buf size .lan2wan _ _ _ = _ at result
          rw [result]
          simp only [lan2wanIcmp]
          repeat' split
          all_goals rfl
  · rcases aliasPacket_cases config now table bucket buf size side with ⟨ptr, tracked⟩ | quiet
    · rw [resolved_of_tracked tracked] at nothing
      cases nothing
    · exact quiet

theorem useEntry_known (ptr : Ptr) :
    (useEntry config now table bucket side buf size ptr).verdict ≠ .noTable := by
  rw [useEntry]
  split
  · have taken := tcpEntry_case config now table bucket buf ptr side.direction (onUnknown side)
      (forwarded config table buf size side ptr) (forwardedHostid config table buf size side ptr)
    generalize tcpEntry config now table bucket buf ptr side.direction (onUnknown side)
      (forwarded config table buf size side ptr) (forwardedHostid config table buf size side ptr) =
        outcome at taken ⊢
    cases taken with
    | unknown => cases side <;> simp [onUnknown]
    | _ => simp
  split
  · simp
  dsimp only
  split
  · simp
  · simp

end Halves

/-- Only access times change, and the tracker states of connections that are still open. -/
structure Translates (before after : Table) : Prop where
  same : SameMappings before after
  settled : ∀ ptr, (before.heap ptr).flags = .closed ∨ (before.heap ptr).flags = .reset →
    (after.heap ptr).flags = (before.heap ptr).flags

theorem Translates.refl (table : Table) : Translates table table :=
  ⟨.refl table, fun _ _ => rfl⟩

theorem Translates.trans {first second third : Table} (left : Translates first second)
    (right : Translates second third) : Translates first third := by
  refine ⟨left.same.trans right.same, fun ptr settled => ?_⟩
  have before := left.settled ptr settled
  rw [right.settled ptr (by rw [before]; exact settled), before]

theorem attach_translates (table : Table) (now : Int) (ptr : Ptr) :
    Translates table (attach table now ptr) :=
  ⟨.attach table now ptr, fun other _ => attach_flags table now ptr other⟩

section Translates

variable (config : Config) (now : Int) (table : Table) (bucket : IcmpBucket) (side : Side)
  (buf : Buffer) (size : Nat)

theorem aliasPacket_translates :
    Translates table (aliasPacket config now table bucket side buf size).table :=
  ⟨aliasPacket_same config now table bucket side buf size,
    fun _ settled => aliasPacket_settled config now bucket settled⟩

theorem tcpEntry_translates (ptr : Ptr) (direction : AliasFrom) (onUnknown : Verdict)
    (translated ordinary : Buffer) :
    Translates table
      (tcpEntry config now table bucket buf ptr direction onUnknown translated ordinary).table := by
  refine ⟨tcpEntry_same config now table bucket buf ptr direction onUnknown translated ordinary,
    fun other settled => ?_⟩
  by_cases same : other = ptr
  · subst same
    exact tcpEntry_settled config now bucket onUnknown translated ordinary settled
  · exact tcpEntry_flags_other config now bucket ptr direction onUnknown translated ordinary same

theorem useEntry_translates (ptr : Ptr) :
    Translates table (useEntry config now table bucket side buf size ptr).table := by
  rw [useEntry]
  split
  · exact tcpEntry_translates config now table bucket buf ptr _ _ _ _
  split
  · exact attach_translates table now ptr
  dsimp only
  split
  · exact attach_translates table now ptr
  · exact .refl table

end Translates

end Lookup
end NatPorte
