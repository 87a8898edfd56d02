/-
What natporte gives back to the divert socket.

The divert loop and the receiver of addrpool.h share the socket.  Most packets are given
back as the alias functions leave them; a packet that is too big or that was refused a
mapping is answered in its own buffer.
-/

import NatPorte.Closing
import NatPorte.FragNeeded
import NatPorte.Hairpin
import NatPorte.Reset

namespace NatPorte
namespace Forwarding

open ByteBuffer TcpState Structure KeyedSet Packet Checksum Alias Tracking Lookup Entry PoolServer
  Hostid
open StepSystem FragNeeded Reset
open NatPorte.System

/-- A call of `sendto`, by what was done to the packet.  An answer of `mk_fn_packet` and
one of `tcp_reset_alias` go back to the packet's sender. -/
inductive Written where
  | translated (side : Side) (buf : Buffer) (size : Nat)
  | asReceived (buf : Buffer) (size : Nat)
  | fragNeeded (buf : Buffer) (size : Nat)
  | reset (buf : Buffer) (size : Nat)
  deriving DecidableEq, Repr

def hasDf (buf : Buffer) : Bool := swap16 (ipOff buf) &&& ipDf != 0

/-- `ip_off & htons(0xbfff)`; no checksum is touched. -/
def clearDf (buf : Buffer) : Buffer := write16 buf 6 (ipOff buf &&& swap16 0xbfff)

/-- The size of a packet from the LAN after `lan2wan_alias`. -/
def grownSize (config : Config) (before after : Buffer) (size : Nat) : Nat :=
  if config.build.optHostid && config.optHostid then recomputedSize before after size else size

/-- With `opt_nagete_df` the flag is cleared when it is set or when the packet is longer
than the MTU of the WAN interface, whichever way the packet goes. -/
def loopDivertDoalias (config : Config) (side : Side) (packet : Datagram) (buf : Buffer) :
    Written :=
  let size :=
    match side with
    | .lan => grownSize config packet.buf buf packet.size
    | .wan => packet.size
  if config.optNageteDf && (hasDf buf || decide (config.wanIfMtu < size)) then
    .translated side (clearDf buf) size
  else .translated side buf size

/-- `loop_divert` after the alias function; `id` is the counter of `mk_fn_packet`. -/
def verdictWrites (settings : Settings) (id : BitVec 16) (side : Side) (packet : Datagram)
    (outcome : Outcome) : Option Written :=
  match outcome.verdict with
  | .doalias => some (loopDivertDoalias settings.nat side packet outcome.buf)
  | .tooBig =>
      (mkFnPacket settings.nat id outcome.buf packet.size).map fun message =>
        .fragNeeded message.buf message.size
  | .notSupport => some (.asReceived outcome.buf packet.size)
  | .toMe => some (.asReceived outcome.buf packet.size)
  | .fromMe => some (.asReceived outcome.buf packet.size)
  | _ => none

/-- The segment that closed a connection goes out when its timer is armed. -/
def divertStepWrites (settings : Settings) (id : BitVec 16) (state : State) : Option Written :=
  match state.divert with
  | .found side packet ptr =>
      verdictWrites settings id side packet (state.used settings side packet ptr)
  | .turned packet buf ptr =>
      some (loopDivertDoalias settings.nat .lan packet
        (toWanHostid settings.nat state.table ptr buf packet.size))
  | .rearming side buf size _ => some (.translated side buf size)
  | _ => none

/-- The packet for which the mapping was requested; here the flag is cleared only from a
packet that is too long. -/
def forwardWrites (settings : Settings) (state : State) (protocol : BitVec 8) (buf : Buffer)
    (size : Nat) : Option Written :=
  let hairpin := wan2lanAlias settings.nat state.now state.table state.bucket buf size
  let before :=
    if protocol = ipprotoUdp ∧ chkSelfaddr settings.nat (ipDst buf) .lan2wan = true then hairpin.buf
    else buf
  let outcome := forward settings state.now state.table state.bucket protocol buf size
  if outcome.verdict ≠ .doalias then none
  else
    let size := grownSize settings.nat before outcome.buf size
    if settings.nat.optNageteDf && (hasDf outcome.buf && decide (settings.nat.wanIfMtu < size)) then
      some (.translated .lan (clearDf outcome.buf) size)
    else some (.translated .lan outcome.buf size)

def requestDiscardWrites (settings : Settings) (optReset : Bool) (buf : Buffer) (size : Nat) :
    Option Written :=
  if optReset && ipP buf == ipprotoTcp then
    some (.reset (tcpResetAlias settings.nat.build buf size) size)
  else none

/-- The packet that asked for the release, unless the process ended before. -/
def releaseAckWrites (settings : Settings) (state : State) (fields : Fields) :
    RecvItem → Option Written
  | .timeout _ => none
  | .release rel buf size origin =>
      let outcome := releasedOutcome settings state (.release rel buf size origin)
      if outcome.verdict ≠ .doalias then none
      else if (deleteMapping (state.aliased outcome) fields).status = .running then
        some (.translated rel outcome.buf size)
      else none
  | .request buf size =>
      if (deleteMapping state fields).status = .running then some (.asReceived buf size) else none

def addrpoolReceiverWrites (settings : Settings) (optReset : Bool) (state : State) :
    Option Written :=
  match state.receiver with
  | .handling reply item =>
      match reply.type, item with
      | .requestDiscard, .request buf size => requestDiscardWrites settings optReset buf size
      | .requestDiscard, .release _ buf size _ => requestDiscardWrites settings optReset buf size
      | .releaseAck, item => releaseAckWrites settings state reply.fields item
      | _, _ => none
  | .forwarding protocol buf size => forwardWrites settings state protocol buf size
  | _ => none

section Packets

variable {buf : Buffer} {size : Nat}

theorem clearDf_addresses (buf : Buffer) :
    ipSrc (clearDf buf) = ipSrc buf ∧ ipDst (clearDf buf) = ipDst buf := by
  have kept : ∀ offset, 8 ≤ offset → read32 (clearDf buf) offset = read32 buf offset := by
    intro offset behind
    apply read32_congr
    intro position low high
    exact getByte_write16 (by omega) _
  exact ⟨kept 12 (by decide), kept 16 (by decide)⟩

theorem widened_packet {after : Buffer} (widened : Widened buf after size)
    (packet : TransportPacket buf size) (plain : ipHl buf = 5) :
    TransportPacket after (size + 16) := by
  have header : headerLength buf = 20 := by rw [headerLength, plain]
  have wide := first_widened plain widened.first
  rw [packet.version] at wide
  have wideHeader : headerLength after = 36 := by rw [headerLength, wide.2]
  have protocol : ipP after = ipP buf := widened.header 9 (by omega) (by omega)
  refine ⟨wide.1, by omega, ?_, widened.length⟩
  have transport := packet.transport
  rw [header] at transport
  rw [protocol, wideHeader]
  exact transport.imp (And.imp_right fun _ => by omega) (And.imp_right fun _ => by omega)

section Lan

variable (config : Config) (now : Int) (table : Table) (bucket : IcmpBucket)

theorem toWan_source (packet : TransportPacket buf size) (ptr : Ptr) :
    ipSrc (toWan config table ptr buf size) = (table.heap ptr).wan.ip :=
  congrArg Endpoint.ip (toWan_spec config table buf size packet ptr).1

theorem toLan_destination (packet : TransportPacket buf size) (ptr : Ptr) :
    ipDst (toLan config table ptr buf size) = (table.heap ptr).lan.ip :=
  congrArg Endpoint.ip (toLan_spec config table buf size packet ptr).1

theorem toWanHostid_source (packet : TransportPacket buf size) (ptr : Ptr) :
    ipSrc (toWanHostid config table ptr buf size) = (table.heap ptr).wan.ip := by
  unfold toWanHostid
  split
  · by_cases plain : ipHl buf = 5
    · obtain ⟨widened, grown⟩ := setHostid_widened plain packet.size_ge packet.inBuffer
      have wide := widened_packet widened packet plain
      rw [← grown] at wide
      exact toWan_source config table wide ptr
    · have same : setHostid buf size = (buf, size) := if_neg plain
      rw [same]
      exact toWan_source config table packet ptr
  · exact toWan_source config table packet ptr

theorem wan2lanAlias_udp (isUdp : ipP buf = ipprotoUdp) :
    ((wan2lanAlias config now table bucket buf size).verdict = .doalias ∧
        ∃ ptr, findW2l table (probeWan (ipP buf) (endpoint buf .destination)) = some ptr ∧
          (wan2lanAlias config now table bucket buf size).buf = toLan config table ptr buf size) ∨
      (wan2lanAlias config now table bucket buf size).verdict ≠ .doalias ∧
        (wan2lanAlias config now table bucket buf size).buf = buf := by
  unfold wan2lanAlias
  rcases dispatch_cases config table bucket buf size .wan2lan _ _ _ with
    ⟨verdict, stops, result⟩ | ⟨tcp, -⟩ | ⟨-, result⟩ | ⟨icmp, -⟩
  · rw [result]
    exact .inr ⟨stops.ne (by decide), rfl⟩
  · rw [isUdp] at tcp
    exact absurd tcp (by decide)
  · rw [result]
    unfold wan2lanUdp
    cases found : findW2l table (probeWan (ipP buf) (endpoint buf .destination)) with
    | none =>
        refine .inr ⟨?_, rfl⟩
        simp only [wan2lanMissing]
        split <;> simp
    | some ptr => exact .inl ⟨rfl, ptr, rfl, rfl⟩
  · rw [isUdp] at icmp
    exact absurd icmp (by decide)

/-- What `lan2wan_alias` translates is a packet of the same sender. -/
theorem handed_packet (packet : TransportPacket buf size) (isUdp : ipP buf = ipprotoUdp) :
    TransportPacket (wan2lanAlias config now table bucket buf size).buf size ∧
      ipP (wan2lanAlias config now table bucket buf size).buf = ipP buf ∧
      endpoint (wan2lanAlias config now table bucket buf size).buf .source =
        endpoint buf .source := by
  rcases wan2lanAlias_udp config now table bucket isUdp with ⟨-, ptr, -, result⟩ | ⟨-, result⟩
  · obtain ⟨protocol, source⟩ := UdpZero.toLan_source config table ptr packet
    rw [result]
    exact ⟨UdpZero.rewrite_packet config .destination _ packet _, protocol, source⟩
  · rw [result]
    exact ⟨packet, rfl, rfl⟩

theorem tcpEntry_translates (ptr : Ptr) (direction : AliasFrom) {onUnknown : Verdict}
    (refused : onUnknown ≠ .doalias) (translated ordinary : Buffer)
    (verdict : (tcpEntry config now table bucket buf ptr direction onUnknown translated
      ordinary).verdict = .doalias) :
    (tcpEntry config now table bucket buf ptr direction onUnknown translated ordinary).buf =
        translated ∨
      (tcpEntry config now table bucket buf ptr direction onUnknown translated ordinary).buf =
        ordinary := by
  have taken := tcpEntry_case config now table bucket buf ptr direction onUnknown translated
    ordinary
  generalize tcpEntry config now table bucket buf ptr direction onUnknown translated ordinary =
    outcome at taken verdict ⊢
  cases taken with
  | settled => exact .inl rfl
  | waiting => cases verdict
  | closing => cases verdict
  | reset => cases verdict
  | unknown => exact absurd verdict refused
  | ordinary => exact .inr rfl

/-- A packet that leaves for the WAN leaves from the mapped address of its sender, and an
echo from the address for ICMP. -/
theorem lan2wanAlias_source (formed : ipP buf = ipprotoTcp ∨ ipP buf = ipprotoUdp →
    TransportPacket buf size) (whole : size ≤ buf.length)
    (doalias : (lan2wanAlias config now table bucket buf size).verdict = .doalias) :
    (∃ ptr ∈ table.l2w,
        ipSrc (lan2wanAlias config now table bucket buf size).buf = (table.heap ptr).wan.ip) ∨
      ipSrc (lan2wanAlias config now table bucket buf size).buf = config.icmpWanAddr := by
  have passes := passes_of_goesOn config table bucket buf size .lan (by decide) doalias
  have long : 20 < size := passes.long
  rcases dispatch_split config table bucket buf size .lan (lan2wanTcp config now table bucket buf size)
    (lan2wanUdp config now table bucket buf size) (lan2wanIcmp config table bucket buf) with
    ⟨verdict, stops, result⟩ | ⟨-, ⟨tcp, result⟩ | ⟨udp, result⟩ | ⟨icmp, result⟩⟩
  · change (dispatch config table bucket buf size Side.lan.direction _ _ _).verdict = _ at doalias
    rw [result] at doalias
    exact absurd doalias (stops.ne (by decide))
  · have packet := formed (.inl tcp)
    have branch : lan2wanAlias config now table bucket buf size =
        lan2wanTcp config now table bucket buf size := result
    rw [branch] at doalias ⊢
    simp only [lan2wanTcp] at doalias ⊢
    cases own : chkSelfaddr config (ipDst buf) .lan2wan with
    | true =>
        rw [own, if_pos rfl] at doalias
        cases doalias
    | false =>
        cases found : findL2w table (probeLan (ipP buf) (endpoint buf .source)) with
        | none =>
            simp only [own, found, Bool.false_eq_true, if_false] at doalias
            split at doalias <;> cases doalias
        | some ptr =>
            simp only [own, found, Bool.false_eq_true, if_false] at doalias ⊢
            refine .inl ⟨ptr, mem_of_find found, ?_⟩
            rcases tcpEntry_translates config now table bucket ptr .lan2wan (by decide) _ _ doalias
              with plain | identified
            · rw [plain]
              exact toWan_source config table packet ptr
            · rw [identified]
              exact toWanHostid_source config table packet ptr
  · have packet := formed (.inr udp)
    obtain ⟨ptr, current, same, found, isBuf, -⟩ :=
      UdpZero.lan2wanAlias_udp config now table bucket udp doalias
    have handed : TransportPacket (UdpZero.handed config now table bucket buf size) size := by
      unfold UdpZero.handed
      split
      · exact (handed_packet config now table bucket packet udp).1
      · exact packet
    refine .inl ⟨ptr, same.l2w ▸ mem_of_find found, ?_⟩
    rw [isBuf, toWanHostid_source config current handed, same.wan]
  · have branch : lan2wanAlias config now table bucket buf size =
        lan2wanIcmp config table bucket buf := result
    rw [branch] at doalias ⊢
    have echo : ipSrc (write16 (write32 buf 12 config.icmpWanAddr) ipSumOffset 0) =
        config.icmpWanAddr := by
      rw [ipSrc, read32_congr (fun position low high => getByte_write16 (by
        rw [ipSumOffset]
        omega) _), read32_write32 (by omega)]
    simp only [lan2wanIcmp] at doalias ⊢
    split at doalias
    · split at doalias
      · cases doalias
      · next notOwn =>
          rw [if_neg notOwn]
          exact .inr echo
    · split at doalias
      · cases doalias
      · next notOwn =>
          rw [if_neg notOwn]
          exact .inr echo
    · cases doalias

end Lan

section Wan

variable (config : Config) (now : Int) (table : Table) (bucket : IcmpBucket)

theorem refreshed_destination {answer : Buffer} {address : BitVec 32}
    (outer : 20 ≤ headerLength buf) (inBuffer : 20 ≤ buf.length)
    (front : ∀ position < 20, getByte answer position = getByte (write32 buf 16 address) position) :
    ipDst (refreshIcmp answer size) = address := by
  have sameHeader : headerLength answer = headerLength buf := by
    apply headerLength_congr
    rw [front 0 (by decide), getByte_write32 (by decide)]
  have quote : extIphdr answer = headerLength answer + 8 := rfl
  rw [ipDst, Icmp.refreshIcmp_read32 (by omega) (by omega),
    read32_congr (fun position low high => front position (by omega)), read32_write32 (by omega)]

theorem wan2lanQuoted_destination (outer : 20 ≤ headerLength buf) (inBuffer : 20 ≤ buf.length)
    (protocol : BitVec 8)
    (doalias : (wan2lanQuoted config now table bucket buf size protocol).verdict = .doalias) :
    ∃ ptr ∈ table.w2l,
      ipDst (wan2lanQuoted config now table bucket buf size protocol).buf =
        (table.heap ptr).lan.ip := by
  have quote : extIphdr buf = headerLength buf + 8 := rfl
  have inner : extL4 buf = extIphdr buf + (getByte buf (extIphdr buf)).toNat % 16 * 4 := rfl
  simp only [wan2lanQuoted] at doalias ⊢
  split at doalias
  · simp only [wan2lanMissing] at doalias
    split at doalias <;> cases doalias
  · next ptr found =>
      split at doalias
      · next flow =>
          simp only [if_pos flow]
          refine ⟨ptr, mem_of_find found, refreshed_destination outer inBuffer ?_⟩
          intro position early
          rw [getByte_write16 (by omega), getByte_write32 (by omega)]
      · cases doalias

/-- The three ways in which an ICMP packet is translated for the LAN. -/
inductive IcmpTranslation : Buffer → Prop
  | reply : IcmpTranslation (write16 (write32 buf 16 bucket.localAddr) ipSumOffset 0)
  | error : IcmpTranslation (refreshIcmp (write32 (write32 (write32 buf 16 bucket.localAddr)
      (extIphdr buf + 16) bucket.localAddr) (extIphdr buf + 12) bucket.foreign) size)
  | quoted (protocol : BitVec 8)
      (doalias : (wan2lanQuoted config now table bucket buf size protocol).verdict = .doalias) :
      IcmpTranslation (wan2lanQuoted config now table bucket buf size protocol).buf

theorem wan2lanIcmp_translation
    (doalias : (wan2lanIcmp config now table bucket buf size).verdict = .doalias) :
    @IcmpTranslation buf size config now table bucket
      (wan2lanIcmp config now table bucket buf size).buf := by
  have reply : ∀ own : Bool, (if own = true then
        ({ verdict := .toMe, table := table, bucket := bucket, buf := buf } : Outcome)
      else
        { verdict := .doalias, table := table, bucket := bucket
          buf := write16 (write32 buf 16 bucket.localAddr) ipSumOffset 0 }).verdict = .doalias →
      own = false := by
    intro own translated
    cases own with
    | true => cases translated
    | false => rfl
  simp only [wan2lanIcmp] at doalias ⊢
  split at doalias
  · rw [reply _ doalias, if_neg Bool.false_ne_true]
    exact .reply
  · rw [reply _ doalias, if_neg Bool.false_ne_true]
    exact .reply
  iterate 4
    · split at doalias
      · next isIcmp =>
          rw [if_pos isIcmp]
          -- Unifying through the record would compute the checksums.
          dsimp only
          exact .error
      · next notIcmp =>
          rw [if_neg notIcmp]
          split at doalias
          · next flow =>
              rw [if_pos flow]
              exact .quoted _ doalias
          · cases doalias
  · cases doalias

theorem wan2lanIcmp_destination (outer : 20 ≤ headerLength buf) (inBuffer : 20 ≤ buf.length)
    (doalias : (wan2lanIcmp config now table bucket buf size).verdict = .doalias) :
    (∃ ptr ∈ table.w2l,
        ipDst (wan2lanIcmp config now table bucket buf size).buf = (table.heap ptr).lan.ip) ∨
      ipDst (wan2lanIcmp config now table bucket buf size).buf = bucket.localAddr := by
  have quote : extIphdr buf = headerLength buf + 8 := rfl
  have translated := wan2lanIcmp_translation config now table bucket doalias
  generalize (wan2lanIcmp config now table bucket buf size).buf = answer at translated ⊢
  cases translated with
  | reply =>
      right
      rw [ipDst, read32_congr (fun position low high => getByte_write16 (by
        rw [ipSumOffset]
        omega) _), read32_write32 (by omega)]
  | error =>
      right
      apply refreshed_destination outer inBuffer
      intro position early
      rw [getByte_write32 (by omega), getByte_write32 (by omega)]
  | quoted protocol doalias =>
      exact .inl (wan2lanQuoted_destination config now table bucket outer inBuffer protocol doalias)

/-- A packet that is translated for the LAN goes to the host of an entry, or to the host
that the last echo came from. -/
theorem wan2lanAlias_destination (formed : ipP buf = ipprotoTcp ∨ ipP buf = ipprotoUdp →
    TransportPacket buf size) (outer : 5 ≤ ipHl buf) (whole : size ≤ buf.length)
    (doalias : (wan2lanAlias config now table bucket buf size).verdict = .doalias) :
    (∃ ptr ∈ table.w2l,
        ipDst (wan2lanAlias config now table bucket buf size).buf = (table.heap ptr).lan.ip) ∨
      ipDst (wan2lanAlias config now table bucket buf size).buf = bucket.localAddr := by
  have passes := passes_of_goesOn config table bucket buf size .wan (by decide) doalias
  have long : 20 < size := passes.long
  rcases dispatch_split config table bucket buf size .wan (wan2lanTcp config now table bucket buf size)
    (wan2lanUdp config now table bucket buf size) (wan2lanIcmp config now table bucket buf size) with
    ⟨verdict, stops, result⟩ | ⟨-, ⟨tcp, result⟩ | ⟨udp, -⟩ | ⟨icmp, result⟩⟩
  · change (dispatch config table bucket buf size Side.wan.direction _ _ _).verdict = _ at doalias
    rw [result] at doalias
    exact absurd doalias (stops.ne (by decide))
  · have branch : wan2lanAlias config now table bucket buf size =
        wan2lanTcp config now table bucket buf size := result
    rw [branch] at doalias ⊢
    simp only [wan2lanTcp] at doalias ⊢
    cases found : findW2l table (probeWan (ipP buf) (endpoint buf .destination)) with
    | none =>
        simp only [found, wan2lanMissing] at doalias
        split at doalias <;> cases doalias
    | some ptr =>
        simp only [found] at doalias ⊢
        refine .inl ⟨ptr, mem_of_find found, ?_⟩
        rw [tcpEntry_doalias config now table bucket buf (by decide) doalias]
        exact toLan_destination config table (formed (.inl tcp)) ptr
  · rcases wan2lanAlias_udp config now table bucket udp with ⟨-, ptr, found, isBuf⟩ | ⟨refused, -⟩
    · rw [isBuf]
      exact .inl ⟨ptr, mem_of_find found, toLan_destination config table (formed (.inr udp)) ptr⟩
    · exact absurd doalias refused
  · have branch : wan2lanAlias config now table bucket buf size =
        wan2lanIcmp config now table bucket buf size := result
    rw [branch] at doalias ⊢
    have words : headerLength buf = ipHl buf * 4 := rfl
    exact wan2lanIcmp_destination config now table bucket (by omega) (by omega) doalias

end Wan

/-- The verdicts after which the loop gives back the packet, or answers it. -/
def Unchanging (verdict : Verdict) : Prop :=
  verdict = .toMe ∨ verdict = .notSupport ∨ verdict = .tooBig ∨ verdict = .fromMe

theorem tcpEntry_changes (config : Config) (now : Int) (table : Table) (bucket : IcmpBucket)
    (ptr : Ptr) (direction : AliasFrom) {onUnknown : Verdict} (changes : ¬Unchanging onUnknown)
    (translated ordinary : Buffer) :
    ¬Unchanging (tcpEntry config now table bucket buf ptr direction onUnknown translated
      ordinary).verdict := by
  have taken := tcpEntry_case config now table bucket buf ptr direction onUnknown translated
    ordinary
  generalize tcpEntry config now table bucket buf ptr direction onUnknown translated ordinary =
    outcome at taken ⊢
  cases taken with
  | unknown => exact changes
  | _ => simp [Unchanging]

end Packets

section Threads

variable {settings : Settings} {state : State}

theorem used_unchanged {side : Side} {packet : Datagram} {ptr : Ptr}
    (verdict : Unchanging (state.used settings side packet ptr).verdict) :
    (state.used settings side packet ptr).buf = packet.buf := by
  simp only [State.used, useEntry] at verdict ⊢
  split at verdict
  · have changes : ¬Unchanging (onUnknown side) := by cases side <;> simp [onUnknown, Unchanging]
    exact absurd verdict (tcpEntry_changes _ _ _ _ ptr _ changes _ _)
  · next notTcp =>
      rw [if_neg notTcp]
      split at verdict
      · simp [Unchanging] at verdict
      · next notUdp =>
          rw [if_neg notUdp]
          split at verdict
          · simp [Unchanging] at verdict
          · next other => rw [if_neg other]

/-- The loop writes what it translated, an answer, or the packet it received. -/
inductive VerdictCase (settings : Settings) (id : BitVec 16) (side : Side) (packet : Datagram)
    (outcome : Outcome) : Written → Prop
  | translated (buf : Buffer) (size : Nat) (doalias : outcome.verdict = .doalias)
      (isBuf : buf = outcome.buf ∨ buf = clearDf outcome.buf) :
      VerdictCase settings id side packet outcome (.translated side buf size)
  | fragNeeded (message : FnPacket)
      (made : mkFnPacket settings.nat id packet.buf packet.size = some message) :
      VerdictCase settings id side packet outcome (.fragNeeded message.buf message.size)
  | asReceived : VerdictCase settings id side packet outcome (.asReceived packet.buf packet.size)

theorem loopDivertDoalias_case (config : Config) (side : Side) (packet : Datagram) (buf : Buffer) :
    ∃ newSize, loopDivertDoalias config side packet buf = .translated side (clearDf buf) newSize ∨
      loopDivertDoalias config side packet buf = .translated side buf newSize := by
  unfold loopDivertDoalias
  extract_lets newSize
  refine ⟨newSize, ?_⟩
  split
  · exact .inl rfl
  · exact .inr rfl

theorem verdictWrites_case {id : BitVec 16} {side : Side} {packet : Datagram} {outcome : Outcome}
    {written : Written} (unchanged : Unchanging outcome.verdict → outcome.buf = packet.buf)
    (wrote : verdictWrites settings id side packet outcome = some written) :
    VerdictCase settings id side packet outcome written := by
  have same : ∀ verdict, Unchanging verdict → outcome.verdict = verdict →
      outcome.buf = packet.buf := by
    intro verdict unchanging isVerdict
    exact unchanged (isVerdict ▸ unchanging)
  simp only [verdictWrites] at wrote
  split at wrote
  · next doalias =>
      rw [← Option.some.inj wrote]
      obtain ⟨newSize, result | result⟩ :=
        loopDivertDoalias_case settings.nat side packet outcome.buf
      · rw [result]
        exact .translated _ _ doalias (.inr rfl)
      · rw [result]
        exact .translated _ _ doalias (.inl rfl)
  · next tooBig =>
      rw [same _ (.inr (.inr (.inl rfl))) tooBig] at wrote
      obtain ⟨message, made, isWritten⟩ := Option.map_eq_some_iff.mp wrote
      rw [← isWritten]
      exact .fragNeeded message made
  · next notSupport =>
      rw [same _ (.inr (.inl rfl)) notSupport] at wrote
      rw [← Option.some.inj wrote]
      exact .asReceived
  · next toMe =>
      rw [same _ (.inl rfl) toMe] at wrote
      rw [← Option.some.inj wrote]
      exact .asReceived
  · next fromMe =>
      rw [same _ (.inr (.inr (.inr rfl))) fromMe] at wrote
      rw [← Option.some.inj wrote]
      exact .asReceived
  · cases wrote

theorem forwardWrites_case {protocol : BitVec 8} {buf : Buffer} {size : Nat} {written : Written}
    (wrote : forwardWrites settings state protocol buf size = some written) :
    (forward settings state.now state.table state.bucket protocol buf size).verdict = .doalias ∧
      ∃ result newSize, written = .translated .lan result newSize ∧
        (result = (forward settings state.now state.table state.bucket protocol buf size).buf ∨
          result =
            clearDf (forward settings state.now state.table state.bucket protocol buf size).buf) := by
  simp only [forwardWrites] at wrote
  split at wrote
  · cases wrote
  · next doalias =>
      refine ⟨Decidable.not_not.mp doalias, ?_⟩
      generalize grownSize settings.nat _ _ size = newSize at wrote
      split at wrote
      · exact ⟨_, newSize, (Option.some.inj wrote).symm, .inr rfl⟩
      · exact ⟨_, newSize, (Option.some.inj wrote).symm, .inl rfl⟩

/-- An answer of `mk_fn_packet` is empty or goes back to the packet's sender. -/
theorem mkFnPacket_destination {config : Config} {id : BitVec 16} {buf : Buffer} {size : Nat}
    {message : FnPacket} (made : mkFnPacket config id buf size = some message) :
    message.size = 0 ∨ ipDst message.buf = ipSrc buf := by
  cases last : config.lanAddr.getLast? with
  | none =>
      simp only [mkFnPacket, last] at made
      cases made
  | some localAddr =>
      by_cases protocol : ipP buf = ipprotoTcp ∨ ipP buf = ipprotoUdp ∨ ipP buf = ipprotoIcmp
      · rw [mkFnPacket_some config id localAddr buf size protocol last] at made
        cases made
        exact .inr (message_addresses config (id + 1) localAddr buf).2
      · simp only [mkFnPacket, last, if_neg protocol] at made
        cases made
        exact .inl rfl

end Threads

end Forwarding
end NatPorte
