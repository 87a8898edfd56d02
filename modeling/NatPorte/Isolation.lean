/-
Which addresses cross natporte.

What leaves for the WAN carries an address of the WAN interface, and what enters the LAN
goes to a client.  The packets wait in two rings and in four threads meanwhile, so the
invariant follows them from the divert socket back to it.
-/

import NatPorte.Forwarding
import NatPorte.Interfaces

namespace NatPorte
namespace System

open ByteBuffer TcpState Structure KeyedSet Packet Checksum Alias Tracking Lookup Entry PoolServer
open StepSystem Pipeline Forwarding Interfaces Reset

/-- `ALIAS_IS_PRIVATE` of an address as it stands in a packet. -/
def IsClient (address : BitVec 32) : Prop := aliasIsPrivate (swap32 address) = true

/-- The address that the other side sees. -/
def Settings.Presents (settings : Settings) : Side → Buffer → Prop
  | .lan, buf => swap32 (ipSrc buf) ∈ settings.poolAddr ∨ ipSrc buf = settings.nat.icmpWanAddr
  | .wan, buf => ipDst buf = 0 ∨ IsClient (ipDst buf)

/-- Every entry maps a client to an announced address.  Before the first echo the bucket
holds zero. -/
structure Isolated (settings : Settings) (table : Table) (bucket : IcmpBucket) : Prop where
  inv : TableInv table
  pooled : ∀ ptr ∈ table.l2w, swap32 (table.heap ptr).wan.ip ∈ settings.poolAddr
  clients : ∀ ptr ∈ table.l2w, IsClient (table.heap ptr).lan.ip
  echo : bucket.localAddr = 0 ∨ IsClient bucket.localAddr

/-- A packet as the divert socket hands it over. -/
structure Received (buf : Buffer) (size : Nat) : Prop where
  formed : ipP buf = ipprotoTcp ∨ ipP buf = ipprotoUdp → TransportPacket buf size
  header : 5 ≤ ipHl buf
  inBuffer : size ≤ buf.length

theorem received_of_packet {buf : Buffer} {size : Nat} (packet : TransportPacket buf size) :
    Received buf size :=
  ⟨fun _ => packet, packet.header, packet.inBuffer⟩

section Translations

variable {settings : Settings} {config : Config} {now : Int} {table : Table} {bucket : IcmpBucket}
variable {buf : Buffer} {size : Nat}

theorem Isolated.same (isolated : Isolated settings table bucket) {after : Table}
    (same : SameMappings table after) : Isolated settings after bucket where
  inv := same.inv isolated.inv
  pooled := by
    intro ptr member
    rw [same.wan]
    exact isolated.pooled ptr (same.l2w ▸ member)
  clients := by
    intro ptr member
    rw [same.lan]
    exact isolated.clients ptr (same.l2w ▸ member)
  echo := isolated.echo

theorem Isolated.presents (isolated : Isolated settings table bucket)
    (received : Received buf size) (side : Side)
    (doalias : (aliasPacket settings.nat now table bucket side buf size).verdict = .doalias) :
    settings.Presents side (aliasPacket settings.nat now table bucket side buf size).buf := by
  cases side with
  | lan =>
      rcases lan2wanAlias_source settings.nat now table bucket received.formed received.inBuffer
        doalias with ⟨ptr, member, source⟩ | source
      · left
        change swap32 (ipSrc (lan2wanAlias settings.nat now table bucket buf size).buf) ∈ _
        rw [source]
        exact isolated.pooled ptr member
      · exact .inr source
  | wan =>
      change ipDst (wan2lanAlias settings.nat now table bucket buf size).buf = 0 ∨
        IsClient (ipDst (wan2lanAlias settings.nat now table bucket buf size).buf)
      rcases wan2lanAlias_destination settings.nat now table bucket received.formed received.header
        received.inBuffer doalias with ⟨ptr, member, destination⟩ | destination
      · rw [destination]
        exact .inr (isolated.clients ptr ((isolated.inv.sameNodes ptr).mpr member))
      · rw [destination]
        exact isolated.echo

/-- The segment that closes a connection, and any packet that an entry translates, as long
as the entry is in the table. -/
theorem Isolated.rewritten (isolated : Isolated settings table bucket)
    (packet : TransportPacket buf size) {ptr : Ptr} (member : ptr ∈ table.l2w) (side : Side) :
    settings.Presents side (forwarded settings.nat table buf size side ptr) ∧
      settings.Presents side (forwardedHostid settings.nat table buf size side ptr) := by
  cases side with
  | lan =>
      have pooled := isolated.pooled ptr member
      constructor
      · left
        change swap32 (ipSrc (toWan settings.nat table ptr buf size)) ∈ _
        rw [toWan_source settings.nat table packet ptr]
        exact pooled
      · left
        change swap32 (ipSrc (toWanHostid settings.nat table ptr buf size)) ∈ _
        rw [toWanHostid_source settings.nat table packet ptr]
        exact pooled
  | wan =>
      have client : settings.Presents .wan (toLan settings.nat table ptr buf size) := by
        right
        rw [toLan_destination settings.nat table packet ptr]
        exact isolated.clients ptr member
      exact ⟨client, client⟩

theorem Isolated.used (isolated : Isolated settings table bucket) (received : Received buf size)
    {ptr : Ptr} (member : ptr ∈ table.l2w) {side : Side}
    (passes : Passes settings.nat side buf size) (carried : side = .lan → Transport buf)
    (doalias : (useEntry settings.nat now table bucket side buf size ptr).verdict = .doalias) :
    settings.Presents side (useEntry settings.nat now table bucket side buf size ptr).buf := by
  unfold useEntry at doalias ⊢
  by_cases isTcp : ipP buf = ipprotoTcp
  · obtain ⟨plain, identified⟩ := isolated.rewritten (received.formed (.inl isTcp)) member side
    rw [if_pos isTcp] at doalias ⊢
    have refused : onUnknown side ≠ .doalias := by cases side <;> simp [onUnknown]
    rcases Forwarding.tcpEntry_translates settings.nat now table bucket ptr side.direction refused
      _ _ doalias with same | same
    · rw [same]
      exact plain
    · rw [same]
      exact identified
  rw [if_neg isTcp] at doalias ⊢
  by_cases isUdp : ipP buf = ipprotoUdp
  · rw [if_pos isUdp]
    exact (isolated.rewritten (received.formed (.inr isUdp)) member side).2
  · have isWan : side = .wan := by
      cases side with
      | lan => exact absurd (carried rfl) (not_or.mpr ⟨isTcp, isUdp⟩)
      | wan => rfl
    subst isWan
    rw [if_neg isUdp] at doalias ⊢
    dsimp only at doalias ⊢
    split at doalias
    · next flow =>
        have words : headerLength buf = ipHl buf * 4 := rfl
        have quote : extIphdr buf = headerLength buf + 8 := rfl
        have inner : extL4 buf =
          extIphdr buf + (getByte buf (extIphdr buf)).toNat % 16 * 4 := rfl
        have header := received.header
        have inBuffer := received.inBuffer
        have long : 20 < size := passes.long
        have outer : 20 ≤ headerLength buf := by omega
        rw [if_pos flow]
        have destination : ipDst (refreshIcmp (write16 (write32 (write32 buf 16
            (table.heap ptr).lan.ip) (extIphdr buf + 12) (table.heap ptr).lan.ip) (extL4 buf)
            (table.heap ptr).lan.port) size) = (table.heap ptr).lan.ip := by
          apply refreshed_destination outer (by omega)
          intro position early
          rw [getByte_write16 (by omega), getByte_write32 (by omega)]
        right
        rw [destination]
        exact isolated.clients ptr member
    · cases doalias

/-- The translation after a grant, with or without the detour through `wan2lan_alias`. -/
theorem Isolated.forward (isolated : Isolated settings table bucket)
    (packet : TransportPacket buf size)
    (doalias : (forward settings now table bucket (ipP buf) buf size).verdict = .doalias) :
    settings.Presents .lan (forward settings now table bucket (ipP buf) buf size).buf := by
  unfold System.forward at doalias ⊢
  by_cases hairpins : ipP buf = ipprotoUdp ∧ chkSelfaddr settings.nat (ipDst buf) .lan2wan = true
  · rw [if_pos hairpins] at doalias ⊢
    by_cases refused : (wan2lanAlias settings.nat now table bucket buf size).verdict ≠ .doalias
    · simp only [if_pos refused] at doalias
      exact absurd doalias refused
    · simp only [if_neg refused] at doalias ⊢
      obtain ⟨handed, -⟩ := handed_packet settings.nat now table bucket packet hairpins.1
      have after := isolated.same (wan2lanAlias_same settings.nat now table bucket buf size)
      rw [Icmp.wan2lanAlias_bucket] at doalias ⊢
      exact after.presents (received_of_packet handed) .lan doalias
  · rw [if_neg hairpins] at doalias ⊢
    exact isolated.presents (received_of_packet packet) .lan doalias

theorem Settings.Presents.clearDf {side : Side} (presents : settings.Presents side buf) :
    settings.Presents side (clearDf buf) := by
  obtain ⟨source, destination⟩ := clearDf_addresses buf
  cases side with
  | lan =>
      simp only [Settings.Presents, source]
      exact presents
  | wan =>
      simp only [Settings.Presents, destination]
      exact presents

/-- Only a client gets past `chk_drop` on its way out. -/
theorem client_of_passes (passes : Passes config .lan buf size) : IsClient (ipSrc buf) := by
  have accepted := passes.accepted
  simp only [Side.direction, chkDrop, Bool.or_eq_false_iff, Bool.not_eq_false'] at accepted
  exact accepted.1.1.1

theorem tcpEntry_waits (ptr : Ptr) (direction : AliasFrom) {onUnknown : Verdict}
    (refused : onUnknown ≠ .noTable) (translated ordinary : Buffer) :
    (tcpEntry config now table bucket buf ptr direction onUnknown translated ordinary).verdict ≠
      .noTable := by
  have taken := tcpEntry_case config now table bucket buf ptr direction onUnknown translated
    ordinary
  generalize tcpEntry config now table bucket buf ptr direction onUnknown translated ordinary =
    outcome at taken ⊢
  cases taken with
  | unknown => exact refused
  | _ => simp

theorem lan2wanAlias_waiting
    (formed : ipP buf = ipprotoTcp ∨ ipP buf = ipprotoUdp → TransportPacket buf size)
    (verdict : (lan2wanAlias config now table bucket buf size).verdict = .noTable) :
    IsClient (ipSrc (lan2wanAlias config now table bucket buf size).buf) := by
  have client := client_of_passes
    (passes_of_goesOn config table bucket buf size .lan (by decide) verdict)
  rcases dispatch_cases config table bucket buf size .lan2wan
    (lan2wanTcp config now table bucket buf size) (lan2wanUdp config now table bucket buf size)
    (lan2wanIcmp config table bucket buf) with
    ⟨stopped, stops, result⟩ | ⟨-, result⟩ | ⟨udp, result⟩ | ⟨-, result⟩
  · rw [lan2wanAlias, result]
    exact client
  · rw [lan2wanAlias, result] at verdict ⊢
    simp only [lan2wanTcp] at verdict ⊢
    split at verdict
    · cases verdict
    · next notOwn =>
        rw [if_neg notOwn]
        split at verdict
        · split <;> exact client
        · exact absurd verdict (tcpEntry_waits _ _ (by decide) _ _)
  · have handed := (handed_packet config now table bucket (formed (.inr udp)) udp).2.2
    have source : ipSrc (wan2lanAlias config now table bucket buf size).buf = ipSrc buf :=
      congrArg Endpoint.ip handed
    rw [lan2wanAlias, result] at verdict ⊢
    simp only [lan2wanUdp] at verdict ⊢
    split at verdict
    · next own =>
        rw [if_pos own]
        split at verdict
        · cases verdict
        · next translated =>
            rw [if_neg translated]
            split at verdict
            · simp only
              rw [source]
              exact client
            · cases verdict
    · next notOwn =>
        rw [if_neg notOwn]
        split at verdict
        · exact client
        · cases verdict
  · rw [lan2wanAlias, result] at verdict ⊢
    simp only [lan2wanIcmp] at verdict
    repeat' split at verdict
    all_goals cases verdict

theorem aliasPacket_echo (side : Side) :
    (aliasPacket config now table bucket side buf size).bucket = bucket ∨
      IsClient (aliasPacket config now table bucket side buf size).bucket.localAddr := by
  cases side with
  | wan => exact .inl (Icmp.wan2lanAlias_bucket config now table bucket buf size)
  | lan =>
      change (lan2wanAlias config now table bucket buf size).bucket = bucket ∨
        IsClient (lan2wanAlias config now table bucket buf size).bucket.localAddr
      rw [Icmp.lan2wanAlias_bucket, Icmp.remembers]
      split
      · next remembered => exact .inr (client_of_passes remembered.passes)
      · exact .inl rfl

theorem useEntry_bucket (side : Side) (ptr : Ptr) :
    (useEntry config now table bucket side buf size ptr).bucket = bucket := by
  unfold useEntry
  split
  · have taken := tcpEntry_case config now table bucket buf ptr side.direction (onUnknown side)
      (forwarded config table buf size side ptr) (forwardedHostid config table buf size side ptr)
    generalize tcpEntry config now table bucket buf ptr side.direction (onUnknown side)
      (forwarded config table buf size side ptr) (forwardedHostid config table buf size side ptr) =
        outcome at taken ⊢
    cases taken <;> rfl
  split
  · rfl
  dsimp only
  split
  · rfl
  · rfl

/-- A segment that ends its connection is left alone unless the entry waits for its timer. -/
theorem useEntry_ends {side : Side} {ptr : Ptr} {verdict : Verdict}
    (ends : verdict = .resetTable ∨ verdict = .delTable)
    (result : (useEntry config now table bucket side buf size ptr).verdict = verdict) :
    ipP buf = ipprotoTcp ∧
      (useEntry config now table bucket side buf size ptr).buf =
        if verdict = .delTable ∧ config.build.waitTimeDelete = true then
          forwarded config table buf size side ptr
        else buf := by
  unfold useEntry at result ⊢
  have other : verdict ≠ .doalias ∧ verdict ≠ .notSupport := by
    rcases ends with reset | closed
    · simp [reset]
    · simp [closed]
  by_cases isTcp : ipP buf = ipprotoTcp
  · rw [if_pos isTcp] at result ⊢
    refine ⟨isTcp, ?_⟩
    have taken := tcpEntry_case config now table bucket buf ptr side.direction (onUnknown side)
      (forwarded config table buf size side ptr) (forwardedHostid config table buf size side ptr)
    generalize tcpEntry config now table bucket buf ptr side.direction (onUnknown side)
      (forwarded config table buf size side ptr) (forwardedHostid config table buf size side ptr) =
        outcome at taken result ⊢
    subst result
    cases taken with
    | settled => exact absurd rfl other.1
    | waiting live closed wait => exact (if_pos ⟨rfl, wait⟩).symm
    | closing live closed noWait => simp [noWait]
    | reset => simp
    | unknown =>
        cases side with
        | lan => simp [onUnknown]
        | wan => simp [onUnknown]
    | ordinary => exact absurd rfl other.1
  rw [if_neg isTcp] at result
  split at result
  · exact absurd result.symm other.1
  dsimp only at result
  split at result
  · exact absurd result.symm other.1
  · exact absurd result.symm other.2

theorem forward_echo (protocol : BitVec 8) :
    (forward settings now table bucket protocol buf size).bucket = bucket ∨
      IsClient (forward settings now table bucket protocol buf size).bucket.localAddr := by
  unfold System.forward
  split
  · have hairpin := Icmp.wan2lanAlias_bucket settings.nat now table bucket buf size
    simp only [hairpin]
    split
    · exact .inl hairpin
    · exact aliasPacket_echo .lan
  · exact aliasPacket_echo .lan

end Translations

/-- The packet of a request comes from a client, whatever its answer. -/
def FromClient : RecvItem → Due Message Reply → Prop
  | .request buf _, _ => IsClient (ipSrc buf)
  | _, _ => True

/-- What is known of the packet that the divert thread works on. -/
def Settings.Diverts (settings : Settings) : DivertPc → Prop
  | .found side packet _ =>
      Passes settings.nat side packet.buf packet.size ∧ (side = .lan → Transport packet.buf)
  | .hairpin packet _ => TransportPacket packet.buf packet.size ∧ IsClient (ipSrc packet.buf)
  | .turned packet buf _ => TransportPacket buf packet.size
  | .closing side buf _ => settings.Presents side buf
  | .arming side buf _ _ => settings.Presents side buf
  | .suspending side buf _ _ => settings.Presents side buf
  | .rearming side buf _ _ => settings.Presents side buf
  | _ => True

/-- The packet that waits for its mapping to be entered is the one that was asked for. -/
def ReceiverPc.Forwards : ReceiverPc → Prop
  | .adding _ protocol buf size => protocol = ipP buf ∧ TransportPacket buf size
  | .forwarding protocol buf size => protocol = ipP buf ∧ TransportPacket buf size
  | _ => True

structure IsolatedInv (settings : Settings) (state : State) : Prop where
  pooled : PooledInv settings state
  clients : ∀ ptr ∈ state.table.l2w, IsClient (state.table.heap ptr).lan.ip
  echo : state.bucket.localAddr = 0 ∨ IsClient state.bucket.localAddr
  requests : ∀ buf size, state.Sends (.sendReq buf size) → IsClient (ipSrc buf)
  aligned : Aligned FromClient state.items state.replies state.messages
  made : ∀ item message, state.sender.made = some (item, message) → FromClient item (.asked message)
  carries : ∀ buf size origin, state.Carries buf size origin → TransportPacket buf size
  diverts : settings.Diverts state.divert
  forwards : state.receiver.Forwards

/-- The entry whose endpoint the divert thread is about to put into a packet. -/
def DivertPc.rewrites : DivertPc → Option Ptr
  | .found _ _ ptr => some ptr
  | .turned _ _ ptr => some ptr
  | _ => none

/-- The entry is still in the table. -/
def Present (state : State) : Event → Prop
  | .divert => UpToDate state .divert ∧ ∀ ptr ∈ state.divert.rewrites, ptr ∈ state.table.l2w
  | event => UpToDate state event

instance (state : State) : (event : Event) → Decidable (Present state event)
  | .divert =>
      have := @Option.decidableForallMem _ (fun ptr => ptr ∈ state.table.l2w) _ state.divert.rewrites
      inferInstanceAs (Decidable (_ ∧ _))
  | .timer => inferInstanceAs (Decidable (UpToDate state .timer))
  | .sender => inferInstanceAs (Decidable (UpToDate state .sender))
  | .clock _ | .scribble _ _ | .packet _ _ | .kevent _ | .server | .receiver _ | .sendto =>
      isTrue trivial

theorem Present.upToDate {state : State} {event : Event} (present : Present state event) :
    UpToDate state event := by
  cases event with
  | divert => exact present.1
  | timer => exact present
  | sender => exact present
  | _ => trivial

theorem Present.member {state : State} (present : Present state .divert) {ptr : Ptr}
    (rewrites : state.divert.rewrites = some ptr) : ptr ∈ state.table.l2w :=
  present.2 ptr rewrites

section Waiting

variable {settings : Settings} {state after : State} {event : Event}

theorem pooled_word {poolAddr : List (BitVec 32)} {startPort endPort : Int} {node : Node}
    (onPool : OnPool startPort endPort poolAddr (fieldsOf node)) : swap32 node.wan.ip ∈ poolAddr := by
  obtain ⟨word, announced, same⟩ := onPool.address
  rw [show swap32 node.wan.ip = word from BitVec.eq_of_toNat_eq same]
  exact announced

theorem IsolatedInv.isolated (inv : IsolatedInv settings state) :
    Isolated settings state.table state.bucket where
  inv := inv.pooled.exchange.timeouts.table
  pooled ptr member := pooled_word (inv.pooled.entries ptr member)
  clients := inv.clients
  echo := inv.echo

theorem items_handling {reply : Reply} {item : RecvItem}
    (handling : state.receiver = .handling reply item) : state.items = item :: state.hRecv := by
  rw [State.items, handling]
  rfl

theorem IsolatedInv.answered (inv : IsolatedInv settings state) {reply : Reply} {item : RecvItem}
    (handling : state.receiver = .handling reply item) (type : reply.type ≠ .releaseAck) :
    ∃ buf size, item = .request buf size ∧ TransportPacket buf size ∧ IsClient (ipSrc buf) ∧
      (reply.fields.protocol, reply.fields.lanIp, reply.fields.lanPort) = sourceOf buf := by
  have fits := inv.pooled.exchange.handled handling
  have aligned := inv.aligned
  rw [items_handling handling, replies_handling handling] at aligned
  have client := aligned.front.1
  cases item with
  | request buf size =>
      obtain ⟨packet, -, source⟩ := fits
      exact ⟨buf, size, rfl, packet, client, source⟩
  | release => exact absurd fits type
  | timeout => exact absurd fits.1 type

theorem IsolatedInv.granted (inv : IsolatedInv settings state) {reply : Reply} {item : RecvItem}
    (handling : state.receiver = .handling reply item) (type : reply.type = .requestAck)
    {node : Node}
    (granted : mappingOf node = mappingOf (parsedNode state.now reply.fields)) :
    IsClient node.lan.ip := by
  obtain ⟨buf, size, -, -, client, source⟩ := inv.answered handling (by rw [type]; decide)
  have fields : fieldsOf node = reply.fields :=
    (fieldsOf_congr granted).trans (inv.pooled.exchange.granted handling type).2
  have lanIp : (fieldsOf node).lanIp = (swap32 (endpoint buf .source).ip).toNat := by
    rw [fields]
    exact congrArg (fun source : Nat × Nat × Int => source.2.1) source
  have same : swap32 node.lan.ip = swap32 (ipSrc buf) := BitVec.eq_of_toNat_eq lanIp
  rw [IsClient, same]
  exact client

theorem IsolatedInv.clients_step (inv : IsolatedInv settings state)
    (core : CoreCase settings state event after) :
    ∀ ptr ∈ after.table.l2w, IsClient (after.table.heap ptr).lan.ip := by
  have timeouts := inv.pooled.exchange.timeouts
  have kept : ∀ ptr ∈ state.table.l2w, IsClient (after.table.heap ptr).lan.ip := by
    intro ptr member
    have same : (after.table.heap ptr).lan = (state.table.heap ptr).lan := congrArg Mapping.lan
      (mapping_kept timeouts.table timeouts.live core (timeouts.live ptr member))
    rw [same]
    exact inv.clients ptr member
  intro ptr member
  rcases core_l2w timeouts core with fewer | ⟨reply, item, handling, type, fresh, grown, granted⟩
  · exact kept ptr (fewer ptr member)
  · rw [grown] at member
    rcases List.mem_cons.mp member with isFresh | old
    · rw [isFresh]
      exact inv.granted handling type granted
    · exact kept ptr old

theorem releasedOutcome_echo (item : RecvItem) :
    (releasedOutcome settings state item).bucket = state.bucket ∨
      IsClient (releasedOutcome settings state item).bucket.localAddr := by
  cases item with
  | release rel => exact aliasPacket_echo rel
  | request => exact .inl rfl
  | timeout => exact .inl rfl

theorem bucket_step (moved : StepCase settings state event after) :
    after.bucket = state.bucket ∨ IsClient after.bucket.localAddr := by
  cases moved with
  | missed side packet => exact @aliasPacket_echo _ _ _ state.bucket _ _ side
  | requested packet => exact @aliasPacket_echo _ _ _ state.bucket _ _ .lan
  | translated side packet ptr => exact .inl (useEntry_bucket side ptr)
  | released side packet ptr => exact .inl (useEntry_bucket side ptr)
  | closed side packet ptr => exact .inl (useEntry_bucket side ptr)
  | forwarded fresh protocol buf size => exact @forward_echo _ _ _ state.bucket _ _ protocol
  | skip ptr reply => exact releasedOutcome_echo _
  | ignore ptr reply item => exact releasedOutcome_echo item
  | delete ptr reply item => exact releasedOutcome_echo item
  | stopAck ptr reply item => exact releasedOutcome_echo item
  | _ => exact .inl rfl

theorem format_request {table : Table} {pc : SenderPc} {buf : Buffer} {size : Nat}
    {message : Message} (made : format table pc = some (.request buf size, message)) :
    pc = .formatting (.sendReq buf size) := by
  cases pc with
  | formatting item =>
      cases item with
      | sendReq =>
          cases made
          rfl
      | sendRel => cases made
      | timeout => cases made
  | popping => cases made
  | unmatched => cases made
  | matched => cases made
  | pushing => cases made
  | sending => cases made

theorem IsolatedInv.aligned_step (inv : IsolatedInv settings state)
    (flow : FlowCase settings state after) :
    Aligned FromClient after.items after.replies after.messages ∧
      ∀ item message, after.sender.made = some (item, message) →
        FromClient item (.asked message) := by
  constructor
  · apply aligned_flow flow inv.aligned (fun item member answer client => client) inv.made
    intro message rest answer front result
    obtain ⟨server, reply, replied, -⟩ := inv.pooled.exchange.reached front settings.socketId
    rw [result] at replied
    cases replied
    refine ⟨reply, rfl, ?_⟩
    intro item client
    cases item with
    | request => exact client
    | release => trivial
    | timeout => trivial
  · apply made_flow flow inv.made
    intro kept message result _
    cases kept with
    | request buf size =>
        have formatting := format_request result
        exact inv.requests buf size (.inr (.inr (.inr (by rw [formatting]; rfl))))
    | release => trivial
    | timeout => trivial

theorem IsolatedInv.requests_step (inv : IsolatedInv settings state)
    (moved : StepCase settings state event after) :
    ∀ buf size, after.Sends (.sendReq buf size) → IsClient (ipSrc buf) := by
  intro buf size sends
  rcases sends_step moved sends with before | starts
  · exact inv.requests buf size before
  · cases starts with
    | request packet verdict => exact lan2wanAlias_waiting packet.formed verdict
    | turned packet ptr hairpin =>
        have known := inv.diverts
        rw [hairpin] at known
        obtain ⟨whole, client⟩ := known
        have source : ipSrc (toLan settings.nat state.table ptr packet.buf packet.size) =
            ipSrc packet.buf :=
          congrArg Endpoint.ip (UdpZero.toLan_source settings.nat state.table ptr whole).2
        rw [source]
        exact client

theorem IsolatedInv.carries_step (inv : IsolatedInv settings state)
    (moved : StepCase settings state event after) :
    ∀ buf size origin, after.Carries buf size origin → TransportPacket buf size := by
  intro buf size origin carries
  rcases System.carries_step moved carries with before | starts
  · exact inv.carries buf size origin before
  · cases starts with
    | release side packet ptr found asks =>
        have same : ipP packet.buf = ipprotoTcp ∧
            (state.used settings side packet ptr).buf = packet.buf := by
          rcases asks with reset | ⟨closed, wait⟩
          · obtain ⟨tcp, kept⟩ := useEntry_ends (.inl rfl) reset
            exact ⟨tcp, kept.trans (if_neg (by simp))⟩
          · obtain ⟨tcp, kept⟩ := useEntry_ends (.inr rfl) closed
            exact ⟨tcp, kept.trans (if_neg (by simp [wait]))⟩
        rw [same.2]
        exact packet.formed (.inl same.1)

theorem hairpin_client {config : Config} {table : Table} {side : Side} {packet : Datagram}
    {ptr : Ptr} (found : hairpinEntry config table side packet.buf packet.size = some ptr) :
    TransportPacket packet.buf packet.size ∧ IsClient (ipSrc packet.buf) := by
  refine ⟨packet.formed (.inr (hairpinEntry_udp found)), ?_⟩
  rw [hairpinEntry] at found
  split at found
  · next turns => exact client_of_passes turns.2.1
  · cases found

theorem resolved_carried {config : Config} {table : Table} {side : Side} {packet : Datagram}
    {ptr : Ptr} (found : resolved config table side packet.buf packet.size = some ptr) :
    Passes config side packet.buf packet.size ∧ (side = .lan → Transport packet.buf) := by
  refine ⟨resolved_passes found, ?_⟩
  intro isLan
  subst isLan
  exact (resolved_lan found).1

theorem IsolatedInv.diverts_step (inv : IsolatedInv settings state)
    (moved : StepCase settings state event after) (allowed : Present state event) :
    settings.Diverts after.divert := by
  have known := inv.diverts
  cases moved with
  | missed => trivial
  | requested => trivial
  | found side packet ptr reading found => exact resolved_carried found
  | hairpin side packet ptr reading found => exact hairpin_client found
  | translated => trivial
  | released => trivial
  | closed side packet ptr found verdict wait =>
      have member := allowed.member (by rw [found]; rfl)
      obtain ⟨tcp, translated⟩ := useEntry_ends (.inr rfl) verdict
      have presents := (inv.isolated.rewritten (packet.formed (.inl tcp)) member side).1
      rw [if_pos ⟨rfl, wait⟩] at translated
      rw [← translated] at presents
      exact presents
  | turned packet ptr source hairpin found =>
      rw [hairpin] at known
      exact UdpZero.rewrite_packet settings.nat .destination _ known.1 _
  | turnedAway => trivial
  | returned => trivial
  | dropRequest => trivial
  | pushRequest => trivial
  | pushRelease => trivial
  | closeNothing => trivial
  | closeFound side buf size ptr closing found =>
      rw [closing] at known
      exact known
  | arm side buf size ptr arming =>
      rw [arming] at known
      exact known
  | suspend side buf size ident suspending =>
      rw [suspending] at known
      exact known
  | rearm => trivial
  | _ => exact known

theorem IsolatedInv.forwards_step (inv : IsolatedInv settings state)
    (moved : StepCase settings state event after) : after.receiver.Forwards := by
  have known := inv.forwards
  cases moved with
  | insert fresh reply item buf size handling type isPacket unused free waiting =>
      obtain ⟨asked, askedSize, isItem, packet, -, source⟩ :=
        inv.answered handling (by rw [type]; decide)
      rw [isItem] at waiting
      cases waiting
      have protocol : (parsedNode state.now reply.fields).protocol = ipP buf := by
        change BitVec.ofNat 8 reply.fields.protocol = ipP buf
        rw [show reply.fields.protocol = (ipP buf).toNat from congrArg Prod.fst source]
        exact (BitVec.ofNat_toNat 8 (ipP buf)).trans (BitVec.setWidth_eq _)
      simp only [State.inserted]
      split
      · exact ⟨protocol, packet⟩
      · exact ⟨protocol, packet⟩
  | add fresh ident protocol buf size adding =>
      rw [adding] at known
      exact known
  | receive => trivial
  | popRecv => trivial
  | discard => trivial
  | refuse => trivial
  | forwarded => trivial
  | timeoutAck => trivial
  | skip => trivial
  | ignore => trivial
  | delete => trivial
  | _ => exact known

theorem IsolatedInv.step (inv : IsolatedInv settings state)
    (moved : StepCase settings state event after) (allowed : Present state event) :
    IsolatedInv settings after := by
  obtain ⟨aligned, made⟩ := inv.aligned_step (flow_case moved)
  exact
    { pooled := inv.pooled.step moved allowed.upToDate
      clients := inv.clients_step (core_case moved)
      echo := by
        rcases bucket_step moved with same | client
        · rw [same]
          exact inv.echo
        · exact .inr client
      requests := inv.requests_step moved
      aligned := aligned
      made := made
      carries := inv.carries_step moved
      diverts := inv.diverts_step moved allowed
      forwards := inv.forwards_step moved }

end Waiting

def State.atHand (state : State) : Event → Option Datagram
  | .packet _ packet => some packet
  | .divert =>
      match state.divert with
      | .found _ packet _ => some packet
      | _ => none
  | _ => none

def State.refused (state : State) : Event → Option Buffer
  | .receiver _ =>
      match state.receiver with
      | .handling _ (.request buf _) => some buf
      | _ => none
  | _ => none

/-- A packet that is not translated is an answer to its sender, or is given back as it
came.  The answers of `mk_fn_packet` are the subject of FragNeeded.lean. -/
def Settings.Isolates (settings : Settings) (state : State) (event : Event) : Written → Prop
  | .translated side buf _ => settings.Presents side buf
  | .asReceived buf size =>
      ∃ packet ∈ state.atHand event, (packet.buf, packet.size) = (buf, size)
  | .reset buf _ => ∃ asked ∈ state.refused event, ipDst buf = ipSrc asked ∧ IsClient (ipSrc asked)
  | .fragNeeded buf size =>
      size = 0 ∨ ∃ packet ∈ state.atHand event, ipDst buf = ipSrc packet.buf

section Crossing

variable {settings : Settings} {state after : State} {event : Event} {optReset : Bool}
variable {id : BitVec 16} {written : Written}

theorem isolates_cleared {side : Side} {buf result : Buffer} {size : Nat}
    (presents : settings.Presents side buf) (same : result = buf ∨ result = clearDf buf) :
    settings.Isolates state event (.translated side result size) := by
  rcases same with plain | cleared
  · rw [plain]
    exact presents
  · rw [cleared]
    exact presents.clearDf

theorem isolates_verdict {side : Side} {packet : Datagram} {outcome : Outcome}
    (atHand : state.atHand event = some packet)
    (presents : outcome.verdict = .doalias → settings.Presents side outcome.buf)
    (taken : VerdictCase settings id side packet outcome written) :
    settings.Isolates state event written := by
  cases taken with
  | translated buf size doalias isBuf => exact isolates_cleared (presents doalias) isBuf
  | fragNeeded message made =>
      rcases mkFnPacket_destination made with empty | destination
      · exact .inl empty
      · exact .inr ⟨packet, atHand, destination⟩
  | asReceived => exact ⟨packet, atHand, rfl⟩

/-- The divert thread writes what its entry or its alias function makes of the packet. -/
theorem IsolatedInv.divert (inv : IsolatedInv settings state) (allowed : Present state .divert)
    (received : ∀ packet ∈ state.atHand .divert, Received packet.buf packet.size)
    (wrote : divertStepWrites settings id state = some written) :
    settings.Isolates state .divert written := by
  have known := inv.diverts
  unfold divertStepWrites at wrote
  split at wrote
  · next side packet ptr found =>
      have atHand : state.atHand .divert = some packet := by simp only [State.atHand, found]
      have member := allowed.member (by rw [found]; rfl)
      rw [found] at known
      apply isolates_verdict atHand _ (verdictWrites_case used_unchanged wrote)
      intro doalias
      exact inv.isolated.used (received packet atHand) member known.1 known.2 doalias
  · next packet buf ptr turned =>
      have member := allowed.member (by rw [turned]; rfl)
      rw [turned] at known
      rw [← Option.some.inj wrote]
      have presents := (inv.isolated.rewritten known member .lan).2
      obtain ⟨newSize, result | result⟩ := loopDivertDoalias_case settings.nat .lan packet
        (toWanHostid settings.nat state.table ptr buf packet.size)
      · rw [result]
        exact isolates_cleared presents (.inr rfl)
      · rw [result]
        exact isolates_cleared presents (.inl rfl)
  · next side buf size ident rearming =>
      rw [rearming] at known
      rw [← Option.some.inj wrote]
      exact known
  · cases wrote

theorem IsolatedInv.requestDiscard (inv : IsolatedInv settings state) {fresh : Ptr} {reply : Reply}
    {buf : Buffer} {size : Nat} (handling : state.receiver = .handling reply (.request buf size))
    (type : reply.type = .requestDiscard)
    (wrote : requestDiscardWrites settings optReset buf size = some written) :
    settings.Isolates state (.receiver fresh) written := by
  obtain ⟨asked, askedSize, isItem, packet, client, -⟩ := inv.answered handling (by rw [type]; decide)
  cases isItem
  unfold requestDiscardWrites at wrote
  split at wrote
  · next resets =>
      have tcp : ipP buf = ipprotoTcp := beq_iff_eq.mp (Bool.and_eq_true_iff.mp resets).2
      have header := packet.headerLength_ge
      have destination : ipDst (tcpResetAlias settings.nat.build buf size) = ipSrc buf := by
        rw [ipDst, read32_reset settings.nat.build packet tcp (by decide) (by omega)]
        exact (answered_addresses packet).2
      rw [← Option.some.inj wrote]
      exact ⟨buf, by simp only [State.refused, handling, Option.mem_def], destination, client⟩
  · cases wrote

theorem IsolatedInv.releaseAck (inv : IsolatedInv settings state) {reply : Reply} {item : RecvItem}
    (handling : state.receiver = .handling reply item) (type : reply.type = .releaseAck)
    (wrote : releaseAckWrites settings state reply.fields item = some written) :
    settings.Isolates state event written := by
  cases item with
  | timeout ptr => cases wrote
  | request buf size =>
      exact absurd type (Fits.notReleased (inv.pooled.exchange.handled handling))
  | release rel buf size origin =>
      have member : RecvItem.release rel buf size origin ∈ state.items := by
        rw [items_handling handling]
        exact List.mem_cons_self
      have packet := inv.carries buf size origin (.inr (.inr ⟨rel, member⟩))
      simp only [releaseAckWrites] at wrote
      split at wrote
      · cases wrote
      · next doalias =>
          split at wrote
          · rw [← Option.some.inj wrote]
            exact inv.isolated.presents (received_of_packet packet) rel
              (Decidable.not_not.mp doalias)
          · cases wrote

theorem IsolatedInv.receiver (inv : IsolatedInv settings state) {fresh : Ptr}
    (wrote : addrpoolReceiverWrites settings optReset state = some written) :
    settings.Isolates state (.receiver fresh) written := by
  unfold addrpoolReceiverWrites at wrote
  split at wrote
  · next reply item handling =>
      cases type : reply.type with
      | releaseAck =>
          rw [type] at wrote
          exact inv.releaseAck handling type wrote
      | requestAck =>
          rw [type] at wrote
          cases wrote
      | requestDiscard =>
          obtain ⟨buf, size, isItem, -⟩ := inv.answered handling (by rw [type]; decide)
          rw [type, isItem] at wrote
          rw [isItem] at handling
          exact inv.requestDiscard handling type wrote
  · next protocol buf size forwarding =>
      have known := inv.forwards
      rw [forwarding] at known
      obtain ⟨doalias, result, newSize, isWritten, isResult⟩ := forwardWrites_case wrote
      rw [known.1] at doalias isResult
      rw [isWritten]
      exact isolates_cleared (inv.isolated.forward known.2 doalias) isResult
  · cases wrote

end Crossing

end System
end NatPorte
