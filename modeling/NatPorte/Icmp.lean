/-
ICMP echo through the one `icmp_bucket`.

`lan2wan_alias` remembers the two addresses of the latest echo request,
`other_if_check` those of the latest ICMP packet on any other interface, and
`wan2lan_alias` uses whatever is remembered for every answer; identifiers and
sequence numbers are never looked at.  The module follows arbitrary interleavings
of packets and says which answers still reach the host that asked.
-/

import NatPorte.Tracking

namespace NatPorte
namespace Icmp

open ByteBuffer Structure Packet Checksum Alias TcpState Tracking

/-- `other_if_check`, which looks at nothing but the protocol. -/
def otherIfCheck (table : Table) (bucket : IcmpBucket) (buf : Buffer) : Outcome :=
  if ipP buf = ipprotoIcmp then
    { verdict := .through, table := table
      bucket := { localAddr := ipSrc buf, foreign := ipDst buf }
      buf := write16 buf ipSumOffset 0 }
  else { verdict := .through, table := table, bucket := bucket, buf := buf }

inductive Event where
  | lan (buf : Buffer) (size : Nat)
  | wan (buf : Buffer) (size : Nat)
  | other (buf : Buffer)
  /-- time passes and the other threads work on the table -/
  | elsewhere (now : Int) (table : Table)

structure State where
  now : Int
  table : Table
  bucket : IcmpBucket

def step (config : Config) (state : State) : Event → State
  | .lan buf size =>
      let outcome := lan2wanAlias config state.now state.table state.bucket buf size
      { state with table := outcome.table, bucket := outcome.bucket }
  | .wan buf size =>
      let outcome := wan2lanAlias config state.now state.table state.bucket buf size
      { state with table := outcome.table, bucket := outcome.bucket }
  | .other buf => { state with bucket := (otherIfCheck state.table state.bucket buf).bucket }
  | .elsewhere now table => { state with now := now, table := table }

def run (config : Config) (start : State) (events : List Event) : State :=
  events.foldl (step config) start

structure Request where
  host : BitVec 32
  remote : BitVec 32
  ident : BitVec 16
  sequence : BitVec 16
  deriving DecidableEq, Repr

def icmpEcho : BitVec 8 := 8
def icmpEchoReply : BitVec 8 := 0
def icmpTstampReply : BitVec 8 := 14

/-- `ICMP_UNREACH`, `ICMP_SOURCEQUENCH`, `ICMP_TIMXCEED`, `ICMP_PARAMPROB` -/
def icmpErrors : List (BitVec 8) := [3, 4, 11, 12]

def requestIn (buf : Buffer) : Request :=
  { host := ipSrc buf, remote := ipDst buf
    ident := read16 buf (headerLength buf + 4), sequence := read16 buf (headerLength buf + 6) }

/-- A packet from the LAN that `lan2wan_alias` remembers. -/
structure Remembered (config : Config) (buf : Buffer) (size : Nat) : Prop where
  passes : Passes config .lan buf size
  icmp : ipP buf = ipprotoIcmp
  type : icmpType buf = icmpEcho ∨ icmpType buf = icmpTstampReply
  stranger : chkSelfaddr config (ipDst buf) .lan2wan = false

instance (config : Config) (buf : Buffer) (size : Nat) : Decidable (Remembered config buf size) :=
  decidable_of_iff
    (Passes config .lan buf size ∧ ipP buf = ipprotoIcmp ∧
      (icmpType buf = icmpEcho ∨ icmpType buf = icmpTstampReply) ∧
      chkSelfaddr config (ipDst buf) .lan2wan = false)
    ⟨fun ⟨passes, icmp, type, stranger⟩ => ⟨passes, icmp, type, stranger⟩,
      fun found => ⟨found.passes, found.icmp, found.type, found.stranger⟩⟩

/-- What an event leaves in the bucket, from the packet alone. -/
def remembers (config : Config) : Event → Option IcmpBucket
  | .lan buf size =>
      if Remembered config buf size then some { localAddr := ipSrc buf, foreign := ipDst buf }
      else none
  | .other buf =>
      if ipP buf = ipprotoIcmp then some { localAddr := ipSrc buf, foreign := ipDst buf } else none
  | .wan _ _ => none
  | .elsewhere _ _ => none

def lastRemembered (config : Config) (start : IcmpBucket) (events : List Event) : IcmpBucket :=
  (events.filterMap (remembers config)).getLastD start

/-- An echo request that `lan2wan_alias` sends out. -/
structure Asks (config : Config) (buf : Buffer) (size : Nat) : Prop where
  remembered : Remembered config buf size
  echo : icmpType buf = icmpEcho

/-- An ICMP packet with its header inside `size`. -/
structure IcmpPacket (buf : Buffer) (size : Nat) : Prop where
  header : 5 ≤ ipHl buf
  icmp : ipP buf = ipprotoIcmp
  long : headerLength buf + 8 ≤ size
  inBuffer : size ≤ buf.length

structure Replies (request : Request) (buf : Buffer) (size : Nat) : Prop where
  packet : IcmpPacket buf size
  type : icmpType buf = icmpEchoReply
  remote : ipSrc buf = request.remote
  ident : read16 buf (headerLength buf + 4) = request.ident
  sequence : read16 buf (headerLength buf + 6) = request.sequence

/-- An error that quotes a request as it left the router. -/
structure Quotes (config : Config) (request : Request) (buf : Buffer) (size : Nat) : Prop where
  packet : IcmpPacket buf size
  type : icmpType buf ∈ icmpErrors
  header : extIphdr buf + 20 ≤ extL4 buf
  long : extL4 buf + 8 ≤ size
  icmp : getByte buf (extIphdr buf + 9) = ipprotoIcmp
  source : read32 buf (extIphdr buf + 12) = config.icmpWanAddr
  remote : read32 buf (extIphdr buf + 16) = request.remote
  echo : getByte buf (extL4 buf) = icmpEcho
  ident : read16 buf (extL4 buf + 4) = request.ident
  sequence : read16 buf (extL4 buf + 6) = request.sequence

/-- The answer goes to the host that asked. -/
def Returned (outcome : Outcome) (request : Request) : Prop :=
  outcome.verdict = .doalias ∧ ipDst outcome.buf = request.host

/-- ... and quotes the request as the host sent it. -/
def ReturnedQuote (outcome : Outcome) (quote : Nat) (request : Request) : Prop :=
  Returned outcome request ∧ read32 outcome.buf (quote + 12) = request.host ∧
    read32 outcome.buf (quote + 16) = request.remote

section Dispatch

variable (config : Config) (now : Int) (table : Table) (bucket : IcmpBucket) (buf : Buffer)
  (size : Nat) (side : Side)

theorem dispatch_icmp (passes : Passes config side buf size) (isIcmp : ipP buf = ipprotoIcmp)
    (tcp udp icmp : Outcome) :
    dispatch config table bucket buf size side.direction tcp udp icmp = icmp := by
  have notTcp : ¬ipprotoIcmp = ipprotoTcp := by decide
  have notUdp : ¬ipprotoIcmp = ipprotoUdp := by decide
  rw [dispatch_accepted config table bucket buf size side passes, isIcmp, if_neg notTcp,
    if_neg notUdp, if_pos rfl]

theorem dispatch_bucket {tcp udp icmp : Outcome} (tcpBucket : tcp.bucket = bucket)
    (udpBucket : udp.bucket = bucket)
    (icmpBucket : Passes config side buf size → ipP buf = ipprotoIcmp → icmp.bucket = bucket) :
    (dispatch config table bucket buf size side.direction tcp udp icmp).bucket = bucket := by
  rcases dispatch_split config table bucket buf size side tcp udp icmp with
    ⟨verdict, -, result⟩ | ⟨passes, ⟨-, result⟩ | ⟨-, result⟩ | ⟨isIcmp, result⟩⟩
  · rw [result]
  · rw [result, tcpBucket]
  · rw [result, udpBucket]
  · rw [result, icmpBucket passes isIcmp]

theorem tcpEntry_bucket (ptr : Ptr) (direction : AliasFrom) (onUnknown : Verdict)
    (translated ordinary : Buffer) :
    (tcpEntry config now table bucket buf ptr direction onUnknown translated ordinary).bucket =
      bucket := by
  have taken := tcpEntry_case config now table bucket buf ptr direction onUnknown translated
    ordinary
  generalize tcpEntry config now table bucket buf ptr direction onUnknown translated ordinary =
    outcome at taken ⊢
  cases taken <;> rfl

theorem wan2lanAlias_bucket : (wan2lanAlias config now table bucket buf size).bucket = bucket := by
  have quoted : ∀ protocol,
      (wan2lanQuoted config now table bucket buf size protocol).bucket = bucket := by
    intro protocol
    simp only [wan2lanQuoted]
    split
    · rfl
    · split <;> rfl
  apply dispatch_bucket config table bucket buf size .wan
  · rw [wan2lanTcp]
    split
    · rfl
    · exact tcpEntry_bucket config now table bucket buf _ _ _ _ _
  · rw [wan2lanUdp]
    split <;> rfl
  · intro _ _
    simp only [wan2lanIcmp]
    repeat' split
    all_goals first | exact quoted _ | rfl

theorem lan2wanTcp_bucket : (lan2wanTcp config now table bucket buf size).bucket = bucket := by
  simp only [lan2wanTcp]
  split
  · rfl
  · split
    · split <;> rfl
    · exact tcpEntry_bucket config now table bucket buf _ _ _ _ _

theorem lan2wanUdp_bucket : (lan2wanUdp config now table bucket buf size).bucket = bucket := by
  have hairpin := wan2lanAlias_bucket config now table bucket buf size
  simp only [lan2wanUdp]
  split
  · split
    · exact hairpin
    · split <;> rfl
  · split <;> rfl

theorem lan2wanIcmp_bucket :
    (lan2wanIcmp config table bucket buf).bucket =
      if (icmpType buf = icmpEcho ∨ icmpType buf = icmpTstampReply) ∧
          chkSelfaddr config (ipDst buf) .lan2wan = false then
        { localAddr := ipSrc buf, foreign := ipDst buf }
      else bucket := by
  have byNumber : ∀ number : BitVec 8, (icmpType buf).toNat = number.toNat ↔ icmpType buf = number :=
    fun _ => BitVec.toNat_inj
  have echo := byNumber icmpEcho
  have reply := byNumber icmpTstampReply
  change (icmpType buf).toNat = 8 ↔ _ at echo
  change (icmpType buf).toNat = 14 ↔ _ at reply
  simp only [lan2wanIcmp]
  split
  · next type =>
      have found := echo.mp type
      cases self : chkSelfaddr config (ipDst buf) .lan2wan with
      | true => rw [if_pos rfl, if_neg (fun stored => Bool.noConfusion stored.2)]
      | false => rw [if_neg Bool.false_ne_true, if_pos ⟨.inl found, rfl⟩]
  · next type =>
      have found := reply.mp type
      cases self : chkSelfaddr config (ipDst buf) .lan2wan with
      | true => rw [if_pos rfl, if_neg (fun stored => Bool.noConfusion stored.2)]
      | false => rw [if_neg Bool.false_ne_true, if_pos ⟨.inr found, rfl⟩]
  · next notEcho notReply =>
      rw [if_neg]
      intro stored
      exact stored.1.elim (fun found => notEcho (echo.mpr found))
        (fun found => notReply (reply.mpr found))

theorem lan2wanAlias_bucket :
    (lan2wanAlias config now table bucket buf size).bucket =
      (remembers config (.lan buf size)).getD bucket := by
  simp only [remembers]
  by_cases remembered : Remembered config buf size
  · rw [if_pos remembered, Option.getD_some, lan2wanAlias]
    have branch := dispatch_icmp config table bucket buf size .lan remembered.passes
      remembered.icmp (lan2wanTcp config now table bucket buf size)
      (lan2wanUdp config now table bucket buf size) (lan2wanIcmp config table bucket buf)
    refine (congrArg Outcome.bucket branch).trans ?_
    rw [lan2wanIcmp_bucket, if_pos ⟨remembered.type, remembered.stranger⟩]
  · rw [if_neg remembered, Option.getD_none]
    apply dispatch_bucket config table bucket buf size .lan
    · exact lan2wanTcp_bucket config now table bucket buf size
    · exact lan2wanUdp_bucket config now table bucket buf size
    · intro passes isIcmp
      rw [lan2wanIcmp_bucket, if_neg]
      intro stored
      exact remembered ⟨passes, isIcmp, stored.1, stored.2⟩

end Dispatch

theorem step_bucket (config : Config) (state : State) (event : Event) :
    (step config state event).bucket = (remembers config event).getD state.bucket := by
  cases event with
  | lan buf size => exact lan2wanAlias_bucket config state.now state.table state.bucket buf size
  | wan buf size => exact wan2lanAlias_bucket config state.now state.table state.bucket buf size
  | other buf =>
      simp only [step, otherIfCheck, remembers]
      split <;> rfl
  | elsewhere now table => rfl

theorem run_bucket (config : Config) (start : State) (events : List Event) :
    (run config start events).bucket = lastRemembered config start.bucket events := by
  induction events generalizing start with
  | nil => rfl
  | cons event rest ih =>
      have later := ih (step config start event)
      rw [run] at later ⊢
      rw [List.foldl_cons, later, step_bucket, lastRemembered, lastRemembered]
      cases stored : remembers config event with
      | none => rw [List.filterMap_cons_none stored, Option.getD_none]
      | some pair => rw [List.filterMap_cons_some stored, Option.getD_some, List.getLastD_cons]

section Answers

variable {config : Config} {buf : Buffer} {size : Nat} (now : Int) (table : Table)
  (bucket : IcmpBucket) {request : Request}

theorem returned_passes
    (returned : Returned (wan2lanAlias config now table bucket buf size) request) :
    Passes config .wan buf size := by
  have doalias := returned.1
  rw [wan2lanAlias] at doalias
  exact passes_of_goesOn config table bucket buf size .wan (by decide) doalias

theorem wan2lanAlias_icmp (passes : Passes config .wan buf size) (isIcmp : ipP buf = ipprotoIcmp) :
    wan2lanAlias config now table bucket buf size =
      wan2lanIcmp config now table bucket buf size :=
  dispatch_icmp config table bucket buf size .wan passes isIcmp _ _ _

theorem icmp_type_number {number : BitVec 8} (type : icmpType buf = number) :
    (icmpType buf).toNat = number.toNat := congrArg BitVec.toNat type

theorem error_number (type : icmpType buf ∈ icmpErrors) :
    (icmpType buf).toNat = 3 ∨ (icmpType buf).toNat = 4 ∨
      (icmpType buf).toNat = 11 ∨ (icmpType buf).toNat = 12 := by
  simp only [icmpErrors, List.mem_cons, List.not_mem_nil, or_false] at type
  rcases type with type | type | type | type <;> rw [type] <;> decide

theorem ipDst_written (inBuffer : 20 ≤ buf.length) (address : BitVec 32) (field : BitVec 16) :
    ipDst (write16 (write32 buf 16 address) ipSumOffset field) = address := by
  have kept : read32 (write16 (write32 buf 16 address) ipSumOffset field) 16 =
      read32 (write32 buf 16 address) 16 :=
    read32_congr (fun position low _ => getByte_write16 (by rw [ipSumOffset]; omega) field)
  rw [ipDst, kept, read32_write32 inBuffer]

theorem returned_reply (replies : Replies request buf size) :
    Returned (wan2lanAlias config now table bucket buf size) request ↔
      Passes config .wan buf size ∧ bucket.localAddr = request.host ∧
        chkSelfaddr config request.host .wan2lan = false := by
  have inBuffer := replies.packet.inBuffer
  have long := replies.packet.long
  have number : (icmpType buf).toNat = 0 := icmp_type_number replies.type
  have answer : Passes config .wan buf size →
      (wan2lanAlias config now table bucket buf size) =
        if chkSelfaddr config bucket.localAddr .wan2lan then
          { verdict := .toMe, table := table, bucket := bucket, buf := buf }
        else
          { verdict := .doalias, table := table, bucket := bucket
            buf := write16 (write32 buf 16 bucket.localAddr) ipSumOffset 0 } := by
    intro passes
    rw [wan2lanAlias_icmp now table bucket passes replies.packet.icmp]
    simp only [wan2lanIcmp, number]
  constructor
  · intro returned
    have passes := returned_passes now table bucket returned
    have header : 20 ≤ size := Nat.le_of_lt passes.long
    rw [answer passes, Returned] at returned
    cases self : chkSelfaddr config bucket.localAddr .wan2lan with
    | true =>
        rw [if_pos self] at returned
        cases returned.1
    | false =>
        rw [if_neg (Bool.eq_false_iff.mp self), ipDst_written (by omega)] at returned
        rw [← returned.2]
        exact ⟨passes, rfl, self⟩
  · intro remembered
    obtain ⟨passes, host, stranger⟩ := remembered
    have header : 20 ≤ size := Nat.le_of_lt passes.long
    rw [← host] at stranger
    rw [answer passes, Returned, if_neg (Bool.eq_false_iff.mp stranger),
      ipDst_written (by omega), host]
    exact ⟨rfl, rfl⟩

theorem refreshIcmp_frame {answer : Buffer} {position : Nat}
    (notIp : ¬InField (extIphdr answer + ipSumOffset) position)
    (notIcmp : ¬InField (headerLength answer + icmpCksumOffset) position) :
    getByte (refreshIcmp answer size) position = getByte answer position := by
  simp only [InField] at notIp notIcmp
  simp only [refreshIcmp, refreshSum, checksumIp]
  rw [getByte_write16 (by omega), getByte_write16 (by omega), getByte_write16 (by omega),
    getByte_write16 (by omega)]

theorem refreshIcmp_read32 {answer : Buffer} {offset : Nat}
    (notIp : offset + 4 ≤ extIphdr answer + 10 ∨ extIphdr answer + 12 ≤ offset)
    (notIcmp : offset + 4 ≤ headerLength answer + 2 ∨ headerLength answer + 4 ≤ offset) :
    read32 (refreshIcmp answer size) offset = read32 answer offset := by
  apply read32_congr
  intro position low high
  apply refreshIcmp_frame
  · simp only [InField, ipSumOffset]
    omega
  · simp only [InField, icmpCksumOffset]
    omega

theorem quote_addresses (outer : 20 ≤ headerLength buf) (inside : extIphdr buf + 20 ≤ buf.length) :
    let answer := write32 (write32 (write32 buf 16 bucket.localAddr) (extIphdr buf + 16)
      bucket.localAddr) (extIphdr buf + 12) bucket.foreign
    ipDst (refreshIcmp answer size) = bucket.localAddr ∧
      read32 (refreshIcmp answer size) (extIphdr buf + 12) = bucket.foreign ∧
      read32 (refreshIcmp answer size) (extIphdr buf + 16) = bucket.localAddr := by
  intro answer
  have quote : extIphdr buf = headerLength buf + 8 := rfl
  have sameHeader : headerLength answer = headerLength buf := by
    apply headerLength_congr
    change getByte (write32 (write32 (write32 buf 16 _) _ _) _ _) 0 = _
    rw [getByte_write32 (by omega), getByte_write32 (by omega), getByte_write32 (by omega)]
  have sameQuote : extIphdr answer = extIphdr buf := congrArg (· + 8) sameHeader
  have middle : ∀ position, position < extIphdr buf + 12 →
      getByte answer position = getByte (write32 buf 16 bucket.localAddr) position := by
    intro position low
    change getByte (write32 (write32 (write32 buf 16 _) _ _) _ _) position = _
    rw [getByte_write32 (by omega), getByte_write32 (by omega)]
  have upper : ∀ position, extIphdr buf + 16 ≤ position →
      getByte answer position = getByte (write32 (write32 buf 16 bucket.localAddr)
        (extIphdr buf + 16) bucket.localAddr) position :=
    fun position low => getByte_write32 (by omega) _
  refine ⟨?_, ?_, ?_⟩
  · rw [ipDst, refreshIcmp_read32 (by omega) (by omega),
      read32_congr (fun position low high => middle position (by omega)),
      read32_write32 (by omega)]
  · rw [refreshIcmp_read32 (by omega) (by omega)]
    exact read32_write32 (by rw [length_write32, length_write32]; omega) _
  · rw [refreshIcmp_read32 (by omega) (by omega),
      read32_congr (fun position low high => upper position low),
      read32_write32 (by rw [length_write32]; omega)]

theorem returned_quote (quotes : Quotes config request buf size) :
    ReturnedQuote (wan2lanAlias config now table bucket buf size) (extIphdr buf) request ↔
      Passes config .wan buf size ∧ bucket.localAddr = request.host ∧
        bucket.foreign = request.host ∧ request.remote = request.host := by
  have inBuffer := quotes.packet.inBuffer
  have long := quotes.long
  have header := quotes.header
  have outer : 20 ≤ headerLength buf := Nat.mul_le_mul_right 4 quotes.packet.header
  have answer : Passes config .wan buf size →
      wan2lanAlias config now table bucket buf size =
        { verdict := .doalias, table := table, bucket := bucket
          buf := refreshIcmp (write32 (write32 (write32 buf 16 bucket.localAddr)
            (extIphdr buf + 16) bucket.localAddr) (extIphdr buf + 12) bucket.foreign) size } := by
    intro passes
    rw [wan2lanAlias_icmp now table bucket passes quotes.packet.icmp]
    rcases error_number quotes.type with number | number | number | number <;>
      simp only [wan2lanIcmp, number, quotes.icmp, if_true]
  obtain ⟨destination, source, quoted⟩ :=
    @quote_addresses buf size bucket outer (by omega)
  generalize refreshIcmp _ size = answered at *
  constructor
  · intro returned
    have passes := returned_passes now table bucket returned.1
    rw [answer passes] at returned
    obtain ⟨⟨-, host⟩, foreign, remote⟩ := returned
    have sameHost := destination.symm.trans host
    exact ⟨passes, sameHost, source.symm.trans foreign,
      remote.symm.trans (quoted.trans sameHost)⟩
  · intro remembered
    obtain ⟨passes, host, foreign, remote⟩ := remembered
    rw [answer passes]
    exact ⟨⟨rfl, destination.trans host⟩, source.trans foreign,
      quoted.trans (host.trans remote.symm)⟩

end Answers

theorem lastRemembered_asked (config : Config) (start : IcmpBucket) (before after : List Event)
    {buf : Buffer} {size : Nat} (asks : Asks config buf size) :
    lastRemembered config start (before ++ .lan buf size :: after) =
      lastRemembered config { localAddr := ipSrc buf, foreign := ipDst buf } after := by
  have stored : remembers config (.lan buf size) =
      some { localAddr := ipSrc buf, foreign := ipDst buf } := if_pos asks.remembered
  rw [lastRemembered, lastRemembered, List.filterMap_append, List.filterMap_cons_some stored]
  simp [List.getLast?_append, List.getLast?_cons]

/-- Whatever came before and after an echo request, its reply reaches the host that
asked exactly when the latest remembered packet, the request or a later one, came from
that host.  An error that quotes the request does, with the right addresses, only when
that packet was the host's message to itself, and so was the request. -/
theorem echo_answers (config : Config) (start : State) (before after : List Event)
    (requestBuf : Buffer) (requestSize : Nat) (asks : Asks config requestBuf requestSize)
    (buf : Buffer) (size : Nat) :
    let request := requestIn requestBuf
    let state := run config start (before ++ .lan requestBuf requestSize :: after)
    let latest := lastRemembered config
      { localAddr := request.host, foreign := request.remote } after
    (Replies request buf size →
      (Returned (wan2lanAlias config state.now state.table state.bucket buf size) request ↔
        Passes config .wan buf size ∧ latest.localAddr = request.host ∧
          chkSelfaddr config request.host .wan2lan = false)) ∧
    (Quotes config request buf size →
      (ReturnedQuote (wan2lanAlias config state.now state.table state.bucket buf size)
          (extIphdr buf) request ↔
        Passes config .wan buf size ∧ latest.localAddr = request.host ∧
          latest.foreign = request.host ∧ request.remote = request.host)) := by
  intro request state latest
  have bucket : state.bucket = latest :=
    (run_bucket config start _).trans (lastRemembered_asked config start.bucket before after asks)
  rw [bucket]
  exact ⟨returned_reply state.now state.table latest, returned_quote state.now state.table latest⟩

private def echoConfig : Config :=
  { build := ⟨true, true, true, false⟩, optHostid := false, optNageteDf := false
    wanIfMtu := 1500, lanIfMtu := 1500, lanAddr := [0x0A000001], wanAddr := [0xC6336407]
    icmpWanAddr := 0x076433C6 }

private def echoStart : State :=
  { now := 0, table := sInit fun _ => probeLan 0 ⟨0, 0⟩, bucket := { localAddr := 0, foreign := 0 } }

private def ping : Buffer :=
  [69, 0, 0, 28, 0, 1, 0, 0, 64, 1, 174, 213, 10, 0, 0, 2, 192, 0, 2, 9,
    8, 0, 247, 253, 0, 1, 0, 1]

private def otherPing : Buffer :=
  [69, 0, 0, 28, 0, 1, 0, 0, 64, 1, 52, 216, 10, 0, 0, 3, 203, 0, 113, 5,
    8, 0, 247, 252, 0, 2, 0, 1]

private def pong : Buffer :=
  [69, 0, 0, 28, 0, 1, 0, 0, 64, 1, 142, 156, 192, 0, 2, 9, 198, 51, 100, 7,
    0, 0, 255, 253, 0, 1, 0, 1]

/-- A router says that the first request ran out of time. -/
private def timeExceeded : Buffer :=
  [69, 0, 0, 56, 0, 1, 0, 0, 64, 1, 142, 136, 192, 0, 2, 1, 198, 51, 100, 7,
    11, 0, 244, 255, 0, 0, 0, 0, 69, 0, 0, 28, 0, 1, 0, 0, 64, 1, 142, 156,
    198, 51, 100, 7, 192, 0, 2, 9, 8, 0, 247, 253, 0, 1, 0, 1]

private theorem ping_asks : Asks echoConfig ping 28 := ⟨by decide, by decide⟩

private theorem pong_replies : Replies (requestIn ping) pong 28 where
  packet := ⟨by decide, by decide, by decide, by decide⟩
  type := by decide
  remote := by decide
  ident := by decide
  sequence := by decide

private theorem timeExceeded_quotes : Quotes echoConfig (requestIn ping) timeExceeded 56 where
  packet := ⟨by decide, by decide, by decide, by decide⟩
  type := by decide
  header := by decide
  long := by decide
  icmp := by decide
  source := by decide
  remote := by decide
  echo := by decide
  ident := by decide
  sequence := by decide

theorem echo_answers_undisturbed :
    let state := run echoConfig echoStart ([] ++ .lan ping 28 :: [.wan timeExceeded 56])
    Returned (wan2lanAlias echoConfig state.now state.table state.bucket pong 28)
      (requestIn ping) := by
  have answered := (echo_answers echoConfig echoStart [] [.wan timeExceeded 56] ping 28 ping_asks
    pong 28).1 pong_replies
  exact answered.mpr ⟨by decide, by decide, by decide⟩

private def answered (events : List Event) (buf : Buffer) (size : Nat) : Outcome :=
  let state := run echoConfig echoStart events
  wan2lanAlias echoConfig state.now state.table state.bucket buf size

/-- With a second host asking in between the answer goes to that one, and an error
comes back with its quoted addresses exchanged even if nobody else asks. -/
theorem echo_answers_astray :
    ¬Returned (answered [.lan ping 28, .lan otherPing 28] pong 28) (requestIn ping) ∧
      ¬ReturnedQuote (answered [.lan ping 28] timeExceeded 56) (extIphdr timeExceeded)
        (requestIn ping) := by
  constructor
  · intro returned
    have host := ((returned_reply _ _ _ pong_replies).mp returned).2.1
    revert host
    decide
  · intro returned
    have remote := ((returned_quote _ _ _ timeExceeded_quotes).mp returned).2.2.2
    revert remote
    decide

end Icmp
end NatPorte
