/-
Packet translation of alias.h.

`lan2wanAlias` and `wan2lanAlias` take a received buffer, decide a verdict and
rewrite the buffer and the resolved entry in place.  Printing is dropped; the
host identification option of hostid.h is kept because it moves the transport
header that the rewrite looks for.
-/

import NatPorte.Checksum

namespace NatPorte
namespace Alias

open ByteBuffer KeyedSet TcpState Structure Packet Checksum

/-- The `ALIAS_*` results. -/
inductive Verdict where
  | through | resetTable | delTable | fromMe | toMe | doalias
  | noTable | tooshort | dodrop | notSupport | tooBig
  deriving DecidableEq, Repr

/-- The program's settings, fixed before the loops start.  `lanAddr` and `wanAddr`
hold host-order addresses. -/
structure Config where
  build : Build
  optHostid : Bool
  optNageteDf : Bool
  wanIfMtu : Nat
  lanIfMtu : Nat
  lanAddr : List (BitVec 32)
  wanAddr : List (BitVec 32)
  icmpWanAddr : BitVec 32
  deriving DecidableEq, Repr

structure IcmpBucket where
  localAddr : BitVec 32
  foreign : BitVec 32
  deriving DecidableEq, Repr

/-- What a call leaves behind. -/
structure Outcome where
  verdict : Verdict
  table : Table
  bucket : IcmpBucket
  buf : Buffer

def aliasMinSize : Nat := 20

def aliasIsPrivate (host : BitVec 32) : Bool :=
  host &&& 0xff000000 == 0x0a000000 || host &&& 0xfff00000 == 0xac100000 ||
    host &&& 0xffff0000 == 0xc0a80000 || host &&& 0xffc00000 == 0x64400000

def aliasIsClassD (host : BitVec 32) : Bool := host &&& 0xf0000000 == 0xe0000000
def aliasIsLoopback (host : BitVec 32) : Bool := host &&& 0xff000000 == 0x7f000000
def aliasIsLocal (host : BitVec 32) : Bool := host &&& 0xffff0000 == 0xa9fe0000

def chkDrop (src dst : BitVec 32) (direction : AliasFrom) : Bool :=
  let srcHost := swap32 src
  let dstHost := swap32 dst
  match direction with
  | .lan2wan => !aliasIsPrivate srcHost || aliasIsClassD dstHost || srcHost == 0 || dstHost == 0
  | .wan2lan =>
      aliasIsLocal dstHost || aliasIsClassD dstHost || aliasIsLoopback dstHost ||
        srcHost == 0 || dstHost == 0
  | .unknown => false

/-- `chk_selfaddr(...) == ALIAS_TO_ME` -/
def chkSelfaddr (config : Config) (dst : BitVec 32) (direction : AliasFrom) : Bool :=
  match direction with
  | .lan2wan => config.lanAddr.contains (swap32 dst)
  | .wan2lan => config.wanAddr.contains (swap32 dst)
  | .unknown => false

def ipDf : BitVec 16 := 0x4000

/-- Sizes are `size_t`: an MTU below four wraps around. -/
def isTooBig (config : Config) (buf : Buffer) (size : Nat) (direction : AliasFrom) : Bool :=
  if swap16 (ipOff buf) &&& ipDf != 0 then
    let exceeds := fun mtu : Nat =>
      if config.optNageteDf then false
      else if config.optHostid then decide ((mtu + 2 ^ 64 - 4) % 2 ^ 64 < size)
      else decide (mtu < size)
    match direction with
    | .lan2wan => exceeds config.wanIfMtu
    | .wan2lan => exceeds config.lanIfMtu
    | .unknown => false
  else false

/-- The local `struct node n` of a lookup: only the key in use is ever read. -/
def probeLan (protocol : BitVec 8) (lan : Endpoint) : Node :=
  { ctime := 0, atime := 0, flags := .established, timerFlags := .loop, protocol := protocol
    wan := { port := 0, ip := 0 }, lan := lan, l2wKey := packKey protocol lan, w2lKey := 0 }

def probeWan (protocol : BitVec 8) (wan : Endpoint) : Node :=
  { ctime := 0, atime := 0, flags := .established, timerFlags := .loop, protocol := protocol
    wan := wan, lan := { port := 0, ip := 0 }, l2wKey := 0, w2lKey := packKey protocol wan }

/-- `attach`, which only stamps the access time. -/
def attach (table : Table) (now : Int) (ptr : Ptr) : Table :=
  table.store ptr { table.heap ptr with atime := now }

def setFlags (table : Table) (ptr : Ptr) (flags : TcpFlag) : Table :=
  table.store ptr { table.heap ptr with flags := flags }

/-! ### hostid.h -/

def hidbuf (buf : Buffer) : List Byte :=
  [0xDF, 12, 1, 0, 0x01, 0, 0, 4] ++ slice buf 12 4 ++ [0, 0, 0, 0]

/-- Insert the option behind a header that has none; any other header is left
alone.  The four-bit `ip_hl` grows from five to nine. -/
def setHostid (buf : Buffer) (size : Nat) : Buffer × Nat :=
  if ipHl buf = 5 then
    let buf := write16 buf 2 (read16 buf 2 + swap16 16)
    let moved := buf.take 20 ++ hidbuf buf ++ slice buf 20 (size - 20) ++ buf.drop (size + 16)
    (setByte moved 0 (getByte moved 0 + 4), size + 16)
  else (buf, size)

/-- Overwrite one end of the packet and bring the checksums up to date. -/
def rewrite (config : Config) (buf : Buffer) (size : Nat) (which : End)
    (orig aliased : Endpoint) : Buffer :=
  let buf := setEndpoint buf which aliased
  if config.build.diffCksum then setDiffChecksum config.build buf orig aliased
  else setChecksum config.build buf size

def toLan (config : Config) (table : Table) (ptr : Ptr) (buf : Buffer) (size : Nat) : Buffer :=
  let node := table.heap ptr
  rewrite config buf size .destination node.wan node.lan

def toWan (config : Config) (table : Table) (ptr : Ptr) (buf : Buffer) (size : Nat) : Buffer :=
  let node := table.heap ptr
  rewrite config buf size .source node.lan node.wan

/-- The branches that add the host identification first. -/
def toWanHostid (config : Config) (table : Table) (ptr : Ptr) (buf : Buffer) (size : Nat) :
    Buffer :=
  if config.build.optHostid && config.optHostid then
    let (buf, size) := setHostid buf size
    toWan config table ptr buf size
  else toWan config table ptr buf size

/-- The checks and the protocol switch that both alias functions start with. -/
def dispatch (config : Config) (table : Table) (bucket : IcmpBucket) (buf : Buffer) (size : Nat)
    (direction : AliasFrom) (tcp udp icmp : Outcome) : Outcome :=
  let stopped := fun verdict : Verdict =>
    ({ verdict := verdict, table := table, bucket := bucket, buf := buf } : Outcome)
  if size ≤ aliasMinSize then stopped .tooshort
  else if ipV buf ≠ 4 then stopped .dodrop
  else if chkDrop (ipSrc buf) (ipDst buf) direction then stopped .dodrop
  else if isTooBig config buf size direction then stopped .tooBig
  else if ipP buf = ipprotoTcp then tcp
  else if ipP buf = ipprotoUdp then udp
  else if ipP buf = ipprotoIcmp then icmp
  else stopped .notSupport

/-- A segment that resolved to an entry.  The two alias functions repeat this
with their own direction, their own answer to an unknown state and their own
rewrites; an entry that already was closed or reset is translated as it is. -/
def tcpEntry (config : Config) (now : Int) (table : Table) (bucket : IcmpBucket) (buf : Buffer)
    (ptr : Ptr) (direction : AliasFrom) (onUnknown : Verdict) (translated ordinary : Buffer) :
    Outcome :=
  let tflag := (table.heap ptr).flags
  if tflag = .closed then
    { verdict := .doalias, table := attach table now ptr, bucket := bucket, buf := translated }
  else if tflag = .reset then
    { verdict := .doalias, table := attach table now ptr, bucket := bucket, buf := translated }
  else
    let flags := tcpStateCheck tflag (thFlags buf) direction
    let table := setFlags table ptr flags
    if flags = .closed then
      if config.build.waitTimeDelete then
        { verdict := .delTable, table := attach table now ptr, bucket := bucket, buf := translated }
      else { verdict := .delTable, table := table, bucket := bucket, buf := buf }
    else if flags = .reset then
      { verdict := .resetTable, table := table, bucket := bucket, buf := buf }
    else if flags = .unknown then
      { verdict := onUnknown, table := table, bucket := bucket, buf := buf }
    else
      { verdict := .doalias, table := attach table now ptr, bucket := bucket, buf := ordinary }

/-! ### wan2lan_alias -/

section Wan2lan

variable (config : Config) (now : Int) (table : Table) (bucket : IcmpBucket) (buf : Buffer)
  (size : Nat)

/-- No entry: the router's own traffic is told apart from strangers'. -/
def wan2lanMissing : Outcome :=
  { verdict := if chkSelfaddr config (ipDst buf) .wan2lan then .toMe else .noTable
    table := table, bucket := bucket, buf := buf }

def wan2lanTcp : Outcome :=
  match findW2l table (probeWan (ipP buf) (endpoint buf .destination)) with
  | none => wan2lanMissing config table bucket buf
  | some ptr =>
      let translated := toLan config table ptr buf size
      tcpEntry config now table bucket buf ptr .wan2lan .dodrop translated translated

def wan2lanUdp : Outcome :=
  match findW2l table (probeWan (ipP buf) (endpoint buf .destination)) with
  | none => wan2lanMissing config table bucket buf
  | some ptr =>
      { verdict := .doalias, table := attach table now ptr, bucket := bucket
        buf := toLan config table ptr buf size }

def icmpType : BitVec 8 := getByte buf (headerLength buf)

/-- The header quoted in an ICMP error, two words behind the ICMP header. -/
def extIphdr : Nat := headerLength buf + 8

def extL4 : Nat := extIphdr buf + (getByte buf (extIphdr buf)).toNat % 16 * 4

/-- Refresh the quoted header's checksum and then the ICMP checksum. -/
def refreshIcmp : Buffer :=
  refreshSum (checksumIp buf (extIphdr buf)) size (headerLength buf + icmpCksumOffset) 0

/-- An ICMP error about a translated TCP or UDP packet. -/
def wan2lanQuoted (protocol : BitVec 8) : Outcome :=
  let wan : Endpoint :=
    { ip := read32 buf (extIphdr buf + 12), port := read16 buf (extL4 buf) }
  match findW2l table (probeWan protocol wan) with
  | none => wan2lanMissing config table bucket buf
  | some ptr =>
      let node := table.heap ptr
      if node.protocol = ipprotoTcp || node.protocol = ipprotoUdp then
        let answer := write32 buf 16 node.lan.ip
        let answer := write32 answer (extIphdr buf + 12) node.lan.ip
        let answer := write16 answer (extL4 buf) node.lan.port
        { verdict := .doalias, table := attach table now ptr, bucket := bucket
          buf := refreshIcmp answer size }
      else { verdict := .notSupport, table := table, bucket := bucket, buf := buf }

def wan2lanIcmp : Outcome :=
  let stopped := fun verdict : Verdict =>
    ({ verdict := verdict, table := table, bucket := bucket, buf := buf } : Outcome)
  match (icmpType buf).toNat with
  -- ICMP_ECHOREPLY, ICMP_TSTAMPREPLY
  | 0 | 14 =>
      if chkSelfaddr config bucket.localAddr .wan2lan then stopped .toMe
      else
        { verdict := .doalias, table := table, bucket := bucket
          buf := write16 (write32 buf 16 bucket.localAddr) ipSumOffset 0 }
  -- ICMP_UNREACH, ICMP_SOURCEQUENCH, ICMP_TIMXCEED, ICMP_PARAMPROB
  | 3 | 4 | 11 | 12 =>
      let protocol := getByte buf (extIphdr buf + 9)
      if protocol = ipprotoIcmp then
        let answer := write32 buf 16 bucket.localAddr
        let answer := write32 answer (extIphdr buf + 16) bucket.localAddr
        let answer := write32 answer (extIphdr buf + 12) bucket.foreign
        { verdict := .doalias, table := table, bucket := bucket
          buf := refreshIcmp answer size }
      else if protocol = ipprotoTcp || protocol = ipprotoUdp then
        wan2lanQuoted config now table bucket buf size protocol
      else stopped .notSupport
  | _ => stopped .notSupport

def wan2lanAlias : Outcome :=
  dispatch config table bucket buf size .wan2lan (wan2lanTcp config now table bucket buf size)
    (wan2lanUdp config now table bucket buf size) (wan2lanIcmp config now table bucket buf size)

end Wan2lan

/-! ### lan2wan_alias -/

section Lan2wan

variable (config : Config) (now : Int) (table : Table) (bucket : IcmpBucket) (buf : Buffer)
  (size : Nat)

def lan2wanTcp : Outcome :=
  let stopped := fun verdict : Verdict =>
    ({ verdict := verdict, table := table, bucket := bucket, buf := buf } : Outcome)
  if chkSelfaddr config (ipDst buf) .lan2wan then stopped .toMe
  else
    match findL2w table (probeLan (ipP buf) (endpoint buf .source)) with
    | none => if thFlags buf = thSyn then stopped .noTable else stopped .dodrop
    | some ptr =>
        tcpEntry config now table bucket buf ptr .lan2wan .resetTable
          (toWan config table ptr buf size) (toWanHostid config table ptr buf size)

/-- A UDP packet to one of the LAN addresses is first translated as if it came
from the WAN side (hairpin); its source is then translated as usual. -/
def lan2wanUdp : Outcome :=
  let probe := probeLan (ipP buf) (endpoint buf .source)
  let forward := fun (table : Table) (buf : Buffer) =>
    match findL2w table probe with
    | none =>
        ({ verdict := .noTable, table := table, bucket := bucket, buf := buf } : Outcome)
    | some ptr =>
        { verdict := .doalias, table := attach table now ptr, bucket := bucket
          buf := toWanHostid config table ptr buf size }
  if chkSelfaddr config (ipDst buf) .lan2wan then
    let hairpin := wan2lanAlias config now table bucket buf size
    if hairpin.verdict ≠ .doalias then { hairpin with verdict := .toMe }
    else forward hairpin.table hairpin.buf
  else forward table buf

def lan2wanIcmp : Outcome :=
  let stopped := fun verdict : Verdict =>
    ({ verdict := verdict, table := table, bucket := bucket, buf := buf } : Outcome)
  match (icmpType buf).toNat with
  -- ICMP_ECHO, ICMP_TSTAMPREPLY
  | 8 | 14 =>
      if chkSelfaddr config (ipDst buf) .lan2wan then stopped .toMe
      else
        { verdict := .doalias, table := table
          bucket := { localAddr := ipSrc buf, foreign := ipDst buf }
          buf := write16 (write32 buf 12 config.icmpWanAddr) ipSumOffset 0 }
  | _ => stopped .notSupport

def lan2wanAlias : Outcome :=
  dispatch config table bucket buf size .lan2wan (lan2wanTcp config now table bucket buf size)
    (lan2wanUdp config now table bucket buf size) (lan2wanIcmp config table bucket buf)

end Lan2wan

/-- Nothing but access times and tracker states differs. -/
structure SameMappings (before after : Table) : Prop where
  l2w : after.l2w = before.l2w
  w2l : after.w2l = before.w2l
  entries : ∀ ptr, after.heap ptr =
    { before.heap ptr with atime := (after.heap ptr).atime, flags := (after.heap ptr).flags }

namespace SameMappings

theorem refl (table : Table) : SameMappings table table where
  l2w := rfl
  w2l := rfl
  entries _ := rfl

theorem trans {first second third : Table} (left : SameMappings first second)
    (right : SameMappings second third) : SameMappings first third where
  l2w := right.l2w.trans left.l2w
  w2l := right.w2l.trans left.w2l
  entries ptr := by
    rw [right.entries ptr, left.entries ptr]

theorem store {table : Table} {ptr : Ptr} {node : Node}
    (entry : node = { table.heap ptr with atime := node.atime, flags := node.flags }) :
    SameMappings table (table.store ptr node) where
  l2w := rfl
  w2l := rfl
  entries other := by
    by_cases same : other = ptr
    · subst same
      rw [Table.store_heap_self]
      exact entry
    · rw [table.store_heap_other ptr other node same]

theorem attach (table : Table) (now : Int) (ptr : Ptr) :
    SameMappings table (Alias.attach table now ptr) :=
  store rfl

theorem setFlags (table : Table) (ptr : Ptr) (flags : TcpFlag) :
    SameMappings table (Alias.setFlags table ptr flags) :=
  store rfl

variable {before after : Table}

theorem field {Value : Type} (same : SameMappings before after) (read : Node → Value)
    (blind : ∀ node atime flags, read { node with atime := atime, flags := flags } = read node)
    (ptr : Ptr) : read (after.heap ptr) = read (before.heap ptr) := by
  rw [same.entries ptr]
  exact blind _ _ _

theorem protocol (same : SameMappings before after) (ptr : Ptr) :
    (after.heap ptr).protocol = (before.heap ptr).protocol :=
  same.field Node.protocol (fun _ _ _ => rfl) ptr

theorem lan (same : SameMappings before after) (ptr : Ptr) :
    (after.heap ptr).lan = (before.heap ptr).lan :=
  same.field Node.lan (fun _ _ _ => rfl) ptr

theorem wan (same : SameMappings before after) (ptr : Ptr) :
    (after.heap ptr).wan = (before.heap ptr).wan :=
  same.field Node.wan (fun _ _ _ => rfl) ptr

theorem l2wKey (same : SameMappings before after) (ptr : Ptr) :
    (after.heap ptr).l2wKey = (before.heap ptr).l2wKey :=
  same.field Node.l2wKey (fun _ _ _ => rfl) ptr

theorem w2lKey (same : SameMappings before after) (ptr : Ptr) :
    (after.heap ptr).w2lKey = (before.heap ptr).w2lKey :=
  same.field Node.w2lKey (fun _ _ _ => rfl) ptr

theorem inv (same : SameMappings before after) (inv : TableInv before) : TableInv after := by
  refine inv.congr same.l2w same.w2l ?_ ?_
  · intro ptr member
    exact ⟨same.l2wKey ptr, same.w2lKey ptr⟩
  · intro ptr member
    have keyed := inv.keyed ptr member
    rw [Node.Keyed, varLan, varWan] at keyed ⊢
    rw [same.l2wKey, same.w2lKey, same.protocol, same.lan, same.wan]
    exact keyed

end SameMappings

section Effects

variable (config : Config) (now : Int) (table : Table) (bucket : IcmpBucket) (buf : Buffer)
  (size : Nat)

/-- Everything `tcpEntry` can do, with the condition for each. -/
inductive TcpEntryCase (ptr : Ptr) (direction : AliasFrom) (onUnknown : Verdict)
    (translated ordinary : Buffer) (flags : TcpFlag) : Outcome → Prop
  | settled (old : (table.heap ptr).flags = .closed ∨ (table.heap ptr).flags = .reset)
      (kept : flags = (table.heap ptr).flags) :
      TcpEntryCase ptr direction onUnknown translated ordinary flags
        { verdict := .doalias, table := attach table now ptr, bucket := bucket, buf := translated }
  | waiting (live : (table.heap ptr).flags ≠ .closed ∧ (table.heap ptr).flags ≠ .reset)
      (closed : flags = .closed) (wait : config.build.waitTimeDelete = true) :
      TcpEntryCase ptr direction onUnknown translated ordinary flags
        { verdict := .delTable, table := attach (setFlags table ptr flags) now ptr
          bucket := bucket, buf := translated }
  | closing (live : (table.heap ptr).flags ≠ .closed ∧ (table.heap ptr).flags ≠ .reset)
      (closed : flags = .closed) (noWait : config.build.waitTimeDelete = false) :
      TcpEntryCase ptr direction onUnknown translated ordinary flags
        { verdict := .delTable, table := setFlags table ptr flags, bucket := bucket, buf := buf }
  | reset (live : (table.heap ptr).flags ≠ .closed ∧ (table.heap ptr).flags ≠ .reset)
      (isReset : flags = .reset) :
      TcpEntryCase ptr direction onUnknown translated ordinary flags
        { verdict := .resetTable, table := setFlags table ptr flags, bucket := bucket, buf := buf }
  | unknown (live : (table.heap ptr).flags ≠ .closed ∧ (table.heap ptr).flags ≠ .reset)
      (lost : flags = .unknown) :
      TcpEntryCase ptr direction onUnknown translated ordinary flags
        { verdict := onUnknown, table := setFlags table ptr flags, bucket := bucket, buf := buf }
  | ordinary (live : (table.heap ptr).flags ≠ .closed ∧ (table.heap ptr).flags ≠ .reset)
      (open' : flags ≠ .closed ∧ flags ≠ .reset ∧ flags ≠ .unknown) :
      TcpEntryCase ptr direction onUnknown translated ordinary flags
        { verdict := .doalias, table := attach (setFlags table ptr flags) now ptr
          bucket := bucket, buf := ordinary }

theorem tcpEntry_case (ptr : Ptr) (direction : AliasFrom) (onUnknown : Verdict)
    (translated ordinary : Buffer) :
    TcpEntryCase config now table bucket buf ptr direction onUnknown translated ordinary
      (nextFlags (table.heap ptr).flags (thFlags buf) direction)
      (tcpEntry config now table bucket buf ptr direction onUnknown translated ordinary) := by
  by_cases closed : (table.heap ptr).flags = .closed
  · simp only [tcpEntry, nextFlags, if_pos closed]
    exact .settled (.inl closed) rfl
  by_cases isReset : (table.heap ptr).flags = .reset
  · simp only [tcpEntry, nextFlags, if_neg closed, if_pos isReset]
    exact .settled (.inr isReset) rfl
  simp only [tcpEntry, nextFlags, if_neg closed, if_neg isReset]
  have live := And.intro closed isReset
  generalize tcpStateCheck (table.heap ptr).flags (thFlags buf) direction = flags
  by_cases toClosed : flags = .closed
  · rw [if_pos toClosed]
    cases wait : config.build.waitTimeDelete with
    | true => exact .waiting live toClosed wait
    | false => exact .closing live toClosed wait
  rw [if_neg toClosed]
  by_cases toReset : flags = .reset
  · rw [if_pos toReset]
    exact .reset live toReset
  rw [if_neg toReset]
  by_cases lost : flags = .unknown
  · rw [if_pos lost]
    exact .unknown live lost
  · rw [if_neg lost]
    exact .ordinary live ⟨toClosed, toReset, lost⟩

/-- The verdicts of a packet that is stopped before its protocol matters. -/
def Verdict.Stops (verdict : Verdict) : Prop :=
  verdict = .tooshort ∨ verdict = .dodrop ∨ verdict = .tooBig ∨ verdict = .notSupport

instance (verdict : Verdict) : Decidable verdict.Stops := inferInstanceAs (Decidable (_ ∨ _))

theorem Verdict.Stops.ne {verdict other : Verdict} (stops : verdict.Stops)
    (goesOn : ¬other.Stops) : verdict ≠ other := by
  rintro rfl
  exact goesOn stops

theorem dispatch_cases (direction : AliasFrom) (tcp udp icmp : Outcome) :
    (∃ verdict : Verdict, verdict.Stops ∧
      dispatch config table bucket buf size direction tcp udp icmp =
        { verdict := verdict, table := table, bucket := bucket, buf := buf }) ∨
    (ipP buf = ipprotoTcp ∧ dispatch config table bucket buf size direction tcp udp icmp = tcp) ∨
    (ipP buf = ipprotoUdp ∧ dispatch config table bucket buf size direction tcp udp icmp = udp) ∨
    (ipP buf = ipprotoIcmp ∧ dispatch config table bucket buf size direction tcp udp icmp = icmp) := by
  simp only [dispatch]
  split
  · exact .inl ⟨_, .inl rfl, rfl⟩
  split
  · exact .inl ⟨_, .inr (.inl rfl), rfl⟩
  split
  · exact .inl ⟨_, .inr (.inl rfl), rfl⟩
  split
  · exact .inl ⟨_, .inr (.inr (.inl rfl)), rfl⟩
  split
  · next isTcp => exact .inr (.inl ⟨isTcp, rfl⟩)
  split
  · next isUdp => exact .inr (.inr (.inl ⟨isUdp, rfl⟩))
  split
  · next isIcmp => exact .inr (.inr (.inr ⟨isIcmp, rfl⟩))
  · exact .inl ⟨_, .inr (.inr (.inr rfl)), rfl⟩

theorem dispatch_same (direction : AliasFrom) {tcp udp icmp : Outcome}
    (tcpSame : SameMappings table tcp.table) (udpSame : SameMappings table udp.table)
    (icmpSame : SameMappings table icmp.table) :
    SameMappings table (dispatch config table bucket buf size direction tcp udp icmp).table := by
  rcases dispatch_cases config table bucket buf size direction tcp udp icmp with
    ⟨verdict, -, result⟩ | ⟨-, result⟩ | ⟨-, result⟩ | ⟨-, result⟩
  · rw [result]
    exact .refl table
  · rw [result]
    exact tcpSame
  · rw [result]
    exact udpSame
  · rw [result]
    exact icmpSame

theorem tcpEntry_same (ptr : Ptr) (direction : AliasFrom) (onUnknown : Verdict)
    (translated ordinary : Buffer) :
    SameMappings table
      (tcpEntry config now table bucket buf ptr direction onUnknown translated ordinary).table := by
  have flagged : ∀ flags, SameMappings table (attach (setFlags table ptr flags) now ptr) :=
    fun flags => (SameMappings.setFlags table ptr flags).trans (SameMappings.attach _ now ptr)
  have taken := tcpEntry_case config now table bucket buf ptr direction onUnknown translated
    ordinary
  generalize tcpEntry config now table bucket buf ptr direction onUnknown translated ordinary =
    outcome at taken ⊢
  cases taken with
  | settled => exact .attach table now ptr
  | waiting => exact flagged _
  | closing => exact .setFlags table ptr _
  | reset => exact .setFlags table ptr _
  | unknown => exact .setFlags table ptr _
  | ordinary => exact flagged _

theorem wan2lanTcp_same : SameMappings table (wan2lanTcp config now table bucket buf size).table := by
  simp only [wan2lanTcp]
  split
  · exact .refl table
  · exact tcpEntry_same config now table bucket buf _ _ _ _ _

theorem wan2lanAlias_same :
    SameMappings table (wan2lanAlias config now table bucket buf size).table := by
  have udp : SameMappings table (wan2lanUdp config now table bucket buf size).table := by
    rw [wan2lanUdp]
    split
    · exact .refl table
    · exact .attach table now _
  have quoted : ∀ protocol,
      SameMappings table (wan2lanQuoted config now table bucket buf size protocol).table := by
    intro protocol
    simp only [wan2lanQuoted]
    split
    · exact .refl table
    · split
      · exact .attach table now _
      · exact .refl table
  have icmp : SameMappings table (wan2lanIcmp config now table bucket buf size).table := by
    simp only [wan2lanIcmp]
    repeat' split
    all_goals first | exact .refl table | exact quoted _
  exact dispatch_same config table bucket buf size _
    (wan2lanTcp_same config now table bucket buf size) udp icmp

theorem lan2wanTcp_same : SameMappings table (lan2wanTcp config now table bucket buf size).table := by
  simp only [lan2wanTcp]
  split
  · exact .refl table
  · split
    · split <;> exact .refl table
    · exact tcpEntry_same config now table bucket buf _ _ _ _ _

theorem lan2wanUdp_same : SameMappings table (lan2wanUdp config now table bucket buf size).table := by
  have hairpin := wan2lanAlias_same config now table bucket buf size
  simp only [lan2wanUdp]
  split
  · split
    · exact hairpin
    · split
      · exact hairpin
      · exact hairpin.trans (.attach _ now _)
  · split
    · exact .refl table
    · exact .attach table now _

theorem lan2wanAlias_same :
    SameMappings table (lan2wanAlias config now table bucket buf size).table := by
  have icmp : SameMappings table (lan2wanIcmp config table bucket buf).table := by
    simp only [lan2wanIcmp]
    repeat' split
    all_goals exact .refl table
  exact dispatch_same config table bucket buf size _
    (lan2wanTcp_same config now table bucket buf size)
    (lan2wanUdp_same config now table bucket buf size) icmp

end Effects

/-- The fields a translation may touch: one address, its port, the checksums. -/
def Rewritten (buf : Buffer) (which : End) (position : Nat) : Prop :=
  (which.addressOffset ≤ position ∧ position < which.addressOffset + 4) ∨
    InField (headerLength buf + which.portOffset) position ∨
    InField ipSumOffset position ∨ InField (transportSumAt buf) position

section Rewrite

variable {buf : Buffer} {size : Nat} (config : Config) (which : End) (orig aliased : Endpoint)

private theorem which_offsets :
    (which.addressOffset = 12 ∨ which.addressOffset = 16) ∧ which.portOffset ≤ 2 := by
  cases which <;> decide

theorem rewrite_only (packet : TransportPacket buf size) :
    OnlySums (setEndpoint buf which aliased) (rewrite config buf size which orig aliased) := by
  have written := packet.setEndpoint which aliased
  simp only [rewrite]
  split
  · exact setDiffChecksum_only config.build written orig aliased
  · exact setChecksum_only config.build written

theorem setEndpoint_frame (packet : TransportPacket buf size) (position : Nat)
    (outside : ¬Rewritten buf which position) :
    getByte (setEndpoint buf which aliased) position = getByte buf position := by
  have header := packet.headerLength_ge
  have offsets := which_offsets which
  have sameHeader : headerLength (write32 buf which.addressOffset aliased.ip) = headerLength buf :=
    headerLength_congr (getByte_write32 (by omega) _)
  simp only [Rewritten, InField, not_or] at outside
  rw [setEndpoint, sameHeader, getByte_write16 (by omega), getByte_write32 (by omega)]

theorem setEndpoint_header (packet : TransportPacket buf size) :
    headerLength (setEndpoint buf which aliased) = headerLength buf ∧
      transportSumAt (setEndpoint buf which aliased) = transportSumAt buf := by
  have header := packet.headerLength_ge
  have inside := packet.sum_inside
  have offsets := which_offsets which
  have first : getByte (setEndpoint buf which aliased) 0 = getByte buf 0 := by
    refine setEndpoint_frame which aliased packet 0 ?_
    simp only [Rewritten, InField, ipSumOffset]
    omega
  have protocol : getByte (setEndpoint buf which aliased) 9 = getByte buf 9 := by
    refine setEndpoint_frame which aliased packet 9 ?_
    simp only [Rewritten, InField, ipSumOffset]
    omega
  exact ⟨headerLength_congr first, transportSumAt_congr first protocol⟩

theorem rewrite_length (packet : TransportPacket buf size) :
    (rewrite config buf size which orig aliased).length = buf.length := by
  rw [(rewrite_only config which orig aliased packet).length, setEndpoint, length_write16,
    length_write32]

theorem rewrite_frame (packet : TransportPacket buf size) (position : Nat)
    (outside : ¬Rewritten buf which position) :
    getByte (rewrite config buf size which orig aliased) position = getByte buf position := by
  have place := (setEndpoint_header which aliased packet).2
  rw [(rewrite_only config which orig aliased packet).frame position
    (fun inIp => outside (.inr (.inr (.inl inIp))))
    (fun inSum => outside (.inr (.inr (.inr (by rw [place] at inSum; exact inSum))))),
    setEndpoint_frame which aliased packet position outside]

theorem endpoint_rewrite (packet : TransportPacket buf size) :
    endpoint (rewrite config buf size which orig aliased) which = aliased := by
  have header := packet.headerLength_ge
  have inside := packet.sum_inside
  have inBuffer := packet.inBuffer
  have offsets := which_offsets which
  have written := packet.setEndpoint which aliased
  have only := rewrite_only config which orig aliased packet
  obtain ⟨sameHeader, place⟩ := setEndpoint_header which aliased packet
  have sameLength : headerLength (rewrite config buf size which orig aliased) =
      headerLength buf := by
    rw [headerLength_congr (only.frame 0 ?_ ?_), sameHeader] <;>
      simp only [InField, ipSumOffset, place] <;> omega
  have addressed : headerLength (write32 buf which.addressOffset aliased.ip) = headerLength buf :=
    headerLength_congr (getByte_write32 (by omega) _)
  have address : read32 (rewrite config buf size which orig aliased) which.addressOffset =
      read32 (write32 buf which.addressOffset aliased.ip) which.addressOffset := by
    apply read32_congr
    intro position low high
    rw [only.frame position, setEndpoint, addressed, getByte_write16 (by omega)] <;>
      simp only [InField, ipSumOffset, place] <;> omega
  have port : read16 (rewrite config buf size which orig aliased)
      (headerLength buf + which.portOffset) =
      read16 (setEndpoint buf which aliased) (headerLength buf + which.portOffset) := by
    apply read16_congr
    intro position low high
    rw [only.frame position] <;> simp only [InField, ipSumOffset, place] <;> omega
  rw [endpoint, sameLength, address, port, setEndpoint, addressed, read32_write32 (by omega),
    read16_write16 (by rw [length_write32]; omega)]

end Rewrite

section Translated

variable (config : Config) (now : Int) (table : Table) (bucket : IcmpBucket) (buf : Buffer)
  (size : Nat)

theorem toWanHostid_off (off : config.optHostid = false) (ptr : Ptr) :
    toWanHostid config table ptr buf size = toWan config table ptr buf size := by
  rw [toWanHostid, off, Bool.and_false, if_neg (by decide)]

theorem tcpEntry_doalias {ptr : Ptr} {direction : AliasFrom} {onUnknown : Verdict}
    {translated : Buffer} (notUnknown : onUnknown ≠ .doalias)
    (doalias : (tcpEntry config now table bucket buf ptr direction onUnknown translated
      translated).verdict = .doalias) :
    (tcpEntry config now table bucket buf ptr direction onUnknown translated translated).buf =
      translated := by
  have taken := tcpEntry_case config now table bucket buf ptr direction onUnknown translated
    translated
  generalize tcpEntry config now table bucket buf ptr direction onUnknown translated translated =
    outcome at taken doalias ⊢
  cases taken with
  | settled => rfl
  | waiting => cases doalias
  | closing => cases doalias
  | reset => cases doalias
  | unknown => exact absurd doalias notUnknown
  | ordinary => rfl

theorem dispatch_doalias {direction : AliasFrom} {tcp udp icmp : Outcome}
    (packet : TransportPacket buf size)
    (doalias : (dispatch config table bucket buf size direction tcp udp icmp).verdict = .doalias) :
    dispatch config table bucket buf size direction tcp udp icmp = tcp ∨
      dispatch config table bucket buf size direction tcp udp icmp = udp := by
  rcases dispatch_cases config table bucket buf size direction tcp udp icmp with
    ⟨verdict, stops, result⟩ | ⟨-, result⟩ | ⟨-, result⟩ | ⟨icmpPacket, -⟩
  · rw [result] at doalias
    exact absurd doalias (stops.ne (by decide))
  · exact .inl result
  · exact .inr result
  · rcases packet.transport with ⟨other, -⟩ | ⟨other, -⟩ <;> rw [icmpPacket] at other <;>
      exact absurd other (by decide)

theorem lan2wanAlias_doalias (off : config.optHostid = false)
    (packet : TransportPacket buf size)
    (notSelf : chkSelfaddr config (ipDst buf) .lan2wan = false)
    (doalias : (lan2wanAlias config now table bucket buf size).verdict = .doalias) :
    ∃ ptr, findL2w table (probeLan (ipP buf) (endpoint buf .source)) = some ptr ∧
      (lan2wanAlias config now table bucket buf size).buf = toWan config table ptr buf size := by
  rcases dispatch_doalias config table bucket buf size packet doalias with result | result
  · rw [lan2wanAlias, result] at doalias ⊢
    simp only [lan2wanTcp, notSelf, Bool.false_eq_true, if_false] at doalias ⊢
    cases found : findL2w table (probeLan (ipP buf) (endpoint buf .source)) with
    | none =>
        rw [found] at doalias
        simp only at doalias
        split at doalias <;> cases doalias
    | some ptr =>
        refine ⟨ptr, rfl, ?_⟩
        rw [found] at doalias
        simp only [toWanHostid_off config table buf size off] at doalias ⊢
        exact tcpEntry_doalias config now table bucket buf nofun doalias
  · rw [lan2wanAlias, result] at doalias ⊢
    simp only [lan2wanUdp, notSelf, Bool.false_eq_true, if_false] at doalias ⊢
    cases found : findL2w table (probeLan (ipP buf) (endpoint buf .source)) with
    | none =>
        rw [found] at doalias
        cases doalias
    | some ptr => exact ⟨ptr, rfl, toWanHostid_off config table buf size off ptr⟩

theorem wan2lanAlias_doalias (packet : TransportPacket buf size)
    (doalias : (wan2lanAlias config now table bucket buf size).verdict = .doalias) :
    ∃ ptr, findW2l table (probeWan (ipP buf) (endpoint buf .destination)) = some ptr ∧
      (wan2lanAlias config now table bucket buf size).buf = toLan config table ptr buf size := by
  have missing : (wan2lanMissing config table bucket buf).verdict ≠ .doalias := by
    rw [wan2lanMissing]
    split <;> nofun
  rcases dispatch_doalias config table bucket buf size packet doalias with result | result
  · rw [wan2lanAlias, result] at doalias ⊢
    rw [wan2lanTcp] at doalias ⊢
    cases found : findW2l table (probeWan (ipP buf) (endpoint buf .destination)) with
    | none =>
        rw [found] at doalias
        exact absurd doalias missing
    | some ptr =>
        rw [found] at doalias
        exact ⟨ptr, rfl, tcpEntry_doalias config now table bucket buf nofun doalias⟩
  · rw [wan2lanAlias, result] at doalias ⊢
    rw [wan2lanUdp] at doalias ⊢
    cases found : findW2l table (probeWan (ipP buf) (endpoint buf .destination)) with
    | none =>
        rw [found] at doalias
        exact absurd doalias missing
    | some ptr => exact ⟨ptr, rfl, rfl⟩

/-- Only the fields of the rewritten end and the checksums may differ. -/
structure Framed (before after : Buffer) (which : End) : Prop where
  length : after.length = before.length
  frame : ∀ position, ¬Rewritten before which position →
    getByte after position = getByte before position

theorem toWan_spec (packet : TransportPacket buf size) (ptr : Ptr) :
    endpoint (toWan config table ptr buf size) .source = (table.heap ptr).wan ∧
      Framed buf (toWan config table ptr buf size) .source :=
  ⟨endpoint_rewrite config _ _ _ packet, rewrite_length config _ _ _ packet,
    rewrite_frame config _ _ _ packet⟩

theorem toLan_spec (packet : TransportPacket buf size) (ptr : Ptr) :
    endpoint (toLan config table ptr buf size) .destination = (table.heap ptr).lan ∧
      Framed buf (toLan config table ptr buf size) .destination :=
  ⟨endpoint_rewrite config _ _ _ packet, rewrite_length config _ _ _ packet,
    rewrite_frame config _ _ _ packet⟩

theorem Framed.protocol {after : Buffer} {which : End} (packet : TransportPacket buf size)
    (framed : Framed buf after which) : ipP after = ipP buf := by
  have inside := packet.sum_inside
  have header := packet.headerLength_ge
  have offsets := which_offsets which
  apply framed.frame
  simp only [Rewritten, InField, ipSumOffset]
  omega

theorem Framed.otherEnd {after : Buffer} {which other : End} (packet : TransportPacket buf size)
    (framed : Framed buf after which) (different : other ≠ which) :
    endpoint after other = endpoint buf other := by
  have inside := packet.sum_inside
  have header := packet.headerLength_ge
  have ends : (which.addressOffset = 12 ∧ which.portOffset = 0 ∧ other.addressOffset = 16 ∧
      other.portOffset = 2) ∨ (which.addressOffset = 16 ∧ which.portOffset = 2 ∧
      other.addressOffset = 12 ∧ other.portOffset = 0) := by
    revert different
    cases which <;> cases other <;> decide
  have kept : ∀ position, (position = 0 ∨
      other.addressOffset ≤ position ∧ position < other.addressOffset + 4 ∨
      headerLength buf + other.portOffset ≤ position ∧
        position < headerLength buf + other.portOffset + 2) →
      getByte after position = getByte buf position := by
    intro position place
    apply framed.frame
    simp only [Rewritten, InField, ipSumOffset]
    omega
  have address : read32 after other.addressOffset = read32 buf other.addressOffset :=
    read32_congr (fun position low high => kept position (.inr (.inl ⟨low, high⟩)))
  have port : read16 after (headerLength buf + other.portOffset) =
      read16 buf (headerLength buf + other.portOffset) :=
    read16_congr (fun position low high => kept position (.inr (.inr ⟨low, high⟩)))
  rw [endpoint, headerLength_congr (kept 0 (.inl rfl)), address, port, endpoint]

end Translated

theorem findL2w_eq_some {table : Table} (inv : TableInv table) {protocol : BitVec 8}
    {lan : Endpoint} {ptr : Ptr} :
    findL2w table (probeLan protocol lan) = some ptr ↔
      ptr ∈ table.l2w ∧ (table.heap ptr).protocol = protocol ∧ (table.heap ptr).lan = lan := by
  rw [findL2w, inv.distinctL2w.find_eq_some]
  refine and_congr_right (fun member => ?_)
  rw [inv.l2wKey_eq member]
  exact packKey_inj

theorem findW2l_eq_some {table : Table} (inv : TableInv table) {protocol : BitVec 8}
    {wan : Endpoint} {ptr : Ptr} :
    findW2l table (probeWan protocol wan) = some ptr ↔
      ptr ∈ table.l2w ∧ (table.heap ptr).protocol = protocol ∧ (table.heap ptr).wan = wan := by
  rw [findW2l, inv.distinctW2l.find_eq_some, ← inv.sameNodes]
  refine and_congr_right (fun member => ?_)
  rw [inv.w2lKey_eq member]
  exact packKey_inj

/-! ### Translation is a bijection -/

def NotForLan (config : Config) (buf : Buffer) : Prop :=
  ∀ address ∈ config.lanAddr, address ≠ swap32 (ipDst buf)

theorem chkSelfaddr_of_notForLan {config : Config} {buf : Buffer}
    (stranger : NotForLan config buf) : chkSelfaddr config (ipDst buf) .lan2wan = false := by
  rw [chkSelfaddr, List.contains_eq_mem]
  exact decide_eq_false (fun member => stranger _ member rfl)

section Bijection

variable {config : Config} {table current : Table} {buf : Buffer} {size : Nat} {now : Int}
  {bucket : IcmpBucket}

def Owns (table : Table) (ptr : Ptr) (buf : Buffer) : Prop :=
  ptr ∈ table.l2w ∧ (table.heap ptr).protocol = ipP buf ∧
    (table.heap ptr).lan = endpoint buf .source

theorem lan2wan_translates (inv : TableInv table) (off : config.optHostid = false)
    (same : SameMappings table current) (packet : TransportPacket buf size)
    (stranger : NotForLan config buf)
    (doalias : (lan2wanAlias config now current bucket buf size).verdict = .doalias) :
    ∃ ptr, Owns table ptr buf ∧
      endpoint (lan2wanAlias config now current bucket buf size).buf .source =
        (table.heap ptr).wan ∧
      Framed buf (lan2wanAlias config now current bucket buf size).buf .source := by
  obtain ⟨ptr, found, result⟩ := lan2wanAlias_doalias config now current bucket buf size off packet
    (chkSelfaddr_of_notForLan stranger) doalias
  obtain ⟨member, protocol, lan⟩ := (findL2w_eq_some (same.inv inv)).mp found
  rw [same.l2w] at member
  rw [same.protocol] at protocol
  rw [same.lan] at lan
  have spec := toWan_spec config current buf size packet ptr
  rw [same.wan] at spec
  rw [result]
  exact ⟨ptr, ⟨member, protocol, lan⟩, spec⟩

theorem wan2lan_translates (inv : TableInv table) (same : SameMappings table current)
    (packet : TransportPacket buf size) {ptr : Ptr} (member : ptr ∈ table.l2w)
    (protocol : ipP buf = (table.heap ptr).protocol)
    (addressed : endpoint buf .destination = (table.heap ptr).wan)
    (doalias : (wan2lanAlias config now current bucket buf size).verdict = .doalias) :
    endpoint (wan2lanAlias config now current bucket buf size).buf .destination =
        (table.heap ptr).lan ∧
      Framed buf (wan2lanAlias config now current bucket buf size).buf .destination := by
  obtain ⟨found, lookup, result⟩ :=
    wan2lanAlias_doalias config now current bucket buf size packet doalias
  obtain ⟨foundIn, foundProtocol, foundWan⟩ := (findW2l_eq_some (same.inv inv)).mp lookup
  rw [same.l2w] at foundIn
  rw [same.protocol, protocol] at foundProtocol
  rw [same.wan, addressed] at foundWan
  have unique : found = ptr := inv.eq_of_wan foundIn member foundProtocol foundWan
  subst unique
  have spec := toLan_spec config current buf size packet found
  rw [same.lan] at spec
  rw [result]
  exact spec

/-- Over one set of mappings, whatever access times and tracker states have become
in the meantime: a translated LAN packet leaves from the WAN endpoint of the one
entry that owns its source, a translated answer to that endpoint returns to the
source, only the rewritten end and the checksums change, and different LAN
endpoints never share a source. -/
theorem translation_bijection (config : Config) (table : Table) (inv : TableInv table)
    (off : config.optHostid = false) :
    (∀ now current bucket buf size, SameMappings table current → TransportPacket buf size →
      NotForLan config buf →
      (lan2wanAlias config now current bucket buf size).verdict = .doalias →
      SameMappings table (lan2wanAlias config now current bucket buf size).table ∧
      ∃ ptr, Owns table ptr buf ∧ (∀ other, Owns table other buf → other = ptr) ∧
        endpoint (lan2wanAlias config now current bucket buf size).buf .source =
          (table.heap ptr).wan ∧
        Framed buf (lan2wanAlias config now current bucket buf size).buf .source ∧
        ∀ later when bucket' reply replySize, SameMappings table later →
          TransportPacket reply replySize → ipP reply = ipP buf →
          endpoint reply .destination = (table.heap ptr).wan →
          (wan2lanAlias config when later bucket' reply replySize).verdict = .doalias →
          endpoint (wan2lanAlias config when later bucket' reply replySize).buf .destination =
            endpoint buf .source ∧
          Framed reply (wan2lanAlias config when later bucket' reply replySize).buf
            .destination) ∧
    (∀ leftNow rightNow left right leftBucket rightBucket leftBuf rightBuf leftSize rightSize,
      SameMappings table left → SameMappings table right →
      TransportPacket leftBuf leftSize → TransportPacket rightBuf rightSize →
      NotForLan config leftBuf → NotForLan config rightBuf → ipP leftBuf = ipP rightBuf →
      endpoint leftBuf .source ≠ endpoint rightBuf .source →
      (lan2wanAlias config leftNow left leftBucket leftBuf leftSize).verdict = .doalias →
      (lan2wanAlias config rightNow right rightBucket rightBuf rightSize).verdict = .doalias →
      endpoint (lan2wanAlias config leftNow left leftBucket leftBuf leftSize).buf .source ≠
        endpoint (lan2wanAlias config rightNow right rightBucket rightBuf rightSize).buf
          .source) := by
  refine ⟨?_, ?_⟩
  · intro now current bucket buf size same packet stranger doalias
    obtain ⟨ptr, owns, source, framed⟩ :=
      lan2wan_translates inv off same packet stranger doalias
    refine ⟨same.trans (lan2wanAlias_same config now current bucket buf size), ptr, owns, ?_,
      source, framed, ?_⟩
    · intro other otherOwns
      exact inv.eq_of_lan otherOwns.1 owns.1 (otherOwns.2.1.trans owns.2.1.symm)
        (otherOwns.2.2.trans owns.2.2.symm)
    · intro later when bucket' reply replySize sameLater replyPacket protocol addressed returned
      have back := wan2lan_translates inv sameLater replyPacket owns.1
        (protocol.trans owns.2.1.symm) addressed returned
      rw [owns.2.2] at back
      exact back
  · intro leftNow rightNow left right leftBucket rightBucket leftBuf rightBuf leftSize rightSize
      sameLeft sameRight leftPacket rightPacket leftStranger rightStranger protocol different
      leftDone rightDone collides
    obtain ⟨leftPtr, leftOwns, leftSource, -⟩ :=
      lan2wan_translates inv off sameLeft leftPacket leftStranger leftDone
    obtain ⟨rightPtr, rightOwns, rightSource, -⟩ :=
      lan2wan_translates inv off sameRight rightPacket rightStranger rightDone
    rw [leftSource, rightSource] at collides
    have sameProtocol : (table.heap leftPtr).protocol = (table.heap rightPtr).protocol :=
      leftOwns.2.1.trans (protocol.trans rightOwns.2.1.symm)
    have sameEntry := inv.eq_of_wan leftOwns.1 rightOwns.1 sameProtocol collides
    subst sameEntry
    exact different (leftOwns.2.2.symm.trans rightOwns.2.2)

end Bijection

private def sampleConfig : Config :=
  { build := ⟨true, true, true, false⟩, optHostid := false, optNageteDf := false
    wanIfMtu := 1500, lanIfMtu := 1500, lanAddr := [0x0A000001], wanAddr := [0xC6336407]
    icmpWanAddr := 0 }

/-- 10.0.0.2 port 80 is mapped to 198.51.100.7 port 4096. -/
private def sampleEntry : Node :=
  let lan : Endpoint := { port := 0x5000, ip := 0x0200000A }
  let wan : Endpoint := { port := 0x0010, ip := 0x076433C6 }
  { ctime := 0, atime := 0, flags := .established, timerFlags := .loop, protocol := 6
    wan := wan, lan := lan, l2wKey := packKey 6 lan, w2lKey := packKey 6 wan }

private def sampleEntries : Table :=
  { heap := fun _ => sampleEntry, l2w := [1], w2l := [1] }

private theorem sampleEntries_inv : TableInv sampleEntries where
  sameNodes _ := Iff.rfl
  keyed _ _ := by
    change sampleEntry.Keyed
    decide
  distinctL2w := List.nodup_singleton _
  distinctW2l := List.nodup_singleton _

private def samplePacket : Buffer :=
  [69, 0, 0, 40, 0, 1, 0, 0, 64, 6, 0, 0, 10, 0, 0, 2, 192, 0, 2, 9,
    0, 80, 31, 144, 0, 0, 0, 1, 0, 0, 0, 0, 80, 16, 32, 0, 0, 0, 0, 0]

private theorem samplePacket_transport : TransportPacket samplePacket 40 where
  version := by decide
  header := by decide
  transport := by decide
  inBuffer := by decide

theorem translation_bijection_one_entry :
    ∃ ptr, Owns sampleEntries ptr samplePacket ∧
      endpoint (lan2wanAlias sampleConfig 7 sampleEntries ⟨0, 0⟩ samplePacket 40).buf .source =
        (sampleEntries.heap ptr).wan := by
  have translated : (lan2wanAlias sampleConfig 7 sampleEntries ⟨0, 0⟩ samplePacket 40).verdict =
      .doalias := by decide
  have stranger : NotForLan sampleConfig samplePacket := by
    intro address member
    rw [List.mem_singleton.mp member]
    decide
  have settled := translation_bijection sampleConfig sampleEntries sampleEntries_inv rfl
  obtain ⟨-, ptr, owns, -, source, -⟩ := settled.1 7 sampleEntries ⟨0, 0⟩ samplePacket 40
    (.refl _) samplePacket_transport stranger translated
  exact ⟨ptr, owns, source⟩

end Alias
end NatPorte
