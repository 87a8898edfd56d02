/-
Which bytes the packet functions touch.

Each function of alias.h that looks into a packet has a logged twin here, written
after the source with every read and write in its place; the twin computes the value
of the model.  The only length test in the source is `size > 20`, so a packet is
handled inside its buffer exactly when the fields of its own path happen to fit.
`opt_hostid` is off throughout.
-/

import NatPorte.Library.Accesses
import NatPorte.System

namespace NatPorte
namespace Bounds

open Accesses Logged ByteBuffer KeyedSet Structure Packet Checksum Alias TcpState Tracking

section Fields

variable (buf : Buffer) (offset : Nat)

def byteAt : Logged Byte := access offset 1 (getByte buf offset)
def halfAt : Logged (BitVec 16) := access offset 2 (read16 buf offset)
def wordAt : Logged (BitVec 32) := access offset 4 (read32 buf offset)
def putHalf (field : BitVec 16) : Logged Buffer := access offset 2 (write16 buf offset field)
def putWord (field : BitVec 32) : Logged Buffer := access offset 4 (write32 buf offset field)
def bytesAt (length : Nat) : Logged (List Byte) := access offset length (slice buf offset length)

/-- `ip_hl << 2` of the header at `offset`. -/
def lengthAt : Logged Nat := do
  let first ← byteAt buf offset
  pure (first.toNat % 16 * 4)

end Fields

def endpointLogged (buf : Buffer) (which : End) : Logged Endpoint := do
  let ip ← wordAt buf which.addressOffset
  let length ← lengthAt buf 0
  let port ← halfAt buf (length + which.portOffset)
  pure { ip := ip, port := port }

def checksumIpLogged (buf : Buffer) (base : Nat) : Logged Buffer := do
  let length ← lengthAt buf base
  let cleared ← putHalf buf (base + ipSumOffset) 0
  let header ← bytesAt cleared base length
  putHalf cleared (base + ipSumOffset) (swap16 (checksum header 0))

def refreshSumLogged (buf : Buffer) (size offset adjust : Nat) : Logged Buffer := do
  let length ← lengthAt buf 0
  let cleared ← putHalf buf offset 0
  let segment ← bytesAt cleared length (segmentSize buf size)
  putHalf cleared offset (swap16 (checksum segment adjust))

def checksumTransportLogged (buf : Buffer) (size : Nat) : Logged Buffer := do
  let length ← lengthAt buf 0
  let _addresses ← bytesAt buf 12 8
  let protocol ← byteAt buf 9
  if protocol = ipprotoTcp then
    refreshSumLogged buf size (length + thSumOffset) (pseudoSum buf size)
  else if protocol = ipprotoUdp then
    refreshSumLogged buf size (length + uhSumOffset) (pseudoSum buf size)
  else if protocol = ipprotoIcmp then refreshSumLogged buf size (length + icmpCksumOffset) 0
  else pure buf

/-- A statement between `#ifdef IP_CHECKSUM` and `#endif`. -/
def ifIpChecksum (build : Build) (buf : Buffer) (refreshed : Logged Buffer) : Logged Buffer :=
  if build.ipChecksum then refreshed else pure buf

def setChecksumLogged (build : Build) (buf : Buffer) (size : Nat) : Logged Buffer := do
  let summed ← ifIpChecksum build buf (checksumIpLogged buf 0)
  checksumTransportLogged summed size

def adjustSumLogged (buf : Buffer) (offset : Nat) (orig aliased : BitVec 64) : Logged Buffer := do
  let sum ← halfAt buf offset
  putHalf buf offset (diffChecksum sum orig aliased 2)

def adjustTransportSumLogged (buf : Buffer) (orig aliased : BitVec 64) : Logged Buffer := do
  let length ← lengthAt buf 0
  let protocol ← byteAt buf 9
  if protocol = ipprotoTcp then adjustSumLogged buf (length + thSumOffset) orig aliased
  else if protocol = ipprotoUdp then adjustSumLogged buf (length + uhSumOffset) orig aliased
  else pure buf

def setDiffChecksumLogged (build : Build) (buf : Buffer) (orig aliased : Endpoint) :
    Logged Buffer := do
  let origIp : BitVec 64 := orig.ip.zeroExtend 64
  let aliasIp : BitVec 64 := aliased.ip.zeroExtend 64
  let summed ← ifIpChecksum build buf (adjustSumLogged buf ipSumOffset origIp aliasIp)
  adjustTransportSumLogged summed (addPort origIp orig.port) (addPort aliasIp aliased.port)

def rewriteLogged (config : Config) (buf : Buffer) (size : Nat) (which : End)
    (orig aliased : Endpoint) : Logged Buffer := do
  let addressed ← putWord buf which.addressOffset aliased.ip
  let length ← lengthAt addressed 0
  let written ← putHalf addressed (length + which.portOffset) aliased.port
  if config.build.diffCksum then setDiffChecksumLogged config.build written orig aliased
  else setChecksumLogged config.build written size

/-! ### The alias functions -/

section Alias

variable (config : Config) (now : Int) (table : Table) (bucket : IcmpBucket) (buf : Buffer)
  (size : Nat)

def toLanLogged (ptr : Ptr) : Logged Buffer :=
  rewriteLogged config buf size .destination (table.heap ptr).wan (table.heap ptr).lan

def toWanLogged (ptr : Ptr) : Logged Buffer :=
  rewriteLogged config buf size .source (table.heap ptr).lan (table.heap ptr).wan

def dispatchLogged (direction : AliasFrom) (tcp udp icmp : Logged Outcome) : Logged Outcome :=
  let stopped := fun verdict : Verdict =>
    (pure { verdict := verdict, table := table, bucket := bucket, buf := buf } : Logged Outcome)
  if size ≤ aliasMinSize then stopped .tooshort
  else do
    let first ← byteAt buf 0
    if first.toNat / 16 ≠ 4 then stopped .dodrop
    else do
      let protocol ← byteAt buf 9
      let src ← wordAt buf 12
      let dst ← wordAt buf 16
      if chkDrop src dst direction then stopped .dodrop
      else do
        let _off ← halfAt buf 6
        if isTooBig config buf size direction then stopped .tooBig
        else if protocol = ipprotoTcp then tcp
        else if protocol = ipprotoUdp then udp
        else if protocol = ipprotoIcmp then icmp
        else stopped .notSupport

def tcpEntryLogged (ptr : Ptr) (direction : AliasFrom) (onUnknown : Verdict)
    (translated : Logged Buffer) : Logged Outcome :=
  let tflag := (table.heap ptr).flags
  let doalias := fun (verdict : Verdict) (table : Table) => do
    let answer ← translated
    pure ({ verdict := verdict, table := attach table now ptr, bucket := bucket
            buf := answer } : Outcome)
  if tflag = .closed then doalias .doalias table
  else if tflag = .reset then doalias .doalias table
  else do
    let length ← lengthAt buf 0
    let pflag ← byteAt buf (length + 13)
    let flags := tcpStateCheck tflag pflag direction
    let table := setFlags table ptr flags
    let stopped := fun verdict : Verdict =>
      (pure { verdict := verdict, table := table, bucket := bucket, buf := buf } : Logged Outcome)
    if flags = .closed then
      if config.build.waitTimeDelete then doalias .delTable table else stopped .delTable
    else if flags = .reset then stopped .resetTable
    else if flags = .unknown then stopped onUnknown
    else doalias .doalias table

/-- `chk_selfaddr` reads nothing new. -/
def wan2lanMissingLogged : Logged Outcome := pure (wan2lanMissing config table bucket buf)

def wan2lanTcpLogged : Logged Outcome := do
  let wan ← endpointLogged buf .destination
  match findW2l table (probeWan (ipP buf) wan) with
  | none => wan2lanMissingLogged config table bucket buf
  | some ptr =>
      tcpEntryLogged config now table bucket buf ptr .wan2lan .dodrop
        (toLanLogged config table buf size ptr)

def wan2lanUdpLogged : Logged Outcome := do
  let wan ← endpointLogged buf .destination
  match findW2l table (probeWan (ipP buf) wan) with
  | none => wan2lanMissingLogged config table bucket buf
  | some ptr => do
      let answer ← toLanLogged config table buf size ptr
      pure { verdict := .doalias, table := attach table now ptr, bucket := bucket, buf := answer }

def refreshIcmpLogged (answer : Buffer) : Logged Buffer := do
  let length ← lengthAt answer 0
  let summed ← checksumIpLogged answer (length + 8)
  refreshSumLogged summed size (length + icmpCksumOffset) 0

def wan2lanQuotedLogged (protocol : BitVec 8) (address : BitVec 32) (quote inner : Nat) :
    Logged Outcome := do
  let port ← halfAt buf inner
  match findW2l table (probeWan protocol { ip := address, port := port }) with
  | none => wan2lanMissingLogged config table bucket buf
  | some ptr =>
      let node := table.heap ptr
      if node.protocol = ipprotoTcp || node.protocol = ipprotoUdp then do
        let answer ← putWord buf 16 node.lan.ip
        let answer ← putWord answer (quote + 12) node.lan.ip
        let answer ← putHalf answer inner node.lan.port
        let answer ← refreshIcmpLogged size answer
        pure { verdict := .doalias, table := attach table now ptr, bucket := bucket, buf := answer }
      else pure { verdict := .notSupport, table := table, bucket := bucket, buf := buf }

/-- An error message: the quoted header's length, protocol and source are read before
anything is decided. -/
def wan2lanErrorLogged : Logged Outcome := do
  let length ← lengthAt buf 0
  let quotedLength ← lengthAt buf (length + 8)
  let protocol ← byteAt buf (length + 8 + 9)
  let address ← wordAt buf (length + 8 + 12)
  if protocol = ipprotoIcmp then do
    let answer ← putWord buf 16 bucket.localAddr
    let answer ← putWord answer (length + 8 + 16) bucket.localAddr
    let answer ← putWord answer (length + 8 + 12) bucket.foreign
    let answer ← refreshIcmpLogged size answer
    pure { verdict := .doalias, table := table, bucket := bucket, buf := answer }
  else if protocol = ipprotoTcp || protocol = ipprotoUdp then
    wan2lanQuotedLogged config now table bucket buf size protocol address (length + 8)
      (length + 8 + quotedLength)
  else pure { verdict := .notSupport, table := table, bucket := bucket, buf := buf }

def wan2lanIcmpLogged : Logged Outcome := do
  let length ← lengthAt buf 0
  let type ← byteAt buf length
  match type.toNat with
  | 0 | 14 =>
      if chkSelfaddr config bucket.localAddr .wan2lan then
        pure { verdict := .toMe, table := table, bucket := bucket, buf := buf }
      else do
        let answer ← putWord buf 16 bucket.localAddr
        let answer ← putHalf answer ipSumOffset 0
        pure { verdict := .doalias, table := table, bucket := bucket, buf := answer }
  | 3 | 4 | 11 | 12 => wan2lanErrorLogged config now table bucket buf size
  | _ => pure { verdict := .notSupport, table := table, bucket := bucket, buf := buf }

def wan2lanAliasLogged : Logged Outcome :=
  dispatchLogged config table bucket buf size .wan2lan
    (wan2lanTcpLogged config now table bucket buf size)
    (wan2lanUdpLogged config now table bucket buf size)
    (wan2lanIcmpLogged config now table bucket buf size)

def lan2wanTcpLogged : Logged Outcome := do
  let lan ← endpointLogged buf .source
  let stopped := fun verdict : Verdict =>
    (pure { verdict := verdict, table := table, bucket := bucket, buf := buf } : Logged Outcome)
  if chkSelfaddr config (ipDst buf) .lan2wan then stopped .toMe
  else
    match findL2w table (probeLan (ipP buf) lan) with
    | none => do
        let length ← lengthAt buf 0
        let pflag ← byteAt buf (length + 13)
        if pflag = thSyn then stopped .noTable else stopped .dodrop
    | some ptr =>
        tcpEntryLogged config now table bucket buf ptr .lan2wan .resetTable
          (toWanLogged config table buf size ptr)

/-- The second half of the UDP branch, with the source that was read before the hairpin. -/
def forwardLogged (probe : Structure.Node) : Logged Outcome :=
  match findL2w table probe with
  | none => pure { verdict := .noTable, table := table, bucket := bucket, buf := buf }
  | some ptr => do
      let answer ← toWanLogged config table buf size ptr
      pure { verdict := .doalias, table := attach table now ptr, bucket := bucket, buf := answer }

def lan2wanUdpLogged : Logged Outcome := do
  let lan ← endpointLogged buf .source
  let probe := probeLan (ipP buf) lan
  if chkSelfaddr config (ipDst buf) .lan2wan then do
    let hairpin ← wan2lanAliasLogged config now table bucket buf size
    if hairpin.verdict ≠ .doalias then pure { hairpin with verdict := .toMe }
    else forwardLogged config now hairpin.table bucket hairpin.buf size probe
  else forwardLogged config now table bucket buf size probe

def lan2wanIcmpLogged : Logged Outcome := do
  let stopped := fun verdict : Verdict =>
    (pure { verdict := verdict, table := table, bucket := bucket, buf := buf } : Logged Outcome)
  let length ← lengthAt buf 0
  let type ← byteAt buf length
  match type.toNat with
  | 8 | 14 =>
      if chkSelfaddr config (ipDst buf) .lan2wan then stopped .toMe
      else do
        let src ← wordAt buf 12
        let dst ← wordAt buf 16
        let answer ← putWord buf 12 config.icmpWanAddr
        let answer ← putHalf answer ipSumOffset 0
        pure { verdict := .doalias, table := table
               bucket := { localAddr := src, foreign := dst }, buf := answer }
  | _ => stopped .notSupport

def lan2wanAliasLogged : Logged Outcome :=
  dispatchLogged config table bucket buf size .lan2wan
    (lan2wanTcpLogged config now table bucket buf size)
    (lan2wanUdpLogged config now table bucket buf size)
    (lan2wanIcmpLogged config table bucket buf)

end Alias

/-- `mk_node` with its return code, which both callers ignore. -/
def mkNodeLogged (buf : Buffer) (size : Nat) : Logged (Int × Structure.Node) :=
  let none : Endpoint := { port := 0, ip := 0 }
  let n : Structure.Node :=
    { ctime := 0, atime := 0, flags := .established, timerFlags := .loop, protocol := 0
      wan := none, lan := none, l2wKey := 0, w2lKey := 0 }
  if size ≤ 20 then pure (-1, n)
  else do
    let protocol ← byteAt buf 9
    let src ← wordAt buf 12
    let dst ← wordAt buf 16
    if protocol = ipprotoTcp ∨ protocol = ipprotoUdp then do
      let source ← endpointLogged buf .source
      let destination ← endpointLogged buf .destination
      pure (0, { n with protocol := protocol, lan := source, wan := destination })
    else
      pure (-1, { n with protocol := protocol, lan := { port := 0, ip := src }
                         wan := { port := 0, ip := dst } })

/-! ### The twins compute the model -/

section Values

variable (build : Build) (config : Config) (now : Int) (table : Table) (bucket : IcmpBucket)
  (buf : Buffer) (size : Nat)

@[simp] theorem lengthAt_value (offset : Nat) :
    (lengthAt buf offset).value = (getByte buf offset).toNat % 16 * 4 := rfl

@[simp] theorem byteAt_value (offset : Nat) : (byteAt buf offset).value = getByte buf offset := rfl
@[simp] theorem halfAt_value (offset : Nat) : (halfAt buf offset).value = read16 buf offset := rfl
@[simp] theorem wordAt_value (offset : Nat) : (wordAt buf offset).value = read32 buf offset := rfl
@[simp] theorem putHalf_value (offset : Nat) (field : BitVec 16) :
    (putHalf buf offset field).value = write16 buf offset field := rfl
@[simp] theorem putWord_value (offset : Nat) (field : BitVec 32) :
    (putWord buf offset field).value = write32 buf offset field := rfl

@[simp] theorem ifIpChecksum_value (refreshed : Logged Buffer) :
    (ifIpChecksum build buf refreshed).value =
      if build.ipChecksum then refreshed.value else buf := by
  simp only [ifIpChecksum, value_ite, value_pure]

@[simp] theorem endpointLogged_value (which : End) :
    (endpointLogged buf which).value = endpoint buf which := rfl

theorem checksumIpLogged_value (base : Nat) :
    (checksumIpLogged buf base).value = checksumIp buf base := rfl

theorem refreshSumLogged_value (offset adjust : Nat) :
    (refreshSumLogged buf size offset adjust).value = refreshSum buf size offset adjust := rfl

theorem checksumTransportLogged_value :
    (checksumTransportLogged buf size).value = checksumTransport buf size := by
  simp only [checksumTransportLogged, value_bind, value_ite, refreshSumLogged_value, value_pure]
  rfl

theorem setChecksumLogged_value :
    (setChecksumLogged build buf size).value = setChecksum build buf size := by
  simp only [setChecksumLogged, value_bind, ifIpChecksum_value, checksumTransportLogged_value,
    checksumIpLogged_value, setChecksum]

theorem adjustTransportSumLogged_value (orig aliased : BitVec 64) :
    (adjustTransportSumLogged buf orig aliased).value = adjustTransportSum buf orig aliased := by
  simp only [adjustTransportSumLogged, value_bind, value_ite, value_pure]
  rfl

theorem setDiffChecksumLogged_value (orig aliased : Endpoint) :
    (setDiffChecksumLogged build buf orig aliased).value =
      setDiffChecksum build buf orig aliased := by
  simp only [setDiffChecksumLogged, value_bind, ifIpChecksum_value, adjustTransportSumLogged_value]
  rfl

theorem rewriteLogged_value (which : End) (orig aliased : Endpoint) :
    (rewriteLogged config buf size which orig aliased).value =
      rewrite config buf size which orig aliased := by
  simp only [rewriteLogged, value_bind, value_ite, setDiffChecksumLogged_value,
    setChecksumLogged_value]
  rfl

theorem toLanLogged_value (ptr : Ptr) :
    (toLanLogged config table buf size ptr).value = toLan config table ptr buf size :=
  rewriteLogged_value config buf size _ _ _

theorem toWanLogged_value (ptr : Ptr) :
    (toWanLogged config table buf size ptr).value = toWan config table ptr buf size :=
  rewriteLogged_value config buf size _ _ _

theorem dispatchLogged_value (direction : AliasFrom) (tcp udp icmp : Logged Outcome) :
    (dispatchLogged config table bucket buf size direction tcp udp icmp).value =
      dispatch config table bucket buf size direction tcp.value udp.value icmp.value := by
  simp only [dispatchLogged, value_bind, value_ite, value_pure]
  rfl

theorem tcpEntryLogged_value (ptr : Ptr) (direction : AliasFrom) (onUnknown : Verdict)
    (translated : Logged Buffer) :
    (tcpEntryLogged config now table bucket buf ptr direction onUnknown translated).value =
      tcpEntry config now table bucket buf ptr direction onUnknown translated.value
        translated.value := by
  simp only [tcpEntryLogged, value_bind, value_ite, value_pure]
  rfl

theorem wan2lanTcpLogged_value :
    (wan2lanTcpLogged config now table bucket buf size).value =
      wan2lanTcp config now table bucket buf size := by
  simp only [wan2lanTcpLogged, wan2lanTcp, value_bind, endpointLogged_value]
  cases findW2l table (probeWan (ipP buf) (endpoint buf .destination)) with
  | none => rfl
  | some ptr =>
      simp only [tcpEntryLogged_value, toLanLogged_value]

theorem wan2lanUdpLogged_value :
    (wan2lanUdpLogged config now table bucket buf size).value =
      wan2lanUdp config now table bucket buf size := by
  simp only [wan2lanUdpLogged, wan2lanUdp, value_bind, endpointLogged_value]
  cases findW2l table (probeWan (ipP buf) (endpoint buf .destination)) with
  | none => rfl
  | some ptr => simp only [value_bind, toLanLogged_value, value_pure]

theorem refreshIcmpLogged_value (answer : Buffer) :
    (refreshIcmpLogged size answer).value = refreshIcmp answer size := rfl

theorem wan2lanQuotedLogged_value (protocol : BitVec 8) :
    (wan2lanQuotedLogged config now table bucket buf size protocol
        (read32 buf (extIphdr buf + 12)) (extIphdr buf) (extL4 buf)).value =
      wan2lanQuoted config now table bucket buf size protocol := by
  simp only [wan2lanQuotedLogged, wan2lanQuoted, value_bind, halfAt_value]
  cases findW2l table (probeWan protocol
    { ip := read32 buf (extIphdr buf + 12), port := read16 buf (extL4 buf) }) with
  | none => rfl
  | some ptr =>
      simp only [value_ite, value_bind, value_pure, putWord_value, putHalf_value,
        refreshIcmpLogged_value]

theorem wan2lanErrorLogged_value :
    (wan2lanErrorLogged config now table bucket buf size).value =
      (let protocol := getByte buf (extIphdr buf + 9)
      if protocol = ipprotoIcmp then
        let answer := write32 buf 16 bucket.localAddr
        let answer := write32 answer (extIphdr buf + 16) bucket.localAddr
        let answer := write32 answer (extIphdr buf + 12) bucket.foreign
        { verdict := .doalias, table := table, bucket := bucket
          buf := refreshIcmp answer size }
      else if protocol = ipprotoTcp || protocol = ipprotoUdp then
        wan2lanQuoted config now table bucket buf size protocol
      else { verdict := .notSupport, table := table, bucket := bucket, buf := buf }) := by
  have quote : (lengthAt buf 0).value + 8 = extIphdr buf := rfl
  have inner : extIphdr buf + (lengthAt buf (extIphdr buf)).value = extL4 buf := rfl
  simp only [wan2lanErrorLogged, value_bind, value_ite, value_pure]
  simp only [quote, inner, byteAt_value, wordAt_value, putWord_value, refreshIcmpLogged_value,
    wan2lanQuotedLogged_value]

theorem wan2lanIcmp_other (other : (icmpType buf).toNat ∉ [0, 14, 3, 4, 11, 12]) :
    wan2lanIcmp config now table bucket buf size =
      { verdict := .notSupport, table := table, bucket := bucket, buf := buf } := by
  unfold wan2lanIcmp
  split
  · next type => exact absurd type (fun same => other (by rw [same]; decide))
  · next type => exact absurd type (fun same => other (by rw [same]; decide))
  · next type => exact absurd type (fun same => other (by rw [same]; decide))
  · next type => exact absurd type (fun same => other (by rw [same]; decide))
  · next type => exact absurd type (fun same => other (by rw [same]; decide))
  · next type => exact absurd type (fun same => other (by rw [same]; decide))
  · rfl

theorem wan2lanIcmpLogged_value :
    (wan2lanIcmpLogged config now table bucket buf size).value =
      wan2lanIcmp config now table bucket buf size := by
  have type : (byteAt buf (lengthAt buf 0).value).value = icmpType buf := rfl
  have error := wan2lanErrorLogged_value config now table bucket buf size
  simp only [wan2lanIcmpLogged, value_bind, type]
  generalize kind : (icmpType buf).toNat = number
  split
  · simp only [value_ite, value_pure, value_bind, wan2lanIcmp, kind]
    rfl
  · simp only [value_ite, value_pure, value_bind, wan2lanIcmp, kind]
    rfl
  · simp only [wan2lanIcmp, kind]
    exact error
  · simp only [wan2lanIcmp, kind]
    exact error
  · simp only [wan2lanIcmp, kind]
    exact error
  · simp only [wan2lanIcmp, kind]
    exact error
  · next echoReply tstampReply unreach sourceQuench timxceed paramprob =>
      refine (wan2lanIcmp_other config now table bucket buf size ?_).symm
      rw [kind]
      simp only [List.mem_cons, List.not_mem_nil, or_false, not_or]
      exact ⟨echoReply, tstampReply, unreach, sourceQuench, timxceed, paramprob⟩

theorem wan2lanAliasLogged_value :
    (wan2lanAliasLogged config now table bucket buf size).value =
      wan2lanAlias config now table bucket buf size := by
  rw [wan2lanAliasLogged, dispatchLogged_value, wan2lanTcpLogged_value, wan2lanUdpLogged_value,
    wan2lanIcmpLogged_value, wan2lanAlias]

theorem lan2wanTcpLogged_value (off : config.optHostid = false) :
    (lan2wanTcpLogged config now table bucket buf size).value =
      lan2wanTcp config now table bucket buf size := by
  simp only [lan2wanTcpLogged, lan2wanTcp, value_bind, value_ite, endpointLogged_value, value_pure]
  cases findL2w table (probeLan (ipP buf) (endpoint buf .source)) with
  | none =>
      simp only [value_bind, value_ite, value_pure]
      rfl
  | some ptr =>
      simp only [tcpEntryLogged_value, toWanLogged_value, toWanHostid_off config table buf size off]

theorem forwardLogged_value (off : config.optHostid = false) (probe : Structure.Node) :
    (forwardLogged config now table bucket buf size probe).value =
      match findL2w table probe with
      | none => { verdict := .noTable, table := table, bucket := bucket, buf := buf }
      | some ptr =>
          { verdict := .doalias, table := attach table now ptr, bucket := bucket
            buf := toWanHostid config table ptr buf size } := by
  rw [forwardLogged]
  cases findL2w table probe with
  | none => rfl
  | some ptr =>
      simp only [value_bind, value_pure, toWanLogged_value,
        toWanHostid_off config table buf size off]

theorem lan2wanUdpLogged_value (off : config.optHostid = false) :
    (lan2wanUdpLogged config now table bucket buf size).value =
      lan2wanUdp config now table bucket buf size := by
  simp only [lan2wanUdpLogged, value_bind, value_ite, value_pure, endpointLogged_value,
    wan2lanAliasLogged_value, forwardLogged_value config now _ bucket _ size off]
  rfl

theorem lan2wanIcmp_other (other : (icmpType buf).toNat ∉ [8, 14]) :
    lan2wanIcmp config table bucket buf =
      { verdict := .notSupport, table := table, bucket := bucket, buf := buf } := by
  unfold lan2wanIcmp
  split
  · next type => exact absurd type (fun same => other (by rw [same]; decide))
  · next type => exact absurd type (fun same => other (by rw [same]; decide))
  · rfl

theorem lan2wanIcmpLogged_value :
    (lan2wanIcmpLogged config table bucket buf).value = lan2wanIcmp config table bucket buf := by
  have type : (byteAt buf (lengthAt buf 0).value).value = icmpType buf := rfl
  simp only [lan2wanIcmpLogged, value_bind, type]
  generalize kind : (icmpType buf).toNat = number
  split
  · simp only [value_ite, value_pure, value_bind, lan2wanIcmp, kind]
    rfl
  · simp only [value_ite, value_pure, value_bind, lan2wanIcmp, kind]
    rfl
  · next echo tstampReply =>
      refine (lan2wanIcmp_other config table bucket buf ?_).symm
      rw [kind]
      simp only [List.mem_cons, List.not_mem_nil, or_false, not_or]
      exact ⟨echo, tstampReply⟩

theorem lan2wanAliasLogged_value (off : config.optHostid = false) :
    (lan2wanAliasLogged config now table bucket buf size).value =
      lan2wanAlias config now table bucket buf size := by
  rw [lan2wanAliasLogged, dispatchLogged_value,
    lan2wanTcpLogged_value config now table bucket buf size off,
    lan2wanUdpLogged_value config now table bucket buf size off, lan2wanIcmpLogged_value,
    lan2wanAlias]

theorem mkNodeLogged_value : (mkNodeLogged buf size).value.2 = System.mkNode buf size := by
  simp only [mkNodeLogged, value_ite, value_bind, value_pure, endpointLogged_value,
    apply_ite Prod.snd]
  rfl

end Values

/-- The checksum fields of a packet that is about to be summed up. -/
structure SumFits (build : Build) (buf : Buffer) (size : Nat) : Prop where
  tcp : ipP buf = ipprotoTcp → headerLength buf + 18 ≤ size
  udp : ipP buf = ipprotoUdp → headerLength buf + 8 ≤ size
  icmp : build.diffCksum = false → ipP buf = ipprotoIcmp → headerLength buf + 4 ≤ size
  ip : build.diffCksum = false → build.ipChecksum = true → headerLength buf ≤ size

/-- The port that is overwritten, and the checksum fields after that: with an `ip_hl`
of zero or two the port lies in the fields that are read next. -/
structure RewriteFits (config : Config) (buf : Buffer) (size : Nat) (which : End)
    (aliased : Endpoint) : Prop where
  port : headerLength buf + which.portOffset + 2 ≤ size
  sums : SumFits config.build (setEndpoint buf which aliased) size

section Checksums

variable (build : Build) (config : Config) {buf : Buffer} {size : Nat}

theorem inside_byteAt (offset : Nat) : Inside size (byteAt buf offset) ↔ offset + 1 ≤ size := by
  rw [byteAt, inside_access]
  omega

theorem inside_halfAt (offset : Nat) : Inside size (halfAt buf offset) ↔ offset + 2 ≤ size := by
  rw [halfAt, inside_access]
  omega

theorem inside_wordAt (offset : Nat) : Inside size (wordAt buf offset) ↔ offset + 4 ≤ size := by
  rw [wordAt, inside_access]
  omega

theorem inside_putHalf (offset : Nat) (field : BitVec 16) :
    Inside size (putHalf buf offset field) ↔ offset + 2 ≤ size := by
  rw [putHalf, inside_access]
  omega

theorem inside_putWord (offset : Nat) (field : BitVec 32) :
    Inside size (putWord buf offset field) ↔ offset + 4 ≤ size := by
  rw [putWord, inside_access]
  omega

theorem inside_lengthAt (offset : Nat) :
    Inside size (lengthAt buf offset) ↔ offset + 1 ≤ size := by
  rw [lengthAt, inside_bind, inside_byteAt]
  exact and_iff_left (inside_pure size _)

theorem inside_endpoint (big : 20 < size) (which : End) :
    Inside size (endpointLogged buf which) ↔
      headerLength buf + which.portOffset + 2 ≤ size := by
  have address : which.addressOffset + 4 ≤ 20 := by cases which <;> decide
  have length : (lengthAt buf 0).value = headerLength buf := rfl
  simp only [endpointLogged, inside_bind, inside_wordAt, inside_lengthAt, inside_halfAt, length,
    inside_pure, and_true]
  omega

theorem inside_checksumIp (base : Nat) :
    Inside size (checksumIpLogged buf base) ↔
      base + 12 ≤ size ∧ base + (getByte buf base).toNat % 16 * 4 ≤ size := by
  simp only [checksumIpLogged, bytesAt, inside_bind, inside_lengthAt, inside_putHalf,
    inside_access, lengthAt_value, ipSumOffset]
  omega

/-- The segment ends at `size`, unless the header alone is longer: then its length
wraps around. -/
theorem inside_refreshSum (big : 20 < size) (offset adjust : Nat) :
    Inside size (refreshSumLogged buf size offset adjust) ↔
      offset + 2 ≤ size ∧ headerLength buf ≤ size := by
  have length : (lengthAt buf 0).value = headerLength buf := rfl
  have short : headerLength buf ≤ 60 := by
    rw [headerLength, ipHl]
    omega
  simp only [refreshSumLogged, bytesAt, inside_bind, inside_lengthAt, inside_putHalf,
    inside_access, length, segmentSize]
  omega

theorem protocol_split (protocol : BitVec 8) (tcp udp icmp : Prop) :
    ((protocol = ipprotoTcp → tcp) ∧ (¬protocol = ipprotoTcp → (protocol = ipprotoUdp → udp) ∧
      (¬protocol = ipprotoUdp → protocol = ipprotoIcmp → icmp))) ↔
      (protocol = ipprotoTcp → tcp) ∧ (protocol = ipprotoUdp → udp) ∧
        (protocol = ipprotoIcmp → icmp) := by
  have tcpUdp : ipprotoTcp ≠ ipprotoUdp := by decide
  have tcpIcmp : ipprotoTcp ≠ ipprotoIcmp := by decide
  have udpIcmp : ipprotoUdp ≠ ipprotoIcmp := by decide
  constructor
  · intro branches
    refine ⟨branches.1, ?_, ?_⟩
    · intro isUdp
      exact (branches.2 (fun isTcp => tcpUdp (isTcp.symm.trans isUdp))).1 isUdp
    · intro isIcmp
      exact (branches.2 (fun isTcp => tcpIcmp (isTcp.symm.trans isIcmp))).2
        (fun isUdp => udpIcmp (isUdp.symm.trans isIcmp)) isIcmp
  · intro branches
    exact ⟨branches.1, fun _ => ⟨branches.2.1, fun _ => branches.2.2⟩⟩

theorem inside_checksumTransport (big : 20 < size) :
    Inside size (checksumTransportLogged buf size) ↔
      (ipP buf = ipprotoTcp → headerLength buf + 18 ≤ size) ∧
      (ipP buf = ipprotoUdp → headerLength buf + 8 ≤ size) ∧
      (ipP buf = ipprotoIcmp → headerLength buf + 4 ≤ size) := by
  have length : (lengthAt buf 0).value = headerLength buf := rfl
  have protocol : (byteAt buf 9).value = ipP buf := rfl
  have low : Inside size (bytesAt buf 12 8) := by
    rw [bytesAt, inside_access]
    omega
  have header : 0 + 1 ≤ size ∧ 9 + 1 ≤ size := by omega
  have refreshed : ∀ offset adjust, Inside size
      (refreshSumLogged buf size (headerLength buf + offset) adjust) ↔
        headerLength buf + offset + 2 ≤ size := by
    intro offset adjust
    rw [inside_refreshSum big]
    omega
  simp only [checksumTransportLogged, inside_bind, inside_lengthAt, inside_byteAt, low, header,
    true_and, length, protocol, inside_ite, refreshed, inside_pure, implies_true, and_true]
  exact protocol_split (ipP buf) _ _ _

/-- Refreshing the header's own checksum changes neither its length nor the protocol. -/
theorem ipSum_header {field : BitVec 16} :
    headerLength (write16 buf ipSumOffset field) = headerLength buf ∧
      ipP (write16 buf ipSumOffset field) = ipP buf :=
  ⟨headerLength_congr (getByte_write16 (by decide) field), getByte_write16 (by decide) field⟩

theorem inside_setChecksum (big : 20 < size) :
    Inside size (setChecksumLogged build buf size) ↔
      (build.ipChecksum = true → headerLength buf ≤ size) ∧
      (ipP buf = ipprotoTcp → headerLength buf + 18 ≤ size) ∧
      (ipP buf = ipprotoUdp → headerLength buf + 8 ≤ size) ∧
      (ipP buf = ipprotoIcmp → headerLength buf + 4 ≤ size) := by
  rw [setChecksumLogged, inside_bind, inside_checksumTransport big, ifIpChecksum_value,
    ifIpChecksum]
  cases build.ipChecksum with
  | true =>
      have summed : headerLength (checksumIp buf 0) = headerLength buf ∧
          ipP (checksumIp buf 0) = ipP buf := by
        have once := @ipSum_header buf 0
        simp only [checksumIp, Nat.zero_add, ipSum_header, once, and_self]
      have header : 0 + (getByte buf 0).toNat % 16 * 4 = headerLength buf := Nat.zero_add _
      simp only [if_true, checksumIpLogged_value, summed, inside_checksumIp, header, true_implies]
      refine and_congr_left (fun _ => ?_)
      omega
  | false =>
      simp only [Bool.false_eq_true, if_false, inside_pure, false_implies]

theorem inside_adjustSum (offset : Nat) (orig aliased : BitVec 64) :
    Inside size (adjustSumLogged buf offset orig aliased) ↔ offset + 2 ≤ size := by
  simp only [adjustSumLogged, inside_bind, inside_halfAt, inside_putHalf, and_self]

theorem inside_adjustTransportSum (big : 20 < size) (orig aliased : BitVec 64) :
    Inside size (adjustTransportSumLogged buf orig aliased) ↔
      (ipP buf = ipprotoTcp → headerLength buf + 18 ≤ size) ∧
      (ipP buf = ipprotoUdp → headerLength buf + 8 ≤ size) := by
  have length : (lengthAt buf 0).value = headerLength buf := rfl
  have protocol : (byteAt buf 9).value = ipP buf := rfl
  have header : 0 + 1 ≤ size ∧ 9 + 1 ≤ size := by omega
  have branches := protocol_split (ipP buf) (headerLength buf + 18 ≤ size)
    (headerLength buf + 8 ≤ size) True
  simp only [implies_true, and_true] at branches
  rw [← branches]
  simp only [adjustTransportSumLogged, inside_bind, inside_lengthAt, inside_byteAt, header,
    true_and, length, protocol, inside_ite, inside_adjustSum, inside_pure, implies_true, and_true,
    thSumOffset, uhSumOffset, Nat.add_assoc]

theorem inside_setDiffChecksum (big : 20 < size) (orig aliased : Endpoint) :
    Inside size (setDiffChecksumLogged build buf orig aliased) ↔
      (ipP buf = ipprotoTcp → headerLength buf + 18 ≤ size) ∧
      (ipP buf = ipprotoUdp → headerLength buf + 8 ≤ size) := by
  have adjusted : ∀ orig aliased, (adjustSumLogged buf ipSumOffset orig aliased).value =
      adjustSum buf ipSumOffset orig aliased := fun _ _ => rfl
  simp only [setDiffChecksumLogged, inside_bind, inside_adjustTransportSum big, ifIpChecksum]
  cases build.ipChecksum with
  | true =>
      simp only [if_true, adjusted, adjustSum, ipSum_header, inside_adjustSum]
      refine and_iff_right ?_
      rw [ipSumOffset]
      omega
  | false => simp only [Bool.false_eq_true, if_false, inside_pure, value_pure, true_and]

theorem inside_rewrite (big : 20 < size) (which : End) (orig aliased : Endpoint) :
    Inside size (rewriteLogged config buf size which orig aliased) ↔
      RewriteFits config buf size which aliased := by
  have place : 1 ≤ which.addressOffset ∧ which.addressOffset + 4 ≤ 20 := by cases which <;> decide
  have sameHeader : headerLength (write32 buf which.addressOffset aliased.ip) = headerLength buf :=
    headerLength_congr (getByte_write32 (by omega) _)
  have length : (lengthAt (write32 buf which.addressOffset aliased.ip) 0).value =
      headerLength buf := sameHeader
  have written : write16 (write32 buf which.addressOffset aliased.ip)
      (headerLength buf + which.portOffset) aliased.port = setEndpoint buf which aliased := by
    rw [setEndpoint, sameHeader]
  have low : which.addressOffset + 4 ≤ size ∧ 0 + 1 ≤ size := by omega
  simp only [rewriteLogged, inside_bind, inside_putWord, putWord_value, inside_lengthAt,
    inside_putHalf, putHalf_value, length, written, low, true_and, inside_ite,
    inside_setDiffChecksum config.build big, inside_setChecksum config.build big]
  cases diff : config.build.diffCksum with
  | true =>
      constructor
      · intro fits
        obtain ⟨tcp, udp⟩ := fits.2.1 rfl
        exact ⟨fits.1, tcp, udp, fun full => absurd full (ne_false_of_eq_true diff),
          fun full => absurd full (ne_false_of_eq_true diff)⟩
      · intro fits
        exact ⟨fits.port, fun _ => ⟨fits.sums.tcp, fits.sums.udp⟩, fun full => absurd rfl full⟩
  | false =>
      constructor
      · intro fits
        obtain ⟨ip, tcp, udp, icmp⟩ := fits.2.2 Bool.false_ne_true
        exact ⟨fits.1, tcp, udp, fun _ => icmp, fun _ => ip⟩
      · intro fits
        exact ⟨fits.port, by simp,
          fun _ => ⟨fits.sums.ip diff, fits.sums.tcp, fits.sums.udp, fits.sums.icmp diff⟩⟩

end Checksums

/-- The flag byte of a live entry's segment, and the rewrite when it is translated. -/
def TcpFits (config : Config) (table : Table) (buf : Buffer) (size : Nat) (ptr : Ptr)
    (direction : AliasFrom) (rewrite : Prop) : Prop :=
  let tflag := (table.heap ptr).flags
  let flags := tcpStateCheck tflag (thFlags buf) direction
  if tflag = .closed ∨ tflag = .reset then rewrite
  else
    headerLength buf + 14 ≤ size ∧
      ((flags = .closed → config.build.waitTimeDelete = true) → flags ≠ .reset →
        flags ≠ .unknown → rewrite)

/-- `ext_iphdr->ip_hl << 2` when the quoted header is summed up. -/
def quotedLength (answer : Buffer) : Nat :=
  (getByte answer (extIphdr answer)).toNat % 16 * 4

/-- An error message: the quoted header, its port, and what is summed up again. -/
structure ErrorFits (table : Table) (bucket : IcmpBucket) (buf : Buffer) (size : Nat) : Prop where
  quote : extIphdr buf + 16 ≤ size
  icmp : getByte buf (extIphdr buf + 9) = ipprotoIcmp →
    extIphdr buf + 20 ≤ size ∧
      extIphdr buf + quotedLength (write32 (write32 (write32 buf 16 bucket.localAddr)
        (extIphdr buf + 16) bucket.localAddr) (extIphdr buf + 12) bucket.foreign) ≤ size
  port : getByte buf (extIphdr buf + 9) = ipprotoTcp ∨
      getByte buf (extIphdr buf + 9) = ipprotoUdp →
    extL4 buf + 2 ≤ size ∧
      ∀ ptr, findW2l table (probeWan (getByte buf (extIphdr buf + 9))
        { ip := read32 buf (extIphdr buf + 12), port := read16 buf (extL4 buf) }) = some ptr →
      (table.heap ptr).protocol = ipprotoTcp ∨ (table.heap ptr).protocol = ipprotoUdp →
      extIphdr buf + quotedLength (write16 (write32 (write32 buf 16 (table.heap ptr).lan.ip)
        (extIphdr buf + 12) (table.heap ptr).lan.ip) (extL4 buf) (table.heap ptr).lan.port) ≤ size

/-- A packet from the WAN that passes the first checks. -/
structure Wan2lanFits (config : Config) (table : Table) (bucket : IcmpBucket) (buf : Buffer)
    (size : Nat) : Prop where
  tcp : ipP buf = ipprotoTcp → headerLength buf + 4 ≤ size ∧
    ∀ ptr, lookup table .wan buf = some ptr → TcpFits config table buf size ptr .wan2lan
      (RewriteFits config buf size .destination (table.heap ptr).lan)
  udp : ipP buf = ipprotoUdp → headerLength buf + 4 ≤ size ∧
    ∀ ptr, lookup table .wan buf = some ptr →
      RewriteFits config buf size .destination (table.heap ptr).lan
  icmp : ipP buf = ipprotoIcmp → headerLength buf + 1 ≤ size ∧
    (icmpType buf ∈ [(3 : BitVec 8), 4, 11, 12] → ErrorFits table bucket buf size)

section Wan2lan

variable (config : Config) (now : Int) (table : Table) (bucket : IcmpBucket) {buf : Buffer}
  {size : Nat}

theorem passes_iff (side : Side) : Passes config side buf size ↔
    ¬size ≤ aliasMinSize ∧ ¬ipV buf ≠ 4 ∧ ¬chkDrop (ipSrc buf) (ipDst buf) side.direction = true ∧
      ¬isTooBig config buf size side.direction = true := by
  rw [Nat.not_le, Decidable.not_not, Bool.not_eq_true, Bool.not_eq_true]
  exact ⟨fun passes => ⟨passes.long, passes.version, passes.accepted, passes.fits⟩,
    fun ⟨long, version, accepted, fits⟩ => ⟨long, version, accepted, fits⟩⟩

theorem inside_dispatch (side : Side) (tcp udp icmp : Logged Outcome) :
    Inside size (dispatchLogged config table bucket buf size side.direction tcp udp icmp) ↔
      (Passes config side buf size →
        (ipP buf = ipprotoTcp → Inside size tcp) ∧ (ipP buf = ipprotoUdp → Inside size udp) ∧
          (ipP buf = ipprotoIcmp → Inside size icmp)) := by
  have version : (byteAt buf 0).value.toNat / 16 = ipV buf := rfl
  have protocol : (byteAt buf 9).value = ipP buf := rfl
  have src : (wordAt buf 12).value = ipSrc buf := rfl
  have dst : (wordAt buf 16).value = ipDst buf := rfl
  rw [passes_iff, ← protocol_split]
  by_cases short : size ≤ aliasMinSize
  · rw [dispatchLogged, if_pos short]
    exact iff_of_true (inside_pure size _) (fun passes => absurd short passes.1)
  · have low : 0 + 1 ≤ size ∧ 9 + 1 ≤ size ∧ 12 + 4 ≤ size ∧ 16 + 4 ≤ size ∧ 6 + 2 ≤ size := by
      rw [aliasMinSize] at short
      omega
    simp only [dispatchLogged, inside_bind, inside_byteAt, inside_wordAt,
      inside_halfAt, low, true_and, version, protocol, src, dst, inside_ite, inside_pure,
      implies_true, short, not_false_iff, and_true, and_imp, true_implies]

theorem inside_tcpEntry (ptr : Ptr) (direction : AliasFrom) (onUnknown : Verdict)
    (translated : Logged Buffer) (big : 20 < size) :
    Inside size
        (tcpEntryLogged config now table bucket buf ptr direction onUnknown translated) ↔
      TcpFits config table buf size ptr direction (Inside size translated) := by
  have length : (lengthAt buf 0).value = headerLength buf := rfl
  have pflag : (byteAt buf (headerLength buf + 13)).value = thFlags buf := rfl
  have low : 0 + 1 ≤ size := by omega
  simp only [tcpEntryLogged, TcpFits]
  by_cases closed : (table.heap ptr).flags = .closed
  · simp only [if_pos closed, if_pos (Or.inl closed), inside_bind, inside_pure, and_true]
  by_cases isReset : (table.heap ptr).flags = .reset
  · simp only [if_neg closed, if_pos isReset, if_pos (Or.inr isReset), inside_bind, inside_pure,
      and_true]
  have live : ¬((table.heap ptr).flags = .closed ∨ (table.heap ptr).flags = .reset) :=
    fun settled => settled.elim closed isReset
  simp only [if_neg closed, if_neg isReset, if_neg live, inside_bind, inside_lengthAt,
    inside_byteAt, low, true_and, length, pflag, inside_ite, inside_pure, implies_true, and_true]
  generalize tcpStateCheck (table.heap ptr).flags (thFlags buf) direction = flags
  refine and_congr_right (fun _ => ?_)
  constructor
  · intro branches wait notReset known
    by_cases toClosed : flags = .closed
    · exact branches.1 toClosed (wait toClosed)
    · exact branches.2 toClosed notReset known
  · intro fits
    refine ⟨?_, ?_⟩
    · intro toClosed wait
      rw [toClosed] at fits
      exact fits (fun _ => wait) (by simp) (by simp)
    · intro notClosed notReset known
      exact fits (fun toClosed => absurd toClosed notClosed) notReset known

theorem inside_wan2lanTcp (big : 20 < size) :
    Inside size (wan2lanTcpLogged config now table bucket buf size) ↔
      headerLength buf + 4 ≤ size ∧
        ∀ ptr, lookup table .wan buf = some ptr → TcpFits config table buf size ptr .wan2lan
          (RewriteFits config buf size .destination (table.heap ptr).lan) := by
  rw [wan2lanTcpLogged, inside_bind, inside_endpoint big, endpointLogged_value, lookup]
  refine and_congr Iff.rfl ?_
  cases findW2l table (probeWan (ipP buf) (endpoint buf .destination)) with
  | none => exact iff_of_true (inside_pure size _) (by simp)
  | some ptr =>
      simp only [inside_tcpEntry config now table bucket ptr _ _ _ big, toLanLogged,
        inside_rewrite config big, Option.some.injEq, forall_eq']

theorem inside_wan2lanUdp (big : 20 < size) :
    Inside size (wan2lanUdpLogged config now table bucket buf size) ↔
      headerLength buf + 4 ≤ size ∧
        ∀ ptr, lookup table .wan buf = some ptr →
          RewriteFits config buf size .destination (table.heap ptr).lan := by
  rw [wan2lanUdpLogged, inside_bind, inside_endpoint big, endpointLogged_value, lookup]
  refine and_congr Iff.rfl ?_
  cases findW2l table (probeWan (ipP buf) (endpoint buf .destination)) with
  | none => exact iff_of_true (inside_pure size _) (by simp)
  | some ptr =>
      simp only [inside_bind, inside_pure, and_true, toLanLogged, inside_rewrite config big,
        Option.some.injEq, forall_eq']

theorem inside_refreshIcmp (big : 20 < size) (answer : Buffer) :
    Inside size (refreshIcmpLogged size answer) ↔
      extIphdr answer + 12 ≤ size ∧ extIphdr answer + quotedLength answer ≤ size := by
  have length : (lengthAt answer 0).value = headerLength answer := rfl
  have sameHeader : headerLength (checksumIp answer (headerLength answer + 8)) =
      headerLength answer := by
    simp only [checksumIp]
    apply headerLength_congr
    rw [getByte_write16 (by rw [ipSumOffset]; omega), getByte_write16 (by rw [ipSumOffset]; omega)]
  have low : 0 + 1 ≤ size := by omega
  simp only [refreshIcmpLogged, inside_bind, inside_lengthAt, length, low, true_and,
    inside_checksumIp, checksumIpLogged_value, inside_refreshSum big, sameHeader, quotedLength,
    extIphdr, icmpCksumOffset]
  omega

theorem inside_wan2lanQuoted (big : 20 < size) (protocol : BitVec 8)
    (quote : extIphdr buf + 16 ≤ size) :
    Inside size (wan2lanQuotedLogged config now table bucket buf size protocol
        (read32 buf (extIphdr buf + 12)) (extIphdr buf) (extL4 buf)) ↔
      extL4 buf + 2 ≤ size ∧
        ∀ ptr, findW2l table (probeWan protocol
          { ip := read32 buf (extIphdr buf + 12), port := read16 buf (extL4 buf) }) = some ptr →
        (table.heap ptr).protocol = ipprotoTcp ∨ (table.heap ptr).protocol = ipprotoUdp →
        extIphdr buf + quotedLength (write16 (write32 (write32 buf 16 (table.heap ptr).lan.ip)
          (extIphdr buf + 12) (table.heap ptr).lan.ip) (extL4 buf) (table.heap ptr).lan.port) ≤
            size := by
  have place : extIphdr buf = headerLength buf + 8 := rfl
  have inner : extIphdr buf ≤ extL4 buf := Nat.le_add_right _ _
  simp only [wan2lanQuotedLogged, inside_bind, inside_halfAt, halfAt_value]
  refine and_congr_right (fun port => ?_)
  cases findW2l table (probeWan protocol
    { ip := read32 buf (extIphdr buf + 12), port := read16 buf (extL4 buf) }) with
  | none => exact iff_of_true (inside_pure size _) (by simp)
  | some ptr =>
      have sameQuote : extIphdr (write16 (write32 (write32 buf 16 (table.heap ptr).lan.ip)
          (extIphdr buf + 12) (table.heap ptr).lan.ip) (extL4 buf) (table.heap ptr).lan.port) =
          extIphdr buf := by
        refine congrArg (· + 8) (headerLength_congr ?_)
        rw [getByte_write16 (by omega), getByte_write32 (by omega), getByte_write32 (by omega)]
      simp only [inside_ite, inside_bind, inside_putWord, putWord_value, inside_putHalf,
        putHalf_value, inside_refreshIcmp big, inside_pure, and_true, sameQuote, Bool.or_eq_true,
        decide_eq_true_eq, Option.some.injEq, forall_eq', implies_true]
      refine forall_congr' (fun _ => ?_)
      omega

theorem inside_wan2lanError (big : 20 < size) :
    Inside size (wan2lanErrorLogged config now table bucket buf size) ↔
      ErrorFits table bucket buf size := by
  have place : extIphdr buf = headerLength buf + 8 := rfl
  have quote : (lengthAt buf 0).value + 8 = extIphdr buf := rfl
  have inner : extIphdr buf + (lengthAt buf (extIphdr buf)).value = extL4 buf := rfl
  have sameQuote : extIphdr (write32 (write32 (write32 buf 16 bucket.localAddr)
      (extIphdr buf + 16) bucket.localAddr) (extIphdr buf + 12) bucket.foreign) = extIphdr buf := by
    refine congrArg (· + 8) (headerLength_congr ?_)
    rw [getByte_write32 (by omega), getByte_write32 (by omega), getByte_write32 (by omega)]
  have protocol : (byteAt buf (extIphdr buf + 9)).value = getByte buf (extIphdr buf + 9) := rfl
  have address : (wordAt buf (extIphdr buf + 12)).value = read32 buf (extIphdr buf + 12) := rfl
  have notTcp : ipprotoTcp ≠ ipprotoIcmp := by decide
  have notUdp : ipprotoUdp ≠ ipprotoIcmp := by decide
  simp only [wan2lanErrorLogged, inside_bind, quote, inner, inside_lengthAt, inside_byteAt,
    inside_wordAt, protocol, address, inside_ite, inside_putWord, putWord_value,
    inside_refreshIcmp big, sameQuote, inside_pure, and_true, Bool.or_eq_true, decide_eq_true_eq,
    implies_true]
  constructor
  · intro fits
    obtain ⟨-, -, -, source, icmp, port⟩ := fits
    have quoteFits : extIphdr buf + 16 ≤ size := by omega
    refine ⟨quoteFits, ?_, ?_⟩
    · intro isIcmp
      obtain ⟨-, target, -, -, length⟩ := icmp isIcmp
      exact ⟨by omega, length⟩
    · intro isPort
      have notIcmp : ¬getByte buf (extIphdr buf + 9) = ipprotoIcmp := by
        intro isIcmp
        rw [isIcmp] at isPort
        exact isPort.elim (fun isTcp => notTcp isTcp.symm) (fun isUdp => notUdp isUdp.symm)
      exact (inside_wan2lanQuoted config now table bucket big _ quoteFits).mp (port notIcmp isPort)
  · intro fits
    have quoteFits := fits.quote
    refine ⟨by omega, by omega, by omega, by omega, ?_, ?_⟩
    · intro isIcmp
      obtain ⟨target, length⟩ := fits.icmp isIcmp
      exact ⟨by omega, by omega, by omega, by omega, length⟩
    · intro notIcmp isPort
      exact (inside_wan2lanQuoted config now table bucket big _ quoteFits).mpr (fits.port isPort)

theorem inside_wan2lanIcmp (big : 20 < size) :
    Inside size (wan2lanIcmpLogged config now table bucket buf size) ↔
      headerLength buf + 1 ≤ size ∧
        (icmpType buf ∈ [(3 : BitVec 8), 4, 11, 12] → ErrorFits table bucket buf size) := by
  have type : (byteAt buf (headerLength buf)).value = icmpType buf := rfl
  have length : (lengthAt buf 0).value = headerLength buf := rfl
  have low : 0 + 1 ≤ size ∧ 16 + 4 ≤ size ∧ ipSumOffset + 2 ≤ size := by
    rw [ipSumOffset]
    omega
  have error := @inside_wan2lanError config now table bucket buf size big
  have errors : icmpType buf ∈ [(3 : BitVec 8), 4, 11, 12] ↔ (icmpType buf).toNat = 3 ∨
      (icmpType buf).toNat = 4 ∨ (icmpType buf).toNat = 11 ∨ (icmpType buf).toNat = 12 := by
    simp only [List.mem_cons, List.not_mem_nil, or_false, BitVec.toNat_eq]
    rfl
  have answered : ∀ condition : Prop, ∀ _ : Decidable condition, ∀ stopped answer : Outcome,
      Inside size (if condition then pure stopped else do
        let _addressed ← putWord buf 16 bucket.localAddr
        let _cleared ← putHalf (write32 buf 16 bucket.localAddr) ipSumOffset 0
        pure answer) := by
    intro condition _ stopped answer
    simp only [inside_ite, inside_bind, inside_putWord, inside_putHalf, inside_pure, low,
      and_true, implies_true]
  simp only [wan2lanIcmpLogged, inside_bind, inside_lengthAt, inside_byteAt, length, low,
    true_and, type]
  refine and_congr_right (fun _ => ?_)
  rw [errors]
  generalize (icmpType buf).toNat = number
  split
  · exact iff_of_true (answered _ _ _ _) (fun quoting => absurd quoting (by omega))
  · exact iff_of_true (answered _ _ _ _) (fun quoting => absurd quoting (by omega))
  · exact error.trans (imp_iff_right (by omega)).symm
  · exact error.trans (imp_iff_right (by omega)).symm
  · exact error.trans (imp_iff_right (by omega)).symm
  · exact error.trans (imp_iff_right (by omega)).symm
  · next unreach sourceQuench timxceed paramprob =>
      refine iff_of_true (inside_pure size _) (fun quoting => ?_)
      rcases quoting with same | same | same | same
      · exact absurd same unreach
      · exact absurd same sourceQuench
      · exact absurd same timxceed
      · exact absurd same paramprob

theorem inside_wan2lanAlias :
    Inside size (wan2lanAliasLogged config now table bucket buf size) ↔
      (Passes config .wan buf size → Wan2lanFits config table bucket buf size) := by
  refine (inside_dispatch config table bucket .wan _ _ _).trans ?_
  refine forall_congr' (fun passes => ?_)
  have big : 20 < size := passes.long
  rw [inside_wan2lanTcp config now table bucket big, inside_wan2lanUdp config now table bucket big,
    inside_wan2lanIcmp config now table bucket big]
  exact ⟨fun ⟨tcp, udp, icmp⟩ => ⟨tcp, udp, icmp⟩, fun ⟨tcp, udp, icmp⟩ => ⟨tcp, udp, icmp⟩⟩

end Wan2lan

/-- Version, header length and protocol, and the size of the memory behind them. -/
structure SameHead (before after : Buffer) : Prop where
  length : after.length = before.length
  first : getByte after 0 = getByte before 0
  protocol : getByte after 9 = getByte before 9

namespace SameHead

variable {before after : Buffer}

theorem refl (buf : Buffer) : SameHead buf buf := ⟨rfl, rfl, rfl⟩

theorem trans {last : Buffer} (left : SameHead before after) (right : SameHead after last) :
    SameHead before last :=
  ⟨right.length.trans left.length, right.first.trans left.first,
    right.protocol.trans left.protocol⟩

theorem headerLength (same : SameHead before after) :
    Packet.headerLength after = Packet.headerLength before :=
  headerLength_congr same.first

theorem ipP (same : SameHead before after) : Packet.ipP after = Packet.ipP before := same.protocol

/-- The checksum fields and the destination port lie two bytes behind a multiple of
four, wherever `ip_hl` puts them. -/
theorem write16 {offset : Nat} (place : offset % 4 = 2) (buf : Buffer) (field : BitVec 16) :
    SameHead buf (Packet.write16 buf offset field) :=
  ⟨length_write16 field, getByte_write16 (by omega) field, getByte_write16 (by omega) field⟩

theorem setEndpoint (same : SameHead before after) (which : End) (new : Endpoint) :
    SameHead (Packet.setEndpoint before which new) (Packet.setEndpoint after which new) := by
  have place : 10 ≤ which.addressOffset := by cases which <;> decide
  have unwritten : ∀ (buf : Buffer) (position : Nat), position < 10 →
      getByte (write32 buf which.addressOffset new.ip) position = getByte buf position :=
    fun buf position low => getByte_write32 (by omega) new.ip
  have addressed : SameHead (write32 before which.addressOffset new.ip)
      (write32 after which.addressOffset new.ip) := by
    constructor
    · rw [length_write32, length_write32, same.length]
    · rw [unwritten after 0 (by omega), unwritten before 0 (by omega), same.first]
    · rw [unwritten after 9 (by omega), unwritten before 9 (by omega), same.protocol]
  simp only [Packet.setEndpoint]
  rw [addressed.headerLength]
  exact ⟨by rw [length_write16, length_write16, addressed.length],
    getByte_store_congr addressed.length addressed.first _,
    getByte_store_congr addressed.length addressed.protocol _⟩

end SameHead

section Hairpin

variable (config : Config) (table : Table) {buf : Buffer} {size : Nat}

theorem adjustSum_sameHead {offset : Nat} (place : offset % 4 = 2) (orig aliased : BitVec 64) :
    SameHead buf (adjustSum buf offset orig aliased) :=
  SameHead.write16 place buf _

theorem refreshSum_sameHead {offset : Nat} (place : offset % 4 = 2) (adjust : Nat) :
    SameHead buf (refreshSum buf size offset adjust) :=
  (SameHead.write16 place buf 0).trans (SameHead.write16 place _ _)

theorem setEndpoint_destination_sameHead (new : Endpoint) :
    SameHead buf (setEndpoint buf .destination new) := by
  have addressed : SameHead buf (write32 buf End.destination.addressOffset new.ip) :=
    ⟨length_write32 _, getByte_write32 (.inl (by decide)) _, getByte_write32 (.inl (by decide)) _⟩
  refine addressed.trans (SameHead.write16 ?_ _ _)
  rw [headerLength, End.portOffset]
  omega

theorem rewrite_destination_sameHead (isUdp : ipP buf = ipprotoUdp) (orig aliased : Endpoint) :
    SameHead buf (rewrite config buf size .destination orig aliased) := by
  have written := @setEndpoint_destination_sameHead buf aliased
  have notTcp : ipprotoUdp ≠ ipprotoTcp := by decide
  have sumPlace : ∀ other, (headerLength other + uhSumOffset) % 4 = 2 := by
    intro other
    rw [headerLength, uhSumOffset]
    omega
  rw [rewrite]
  refine written.trans ?_
  generalize setEndpoint buf .destination aliased = answer at written
  have answerUdp : ipP answer = ipprotoUdp := written.ipP.trans isUdp
  cases config.build.diffCksum with
  | true =>
      simp only [if_true, setDiffChecksum]
      have summed : SameHead answer (if config.build.ipChecksum then
          adjustSum answer ipSumOffset (orig.ip.zeroExtend 64) (aliased.ip.zeroExtend 64)
          else answer) := by
        split
        · exact adjustSum_sameHead (by decide) _ _
        · exact .refl answer
      refine summed.trans ?_
      rw [adjustTransportSum, summed.ipP, answerUdp, if_neg notTcp, if_pos rfl]
      exact adjustSum_sameHead (sumPlace _) _ _
  | false =>
      simp only [Bool.false_eq_true, if_false, setChecksum]
      have summed : SameHead answer (if config.build.ipChecksum then checksumIp answer 0
          else answer) := by
        split
        · exact (SameHead.write16 (by decide) answer 0).trans (SameHead.write16 (by decide) _ _)
        · exact .refl answer
      refine summed.trans ?_
      rw [checksumTransport, summed.ipP, answerUdp, if_neg notTcp, if_pos rfl]
      exact refreshSum_sameHead (sumPlace _) _

theorem RewriteFits.congr {answer : Buffer} (same : SameHead buf answer) (which : End)
    (aliased : Endpoint) :
    RewriteFits config answer size which aliased ↔ RewriteFits config buf size which aliased := by
  have written := same.setEndpoint which aliased
  constructor
  · intro fits
    obtain ⟨port, tcp, udp, icmp, ip⟩ := fits
    rw [same.headerLength] at port
    rw [written.ipP, written.headerLength] at tcp udp icmp
    rw [written.headerLength] at ip
    exact ⟨port, tcp, udp, icmp, ip⟩
  · intro fits
    obtain ⟨port, tcp, udp, icmp, ip⟩ := fits
    rw [← same.headerLength] at port
    rw [← written.ipP, ← written.headerLength] at tcp udp icmp
    rw [← written.headerLength] at ip
    exact ⟨port, tcp, udp, icmp, ip⟩

end Hairpin

/-- The second half of the hairpin, once its first half has found an entry. -/
structure HairpinFits (config : Config) (table : Table) (buf : Buffer) (size : Nat) : Prop where
  port : headerLength buf + 4 ≤ size
  rewrites : ∀ target, lookup table .wan buf = some target →
    RewriteFits config buf size .destination (table.heap target).lan ∧
      ∀ ptr, lookup table .lan buf = some ptr →
        RewriteFits config buf size .source (table.heap ptr).wan

/-- A packet from the LAN that passes the first checks. -/
structure Lan2wanFits (config : Config) (table : Table) (buf : Buffer) (size : Nat) : Prop where
  port : ipP buf = ipprotoTcp ∨ ipP buf = ipprotoUdp → headerLength buf + 2 ≤ size
  tcp : ipP buf = ipprotoTcp → chkSelfaddr config (ipDst buf) .lan2wan = false →
    (lookup table .lan buf = none → headerLength buf + 14 ≤ size) ∧
      ∀ ptr, lookup table .lan buf = some ptr → TcpFits config table buf size ptr .lan2wan
        (RewriteFits config buf size .source (table.heap ptr).wan)
  udp : ipP buf = ipprotoUdp → chkSelfaddr config (ipDst buf) .lan2wan = false →
    ∀ ptr, lookup table .lan buf = some ptr →
      RewriteFits config buf size .source (table.heap ptr).wan
  hairpin : ipP buf = ipprotoUdp → chkSelfaddr config (ipDst buf) .lan2wan = true →
    Passes config .wan buf size → HairpinFits config table buf size
  icmp : ipP buf = ipprotoIcmp → headerLength buf + 1 ≤ size

section Lan2wan

variable (config : Config) (now : Int) (table : Table) (bucket : IcmpBucket) {buf : Buffer}
  {size : Nat}

theorem inside_lan2wanTcp (big : 20 < size) :
    Inside size (lan2wanTcpLogged config now table bucket buf size) ↔
      headerLength buf + 2 ≤ size ∧
        (chkSelfaddr config (ipDst buf) .lan2wan = false →
          (lookup table .lan buf = none → headerLength buf + 14 ≤ size) ∧
            ∀ ptr, lookup table .lan buf = some ptr → TcpFits config table buf size ptr .lan2wan
              (RewriteFits config buf size .source (table.heap ptr).wan)) := by
  have length : (lengthAt buf 0).value = headerLength buf := rfl
  have low : 0 + 1 ≤ size := by omega
  rw [lan2wanTcpLogged, inside_bind, inside_endpoint big, endpointLogged_value, lookup]
  refine and_congr Iff.rfl ?_
  rw [inside_ite, ← Bool.not_eq_true]
  refine (and_iff_right (fun _ => inside_pure size _)).trans (imp_congr_right (fun _ => ?_))
  cases findL2w table (probeLan (ipP buf) (endpoint buf .source)) with
  | none =>
      simp only [inside_bind, inside_lengthAt, inside_byteAt, length, inside_ite, inside_pure, low,
        true_and, implies_true, and_true, reduceCtorEq, false_implies, true_implies, Nat.add_assoc,
        Nat.reduceAdd]
  | some ptr =>
      simp only [inside_tcpEntry config now table bucket ptr _ _ _ big, toWanLogged,
        inside_rewrite config big, Option.some.injEq, forall_eq', reduceCtorEq, false_implies,
        true_and]

theorem inside_forward (big : 20 < size) (probe : Structure.Node) :
    Inside size (forwardLogged config now table bucket buf size probe) ↔
      ∀ ptr, findL2w table probe = some ptr →
        RewriteFits config buf size .source (table.heap ptr).wan := by
  rw [forwardLogged]
  cases findL2w table probe with
  | none => exact iff_of_true (inside_pure size _) (by simp)
  | some ptr =>
      simp only [inside_bind, inside_pure, and_true, toWanLogged, inside_rewrite config big,
        Option.some.injEq, forall_eq']

theorem findL2w_same {after : Table} (same : SameMappings table after) (probe : Structure.Node) :
    findL2w after probe = findL2w table probe := by
  have keys : after.l2wKeyOf = table.l2wKeyOf := funext same.l2wKey
  rw [findL2w, findL2w, keys, same.l2w]

theorem inside_hairpin (big : 20 < size) (isUdp : ipP buf = ipprotoUdp) :
    Inside size (do
      let hairpin ← wan2lanAliasLogged config now table bucket buf size
      if hairpin.verdict ≠ .doalias then pure { hairpin with verdict := .toMe }
      else
        forwardLogged config now hairpin.table bucket hairpin.buf size
          (probeLan (ipP buf) (endpoint buf .source)) : Logged Outcome) ↔
      (Passes config .wan buf size → HairpinFits config table buf size) := by
  have notTcp : ¬ipprotoUdp = ipprotoTcp := by decide
  have notIcmp : ¬ipprotoUdp = ipprotoIcmp := by decide
  simp only [inside_bind, wan2lanAliasLogged_value, inside_wan2lanAlias, inside_ite, inside_pure,
    implies_true, true_and, Decidable.not_not, inside_forward config now _ bucket big]
  by_cases passes : Passes config .wan buf size
  · have answer : wan2lanAlias config now table bucket buf size =
        wan2lanUdp config now table bucket buf size :=
      dispatch_udp config table bucket buf size .wan passes isUdp _ _ _
    have first : Wan2lanFits config table bucket buf size ↔ headerLength buf + 4 ≤ size ∧
        ∀ ptr, lookup table .wan buf = some ptr →
          RewriteFits config buf size .destination (table.heap ptr).lan := by
      constructor
      · intro fits
        exact fits.udp isUdp
      · intro fits
        exact ⟨fun isTcp => absurd (isUdp.symm.trans isTcp) notTcp, fun _ => fits,
          fun isIcmp => absurd (isUdp.symm.trans isIcmp) notIcmp⟩
    rw [first]
    cases found : lookup table .wan buf with
    | none =>
        have missed : (wan2lanAlias config now table bucket buf size).verdict ≠ .doalias := by
          rw [lookup] at found
          rw [answer, wan2lanUdp, found, wan2lanMissing]
          cases chkSelfaddr config (ipDst buf) .wan2lan <;> simp
        constructor
        · intro fits _
          exact ⟨(fits.1 passes).1, fun target isTarget => absurd (found.symm.trans isTarget) (by simp)⟩
        · intro fits
          exact ⟨fun _ => ⟨(fits passes).port, by simp⟩, fun doalias => absurd doalias missed⟩
    | some target =>
        have translated : wan2lanAlias config now table bucket buf size =
            { verdict := .doalias, table := attach table now target, bucket := bucket
              buf := toLan config table target buf size } := by
          rw [lookup] at found
          rw [answer, wan2lanUdp, found]
        have sameHead : SameHead buf (toLan config table target buf size) :=
          rewrite_destination_sameHead config isUdp _ _
        have sameTable := SameMappings.attach table now target
        have second : (∀ ptr, findL2w (attach table now target)
            (probeLan (ipP buf) (endpoint buf .source)) = some ptr →
              RewriteFits config (toLan config table target buf size) size .source
                ((attach table now target).heap ptr).wan) ↔
            ∀ ptr, lookup table .lan buf = some ptr →
              RewriteFits config buf size .source (table.heap ptr).wan := by
          rw [findL2w_same table sameTable, ← lookup]
          refine forall_congr' (fun ptr => imp_congr_right (fun _ => ?_))
          rw [RewriteFits.congr config sameHead, sameTable.wan]
        simp only [translated, second, true_implies, Option.some.injEq, forall_eq']
        constructor
        · intro fits _
          obtain ⟨port, rewrites⟩ := fits.1 passes
          refine ⟨port, fun other isTarget => ?_⟩
          cases found.symm.trans isTarget
          exact ⟨rewrites, fits.2⟩
        · intro fits
          obtain ⟨port, rewrites⟩ := fits passes
          exact ⟨fun _ => ⟨port, (rewrites target found).1⟩, (rewrites target found).2⟩
  · have refused : (wan2lanAlias config now table bucket buf size).verdict ≠ .doalias := by
      intro doalias
      rw [wan2lanAlias] at doalias
      exact passes (passes_of_goesOn config table bucket buf size .wan (by decide) doalias)
    exact iff_of_true ⟨fun isPassing => absurd isPassing passes,
      fun doalias => absurd doalias refused⟩ (fun isPassing => absurd isPassing passes)

theorem inside_lan2wanUdp (big : 20 < size) (isUdp : ipP buf = ipprotoUdp) :
    Inside size (lan2wanUdpLogged config now table bucket buf size) ↔
      headerLength buf + 2 ≤ size ∧
        (chkSelfaddr config (ipDst buf) .lan2wan = false →
          ∀ ptr, lookup table .lan buf = some ptr →
            RewriteFits config buf size .source (table.heap ptr).wan) ∧
        (chkSelfaddr config (ipDst buf) .lan2wan = true →
          Passes config .wan buf size → HairpinFits config table buf size) := by
  rw [lan2wanUdpLogged, inside_bind, inside_endpoint big, endpointLogged_value]
  refine and_congr Iff.rfl ?_
  simp only [inside_ite, Bool.not_eq_true]
  rw [inside_hairpin config now table bucket big isUdp,
    inside_forward config now table bucket big, ← lookup]
  exact and_comm

theorem inside_lan2wanIcmp (big : 20 < size) :
    Inside size (lan2wanIcmpLogged config table bucket buf) ↔ headerLength buf + 1 ≤ size := by
  have length : (lengthAt buf 0).value = headerLength buf := rfl
  have low : 0 + 1 ≤ size ∧ 12 + 4 ≤ size ∧ 16 + 4 ≤ size ∧ ipSumOffset + 2 ≤ size := by
    rw [ipSumOffset]
    omega
  simp only [lan2wanIcmpLogged, inside_bind, inside_lengthAt, inside_byteAt, length, low,
    true_and]
  refine and_iff_left ?_
  split
  · simp only [inside_ite, inside_bind, inside_wordAt, inside_putWord, inside_putHalf, inside_pure,
      low, and_true, implies_true]
  · simp only [inside_ite, inside_bind, inside_wordAt, inside_putWord, inside_putHalf, inside_pure,
      low, and_true, implies_true]
  · exact inside_pure size _

theorem inside_lan2wanAlias :
    Inside size (lan2wanAliasLogged config now table bucket buf size) ↔
      (Passes config .lan buf size → Lan2wanFits config table buf size) := by
  refine (inside_dispatch config table bucket .lan _ _ _).trans ?_
  refine forall_congr' (fun passes => ?_)
  have big : 20 < size := passes.long
  rw [inside_lan2wanTcp config now table bucket big, inside_lan2wanIcmp config table bucket big]
  constructor
  · intro fits
    obtain ⟨tcp, udp, icmp⟩ := fits
    have datagram := fun isUdp =>
      (inside_lan2wanUdp config now table bucket big isUdp).mp (udp isUdp)
    exact ⟨fun ports => ports.elim (fun isTcp => (tcp isTcp).1) (fun isUdp => (datagram isUdp).1),
      fun isTcp => (tcp isTcp).2, fun isUdp => (datagram isUdp).2.1,
      fun isUdp => (datagram isUdp).2.2, icmp⟩
  · intro fits
    refine ⟨fun isTcp => ⟨fits.port (.inl isTcp), fits.tcp isTcp⟩, fun isUdp => ?_, fits.icmp⟩
    exact (inside_lan2wanUdp config now table bucket big isUdp).mpr
      ⟨fits.port (.inr isUdp), fits.udp isUdp, fits.hairpin isUdp⟩

end Lan2wan

/-! ### Short packets -/

/-- The last transport or quoted field that every packet of its protocol is asked for,
once it has passed the first checks. -/
def neededLength (side : Side) (buf : Buffer) : Nat :=
  if ipP buf = ipprotoTcp ∨ ipP buf = ipprotoUdp then
    match side with
    | .lan => headerLength buf + 2
    | .wan => headerLength buf + 4
  else if side = .wan ∧ ipP buf = ipprotoIcmp ∧ icmpType buf ∈ [(3 : BitVec 8), 4, 11, 12] then
    let quoted := getByte buf (extIphdr buf + 9)
    if quoted = ipprotoIcmp then extIphdr buf + 20
    else if quoted = ipprotoTcp ∨ quoted = ipprotoUdp then max (extIphdr buf + 16) (extL4 buf + 2)
    else extIphdr buf + 16
  else headerLength buf + 1

/-- Nothing behind `size` is touched, and a packet that ends before a field it is asked
for is refused as it came. -/
structure Guarded (side : Side) (buf : Buffer) (size : Nat) (twin : Logged Outcome) : Prop where
  inside : Inside size twin
  refused : size < neededLength side buf → twin.value.verdict.Stops ∧ twin.value.buf = buf

structure GuardedNode (buf : Buffer) (size : Nat) : Prop where
  inside : Inside size (mkNodeLogged buf size)
  refused : size < headerLength buf + 4 → (mkNodeLogged buf size).value.1 = -1

section Short

variable (config : Config) (now : Int) (table : Table) (bucket : IcmpBucket) {buf : Buffer}
  {size : Nat}

theorem ErrorFits.needed (fits : ErrorFits table bucket buf size) :
    (if getByte buf (extIphdr buf + 9) = ipprotoIcmp then extIphdr buf + 20
      else if getByte buf (extIphdr buf + 9) = ipprotoTcp ∨
          getByte buf (extIphdr buf + 9) = ipprotoUdp then
        max (extIphdr buf + 16) (extL4 buf + 2)
      else extIphdr buf + 16) ≤ size := by
  split
  · next isIcmp => exact (fits.icmp isIcmp).1
  · split
    · next isPort => exact Nat.max_le.mpr ⟨fits.quote, (fits.port isPort).1⟩
    · exact fits.quote

/-- A short packet that passes the checks with an allotted protocol is read behind its end. -/
theorem dispatch_refused {side : Side} (tcp udp icmp : Outcome)
    (needed : Passes config side buf size → ipP buf = ipprotoTcp ∨ ipP buf = ipprotoUdp ∨
      ipP buf = ipprotoIcmp → neededLength side buf ≤ size)
    (short : size < neededLength side buf) :
    (dispatch config table bucket buf size side.direction tcp udp icmp).verdict.Stops ∧
      (dispatch config table bucket buf size side.direction tcp udp icmp).buf = buf := by
  rcases dispatch_split config table bucket buf size side tcp udp icmp with
    ⟨verdict, stops, result⟩ | ⟨passes, branches⟩
  · rw [result]
    exact ⟨stops, rfl⟩
  · have long : neededLength side buf ≤ size := by
      refine needed passes ?_
      rcases branches with ⟨isTcp, -⟩ | ⟨isUdp, -⟩ | ⟨isIcmp, -⟩
      · exact .inl isTcp
      · exact .inr (.inl isUdp)
      · exact .inr (.inr isIcmp)
    exact absurd short (Nat.not_lt_of_le long)

theorem guarded_wan2lanAlias :
    Guarded .wan buf size (wan2lanAliasLogged config now table bucket buf size) ↔
      (Passes config .wan buf size → Wan2lanFits config table bucket buf size) := by
  refine ⟨fun guarded => (inside_wan2lanAlias config now table bucket).mp guarded.inside,
    fun fits => ⟨(inside_wan2lanAlias config now table bucket).mpr fits, ?_⟩⟩
  rw [wan2lanAliasLogged_value, wan2lanAlias]
  refine @dispatch_refused config table bucket buf size .wan _ _ _ ?_
  intro passes known
  obtain ⟨tcp, udp, icmp⟩ := fits passes
  rw [neededLength]
  by_cases ports : ipP buf = ipprotoTcp ∨ ipP buf = ipprotoUdp
  · rw [if_pos ports]
    exact ports.elim (fun isTcp => (tcp isTcp).1) (fun isUdp => (udp isUdp).1)
  · have isIcmp : ipP buf = ipprotoIcmp :=
      known.elim (fun isTcp => absurd (.inl isTcp) ports)
        (fun rest => rest.resolve_left (fun isUdp => ports (.inr isUdp)))
    rw [if_neg ports]
    by_cases error : icmpType buf ∈ [(3 : BitVec 8), 4, 11, 12]
    · rw [if_pos ⟨rfl, isIcmp, error⟩]
      exact ((icmp isIcmp).2 error).needed table bucket
    · rw [if_neg (fun quoting => error quoting.2.2)]
      exact (icmp isIcmp).1

theorem guarded_lan2wanAlias (off : config.optHostid = false) :
    Guarded .lan buf size (lan2wanAliasLogged config now table bucket buf size) ↔
      (Passes config .lan buf size → Lan2wanFits config table buf size) := by
  refine ⟨fun guarded => (inside_lan2wanAlias config now table bucket).mp guarded.inside,
    fun fits => ⟨(inside_lan2wanAlias config now table bucket).mpr fits, ?_⟩⟩
  rw [lan2wanAliasLogged_value config now table bucket buf size off, lan2wanAlias]
  refine @dispatch_refused config table bucket buf size .lan _ _ _ ?_
  intro passes known
  have allotted := fits passes
  rw [neededLength]
  by_cases ports : ipP buf = ipprotoTcp ∨ ipP buf = ipprotoUdp
  · rw [if_pos ports]
    exact allotted.port ports
  · have isIcmp : ipP buf = ipprotoIcmp :=
      known.elim (fun isTcp => absurd (.inl isTcp) ports)
        (fun rest => rest.resolve_left (fun isUdp => ports (.inr isUdp)))
    rw [if_neg ports, if_neg (fun quoting => absurd quoting.1 (by simp))]
    exact allotted.icmp isIcmp

theorem guarded_mkNode : GuardedNode buf size ↔
    (20 < size → ipP buf = ipprotoTcp ∨ ipP buf = ipprotoUdp → headerLength buf + 4 ≤ size) := by
  have protocol : (byteAt buf 9).value = ipP buf := rfl
  by_cases short : size ≤ 20
  · have stopped : (mkNodeLogged buf size).ranges = [] ∧ (mkNodeLogged buf size).value.1 = -1 := by
      rw [mkNodeLogged, if_pos short]
      exact ⟨rfl, rfl⟩
    refine iff_of_true ⟨?_, fun _ => stopped.2⟩ (fun long => absurd short (Nat.not_le_of_lt long))
    intro range member
    rw [stopped.1] at member
    cases member
  · have long : 20 < size := Nat.lt_of_not_le short
    have low : 9 + 1 ≤ size ∧ 12 + 4 ≤ size ∧ 16 + 4 ≤ size := by omega
    have inside : Inside size (mkNodeLogged buf size) ↔
        (ipP buf = ipprotoTcp ∨ ipP buf = ipprotoUdp → headerLength buf + 4 ≤ size) := by
      simp only [mkNodeLogged, if_neg short, inside_bind, inside_byteAt, inside_wordAt, low,
        true_and, protocol, inside_ite, inside_endpoint long, inside_pure, and_true, implies_true,
        End.portOffset]
      refine imp_congr_right (fun _ => ?_)
      omega
    constructor
    · intro guarded _
      exact inside.mp guarded.inside
    · intro fits
      refine ⟨inside.mpr (fits long), ?_⟩
      intro less
      have noPorts : ¬(ipP buf = ipprotoTcp ∨ ipP buf = ipprotoUdp) :=
        fun ports => absurd (fits long ports) (Nat.not_le_of_lt less)
      simp only [mkNodeLogged, if_neg short, value_bind, value_pure, protocol, if_neg noPorts]

end Short

/-- The packet functions stay inside a packet exactly when its own path fits. -/
theorem packets_stay_inside (config : Config) (now : Int) (table : Table) (bucket : IcmpBucket)
    (buf : Buffer) (size : Nat) (off : config.optHostid = false) :
    ((lan2wanAliasLogged config now table bucket buf size).value =
        lan2wanAlias config now table bucket buf size ∧
      (wan2lanAliasLogged config now table bucket buf size).value =
        wan2lanAlias config now table bucket buf size ∧
      (mkNodeLogged buf size).value.2 = System.mkNode buf size) ∧
    (Guarded .lan buf size (lan2wanAliasLogged config now table bucket buf size) ↔
      (Passes config .lan buf size → Lan2wanFits config table buf size)) ∧
    (Guarded .wan buf size (wan2lanAliasLogged config now table bucket buf size) ↔
      (Passes config .wan buf size → Wan2lanFits config table bucket buf size)) ∧
    (GuardedNode buf size ↔
      (20 < size → ipP buf = ipprotoTcp ∨ ipP buf = ipprotoUdp →
        headerLength buf + 4 ≤ size)) :=
  ⟨⟨lan2wanAliasLogged_value config now table bucket buf size off,
    wan2lanAliasLogged_value config now table bucket buf size, mkNodeLogged_value buf size⟩,
    guarded_lan2wanAlias config now table bucket off,
    guarded_wan2lanAlias config now table bucket, guarded_mkNode⟩

private def boundsConfig : Config :=
  { build := ⟨true, true, false, false⟩, optHostid := false, optNageteDf := false
    wanIfMtu := 1500, lanIfMtu := 1500, lanAddr := [0x0A000001], wanAddr := [0xC6336407]
    icmpWanAddr := 0 }

private def noEntries : Table :=
  { heap := fun _ =>
      { ctime := 0, atime := 0, flags := .established, timerFlags := .loop, protocol := 0
        wan := ⟨0, 0⟩, lan := ⟨0, 0⟩, l2wKey := 0, w2lKey := 0 }
    l2w := [], w2l := [] }

/-- A datagram from 10.0.0.2 to 192.0.2.9 without data. -/
private def wholeDatagram : Buffer :=
  [69, 0, 0, 28, 0, 1, 0, 0, 64, 17, 0, 0, 10, 0, 0, 2, 192, 0, 2, 9,
    0, 80, 31, 144, 0, 8, 0, 0]

/-- The same datagram, cut behind the first byte of its source port. -/
private def cutDatagram : Buffer := wholeDatagram.take 21

theorem packets_stay_inside_whole_datagram :
    boundsConfig.optHostid = false ∧
      Guarded .lan wholeDatagram 28
        (lan2wanAliasLogged boundsConfig 7 noEntries ⟨0, 0⟩ wholeDatagram 28) := by
  refine ⟨rfl, (packets_stay_inside boundsConfig 7 noEntries ⟨0, 0⟩ wholeDatagram 28
    rfl).2.1.mpr ?_⟩
  intro _
  have notFound : lookup noEntries .lan wholeDatagram = none := rfl
  refine ⟨fun _ => by decide, fun isTcp => absurd isTcp (by decide), ?_,
    fun _ toMe => absurd toMe (by decide), fun isIcmp => absurd isIcmp (by decide)⟩
  intro _ _ ptr found
  cases notFound.symm.trans found

theorem cut_datagram_read_past_end :
    ¬Guarded .lan cutDatagram 21
        (lan2wanAliasLogged boundsConfig 7 noEntries ⟨0, 0⟩ cutDatagram 21) ∧
      ¬GuardedNode cutDatagram 21 := by
  have header : headerLength cutDatagram = 20 := by decide
  have isUdp : ipP cutDatagram = ipprotoUdp := by decide
  constructor
  · intro guarded
    have fits := (guarded_lan2wanAlias boundsConfig 7 noEntries ⟨0, 0⟩ rfl).mp guarded
      ⟨by decide, by decide, by decide, by decide⟩
    have port := fits.port (.inr isUdp)
    omega
  · intro guarded
    have port := guarded_mkNode.mp guarded (by decide) (.inr isUdp)
    omega

end Bounds
end NatPorte
