/-
ICMP errors about translated connections.

An error from the WAN side quotes the header of the packet it is about, as that
packet left the router.  `wan2lan_alias` finds the entry by the quoted source,
puts the LAN endpoint into the quote, and computes the quoted header's checksum
and then the ICMP checksum, which covers it, anew.
-/

import NatPorte.Icmp

namespace NatPorte
namespace IcmpErrors

open ByteBuffer Structure Packet Checksum Alias Tracking Icmp

def quotedSource (buf : Buffer) : Endpoint :=
  { ip := read32 buf (extIphdr buf + 12), port := read16 buf (extL4 buf) }

/-- The checksum of the IP header at `base` is right. -/
def HeaderVerifies (buf : Buffer) (base : Nat) : Prop :=
  onesTotal (slice buf base ((getByte buf base).toNat % 16 * 4)) 0 = 0xFFFF

instance (buf : Buffer) (base : Nat) : Decidable (HeaderVerifies buf base) :=
  inferInstanceAs (Decidable (_ = _))

def IcmpVerifies (buf : Buffer) (size : Nat) : Prop :=
  onesTotal (slice buf (headerLength buf) (segmentSize buf size)) 0 = 0xFFFF

instance (buf : Buffer) (size : Nat) : Decidable (IcmpVerifies buf size) :=
  inferInstanceAs (Decidable (_ = _))

/-- A well-formed error about a TCP or UDP packet that left through `node`. -/
structure ErrorAbout (config : Config) (node : Node) (buf : Buffer) (size : Nat) : Prop where
  passes : Passes config .wan buf size
  packet : IcmpPacket buf size
  total : size ≤ 65535
  type : icmpType buf ∈ icmpErrors
  header : extIphdr buf + 20 ≤ extL4 buf
  long : extL4 buf + 8 ≤ size
  flow : node.protocol = ipprotoTcp ∨ node.protocol = ipprotoUdp
  protocol : getByte buf (extIphdr buf + 9) = node.protocol
  source : quotedSource buf = node.wan

/-- The bytes that the translation of an error may touch: the destination, the
quoted source with its port, and the two checksums. -/
def Retouched (buf : Buffer) (position : Nat) : Prop :=
  (16 ≤ position ∧ position < 20) ∨
    (extIphdr buf + 12 ≤ position ∧ position < extIphdr buf + 16) ∨
    InField (extL4 buf) position ∨ InField (extIphdr buf + ipSumOffset) position ∨
    InField (headerLength buf + icmpCksumOffset) position

def readdress (buf : Buffer) (lan : Endpoint) : Buffer :=
  let answer := write32 buf 16 lan.ip
  let answer := write32 answer (extIphdr buf + 12) lan.ip
  write16 answer (extL4 buf) lan.port

section Readdress

variable {buf : Buffer} (lan : Endpoint)

@[simp] theorem length_readdress : (readdress buf lan).length = buf.length := by
  simp only [readdress, length_write16, length_write32]

theorem getByte_readdress {position : Nat} (destination : position < 16 ∨ 20 ≤ position)
    (source : position < extIphdr buf + 12 ∨ extIphdr buf + 16 ≤ position)
    (port : position < extL4 buf ∨ extL4 buf + 2 ≤ position) :
    getByte (readdress buf lan) position = getByte buf position := by
  simp only [readdress]
  rw [getByte_write16 port, getByte_write32 source, getByte_write32 destination]

end Readdress

section Refreshed

variable {answer : Buffer} {size : Nat}

theorem length_refreshIcmp : (refreshIcmp answer size).length = answer.length := by
  unfold refreshIcmp
  rw [refreshSum_eq, checksumIp_eq, length_refreshRange, length_refreshRange]

/-- A quoted header inside the packet, behind a whole outer one. -/
structure Quotes (answer : Buffer) (size : Nat) : Prop where
  outer : 5 ≤ ipHl answer
  header : extIphdr answer + 20 ≤ extL4 answer
  long : extL4 answer ≤ size
  inBuffer : size ≤ answer.length
  total : size ≤ 65535

namespace Quotes

variable (quotes : Quotes answer size)
include quotes

theorem places : extIphdr answer = headerLength answer + 8 ∧ 20 ≤ headerLength answer ∧
    extL4 answer = extIphdr answer + (getByte answer (extIphdr answer)).toNat % 16 * 4 ∧
    20 ≤ (getByte answer (extIphdr answer)).toNat % 16 * 4 := by
  have outer := quotes.outer
  have header := quotes.header
  have length : headerLength answer = ipHl answer * 4 := rfl
  have words : extL4 answer =
      extIphdr answer + (getByte answer (extIphdr answer)).toNat % 16 * 4 := rfl
  exact ⟨rfl, by omega, words, by omega⟩

theorem refreshIcmp_eq : refreshIcmp answer size =
    refreshRange (checksumIp answer (extIphdr answer)) (headerLength answer)
      (size - headerLength answer) (headerLength answer + icmpCksumOffset) 0 := by
  obtain ⟨quote, outer, words, -⟩ := quotes.places
  have long := quotes.long
  have total := quotes.total
  have sameLength : headerLength (checksumIp answer (extIphdr answer)) = headerLength answer := by
    rw [checksumIp_eq]
    exact headerLength_congr (getByte_refreshRange (by omega) 0)
  unfold refreshIcmp
  rw [refreshSum_eq, segmentSize_of_le (by omega) (by omega), sameLength]

theorem headerLength_refreshIcmp :
    headerLength (refreshIcmp answer size) = headerLength answer := by
  obtain ⟨quote, outer, -, -⟩ := quotes.places
  rw [quotes.refreshIcmp_eq, checksumIp_eq]
  apply headerLength_congr
  rw [getByte_refreshRange (by omega), getByte_refreshRange (by omega)]

theorem header_verifies : HeaderVerifies (refreshIcmp answer size) (extIphdr answer) := by
  obtain ⟨quote, outer, words, header⟩ := quotes.places
  have long := quotes.long
  have inBuffer := quotes.inBuffer
  have total := quotes.total
  have first : getByte (refreshIcmp answer size) (extIphdr answer) =
      getByte answer (extIphdr answer) := by
    rw [quotes.refreshIcmp_eq, checksumIp_eq,
      getByte_refreshRange (by rw [icmpCksumOffset]; omega),
      getByte_refreshRange (by rw [ipSumOffset]; omega)]
  unfold HeaderVerifies
  rw [first, quotes.refreshIcmp_eq, slice_refreshRange_other
    (by rw [checksumIp_eq, length_refreshRange]; omega) (.inr (by rw [icmpCksumOffset]; omega)),
    checksumIp_eq]
  exact onesTotal_refreshRange (by omega) (by omega) (by rw [ipSumOffset]; omega)
    (by rw [ipSumOffset]; omega) (by omega) (by omega)

theorem icmp_verifies : IcmpVerifies (refreshIcmp answer size) size := by
  obtain ⟨quote, outer, words, -⟩ := quotes.places
  have long := quotes.long
  have inBuffer := quotes.inBuffer
  have total := quotes.total
  unfold IcmpVerifies
  rw [segmentSize_of_le (by rw [quotes.headerLength_refreshIcmp]; omega) (by omega),
    quotes.headerLength_refreshIcmp, quotes.refreshIcmp_eq]
  exact onesTotal_refreshRange (by rw [checksumIp_eq, length_refreshRange]; omega) (by omega)
    (by rw [icmpCksumOffset]; omega) (by rw [icmpCksumOffset]; omega) (by omega) (by omega)

end Quotes

end Refreshed

section Translation

variable (config : Config) (now : Int) {table : Table} (bucket : IcmpBucket) {buf : Buffer}
  {size : Nat} {ptr : Ptr}

theorem wan2lanAlias_error (inv : TableInv table) (member : ptr ∈ table.l2w)
    (error : ErrorAbout config (table.heap ptr) buf size) :
    wan2lanAlias config now table bucket buf size =
      { verdict := .doalias, table := attach table now ptr, bucket := bucket
        buf := refreshIcmp (readdress buf (table.heap ptr).lan) size } := by
  have found : findW2l table (probeWan (table.heap ptr).protocol (quotedSource buf)) = some ptr := by
    rw [findW2l_eq_some inv]
    exact ⟨member, rfl, error.source.symm⟩
  have notIcmp : (table.heap ptr).protocol ≠ ipprotoIcmp := by
    intro icmp
    rcases error.flow with flow | flow <;> rw [icmp] at flow <;> cases flow
  have flow : ((table.heap ptr).protocol = ipprotoTcp || (table.heap ptr).protocol = ipprotoUdp) =
      true := by
    simpa using error.flow
  have quoted : wan2lanQuoted config now table bucket buf size (table.heap ptr).protocol =
      { verdict := .doalias, table := attach table now ptr, bucket := bucket
        buf := refreshIcmp (readdress buf (table.heap ptr).lan) size } := by
    unfold wan2lanQuoted
    rw [quotedSource] at found
    simp only [found, flow, if_true]
    rfl
  rw [wan2lanAlias_icmp now table bucket error.passes error.packet.icmp, ← quoted]
  rcases error_number error.type with number | number | number | number <;>
    simp only [wan2lanIcmp, number, error.protocol, notIcmp, flow, if_false, if_true]

theorem readdress_kept (error : ErrorAbout config (table.heap ptr) buf size) (lan : Endpoint)
    {position : Nat} (early : position < 16 ∨ 20 ≤ position ∧ position < extIphdr buf + 12) :
    getByte (readdress buf lan) position = getByte buf position := by
  have outer : 5 ≤ ipHl buf := error.packet.header
  have length : headerLength buf = ipHl buf * 4 := rfl
  have quote : extIphdr buf = headerLength buf + 8 := rfl
  have header := error.header
  exact getByte_readdress lan (by omega) (by omega) (by omega)

theorem readdress_offsets (error : ErrorAbout config (table.heap ptr) buf size) (lan : Endpoint) :
    headerLength (readdress buf lan) = headerLength buf ∧
      extIphdr (readdress buf lan) = extIphdr buf ∧ extL4 (readdress buf lan) = extL4 buf := by
  have outer : 5 ≤ ipHl buf := error.packet.header
  have length : headerLength buf = ipHl buf * 4 := rfl
  have quote : extIphdr buf = headerLength buf + 8 := rfl
  have sameHeader : headerLength (readdress buf lan) = headerLength buf :=
    headerLength_congr (readdress_kept config error lan (by omega))
  have sameQuote : extIphdr (readdress buf lan) = extIphdr buf := congrArg (· + 8) sameHeader
  refine ⟨sameHeader, sameQuote, ?_⟩
  unfold extL4
  rw [sameQuote, readdress_kept config error lan (by omega)]

theorem readdress_fields (error : ErrorAbout config (table.heap ptr) buf size) (lan : Endpoint) :
    ipDst (readdress buf lan) = lan.ip ∧ quotedSource (readdress buf lan) = lan := by
  have outer : 5 ≤ ipHl buf := error.packet.header
  have length : headerLength buf = ipHl buf * 4 := rfl
  have quote : extIphdr buf = headerLength buf + 8 := rfl
  have header := error.header
  have long := error.long
  have inBuffer := error.packet.inBuffer
  obtain ⟨-, sameQuote, sameL4⟩ := readdress_offsets config error lan
  have destination : read32 (readdress buf lan) 16 = read32 (write32 buf 16 lan.ip) 16 := by
    apply read32_congr
    intro position low high
    simp only [readdress]
    rw [getByte_write16 (by omega), getByte_write32 (by omega)]
  have source : read32 (readdress buf lan) (extIphdr buf + 12) =
      read32 (write32 (write32 buf 16 lan.ip) (extIphdr buf + 12) lan.ip) (extIphdr buf + 12) := by
    apply read32_congr
    intro position low high
    simp only [readdress]
    rw [getByte_write16 (by omega)]
  have port : read16 (readdress buf lan) (extL4 buf) = lan.port :=
    read16_write16 (by rw [length_write32, length_write32]; omega) lan.port
  constructor
  · unfold ipDst
    rw [destination, read32_write32 (by omega)]
  · unfold quotedSource
    rw [sameQuote, sameL4, source, port, read32_write32 (by rw [length_write32]; omega)]

theorem refreshIcmp_fields {answer : Buffer} (outer : 5 ≤ ipHl answer)
    (header : extIphdr answer + 20 ≤ extL4 answer) :
    ipDst (refreshIcmp answer size) = ipDst answer ∧
      extIphdr (refreshIcmp answer size) = extIphdr answer ∧
      quotedSource (refreshIcmp answer size) = quotedSource answer := by
  have length : headerLength answer = ipHl answer * 4 := rfl
  have quote : extIphdr answer = headerLength answer + 8 := rfl
  have kept : ∀ position, (position < extIphdr answer + 10 ∨ extIphdr answer + 12 ≤ position) →
      (position < headerLength answer + 2 ∨ headerLength answer + 4 ≤ position) →
      getByte (refreshIcmp answer size) position = getByte answer position := by
    intro position notIp notIcmp
    apply refreshIcmp_frame
    · simp only [InField, ipSumOffset]
      omega
    · simp only [InField, icmpCksumOffset]
      omega
  have sameQuote : extIphdr (refreshIcmp answer size) = extIphdr answer :=
    congrArg (· + 8) (headerLength_congr (kept 0 (by omega) (by omega)))
  have sameL4 : extL4 (refreshIcmp answer size) = extL4 answer := by
    unfold extL4
    rw [sameQuote, kept _ (by omega) (by omega)]
  have source := @refreshIcmp_read32 size answer (extIphdr answer + 12) (by omega) (by omega)
  have port : read16 (refreshIcmp answer size) (extL4 answer) = read16 answer (extL4 answer) :=
    read16_congr (fun position low high => kept position (by omega) (by omega))
  refine ⟨refreshIcmp_read32 (by omega) (by omega), sameQuote, ?_⟩
  unfold quotedSource
  rw [sameQuote, sameL4, source, port]

end Translation

/-- An ICMP error about a TCP or UDP packet of an entry is handed to the LAN host with
the host's own endpoint in the quote and both checksums right; nothing else changes. -/
theorem errors_translated (config : Config) (now : Int) (table : Table) (bucket : IcmpBucket)
    (buf : Buffer) (size : Nat) (ptr : Ptr) (inv : TableInv table) (member : ptr ∈ table.l2w)
    (error : ErrorAbout config (table.heap ptr) buf size) :
    let outcome := wan2lanAlias config now table bucket buf size
    outcome.verdict = .doalias ∧
      ipDst outcome.buf = (table.heap ptr).lan.ip ∧
      quotedSource outcome.buf = (table.heap ptr).lan ∧
      HeaderVerifies outcome.buf (extIphdr outcome.buf) ∧
      IcmpVerifies outcome.buf size ∧
      outcome.buf.length = buf.length ∧
      ∀ position, ¬Retouched buf position → getByte outcome.buf position = getByte buf position := by
  obtain ⟨sameHeader, sameQuote, sameL4⟩ := readdress_offsets config error (table.heap ptr).lan
  obtain ⟨destination, source⟩ := readdress_fields config error (table.heap ptr).lan
  have outer : 5 ≤ ipHl buf := error.packet.header
  have length : headerLength buf = ipHl buf * 4 := rfl
  have quote : extIphdr buf = headerLength buf + 8 := rfl
  have header := error.header
  have long := error.long
  have inBuffer := error.packet.inBuffer
  have sameLength : (readdress buf (table.heap ptr).lan).length = buf.length :=
    length_readdress (table.heap ptr).lan
  have frame : ∀ position, ¬Retouched buf position →
      getByte (readdress buf (table.heap ptr).lan) position = getByte buf position := by
    intro position untouched
    simp only [Retouched, InField, ipSumOffset, icmpCksumOffset] at untouched
    exact getByte_readdress _ (by omega) (by omega) (by omega)
  simp only [wan2lanAlias_error config now bucket inv member error, true_and]
  generalize readdress buf (table.heap ptr).lan = answer at *
  have outer' : 5 ≤ ipHl answer := by
    have same : headerLength answer = ipHl answer * 4 := rfl
    omega
  obtain ⟨sameDestination, keptQuote, sameSource⟩ := @refreshIcmp_fields size answer outer' (by omega)
  have quotes : Quotes answer size := ⟨outer', by omega, by omega, by omega, error.total⟩
  refine ⟨sameDestination.trans destination, sameSource.trans source, ?_,
    quotes.icmp_verifies, ?_, ?_⟩
  · rw [keptQuote]
    exact quotes.header_verifies
  · rw [length_refreshIcmp, sameLength]
  · intro position untouched
    rw [← frame position untouched]
    simp only [Retouched, ← sameHeader, ← sameQuote, not_or] at untouched
    exact refreshIcmp_frame untouched.2.2.2.1 untouched.2.2.2.2

private def errorConfig : Config :=
  { build := ⟨true, true, true, false⟩, optHostid := false, optNageteDf := false
    wanIfMtu := 1500, lanIfMtu := 1500, lanAddr := [0x0A000001], wanAddr := [0xC6336407]
    icmpWanAddr := 0 }

private def errorEntries : Table :=
  let lan : Endpoint := { port := 0x5000, ip := 0x0200000A }
  let wan : Endpoint := { port := 0x0010, ip := 0x076433C6 }
  { heap := fun _ =>
      { ctime := 0, atime := 0, flags := .established, timerFlags := .loop, protocol := 17
        wan := wan, lan := lan, l2wKey := packKey 17 lan, w2lKey := packKey 17 wan }
    l2w := [1], w2l := [1] }

private theorem errorEntries_inv : TableInv errorEntries where
  sameNodes _ := Iff.rfl
  keyed := by decide
  distinctL2w := List.nodup_singleton _
  distinctW2l := List.nodup_singleton _

/-- A port of 192.0.2.9 is unreachable for a datagram from 198.51.100.7 port 4096. -/
private def portUnreachable : Buffer :=
  [69, 0, 0, 56, 0, 1, 0, 0, 64, 1, 142, 128, 192, 0, 2, 9, 198, 51, 100, 7,
    3, 3, 188, 100, 0, 0, 0, 0, 69, 0, 0, 30, 0, 1, 0, 0, 63, 17, 143, 138,
    198, 51, 100, 7, 192, 0, 2, 9, 16, 0, 31, 144, 0, 10, 0, 0]

private theorem portUnreachable_error :
    ErrorAbout errorConfig (errorEntries.heap 1) portUnreachable 56 where
  passes := by decide
  packet := ⟨by decide, by decide, by decide, by decide⟩
  total := by decide
  type := by decide
  header := by decide
  long := by decide
  flow := .inr rfl
  protocol := by decide
  source := by decide

theorem errors_translated_port_unreachable :
    ipDst (wan2lanAlias errorConfig 7 errorEntries ⟨0, 0⟩ portUnreachable 56).buf = 0x0200000A ∧
      quotedSource (wan2lanAlias errorConfig 7 errorEntries ⟨0, 0⟩ portUnreachable 56).buf =
        { port := 0x5000, ip := 0x0200000A } := by
  have translated := errors_translated errorConfig 7 errorEntries ⟨0, 0⟩ portUnreachable 56 1
    errorEntries_inv (List.mem_singleton.mpr rfl) portUnreachable_error
  exact ⟨translated.2.1, translated.2.2.1⟩

end IcmpErrors
end NatPorte
