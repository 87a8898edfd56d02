/-
The addresses that main.cpp collects, and where they end up.

`main` walks over the interfaces of the host and fills the four address variables of
alias.h and addrpool.h.  The addresses of the WAN interface are announced to the server,
and every mapping that comes back is to one of them.
-/

import NatPorte.Settling

namespace NatPorte
namespace Interfaces

open Packet Entry

/-- An element of `list4`; the two texts are read by `string2addr`. -/
structure Interface where
  name4 : JsString
  addr4 : BitVec 32
  broad4 : BitVec 32
  deriving DecidableEq, Repr

structure Addrs where
  lanAddr : List (BitVec 32)
  wanAddr : List (BitVec 32)
  poolAddr : List (BitVec 32)
  icmpWanAddr : BitVec 32
  deriving DecidableEq, Repr

/-- The broadcast address is pushed once, the address always. -/
def pushAddrs (addrs : List (BitVec 32)) (i : Interface) : List (BitVec 32) :=
  let intBroad := swap32 i.broad4
  (if intBroad ∈ addrs then addrs else addrs ++ [intBroad]) ++ [swap32 i.addr4]

def scan (lanIf wanIf : JsString) (found : Addrs) (i : Interface) : Addrs :=
  if i.name4 = lanIf then { found with lanAddr := pushAddrs found.lanAddr i }
  else if i.name4 = wanIf then
    { found with
      wanAddr := pushAddrs found.wanAddr i
      poolAddr := found.poolAddr ++ [swap32 i.addr4]
      icmpWanAddr := if found.icmpWanAddr = 0 then i.addr4 else found.icmpWanAddr }
  else found

def noAddrs : Addrs := { lanAddr := [], wanAddr := [], poolAddr := [], icmpWanAddr := 0 }

def addrsOf (lanIf wanIf : JsString) (interfaces : List Interface) : Addrs :=
  interfaces.foldl (scan lanIf wanIf) noAddrs

def named (name : JsString) (interfaces : List Interface) : List Interface :=
  interfaces.filter fun i => i.name4 = name

section Scan

variable {lanIf wanIf : JsString} {i : Interface}

theorem named_self (rest : List Interface) : named i.name4 (i :: rest) = i :: named i.name4 rest := by
  unfold named
  exact List.filter_cons_of_pos (decide_eq_true rfl)

theorem named_other {name : JsString} (other : i.name4 ≠ name) (rest : List Interface) :
    named name (i :: rest) = named name rest := by
  unfold named
  apply List.filter_cons_of_neg
  rwa [decide_eq_true_eq]

/-- The loop fills each variable from the interfaces of one name. -/
structure Scanned (lanIf wanIf : JsString) (before after : Addrs) (interfaces : List Interface) :
    Prop where
  lanAddr : after.lanAddr = (named lanIf interfaces).foldl pushAddrs before.lanAddr
  wanAddr : after.wanAddr = (named wanIf interfaces).foldl pushAddrs before.wanAddr
  poolAddr : after.poolAddr =
    before.poolAddr ++ (named wanIf interfaces).map fun i => swap32 i.addr4
  icmpWanAddr : after.icmpWanAddr = before.icmpWanAddr ∨
    ∃ i ∈ named wanIf interfaces, after.icmpWanAddr = i.addr4

theorem foldl_scanned (different : lanIf ≠ wanIf) (interfaces : List Interface) (found : Addrs) :
    Scanned lanIf wanIf found (interfaces.foldl (scan lanIf wanIf) found) interfaces := by
  induction interfaces generalizing found with
  | nil => exact ⟨rfl, rfl, (List.append_nil _).symm, .inl rfl⟩
  | cons i rest ih =>
      have later := ih (scan lanIf wanIf found i)
      rw [List.foldl_cons]
      by_cases isLan : i.name4 = lanIf
      · subst isLan
        have round : scan i.name4 wanIf found i =
            { found with lanAddr := pushAddrs found.lanAddr i } := if_pos rfl
        rw [round] at later ⊢
        have wan := named_other different rest
        constructor
        · rw [named_self, List.foldl_cons]
          exact later.lanAddr
        · rw [wan]
          exact later.wanAddr
        · rw [wan]
          exact later.poolAddr
        · rw [wan]
          exact later.icmpWanAddr
      · by_cases isWan : i.name4 = wanIf
        · subst isWan
          have round : scan lanIf i.name4 found i =
              { found with
                wanAddr := pushAddrs found.wanAddr i
                poolAddr := found.poolAddr ++ [swap32 i.addr4]
                icmpWanAddr := if found.icmpWanAddr = 0 then i.addr4 else found.icmpWanAddr } := by
            rw [scan, if_neg isLan, if_pos rfl]
          rw [round] at later ⊢
          constructor
          · rw [named_other isLan]
            exact later.lanAddr
          · rw [named_self, List.foldl_cons]
            exact later.wanAddr
          · rw [named_self, List.map_cons, later.poolAddr, List.append_assoc,
              List.singleton_append]
          · rw [named_self]
            rcases later.icmpWanAddr with kept | ⟨other, member, chosen⟩
            · by_cases unset : found.icmpWanAddr = 0
              · exact .inr ⟨i, List.mem_cons_self, kept.trans (if_pos unset)⟩
              · exact .inl (kept.trans (if_neg unset))
            · exact .inr ⟨other, List.mem_cons_of_mem i member, chosen⟩
        · have round : scan lanIf wanIf found i = found := by rw [scan, if_neg isLan, if_neg isWan]
          rw [round] at later ⊢
          constructor
          · rw [named_other isLan]
            exact later.lanAddr
          · rw [named_other isWan]
            exact later.wanAddr
          · rw [named_other isWan]
            exact later.poolAddr
          · rw [named_other isWan]
            exact later.icmpWanAddr

end Scan

/-- The address vectors hold the addresses and broadcast addresses, and nothing else. -/
theorem mem_foldl_pushAddrs (interfaces : List Interface) (addrs : List (BitVec 32))
    (addr : BitVec 32) :
    addr ∈ interfaces.foldl pushAddrs addrs ↔
      addr ∈ addrs ∨ ∃ i ∈ interfaces, addr = swap32 i.addr4 ∨ addr = swap32 i.broad4 := by
  induction interfaces generalizing addrs with
  | nil => simp
  | cons i rest ih =>
      have one : addr ∈ pushAddrs addrs i ↔
          addr ∈ addrs ∨ addr = swap32 i.addr4 ∨ addr = swap32 i.broad4 := by
        simp only [pushAddrs, List.mem_append, List.mem_singleton]
        split
        · next known =>
            constructor
            · rintro (old | new)
              · exact .inl old
              · exact .inr (.inl new)
            · rintro (old | new | broad)
              · exact .inl old
              · exact .inr new
              · exact .inl (broad ▸ known)
        · rw [List.mem_append, List.mem_singleton]
          exact or_assoc.trans (or_congr_right or_comm)
      rw [List.foldl_cons, ih, one, List.exists_mem_cons_iff, or_assoc]

end Interfaces

namespace PoolServer

open ObjectMap Entry

/-- A pool of announced addresses, with the numbers it was created with. -/
structure Announced (startPort endPort maxConnection : Int) (poolAddr : List (BitVec 32))
    (pool : Pool) : Prop where
  configured : Configured startPort endPort maxConnection pool
  addrs : ∀ addr ∈ pool.poolAddrs, ∃ word ∈ poolAddr, addr = inetNtoa word.toNat

/-- A mapping to an announced address and a port of the range. -/
structure OnPool (startPort endPort : Int) (poolAddr : List (BitVec 32)) (fields : Fields) :
    Prop where
  address : ∃ word ∈ poolAddr, fields.wanIp = word.toNat
  low : startPort ≤ fields.wanPort
  high : fields.wanPort ≤ endPort

section Announced

variable {startPort endPort maxConnection : Int} {poolAddr : List (BitVec 32)}

theorem newEntry_announced : Announced startPort endPort maxConnection poolAddr
    (newEntry startPort endPort maxConnection ((poolAddr.map BitVec.toNat).map inetNtoa)) where
  configured := newEntry_configured startPort endPort maxConnection _
  addrs := by
    intro addr member
    rw [newEntry, mem_addPoolAddresses] at member
    · rcases member with none | listed
      · cases none
      · obtain ⟨number, announced, rfl⟩ := List.mem_map.mp listed
        obtain ⟨word, isWord, rfl⟩ := List.mem_map.mp announced
        exact ⟨word, isWord, rfl⟩
    · intro addr listed
      obtain ⟨number, -, rfl⟩ := List.mem_map.mp listed
      exact isIPv4_inetNtoa number

theorem apply_announced {pool : Pool} (formed : WellFormed pool)
    (announced : Announced startPort endPort maxConnection poolAddr pool) {message : Message}
    (asked : ∀ wanAddrs, message ≠ .initializeAddrs wanAddrs) :
    Announced startPort endPort maxConnection poolAddr (pool.apply message.call) := by
  refine ⟨apply_configured formed announced.configured message.call, ?_⟩
  have same : (pool.apply message.call).poolAddrs = pool.poolAddrs := by
    cases message with
    | initializeAddrs wanAddrs => exact absurd rfl (asked wanAddrs)
    | request protocol ipSrc portSrc ipDst portDst =>
        have taken := assignConnection_case pool (inetNtoa ipSrc) portSrc
        rw [Message.call, Pool.apply]
        generalize assignConnection pool (inetNtoa ipSrc) portSrc = result at taken ⊢
        cases taken <;> rfl
    | release fields =>
        have given := releaseConnection_case formed (inetNtoa fields.lanIp) fields.lanPort
          (inetNtoa fields.wanIp) fields.wanPort
        rw [Message.call, Pool.apply]
        generalize releaseConnection pool (inetNtoa fields.lanIp) fields.lanPort
          (inetNtoa fields.wanIp) fields.wanPort = result at given ⊢
        cases given <;> rfl
  rw [same]
  exact announced.addrs

theorem Announced.onPool {pool : Pool}
    (announced : Announced startPort endPort maxConnection poolAddr pool)
    (database : DatabaseInv pool) {fields : Fields} (words : fields.Words)
    (member : fields.connection ∈ pool.connections) :
    OnPool startPort endPort poolAddr fields := by
  obtain ⟨low, high⟩ := wanPort_range database.formed database.stocked member
  rw [announced.configured.start] at low
  rw [announced.configured.stop] at high
  obtain ⟨word, isWord, same⟩ := announced.addrs _ (database.formed.pooled _ member)
  exact ⟨⟨word, isWord, inetNtoa_inj words.wan word.isLt same⟩, low, high⟩

end Announced

end PoolServer

namespace System

open TcpState Structure Packet Checksum Alias Tracking Lookup PoolServer Entry StepSystem Pipeline
  KeyedSet
open Interfaces

def Settings.Pooled (settings : Settings) (fields : Fields) : Prop :=
  OnPool settings.startPort settings.endPort settings.poolAddr fields

structure PooledInv (settings : Settings) (state : State) : Prop where
  exchange : ExchangeInv state
  pools : Both (Announced settings.startPort settings.endPort settings.maxConnection
    settings.poolAddr) state.server
  replies : ∀ reply ∈ state.replies, reply.type = .requestAck → settings.Pooled reply.fields
  entries : ∀ ptr ∈ state.table.l2w, settings.Pooled (fieldsOf (state.table.heap ptr))

section Pooled

variable {settings : Settings} {state after : State} {event : Event}

theorem PooledInv.answered_step (inv : PooledInv settings state) {message : Message}
    {rest : List Message} {server : Server} {reply : Reply}
    (front : state.messages = message :: rest)
    (answer : state.server.mkMessage settings.socketId message = (server, .reply reply)) :
    Both (Announced settings.startPort settings.endPort settings.maxConnection
        settings.poolAddr) server ∧
      (reply.type = .requestAck → settings.Pooled reply.fields) := by
  obtain ⟨_, _, result, answers⟩ := inv.exchange.reached front settings.socketId
  rw [answer] at result
  cases result
  have asked : ∀ wanAddrs, message ≠ .initializeAddrs wanAddrs := by
    intro wanAddrs isAnnouncement
    subst isAnnouncement
    exact answers
  have pools := mkMessage_both inv.exchange.server inv.pools settings.socketId message
    fun _ database announced => apply_announced database.formed announced asked
  rw [answer] at pools
  refine ⟨pools, ?_⟩
  intro type
  cases message with
  | initializeAddrs wanAddrs => exact absurd rfl (asked wanAddrs)
  | release fields =>
      rw [answers.1] at type
      cases type
  | request protocol ipSrc portSrc ipDst portDst =>
      rcases answers.outcome with ⟨discarded, -⟩ | ⟨-, -, mapped⟩
      · rw [discarded] at type
        cases type
      · obtain ⟨words, pool, found, member⟩ := (mapped reply.fields).mpr (.inr rfl)
        exact (pools.databaseOf found).onPool (answers.serves.inv.databaseOf found) words member

theorem PooledInv.flow_step (inv : PooledInv settings state) (flow : FlowCase settings state after) :
    Both (Announced settings.startPort settings.endPort settings.maxConnection
        settings.poolAddr) after.server ∧
      ∀ reply ∈ after.replies, reply.type = .requestAck → settings.Pooled reply.fields := by
  cases flow with
  | same items replies messages server =>
      rw [replies, server]
      exact ⟨inv.pools, inv.replies⟩
  | formatted kept message result items replies messages server =>
      rw [replies, server]
      exact ⟨inv.pools, inv.replies⟩
  | pushed item message pushing items replies messages server =>
      rw [replies, server]
      exact ⟨inv.pools, inv.replies⟩
  | answered message reply answer items replies messages =>
      obtain ⟨pools, pooled⟩ := inv.answered_step messages answer
      refine ⟨pools, ?_⟩
      rw [replies]
      intro other member
      rcases List.mem_append.mp member with old | new
      · exact inv.replies other old
      · rw [List.mem_singleton.mp new]
        exact pooled
  | silent message answer result noReply items replies messages =>
      obtain ⟨server, given, replied, -⟩ := inv.exchange.reached messages settings.socketId
      rw [result] at replied
      exact absurd (Prod.mk.inj replied).2 (noReply given)
  | finished reply item handling items replies messages server =>
      rw [server]
      refine ⟨inv.pools, ?_⟩
      intro other member
      exact inv.replies other (replies ▸ List.mem_cons_of_mem reply member)

theorem PooledInv.entries_step (inv : PooledInv settings state)
    (core : CoreCase settings state event after) :
    ∀ ptr ∈ after.table.l2w, settings.Pooled (fieldsOf (after.table.heap ptr)) := by
  have timeouts := inv.exchange.timeouts
  have kept : ∀ ptr ∈ state.table.l2w, settings.Pooled (fieldsOf (after.table.heap ptr)) := by
    intro ptr member
    rw [fieldsOf_congr (mapping_kept timeouts.table timeouts.live core (timeouts.live ptr member))]
    exact inv.entries ptr member
  intro ptr member
  rcases core_l2w timeouts core with fewer | ⟨reply, item, handling, type, fresh, grown, granted⟩
  · exact kept ptr (fewer ptr member)
  · rw [grown] at member
    rcases List.mem_cons.mp member with isFresh | old
    · subst isFresh
      have isReply : reply ∈ state.replies := by
        rw [State.replies, handling]
        exact List.mem_append_left _ (List.mem_singleton_self reply)
      rw [fieldsOf_congr granted, (inv.exchange.granted handling type).2]
      exact inv.replies reply isReply type
    · exact kept ptr old

theorem PooledInv.step (inv : PooledInv settings state) (moved : StepCase settings state event after)
    (allowed : UpToDate state event) : PooledInv settings after :=
  have flow := inv.flow_step (flow_case moved)
  { exchange := inv.exchange.step moved allowed
    pools := flow.1
    replies := flow.2
    entries := inv.entries_step (core_case moved) }

end Pooled

theorem start_pooled (settings : Settings) (memory : Ptr → Node) :
    PooledInv settings (start settings memory) where
  exchange := start_exchange settings memory
  pools := ⟨newEntry_announced, newEntry_announced⟩
  replies := by
    intro reply member
    cases member
  entries := by
    intro ptr member
    cases member

/-- The addresses are those that `main` finds on its two interfaces. -/
structure Settings.StartedOn (settings : Settings) (lanIf wanIf : JsString)
    (interfaces : List Interface) : Prop where
  different : lanIf ≠ wanIf
  lanAddr : settings.nat.lanAddr = (addrsOf lanIf wanIf interfaces).lanAddr
  wanAddr : settings.nat.wanAddr = (addrsOf lanIf wanIf interfaces).wanAddr
  poolAddr : settings.poolAddr = (addrsOf lanIf wanIf interfaces).poolAddr

/-- In every run every mapping is to an address of the WAN interface, which the alias
functions know for their own, and to a port of the server's range. -/
theorem mapped_to_the_wan_interface (settings : Settings) (memory : Ptr → Node)
    {lanIf wanIf : JsString} {interfaces : List Interface}
    (started : settings.StartedOn lanIf wanIf interfaces) {state : State}
    (reached : Reachable (step settings) UpToDate (start settings memory) state)
    {ptr : Ptr} (member : ptr ∈ state.table.l2w) :
    (∃ i ∈ interfaces, i.name4 = wanIf ∧ i.addr4 = (state.table.heap ptr).wan.ip) ∧
      chkSelfaddr settings.nat (state.table.heap ptr).wan.ip .wan2lan = true ∧
      settings.startPort ≤ (swap16 (state.table.heap ptr).wan.port).toNat ∧
      (swap16 (state.table.heap ptr).wan.port).toNat ≤ settings.endPort := by
  have inv : PooledInv settings state := by
    refine Reachable.invariant (start_pooled settings memory) ?_ reached
    intro before event after inv allowed stepped
    exact inv.step (step_case stepped) allowed
  have scanned := foldl_scanned started.different interfaces noAddrs
  obtain ⟨⟨word, announced, sameIp⟩, low, high⟩ := inv.entries ptr member
  have address : swap32 (state.table.heap ptr).wan.ip = word := BitVec.eq_of_toNat_eq sameIp
  rw [started.poolAddr, addrsOf, scanned.poolAddr] at announced
  obtain ⟨i, isWan, isWord⟩ := List.mem_map.mp announced
  obtain ⟨inList, name⟩ := List.mem_filter.mp isWan
  have own : i.addr4 = (state.table.heap ptr).wan.ip := by
    rw [← isWord] at address
    rw [← swap32_swap32 i.addr4, ← address, swap32_swap32]
  refine ⟨⟨i, inList, of_decide_eq_true name, own⟩, ?_, low, high⟩
  rw [chkSelfaddr, List.contains_iff_mem, started.wanAddr, addrsOf, scanned.wanAddr,
    mem_foldl_pushAddrs]
  exact .inr ⟨i, isWan, .inl (by rw [own])⟩

/-- 10.0.0.254 on the LAN interface and 192.0.2.1 on the WAN interface, with networks of
256 addresses. -/
def homeInterfaces : List Interface :=
  [{ name4 := ['r', 'e', '0'], addr4 := 0xFE00000A, broad4 := 0xFF00000A },
   { name4 := ['r', 'e', '1'], addr4 := 0x010200C0, broad4 := 0xFF0200C0 }]

def homeSettings : Settings :=
  let found := addrsOf ['r', 'e', '0'] ['r', 'e', '1'] homeInterfaces
  { smallSettings with
    nat :=
      { smallSettings.nat with
        lanAddr := found.lanAddr, wanAddr := found.wanAddr, icmpWanAddr := found.icmpWanAddr }
    poolAddr := found.poolAddr }

def homeStart : State := start homeSettings fun _ => mkNode [] 0

def homeOpened : State := (run (step homeSettings) homeStart opening).getD homeStart

theorem mapped_to_the_wan_interface_opening :
    (homeOpened.table.heap 1).wan.ip = 0x010200C0 ∧
      chkSelfaddr homeSettings.nat 0x010200C0 .wan2lan = true ∧
      4097 ≤ (swap16 (homeOpened.table.heap 1).wan.port).toNat := by
  have reached : Reachable (step homeSettings) UpToDate homeStart homeOpened :=
    reachable_of_meets opening .start (by decide +kernel)
  have address : (homeOpened.table.heap 1).wan.ip = 0x010200C0 := by decide +kernel
  obtain ⟨-, own, low, -⟩ := mapped_to_the_wan_interface homeSettings _
    ⟨by decide, rfl, rfl, rfl⟩ reached (by decide +kernel : 1 ∈ homeOpened.table.l2w)
  rw [address] at own
  exact ⟨address, own, Int.ofNat_le.mp low⟩

end System
end NatPorte
