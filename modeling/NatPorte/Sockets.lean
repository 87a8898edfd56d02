/-
The pool server with any number of NAT boxes connected to it.

A socket announces its addresses once; the server keeps them per socket and puts
them into both databases.  When the socket ends, `server_end` withdraws the
addresses that no other socket has announced.  The greeting with the timeouts is
left out.
-/

import NatPorte.PoolServer

namespace NatPorte
namespace Sockets

open ObjectMap StepSystem Entry PoolServer

/-! ### server_connect and server_end -/

def serverConnect (server : Server) (socketId : JsString) : Server :=
  { server with wanAddrsList := set server.wanAddrsList socketId [] }

/-- The loops over `j` and `k`. -/
def announced (wanAddrsList : Object JsString (List JsString)) (addr : JsString) : Bool :=
  wanAddrsList.any fun row => row.2.any fun other => addr = other

def serverEnd (server : Server) (socketId : JsString) : Server :=
  let wanAddrs := (get server.wanAddrsList socketId).getD []
  let server := { server with wanAddrsList := delete server.wanAddrsList socketId }
  wanAddrs.foldl (fun server addr =>
    if announced server.wanAddrsList addr then server
    else
      { server with
        tcpDB := delPoolAddress server.tcpDB addr
        udpDB := delPoolAddress server.udpDB addr }) server

inductive Event where
  | connect (socketId : JsString)
  | message (socketId : JsString) (message : Message)
  | ends (socketId : JsString)

/-- The server, the sockets that are open, and those that have announced their
addresses. -/
structure State where
  server : Server
  connected : List JsString
  announcers : List JsString

/-- `initialize` is sent once, when the box opens its connection. -/
def Message.isInitialize : Message → Bool
  | .initializeAddrs _ => true
  | _ => false

def step (state : State) : Event → Option State
  | .connect socketId =>
      if socketId ∈ state.connected then none
      else
        some
          { state with
            server := serverConnect state.server socketId
            connected := socketId :: state.connected }
  | .message socketId message =>
      if socketId ∉ state.connected then none
      else if Message.isInitialize message then
        if socketId ∈ state.announcers then none
        else
          some
            { state with
              server := (state.server.mkMessage socketId message).1
              announcers := socketId :: state.announcers }
      else some { state with server := (state.server.mkMessage socketId message).1 }
  | .ends socketId =>
      if socketId ∉ state.connected then none
      else
        some
          { server := serverEnd state.server socketId
            connected := state.connected.filter fun other => other ≠ socketId
            announcers := state.announcers.filter fun other => other ≠ socketId }

def start (startPort endPort maxConnection : Int) : State :=
  { server := newServer startPort endPort maxConnection, connected := [], announcers := [] }

abbrev ReachableState (startPort endPort maxConnection : Int) (state : State) : Prop :=
  Reachable step (fun _ _ => True) (start startPort endPort maxConnection) state

def addrsOf (server : Server) (socketId : JsString) : List JsString :=
  (get server.wanAddrsList socketId).getD []

structure Tracks (lists : Object JsString (List JsString)) (pool : Pool) : Prop where
  formed : WellFormed pool
  same : ∀ addr, addr ∈ pool.poolAddrs ↔ addr ∈ contents lists

section Database

variable {lists : Object JsString (List JsString)} {pool : Pool}

theorem apply_formed (formed : WellFormed pool) (call : Call) : WellFormed (pool.apply call) :=
  (apply_inv ⟨fun _ => trivial, fun _ _ => trivial⟩ formed (fun _ _ => trivial) call
    (fun _ _ _ _ _ => trivial)).1

theorem mem_delPoolAddress (formed : WellFormed pool) {addr other : JsString}
    (isAddress : isIPv4 addr = true) :
    other ∈ (delPoolAddress pool addr).poolAddrs ↔ other ∈ pool.poolAddrs ∧ other ≠ addr := by
  unfold delPoolAddress
  rw [if_neg (ne_false_of_eq_true isAddress)]
  by_cases pooled : addr ∈ pool.poolAddrs
  · rw [if_pos pooled]
    change other ∈ pool.poolAddrs.erase addr ↔ _
    rw [formed.addrsNodup.mem_erase_iff]
    exact and_comm
  · rw [if_neg pooled]
    constructor
    · intro member
      exact ⟨member, fun same => pooled (same ▸ member)⟩
    · intro both
      exact both.1

theorem mem_announced {addr : JsString} :
    announced lists addr = true ↔ addr ∈ contents lists := by
  simp only [announced, List.any_eq_true, decide_eq_true_eq, mem_contents]
  constructor
  · intro found
    obtain ⟨row, member, other, inRow, rfl⟩ := found
    exact ⟨row.1, row.2, member, inRow⟩
  · intro found
    obtain ⟨socketId, addrs, member, inRow⟩ := found
    exact ⟨(socketId, addrs), member, addr, inRow, rfl⟩

/-- One database's share of the loop in `server_end`. -/
def withdraw (lists : Object JsString (List JsString)) (pool : Pool) (addr : JsString) : Pool :=
  if announced lists addr then pool else delPoolAddress pool addr

theorem withdraw_all (addrs : List JsString) (areAddresses : ∀ addr ∈ addrs, isIPv4 addr = true)
    (formed : WellFormed pool) :
    WellFormed (addrs.foldl (withdraw lists) pool) ∧
      ∀ other, other ∈ (addrs.foldl (withdraw lists) pool).poolAddrs ↔
        other ∈ pool.poolAddrs ∧ (other ∈ addrs → other ∈ contents lists) := by
  induction addrs generalizing pool with
  | nil => exact ⟨formed, fun other => (and_iff_left (fun none => nomatch none)).symm⟩
  | cons head rest ih =>
      have areRest : ∀ addr ∈ rest, isIPv4 addr = true :=
        fun addr member => areAddresses addr (List.mem_cons_of_mem head member)
      rw [List.foldl_cons]
      unfold withdraw
      by_cases listed : announced lists head = true
      · rw [if_pos listed]
        obtain ⟨laterFormed, later⟩ := ih areRest formed
        refine ⟨laterFormed, fun other => (later other).trans (and_congr_right (fun _ => ?_))⟩
        constructor
        · intro kept member
          rcases List.mem_cons.mp member with same | inRest
          · exact same ▸ mem_announced.mp listed
          · exact kept inRest
        · intro kept inRest
          exact kept (List.mem_cons_of_mem head inRest)
      · rw [if_neg listed]
        obtain ⟨laterFormed, later⟩ := ih areRest (delPoolAddress_formed formed head)
        refine ⟨laterFormed, fun other => (later other).trans ?_⟩
        rw [mem_delPoolAddress formed (areAddresses head List.mem_cons_self), and_assoc]
        refine and_congr_right (fun _ => ?_)
        constructor
        · intro both member
          rcases List.mem_cons.mp member with same | inRest
          · exact absurd same both.1
          · exact both.2 inRest
        · intro kept
          refine ⟨fun same => ?_, fun inRest => kept (List.mem_cons_of_mem head inRest)⟩
          subst same
          exact listed (mem_announced.mpr (kept List.mem_cons_self))

end Database

theorem assignConnection_addrs (pool : Pool) (lanIp : JsString) (lanPort : Int) :
    (assignConnection pool lanIp lanPort).1.poolAddrs = pool.poolAddrs := by
  have taken := assignConnection_case pool lanIp lanPort
  generalize assignConnection pool lanIp lanPort = result at taken ⊢
  cases taken <;> rfl

theorem releaseConnection_addrs {pool : Pool} (formed : WellFormed pool) (lanIp : JsString)
    (lanPort : Int) (wanIp : JsString) (wanPort : Int) :
    (releaseConnection pool lanIp lanPort wanIp wanPort).1.poolAddrs = pool.poolAddrs := by
  have given := releaseConnection_case formed lanIp lanPort wanIp wanPort
  generalize releaseConnection pool lanIp lanPort wanIp wanPort = result at given ⊢
  cases given <;> rfl

section Both

variable {property : Pool → Prop} {server : Server}

theorem withDatabase_lists (protocol : Nat) (pool : Pool) :
    (server.withDatabase protocol pool).wanAddrsList = server.wanAddrsList := by
  unfold Server.withDatabase
  split
  · rfl
  · split <;> rfl

theorem mkMessage_both (both : Both property server) (socketId : JsString) {message : Message}
    (plain : Message.isInitialize message = false)
    (assigns : ∀ pool lanIp lanPort, property pool →
      property (assignConnection pool lanIp lanPort).1)
    (releases : ∀ pool lanIp lanPort wanIp wanPort, property pool →
      property (releaseConnection pool lanIp lanPort wanIp wanPort).1) :
    Both property (server.mkMessage socketId message).1 ∧
      (server.mkMessage socketId message).1.wanAddrsList = server.wanAddrsList := by
  cases message with
  | initializeAddrs wanAddrs => cases plain
  | request protocol ipSrc portSrc ipDst portDst =>
      have changed : (server.mkMessage socketId
          (.request protocol ipSrc portSrc ipDst portDst)).1 =
          (server.request protocol (inetNtoa ipSrc) portSrc).1 := by
        simp only [Server.mkMessage]
        split
        · next result => rw [result]
        · next result => rw [result]
      rw [changed]
      unfold Server.request
      cases found : server.databaseOf protocol with
      | none => exact ⟨both, rfl⟩
      | some pool =>
          exact ⟨both.withDatabase protocol (assigns pool _ _ (both.databaseOf found)),
            withDatabase_lists protocol _⟩
  | release fields =>
      have changed : (server.mkMessage socketId (.release fields)).1 =
          (server.release fields.protocol (inetNtoa fields.lanIp) fields.lanPort
            (inetNtoa fields.wanIp) fields.wanPort).1 := by
        simp only [Server.mkMessage]
        split
        · next result => rw [result]
        · next result => rw [result]
      rw [changed]
      unfold Server.release
      cases found : server.databaseOf fields.protocol with
      | none => exact ⟨both, rfl⟩
      | some pool =>
          exact ⟨both.withDatabase fields.protocol
            (releases pool _ _ _ _ (both.databaseOf found)),
            withDatabase_lists fields.protocol _⟩

end Both

/-- What holds between two events. -/
structure Inv (state : State) : Prop where
  databases : Both (Tracks state.server.wanAddrsList) state.server
  sockets : (keys state.server.wanAddrsList).Nodup
  connected : ∀ socketId, socketId ∈ keys state.server.wanAddrsList ↔ socketId ∈ state.connected
  silent : ∀ socketId, socketId ∉ state.announcers → addrsOf state.server socketId = []
  addresses : ∀ addr ∈ contents state.server.wanAddrsList, isIPv4 addr = true

section Steps

variable {state : State} {socketId : JsString}

theorem start_inv (startPort endPort maxConnection : Int) :
    Inv (start startPort endPort maxConnection) := by
  have fresh : Tracks [] (newEntry startPort endPort maxConnection []) := by
    refine ⟨(newEntry_inv comparison_subperm startPort endPort maxConnection []).1, ?_⟩
    intro addr
    exact Iff.rfl
  exact ⟨⟨fresh, fresh⟩, List.nodup_nil, fun _ => Iff.rfl, fun _ _ => rfl,
    fun addr member => nomatch member⟩

theorem connect_inv (inv : Inv state) (fresh : socketId ∉ state.connected) :
    Inv
      { state with
        server := serverConnect state.server socketId
        connected := socketId :: state.connected } := by
  have unknown : socketId ∉ keys state.server.wanAddrsList :=
    fun known => fresh ((inv.connected socketId).mp known)
  have sameContents : contents (set state.server.wanAddrsList socketId []) =
      contents state.server.wanAddrsList := by
    rw [contents_set_new unknown, List.append_nil]
  have tracks : ∀ pool, Tracks state.server.wanAddrsList pool →
      Tracks (set state.server.wanAddrsList socketId []) pool := by
    intro pool tracked
    refine ⟨tracked.formed, fun addr => ?_⟩
    rw [sameContents]
    exact tracked.same addr
  constructor
  · exact ⟨tracks _ inv.databases.tcp, tracks _ inv.databases.udp⟩
  · exact nodup_keys_set inv.sockets
  · intro other
    change other ∈ keys (set state.server.wanAddrsList socketId []) ↔ other ∈ socketId :: _
    rw [mem_keys_set, List.mem_cons, inv.connected]
  · intro other quiet
    change (get (set state.server.wanAddrsList socketId []) other).getD [] = []
    by_cases same : other = socketId
    · subst same
      rw [get_set_self]
      rfl
    · rw [get_set_other same]
      exact inv.silent other quiet
  · intro addr member
    change addr ∈ contents (set state.server.wanAddrsList socketId []) at member
    rw [sameContents] at member
    exact inv.addresses addr member

theorem initialize_inv (inv : Inv state) (open_ : socketId ∈ state.connected)
    (first : socketId ∉ state.announcers) (wanAddrs : List Nat) :
    Inv
      { state with
        server := (state.server.mkMessage socketId (.initializeAddrs wanAddrs)).1
        announcers := socketId :: state.announcers } := by
  have areAddresses : ∀ addr ∈ wanAddrs.map inetNtoa, isIPv4 addr = true := by
    intro addr member
    obtain ⟨number, -, rfl⟩ := List.mem_map.mp member
    exact isIPv4_inetNtoa number
  have listed : ∀ addr,
      addr ∈ contents (set state.server.wanAddrsList socketId (wanAddrs.map inetNtoa)) ↔
        addr ∈ contents state.server.wanAddrsList ∨ addr ∈ wanAddrs.map inetNtoa := by
    intro addr
    have before := @mem_contents_delete _ _ socketId _ _ inv.sockets addr
    have nothing : (get state.server.wanAddrsList socketId).getD [] = [] :=
      inv.silent socketId first
    rw [nothing] at before
    rw [mem_contents_set inv.sockets, before]
    simp only [List.not_mem_nil, false_or]
    exact or_comm
  have tracks : ∀ pool, Tracks state.server.wanAddrsList pool →
      Tracks (set state.server.wanAddrsList socketId (wanAddrs.map inetNtoa))
        (addPoolAddresses pool (wanAddrs.map inetNtoa)) := by
    intro pool tracked
    refine ⟨apply_formed tracked.formed (.addPoolAddresses (wanAddrs.map inetNtoa)), ?_⟩
    intro addr
    rw [mem_addPoolAddresses areAddresses, listed, tracked.same]
  constructor
  · exact ⟨tracks _ inv.databases.tcp, tracks _ inv.databases.udp⟩
  · exact nodup_keys_set inv.sockets
  · intro other
    change other ∈ keys (set state.server.wanAddrsList socketId _) ↔ other ∈ state.connected
    rw [mem_keys_set, inv.connected]
    constructor
    · intro either
      exact either.elim (fun same => same ▸ open_) id
    · exact .inr
  · intro other quiet
    change (get (set state.server.wanAddrsList socketId _) other).getD [] = []
    have different : other ≠ socketId := fun same => quiet (same ▸ List.mem_cons_self)
    rw [get_set_other different]
    exact inv.silent other (fun old => quiet (List.mem_cons_of_mem socketId old))
  · intro addr member
    exact ((listed addr).mp member).elim (inv.addresses addr) (areAddresses addr)

theorem message_inv (inv : Inv state) {message : Message}
    (plain : Message.isInitialize message = false) :
    Inv { state with server := (state.server.mkMessage socketId message).1 } := by
  obtain ⟨databases, sameLists⟩ := mkMessage_both inv.databases socketId plain
    (fun pool lanIp lanPort tracked =>
      ⟨apply_formed tracked.formed (.assignConnection lanIp lanPort), fun addr => by
        rw [assignConnection_addrs, tracked.same]⟩)
    (fun pool lanIp lanPort wanIp wanPort tracked =>
      ⟨apply_formed tracked.formed (.releaseConnection lanIp lanPort wanIp wanPort), fun addr => by
        rw [releaseConnection_addrs tracked.formed, tracked.same]⟩)
  constructor
  · rw [sameLists]
    exact databases
  · rw [sameLists]
    exact inv.sockets
  · rw [sameLists]
    exact inv.connected
  · intro other quiet
    rw [addrsOf, sameLists]
    exact inv.silent other quiet
  · rw [sameLists]
    exact inv.addresses

theorem serverEnd_databases (server : Server) (socketId : JsString) :
    serverEnd server socketId =
      { tcpDB := (addrsOf server socketId).foldl
          (withdraw (delete server.wanAddrsList socketId)) server.tcpDB
        udpDB := (addrsOf server socketId).foldl
          (withdraw (delete server.wanAddrsList socketId)) server.udpDB
        wanAddrsList := delete server.wanAddrsList socketId } := by
  unfold serverEnd
  change (addrsOf server socketId).foldl _ _ = _
  generalize addrsOf server socketId = addrs
  generalize delete server.wanAddrsList socketId = rest
  obtain ⟨tcpDB, udpDB, lists⟩ := server
  induction addrs generalizing tcpDB udpDB with
  | nil => rfl
  | cons head tail ih =>
      simp only [List.foldl_cons]
      unfold withdraw
      by_cases listed : announced rest head = true
      · simp only [if_pos listed]
        exact ih tcpDB udpDB
      · simp only [if_neg listed]
        exact ih (delPoolAddress tcpDB head) (delPoolAddress udpDB head)

theorem ends_inv (inv : Inv state) (socketId : JsString) :
    Inv
      { server := serverEnd state.server socketId
        connected := state.connected.filter fun other => other ≠ socketId
        announcers := state.announcers.filter fun other => other ≠ socketId } := by
  have areAddresses : ∀ addr ∈ addrsOf state.server socketId, isIPv4 addr = true :=
    fun addr member =>
      inv.addresses addr ((mem_contents_delete inv.sockets).mpr (.inl member))
  have tracks : ∀ pool, Tracks state.server.wanAddrsList pool →
      Tracks (delete state.server.wanAddrsList socketId)
        ((addrsOf state.server socketId).foldl
          (withdraw (delete state.server.wanAddrsList socketId)) pool) := by
    intro pool tracked
    obtain ⟨formed, members⟩ := withdraw_all (addrsOf state.server socketId) areAddresses
      tracked.formed
    refine ⟨formed, fun addr => ?_⟩
    rw [members, tracked.same, @mem_contents_delete _ _ socketId _ _ inv.sockets]
    constructor
    · intro both
      exact both.1.elim both.2 id
    · intro elsewhere
      exact ⟨.inr elsewhere, fun _ => elsewhere⟩
  rw [serverEnd_databases]
  constructor
  · exact ⟨tracks _ inv.databases.tcp, tracks _ inv.databases.udp⟩
  · exact nodup_keys_delete inv.sockets
  · intro other
    change other ∈ keys (delete state.server.wanAddrsList socketId) ↔ _
    rw [mem_keys_delete, inv.connected, List.mem_filter, decide_eq_true_eq]
  · intro other quiet
    change (get (delete state.server.wanAddrsList socketId) other).getD [] = []
    by_cases same : other = socketId
    · subst same
      have gone : other ∉ keys (delete state.server.wanAddrsList other) :=
        fun member => (mem_keys_delete.mp member).2 rfl
      rw [get_eq_none.mpr gone]
      rfl
    · rw [get_delete_other same]
      exact inv.silent other
        (fun member => quiet (List.mem_filter.mpr ⟨member, decide_eq_true same⟩))
  · intro addr member
    exact inv.addresses addr ((mem_contents_delete inv.sockets).mpr (.inr member))

theorem step_inv (inv : Inv state) {event : Event} {after : State}
    (stepped : step state event = some after) : Inv after := by
  cases event with
  | connect socketId =>
      rw [step] at stepped
      split at stepped
      · cases stepped
      · next fresh =>
          cases stepped
          exact connect_inv inv fresh
  | message socketId message =>
      rw [step] at stepped
      split at stepped
      · cases stepped
      · next connected =>
          split at stepped
          · next isInitialize =>
              split at stepped
              · cases stepped
              · next first =>
                  cases stepped
                  cases message with
                  | initializeAddrs wanAddrs =>
                      exact initialize_inv inv (Decidable.not_not.mp connected) first wanAddrs
                  | request => cases isInitialize
                  | release => cases isInitialize
          · next plain =>
              cases stepped
              exact message_inv inv (Bool.eq_false_iff.mpr plain)
  | ends socketId =>
      rw [step] at stepped
      split at stepped
      · cases stepped
      · cases stepped
        exact ends_inv inv socketId

theorem reachable_inv {startPort endPort maxConnection : Int}
    (reached : ReachableState startPort endPort maxConnection state) : Inv state :=
  Reachable.invariant (start_inv startPort endPort maxConnection)
    (fun _ _ _ inv _ stepped => step_inv inv stepped) reached

theorem Inv.mem_contents (inv : Inv state) {addr : JsString} :
    addr ∈ contents state.server.wanAddrsList ↔
      ∃ socketId ∈ state.connected, addr ∈ addrsOf state.server socketId := by
  constructor
  · intro member
    obtain ⟨socketId, addrs, inLists, inAddrs⟩ := ObjectMap.mem_contents.mp member
    refine ⟨socketId, (inv.connected socketId).mp (List.mem_map_of_mem inLists), ?_⟩
    rw [addrsOf, get_of_mem inv.sockets inLists]
    exact inAddrs
  · intro announced
    obtain ⟨socketId, -, member⟩ := announced
    exact (mem_contents_delete inv.sockets).mpr (.inl member)

end Steps

/-- After every event both databases pool exactly the addresses of the connected
sockets, each once, and no entry uses any other address. -/
theorem pool_follows_sockets (startPort endPort maxConnection : Int) (state : State)
    (reached : ReachableState startPort endPort maxConnection state) :
    ∀ pool, pool = state.server.tcpDB ∨ pool = state.server.udpDB →
      pool.poolAddrs.Nodup ∧
      (∀ addr, addr ∈ pool.poolAddrs ↔
        ∃ socketId ∈ state.connected, addr ∈ addrsOf state.server socketId) ∧
      ∀ entry ∈ pool.connections,
        ∃ socketId ∈ state.connected, entry.wanIp ∈ addrsOf state.server socketId := by
  have inv := reachable_inv reached
  have settled : ∀ pool, Tracks state.server.wanAddrsList pool →
      pool.poolAddrs.Nodup ∧
      (∀ addr, addr ∈ pool.poolAddrs ↔
        ∃ socketId ∈ state.connected, addr ∈ addrsOf state.server socketId) ∧
      ∀ entry ∈ pool.connections,
        ∃ socketId ∈ state.connected, entry.wanIp ∈ addrsOf state.server socketId := by
    intro pool tracked
    have members : ∀ addr, addr ∈ pool.poolAddrs ↔
        ∃ socketId ∈ state.connected, addr ∈ addrsOf state.server socketId :=
      fun addr => (tracked.same addr).trans inv.mem_contents
    exact ⟨tracked.formed.addrsNodup, members,
      fun entry member => (members entry.wanIp).mp (tracked.formed.pooled entry member)⟩
  intro pool either
  rcases either with rfl | rfl
  · exact settled _ inv.databases.tcp
  · exact settled _ inv.databases.udp

private def boxA : JsString := ['a']
private def boxB : JsString := ['b']

/-- Two boxes share 192.0.2.2; the first one asks for a mapping and leaves. -/
private def sharedRun : List Event :=
  [.connect boxA, .connect boxB,
    .message boxA (.initializeAddrs [0xC0000201, 0xC0000202]),
    .message boxB (.initializeAddrs [0xC0000202, 0xC6336401]),
    .message boxA (.request 6 0x0A000001 1000 0xC0000209 80), .ends boxA]

private def sharedState : State :=
  (run step (start 4097 4100 100) sharedRun).getD (start 4097 4100 100)

theorem pool_follows_sockets_one_left :
    sharedState.connected = [boxB] ∧
      ∀ addr, addr ∈ sharedState.server.tcpDB.poolAddrs ↔
        ∃ socketId ∈ sharedState.connected, addr ∈ addrsOf sharedState.server socketId :=
  ⟨by decide +kernel,
    (pool_follows_sockets 4097 4100 100 sharedState
      (reachable_of_meets sharedRun .start (meets_trivial sharedRun _)) _ (.inl rfl)).2.1⟩

/-! ### Whose address an acknowledgement carries -/

theorem assignConnection_pooled {pool : Pool} (formed : WellFormed pool) {lanIp : JsString}
    {lanPort : Int} {entry : Connection}
    (granted : (assignConnection pool lanIp lanPort).2 = some entry) :
    entry.wanIp ∈ pool.poolAddrs := by
  have taken := assignConnection_case pool lanIp lanPort
  generalize assignConnection pool lanIp lanPort = result at taken granted
  cases taken with
  | notAddress => cases granted
  | known _ found =>
      cases granted
      exact formed.pooled entry (sameEntryCheck_some found).1
  | noPort => cases granted
  | full => cases granted
  | assigned _ _ chosen =>
      cases granted
      exact assignWanIP_mem chosen

theorem mkMessage_ack {server after : Server} {socketId : JsString} {protocol ipSrc ipDst : Nat}
    {portSrc portDst : Int} {reply : Reply}
    (answered : server.mkMessage socketId (.request protocol ipSrc portSrc ipDst portDst) =
      (after, .reply reply)) (granted : reply.type = .requestAck) :
    ∃ pool entry, server.databaseOf protocol = some pool ∧
      (assignConnection pool (inetNtoa ipSrc) portSrc).2 = some entry ∧
      reply.fields.wanIp = inetAton entry.wanIp := by
  simp only [Server.mkMessage, Server.request] at answered
  cases found : server.databaseOf protocol with
  | none =>
      rw [found] at answered
      cases answered
      cases granted
  | some pool =>
      simp only [found] at answered
      cases outcome : (assignConnection pool (inetNtoa ipSrc) portSrc).2 with
      | none =>
          simp only [outcome] at answered
          cases answered
          cases granted
      | some entry =>
          simp only [outcome] at answered
          cases answered
          exact ⟨pool, entry, rfl, outcome, rfl⟩

/-- A grant's address was announced by some connected box, not always by the one that
asked: both databases are shared. -/
theorem ack_names_announced (startPort endPort maxConnection : Int) (state : State)
    (reached : ReachableState startPort endPort maxConnection state) (socketId : JsString)
    (protocol ipSrc : Nat) (portSrc : Int) (ipDst : Nat) (portDst : Int) (after : Server)
    (reply : Reply)
    (answered : state.server.mkMessage socketId
      (.request protocol ipSrc portSrc ipDst portDst) = (after, .reply reply))
    (granted : reply.type = .requestAck) :
    ∃ other ∈ state.connected, ∃ addr ∈ addrsOf state.server other,
      reply.fields.wanIp = inetAton addr := by
  have inv := reachable_inv reached
  obtain ⟨pool, entry, found, assigned, address⟩ := mkMessage_ack answered granted
  have tracked := inv.databases.databaseOf found
  have pooled := assignConnection_pooled tracked.formed assigned
  obtain ⟨other, connected, announced⟩ := inv.mem_contents.mp ((tracked.same _).mp pooled)
  exact ⟨other, connected, entry.wanIp, announced, address⟩

/-- Two boxes with one address each. -/
private def separateRun : List Event :=
  [.connect boxA, .connect boxB, .message boxA (.initializeAddrs [0xC0000201]),
    .message boxB (.initializeAddrs [0xC6336401])]

private def separateState : State :=
  (run step (start 4097 4100 100) separateRun).getD (start 4097 4100 100)

private def separateAnswer : Server × Answer :=
  separateState.server.mkMessage boxA (.request 6 0x0A000001 1000 0xC0000209 80)

private theorem separateState_reached : ReachableState 4097 4100 100 separateState :=
  reachable_of_meets separateRun .start (meets_trivial separateRun _)

private theorem separateAnswer_ack : separateAnswer = (separateAnswer.1, .reply
    { type := .requestAck
      fields := ⟨6, 0x0A000001, 1000, 0xC6336401, 4097⟩ }) := by
  decide +kernel

theorem ack_names_announced_shared :
    ∃ other ∈ separateState.connected, ∃ addr ∈ addrsOf separateState.server other,
      0xC6336401 = inetAton addr :=
  ack_names_announced 4097 4100 100 separateState separateState_reached boxA 6 0x0A000001 1000
    0xC0000209 80 _ _ separateAnswer_ack rfl

/-- The first box is given the second one's address. -/
theorem ack_names_other_box :
    ReachableState 4097 4100 100 separateState ∧ boxA ∈ separateState.connected ∧
      ∃ after reply, separateState.server.mkMessage boxA
          (.request 6 0x0A000001 1000 0xC0000209 80) = (after, .reply reply) ∧
        reply.type = .requestAck ∧
        ∀ addr ∈ addrsOf separateState.server boxA, reply.fields.wanIp ≠ inetAton addr :=
  ⟨separateState_reached, by decide +kernel, _, _, separateAnswer_ack, rfl, by decide +kernel⟩

/-! ### One answer for each message -/

def Message.client : Message → Option (Nat × Nat × Int)
  | .request protocol ipSrc portSrc _ _ => some (protocol, ipSrc, portSrc)
  | .release fields => some (fields.protocol, fields.lanIp, fields.lanPort)
  | .initializeAddrs _ => none

/-- The types of reply that a message can expect. -/
def Message.Expects : Message → ReplyType → Prop
  | .request .., type => type = .requestAck ∨ type = .requestDiscard
  | .release _, type => type = .releaseAck
  | .initializeAddrs _, _ => False

def IsPort (port : Int) : Prop := 0 ≤ port ∧ port < 65536

/-- A request or a release as natporte formats it. -/
def Message.Proper : Message → Prop
  | .request protocol ipSrc portSrc ipDst portDst =>
      (isTCP protocol = true ∨ isUDP protocol = true) ∧ ipSrc < 2 ^ 32 ∧ ipDst < 2 ^ 32 ∧
        IsPort portSrc ∧ IsPort portDst
  | .release fields =>
      (isTCP fields.protocol = true ∨ isUDP fields.protocol = true) ∧ fields.Words ∧
        IsPort fields.lanPort ∧ IsPort fields.wanPort
  | .initializeAddrs _ => False

/-- One reply, to the client that asked; a release of a mapping that is not there
changes nothing. -/
structure Answered (server : Server) (socketId : JsString) (message : Message) : Prop where
  reply : ∃ after reply, server.mkMessage socketId message = (after, .reply reply) ∧
    Message.client message =
      some (reply.fields.protocol, reply.fields.lanIp, reply.fields.lanPort) ∧
    Message.Expects message reply.type
  unheld : ∀ fields, message = .release fields → ¬server.Mapped fields →
    (server.mkMessage socketId message).1 = server

section Answers

variable {server : Server}

theorem databaseOf_known {protocol : Nat}
    (known : isTCP protocol = true ∨ isUDP protocol = true) :
    ∃ pool, server.databaseOf protocol = some pool := by
  unfold Server.databaseOf
  by_cases tcp : isTCP protocol = true
  · exact ⟨server.tcpDB, if_pos tcp⟩
  · exact ⟨server.udpDB, by rw [if_neg tcp, if_pos (known.resolve_left tcp)]⟩

theorem withDatabase_self {protocol : Nat} {pool : Pool}
    (found : server.databaseOf protocol = some pool) :
    server.withDatabase protocol pool = server := by
  unfold Server.databaseOf at found
  unfold Server.withDatabase
  split at found
  · next tcp =>
      cases found
      rw [if_pos tcp]
  · next tcp =>
      split at found
      · next udp =>
          cases found
          rw [if_neg tcp, if_pos udp]
      · cases found

theorem assignConnection_client {pool : Pool} {lanIp : JsString} {lanPort : Int}
    {entry : Connection} (granted : (assignConnection pool lanIp lanPort).2 = some entry) :
    entry.lanIp = lanIp ∧ entry.lanPort = lanPort := by
  have taken := assignConnection_case pool lanIp lanPort
  generalize assignConnection pool lanIp lanPort = result at taken granted
  cases taken with
  | notAddress => cases granted
  | known _ found =>
      cases granted
      exact (sameEntryCheck_some found).2.2
  | noPort => cases granted
  | full => cases granted
  | assigned =>
      cases granted
      exact ⟨rfl, rfl⟩

theorem request_answered (socketId : JsString) {protocol ipSrc : Nat} (word : ipSrc < 2 ^ 32)
    (portSrc : Int) (ipDst : Nat) (portDst : Int) :
    Answered server socketId (.request protocol ipSrc portSrc ipDst portDst) := by
  refine ⟨?_, fun fields isRelease => nomatch isRelease⟩
  simp only [Server.mkMessage, Server.request]
  cases found : server.databaseOf protocol with
  | none =>
      exact ⟨_, _, rfl, by simp only [Message.client, inetAton_inetNtoa word], .inr rfl⟩
  | some pool =>
      simp only
      cases outcome : (assignConnection pool (inetNtoa ipSrc) portSrc).2 with
      | none =>
          exact ⟨_, _, rfl, by simp only [Message.client, inetAton_inetNtoa word], .inr rfl⟩
      | some entry =>
          obtain ⟨sameIp, samePort⟩ := assignConnection_client outcome
          refine ⟨_, _, rfl, ?_, .inl rfl⟩
          simp only [Message.client, sameIp, samePort, inetAton_inetNtoa word]

theorem mkMessage_release_eq (socketId : JsString) {fields : Fields} (words : fields.Words)
    {pool : Pool} (found : server.databaseOf fields.protocol = some pool) :
    server.mkMessage socketId (.release fields) =
      (server.withDatabase fields.protocol (releaseConnection pool (inetNtoa fields.lanIp)
          fields.lanPort (inetNtoa fields.wanIp) fields.wanPort).1,
        if (releaseConnection pool (inetNtoa fields.lanIp) fields.lanPort
            (inetNtoa fields.wanIp) fields.wanPort).2 = .threw then .threw
        else .reply { type := .releaseAck, fields := fields }) := by
  have echoed : ({ fields with
      lanIp := inetAton (inetNtoa fields.lanIp), wanIp := inetAton (inetNtoa fields.wanIp) } :
        Fields) = fields := by
    rw [inetAton_inetNtoa words.lan, inetAton_inetNtoa words.wan]
  rw [Server.mkMessage, Server.release, found]
  simp only [echoed]
  generalize releaseConnection pool (inetNtoa fields.lanIp) fields.lanPort
    (inetNtoa fields.wanIp) fields.wanPort = result
  obtain ⟨newPool, outcome⟩ := result
  cases outcome <;> rfl

theorem release_answered_iff (formed : Both WellFormed server) (socketId : JsString)
    {fields : Fields} (words : fields.Words)
    (known : isTCP fields.protocol = true ∨ isUDP fields.protocol = true) :
    Answered server socketId (.release fields) ↔
      server.HasRow fields.protocol fields.lanIp := by
  obtain ⟨pool, found⟩ := @databaseOf_known server fields.protocol known
  have answer := mkMessage_release_eq socketId words found
  have given := releaseConnection_case (formed.databaseOf found) (inetNtoa fields.lanIp)
    fields.lanPort (inetNtoa fields.wanIp) fields.wanPort
  constructor
  · intro answered
    refine ⟨pool, found, fun missing => ?_⟩
    obtain ⟨after, reply, replied, -⟩ := answered.reply
    have threw : (releaseConnection pool (inetNtoa fields.lanIp) fields.lanPort
        (inetNtoa fields.wanIp) fields.wanPort).2 = .threw := by
      rw [releaseConnection, isIPv4_inetNtoa, isIPv4_inetNtoa, missing]
      rfl
    rw [answer, if_pos threw] at replied
    cases replied
  · intro row
    obtain ⟨held, isHeld, hasRow⟩ := row
    cases found.symm.trans isHeld
    generalize releaseConnection pool (inetNtoa fields.lanIp) fields.lanPort
      (inetNtoa fields.wanIp) fields.wanPort = result at answer given
    cases given with
    | unchanged unmatched =>
        have settled := (unmatched (isIPv4_inetNtoa _) (isIPv4_inetNtoa _)).1 hasRow
        rw [if_neg settled, withDatabase_self found] at answer
        refine ⟨⟨_, _, answer, rfl, rfl⟩, fun other isRelease unheld => ?_⟩
        rw [answer]
    | @released before after entry ports present free matched =>
        rw [if_neg (by simp)] at answer
        refine ⟨⟨_, _, answer, rfl, rfl⟩, fun other isRelease unheld => ?_⟩
        cases isRelease
        have isHeld : fields.connection = entry := (matchesConnection_eq_true.mp matched).symm
        refine absurd ⟨words, pool, found, ?_⟩ unheld
        rw [isHeld]
        exact ObjectMap.mem_contents.mpr ⟨inetNtoa fields.lanIp, _, mem_of_get present,
          List.mem_append_right _ List.mem_cons_self⟩

end Answers

/-- Some run of calls leads to the pool, from a new one with some settings. -/
def PoolReached (pool : Pool) : Prop :=
  ∃ startPort endPort maxConnection wanAddrs,
    ReachablePool startPort endPort maxConnection wanAddrs pool

theorem PoolReached.formed {pool : Pool} (reached : PoolReached pool) : WellFormed pool := by
  obtain ⟨startPort, endPort, maxConnection, wanAddrs, calls⟩ := reached
  refine Reachable.invariant ?_ ?_ calls
  · exact (newEntry_inv comparison_subperm startPort endPort maxConnection wanAddrs).1
  · intro before call after formed _ stepped
    cases stepped
    exact apply_formed formed call

/-- Every proper request is answered; a release is answered exactly when its client
has a row in the database of its protocol. -/
theorem message_answered_iff (server : Server) (tcpReached : PoolReached server.tcpDB)
    (udpReached : PoolReached server.udpDB) (socketId : JsString) (message : Message)
    (proper : Message.Proper message) :
    Answered server socketId message ↔
      ∀ fields, message = .release fields → server.HasRow fields.protocol fields.lanIp := by
  have formed : Both WellFormed server := ⟨tcpReached.formed, udpReached.formed⟩
  cases message with
  | request protocol ipSrc portSrc ipDst portDst =>
      obtain ⟨-, word, -⟩ := proper
      exact iff_of_true (request_answered socketId word portSrc ipDst portDst)
        (fun fields isRelease => nomatch isRelease)
  | release fields =>
      obtain ⟨known, words, -⟩ := proper
      refine (release_answered_iff formed socketId words known).trans ?_
      constructor
      · intro row other same
        cases same
        exact row
      · intro rows
        exact rows fields rfl
  | initializeAddrs => exact absurd proper id

private theorem newEntry_reached (startPort endPort maxConnection : Int) :
    PoolReached (newEntry startPort endPort maxConnection []) :=
  ⟨startPort, endPort, maxConnection, [], .start⟩

/-- A mapping of 10.0.0.1 port 1000. -/
private def staleFields : Fields :=
  { protocol := 6, lanIp := 0x0A000001, lanPort := 1000, wanIp := 0xC0000201, wanPort := 4097 }

private theorem staleFields_proper : Message.Proper (.release staleFields) :=
  ⟨.inl rfl, ⟨by decide, by decide⟩, ⟨by decide, by decide⟩, by decide, by decide⟩

theorem message_answered_request :
    Answered (newServer 4097 4100 100) boxA (.request 6 0x0A000001 1000 0xC0000209 80) :=
  (message_answered_iff (newServer 4097 4100 100) (newEntry_reached 4097 4100 100)
    (newEntry_reached 4097 4100 100) boxA (.request 6 0x0A000001 1000 0xC0000209 80)
    ⟨.inl rfl, by decide, by decide, ⟨by decide, by decide⟩, by decide, by decide⟩).mpr
    (fun fields isRelease => nomatch isRelease)

/-- A pool server that was started anew does not answer the release of an old mapping. -/
theorem stale_release_unanswered :
    PoolReached (newServer 4097 4100 100).tcpDB ∧ PoolReached (newServer 4097 4100 100).udpDB ∧
      Message.Proper (.release staleFields) ∧
      ((newServer 4097 4100 100).mkMessage boxA (.release staleFields)).2 = .threw ∧
      ¬Answered (newServer 4097 4100 100) boxA (.release staleFields) := by
  have threw : ((newServer 4097 4100 100).mkMessage boxA (.release staleFields)).2 = .threw := by
    decide +kernel
  refine ⟨newEntry_reached _ _ _, newEntry_reached _ _ _, staleFields_proper, threw, ?_⟩
  intro answered
  obtain ⟨after, reply, replied, -⟩ := answered.reply
  rw [replied] at threw
  cases threw

end Sockets
end NatPorte
