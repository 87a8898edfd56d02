/-
The pool server of bin/pool_server, with the address helpers of nettool.js that
its messages go through.

A message is the object that JSON.parse returns; its numbers are naturals, ports
are integers because the pool counts with integers.  The `ctime` field travels
with every message and nothing reads it; logging is left out.
-/

import Mathlib.Data.Nat.Digits.Lemmas
import NatPorte.Entry

namespace NatPorte
namespace PoolServer

open ObjectMap Entry

/-! ### nettool.js -/

/-- The loop of `inet_ntoa`: the low byte goes to the last place that is left. -/
def octetsOf : Nat → Nat → List Nat
  | 0, _ => []
  | places + 1, n => octetsOf places (n % 2 ^ 32 / 256) ++ [n % 256]

/-- `octets.join('.')` -/
def joinDots : List JsString → JsString
  | [] => []
  | [piece] => piece
  | piece :: rest => piece ++ '.' :: joinDots rest

def decimal (octet : Nat) : JsString := Nat.toDigits 10 octet

def inetNtoa (n : Nat) : JsString := joinDots ((octetsOf 4 n).map decimal)

/-- `octets.splice(1, 0, 0)` until there are four. -/
def padOctets (octets : List JsString) : List JsString :=
  octets.take 1 ++ List.replicate (4 - octets.length) ['0'] ++ octets.drop 1

def inetAton (a : JsString) : Nat :=
  ((padOctets (splitDots a)).take 4).foldl (fun n octet => n * 256 + parseInt octet) 0

def isTCP (protocol : Nat) : Bool := protocol == 6
def isUDP (protocol : Nat) : Bool := protocol == 17

structure Fields where
  protocol : Nat
  lanIp : Nat
  lanPort : Int
  wanIp : Nat
  wanPort : Int
  deriving DecidableEq, Repr

inductive Message where
  | request (protocol ipSrc : Nat) (portSrc : Int) (ipDst : Nat) (portDst : Int)
  | release (fields : Fields)
  | initializeAddrs (wanAddrs : List Nat)
  deriving DecidableEq, Repr

inductive ReplyType where
  | requestAck | requestDiscard | releaseAck
  deriving DecidableEq, Repr

structure Reply where
  type : ReplyType
  fields : Fields
  deriving DecidableEq, Repr

/-- What `mk_message` comes back with; a TypeError is caught by `server_data`. -/
inductive Answer where
  | reply (reply : Reply)
  | undefined
  | threw
  deriving DecidableEq, Repr

/-! ### pool_server -/

structure Server where
  tcpDB : Pool
  udpDB : Pool
  wanAddrsList : Object JsString (List JsString)
  deriving DecidableEq, Repr

namespace Server

variable (server : Server)

/-- The database that `request` and `release` turn to. -/
def databaseOf (protocol : Nat) : Option Pool :=
  if isTCP protocol then some server.tcpDB
  else if isUDP protocol then some server.udpDB
  else none

def withDatabase (protocol : Nat) (pool : Pool) : Server :=
  if isTCP protocol then { server with tcpDB := pool }
  else if isUDP protocol then { server with udpDB := pool }
  else server

def request (protocol : Nat) (lanIp : JsString) (lanPort : Int) : Server × Option Connection :=
  match server.databaseOf protocol with
  | none => (server, none)
  | some pool =>
      let (pool, result) := assignConnection pool lanIp lanPort
      (server.withDatabase protocol pool, result)

def release (protocol : Nat) (lanIp : JsString) (lanPort : Int) (wanIp : JsString)
    (wanPort : Int) : Server × Released :=
  match server.databaseOf protocol with
  | none => (server, .refused)
  | some pool =>
      let (pool, result) := releaseConnection pool lanIp lanPort wanIp wanPort
      (server.withDatabase protocol pool, result)

def mkMessage (socketId : JsString) : Message → Server × Answer
  | .request protocol ipSrc portSrc ipDst portDst =>
      let lanIp := inetNtoa ipSrc
      let wanIp := inetNtoa ipDst
      match server.request protocol lanIp portSrc with
      | (server, none) =>
          (server, .reply
            { type := .requestDiscard
              fields :=
                { protocol := protocol
                  lanIp := inetAton lanIp, lanPort := portSrc
                  wanIp := inetAton wanIp, wanPort := portDst } })
      | (server, some entry) =>
          (server, .reply
            { type := .requestAck
              fields :=
                { protocol := protocol
                  lanIp := inetAton entry.lanIp, lanPort := entry.lanPort
                  wanIp := inetAton entry.wanIp, wanPort := entry.wanPort } })
  | .release fields =>
      let lanIp := inetNtoa fields.lanIp
      let wanIp := inetNtoa fields.wanIp
      match server.release fields.protocol lanIp fields.lanPort wanIp fields.wanPort with
      | (server, .threw) => (server, .threw)
      -- a refused release is acknowledged as well
      | (server, _) =>
          (server, .reply
            { type := .releaseAck
              fields := { fields with lanIp := inetAton lanIp, wanIp := inetAton wanIp } })
  | .initializeAddrs wanAddrs =>
      let wanAddrs := wanAddrs.map inetNtoa
      ({ tcpDB := addPoolAddresses server.tcpDB wanAddrs
         udpDB := addPoolAddresses server.udpDB wanAddrs
         wanAddrsList := set server.wanAddrsList socketId wanAddrs }, .undefined)

end Server

/-- Both databases as the server creates them. -/
def newServer (startPort endPort maxConnection : Int) : Server :=
  { tcpDB := newEntry startPort endPort maxConnection []
    udpDB := newEntry startPort endPort maxConnection []
    wanAddrsList := [] }

theorem decimal_octet : ∀ octet < 256, parseInt (decimal octet) = octet ∧
    isOctet (decimal octet) = true ∧ '.' ∉ decimal octet := by
  decide +kernel

theorem splitDots_piece {piece : JsString} (dotless : '.' ∉ piece) (rest : JsString) :
    splitDots (piece ++ '.' :: rest) = piece :: splitDots rest := by
  induction piece with
  | nil => rfl
  | cons char tail ih =>
      have notDot : char ≠ '.' := fun same => dotless (same ▸ List.mem_cons_self)
      rw [List.cons_append, splitDots, if_neg notDot,
        ih (fun inTail => dotless (List.mem_cons_of_mem char inTail))]

theorem splitDots_last {piece : JsString} (dotless : '.' ∉ piece) : splitDots piece = [piece] := by
  induction piece with
  | nil => rfl
  | cons char tail ih =>
      have notDot : char ≠ '.' := fun same => dotless (same ▸ List.mem_cons_self)
      rw [splitDots, if_neg notDot, ih (fun inTail => dotless (List.mem_cons_of_mem char inTail))]

theorem octetsOf_four (n : Nat) : octetsOf 4 n =
    [n % 2 ^ 32 / 16777216, n % 2 ^ 32 / 65536 % 256, n % 2 ^ 32 / 256 % 256, n % 256] := by
  simp only [octetsOf, List.nil_append, List.cons_append, List.cons.injEq, and_true]
  omega

theorem splitDots_inetNtoa (n : Nat) : splitDots (inetNtoa n) = (octetsOf 4 n).map decimal := by
  rw [inetNtoa, octetsOf_four]
  have first := (decimal_octet (n % 2 ^ 32 / 16777216) (by omega)).2.2
  have second := (decimal_octet (n % 2 ^ 32 / 65536 % 256) (by omega)).2.2
  have third := (decimal_octet (n % 2 ^ 32 / 256 % 256) (by omega)).2.2
  have fourth := (decimal_octet (n % 256) (by omega)).2.2
  simp only [List.map_cons, List.map_nil, joinDots]
  rw [splitDots_piece first, splitDots_piece second, splitDots_piece third, splitDots_last fourth]

theorem isIPv4_inetNtoa (n : Nat) : isIPv4 (inetNtoa n) = true := by
  rw [isIPv4, splitDots_inetNtoa, octetsOf_four]
  simp only [List.map_cons, List.map_nil]
  rw [(decimal_octet (n % 2 ^ 32 / 16777216) (by omega)).2.1,
    (decimal_octet (n % 2 ^ 32 / 65536 % 256) (by omega)).2.1,
    (decimal_octet (n % 2 ^ 32 / 256 % 256) (by omega)).2.1,
    (decimal_octet (n % 256) (by omega)).2.1]
  rfl

theorem inetAton_inetNtoa {n : Nat} (word : n < 2 ^ 32) : inetAton (inetNtoa n) = n := by
  rw [inetAton, splitDots_inetNtoa, octetsOf_four]
  simp only [List.map_cons, List.map_nil, padOctets, List.length_cons, List.length_nil,
    List.take_succ_cons, List.take_zero, List.drop_succ_cons, List.drop_zero, Nat.sub_self,
    List.replicate_zero, List.append_nil, List.nil_append, List.cons_append, List.foldl_cons,
    List.foldl_nil]
  rw [(decimal_octet (n % 2 ^ 32 / 16777216) (by omega)).1,
    (decimal_octet (n % 2 ^ 32 / 65536 % 256) (by omega)).1,
    (decimal_octet (n % 2 ^ 32 / 256 % 256) (by omega)).1, (decimal_octet (n % 256) (by omega)).1]
  omega

theorem inetNtoa_inj {n m : Nat} (left : n < 2 ^ 32) (right : m < 2 ^ 32)
    (same : inetNtoa n = inetNtoa m) : n = m := by
  rw [← inetAton_inetNtoa left, same, inetAton_inetNtoa right]

/-- Every address a database holds is the text form of a 32-bit number. -/
structure DatabaseInv (pool : Pool) : Prop where
  formed : WellFormed pool
  stocked : Stocked List.Subperm pool
  addresses : ∀ addr ∈ pool.poolAddrs, ∃ n < 2 ^ 32, addr = inetNtoa n
  clients : ∀ entry ∈ pool.connections, ∃ n < 2 ^ 32, entry.lanIp = inetNtoa n

section Database

variable {pool : Pool} {lanIp : JsString} {lanPort : Int}

theorem connection_unique (formed : WellFormed pool) {left right : Connection}
    (leftIn : left ∈ pool.connections) (rightIn : right ∈ pool.connections)
    (sameIp : left.lanIp = right.lanIp) (samePort : left.lanPort = right.lanPort) :
    left = right :=
  List.inj_on_of_nodup_map formed.clients leftIn rightIn (Prod.ext sameIp samePort)

theorem connection_exclusive (inv : DatabaseInv pool) {left right : Connection}
    (leftIn : left ∈ pool.connections) (rightIn : right ∈ pool.connections)
    (sameIp : left.wanIp = right.wanIp) (samePort : left.wanPort = right.wanPort) :
    left = right := by
  have nodup := nodup_endpoints fun addr =>
    (List.nodup_append.mp (stock_nodup inv.formed inv.stocked addr)).2.1
  exact List.inj_on_of_nodup_map nodup leftIn rightIn (Prod.ext sameIp samePort)

theorem sameEntryCheck_some {entry : Connection}
    (found : sameEntryCheck pool lanIp lanPort = some entry) :
    entry ∈ pool.connections ∧ get pool.db lanIp ≠ none ∧
      entry.lanIp = lanIp ∧ entry.lanPort = lanPort := by
  rw [sameEntryCheck] at found
  cases present : get pool.db lanIp with
  | none =>
      rw [present] at found
      cases found
  | some row =>
      rw [present] at found
      have same : entry.lanIp = lanIp ∧ entry.lanPort = lanPort :=
        of_decide_eq_true (List.find?_some (p := fun entry : Connection =>
          decide (entry.lanIp = lanIp ∧ entry.lanPort = lanPort)) found)
      exact ⟨mem_contents.mpr ⟨lanIp, row, mem_of_get present, List.mem_of_find?_eq_some found⟩,
        by simp, same⟩

/-- Rows are never taken away from `db`. -/
def RowsKept (before after : Pool) : Prop :=
  ∀ client, get before.db client ≠ none → get after.db client ≠ none

theorem rowsKept_withRow (pool : Pool) (client : JsString) (row : List Connection) :
    RowsKept pool (pool.withRow client row) := by
  intro other known
  by_cases same : other = client
  · subst same
    rw [Pool.withRow, get_set_self]
    simp
  · rw [Pool.withRow, get_set_other same]
    exact known

/-- What the server relies on when it assigns. -/
structure Assigns (pool : Pool) (lanIp : JsString) (lanPort : Int)
    (result : Pool × Option Connection) : Prop where
  inv : DatabaseInv result.1
  kept : RowsKept pool result.1
  refused : result.2 = none → ∀ entry, entry ∈ result.1.connections ↔ entry ∈ pool.connections
  granted : ∀ entry, result.2 = some entry →
    entry.lanIp = lanIp ∧ entry.lanPort = lanPort ∧ get result.1.db lanIp ≠ none ∧
      ∀ other, other ∈ result.1.connections ↔ other ∈ pool.connections ∨ other = entry

theorem assigns (inv : DatabaseInv pool) {ip : Nat} (word : ip < 2 ^ 32) (lanPort : Int) :
    Assigns pool (inetNtoa ip) lanPort (assignConnection pool (inetNtoa ip) lanPort) := by
  have kept := apply_inv comparison_subperm inv.formed inv.stocked
    (.assignConnection (inetNtoa ip) lanPort)
    (fun _ port left _ sub => (List.sublist_cons_self port left).subperm.trans sub)
  rw [Pool.apply] at kept
  have taken := assignConnection_case pool (inetNtoa ip) lanPort
  generalize assignConnection pool (inetNtoa ip) lanPort = result at taken kept ⊢
  cases taken with
  | notAddress =>
      exact ⟨inv, fun _ => id, fun _ _ => Iff.rfl, by simp⟩
  | known _ found =>
      obtain ⟨member, row, sameIp, samePort⟩ := sameEntryCheck_some found
      refine ⟨inv, fun _ => id, by simp, ?_⟩
      intro entry same
      cases same
      refine ⟨sameIp, samePort, row, fun other => ⟨.inl, ?_⟩⟩
      rintro (old | rfl)
      · exact old
      · exact member
  | noPort =>
      exact ⟨inv, fun _ => id, fun _ _ => Iff.rfl, by simp⟩
  | full =>
      exact ⟨⟨kept.1, kept.2, inv.addresses, inv.clients⟩, fun _ => id, fun _ _ => Iff.rfl, by simp⟩
  | @assigned _ _ wanIp port rest chosen ready row place =>
      have entries := connections_withRow (pool.shifted wanIp rest)
        { wanIp := wanIp, wanPort := port, lanIp := inetNtoa ip, lanPort := lanPort } place
      refine ⟨⟨kept.1, kept.2, inv.addresses, ?_⟩, rowsKept_withRow (pool.shifted wanIp rest) _ _,
        by simp, ?_⟩
      · intro entry member
        rcases List.mem_cons.mp (entries.mem_iff.mp member) with rfl | old
        · exact ⟨ip, word, rfl⟩
        · exact inv.clients entry old
      · intro entry same
        cases same
        refine ⟨rfl, rfl, ?_, fun other => ?_⟩
        · rw [Pool.withRow, get_set_self]
          simp
        · rw [entries.mem_iff, List.mem_cons]
          exact or_comm

/-- What the server relies on when it releases. -/
structure Releases (pool : Pool) (released : Connection) (result : Pool × Released) : Prop where
  inv : DatabaseInv result.1
  kept : RowsKept pool result.1
  answers : get pool.db released.lanIp ≠ none → result.2 ≠ .threw
  entries : ∀ entry, entry ∈ result.1.connections ↔ entry ∈ pool.connections ∧ entry ≠ released

theorem releases (inv : DatabaseInv pool) (released : Connection)
    (lan : isIPv4 released.lanIp = true) (wan : isIPv4 released.wanIp = true) :
    Releases pool released (releaseConnection pool released.lanIp released.lanPort released.wanIp
      released.wanPort) := by
  have kept := apply_inv comparison_subperm inv.formed inv.stocked
    (.releaseConnection released.lanIp released.lanPort released.wanIp released.wanPort)
    (fun leaks => absurd leaks id)
  rw [Pool.apply] at kept
  have given := releaseConnection_case inv.formed released.lanIp released.lanPort released.wanIp
    released.wanPort
  generalize releaseConnection pool released.lanIp released.lanPort released.wanIp
    released.wanPort = result at given kept ⊢
  cases given with
  | unchanged unmatched =>
      obtain ⟨answers, missing⟩ := unmatched lan wan
      refine ⟨inv, fun _ => id, answers, fun entry => ⟨fun member => ⟨member, ?_⟩, And.left⟩⟩
      rintro rfl
      have unequal := missing entry member
      rw [matchesConnection_eq_true.mpr rfl] at unequal
      cases unequal
  | @released before after entry ports present free matched =>
      have identical : entry = released := matchesConnection_eq_true.mp matched
      subst identical
      have entries := connections_withoutRow present
      have others : ∀ other, other = entry ∨
          other ∈ (pool.withRow entry.lanIp (before ++ after)).connections ↔
            other ∈ pool.connections := by
        intro other
        rw [← List.mem_cons]
        exact entries.mem_iff
      refine ⟨⟨kept.1, kept.2, inv.addresses, ?_⟩, rowsKept_withRow pool _ _, by simp, ?_⟩
      · intro other member
        exact inv.clients other ((others other).mp (.inr member))
      · intro other
        have distinct := (entries.map fun entry => (entry.lanIp, entry.lanPort)).nodup_iff.mpr
          inv.formed.clients
        rw [List.map_cons, List.nodup_cons] at distinct
        constructor
        · intro member
          refine ⟨(others other).mp (.inr member), ?_⟩
          rintro rfl
          exact distinct.1 (List.mem_map_of_mem member)
        · intro member
          exact ((others other).mpr member.1).resolve_left member.2

theorem newEntry_database (startPort endPort maxConnection : Int) (addrs : List (BitVec 32)) :
    DatabaseInv (newEntry startPort endPort maxConnection
      ((addrs.map BitVec.toNat).map inetNtoa)) ∧
    (newEntry startPort endPort maxConnection
      ((addrs.map BitVec.toNat).map inetNtoa)).connections = [] := by
  have fresh := newEntry_inv comparison_subperm startPort endPort maxConnection
    ((addrs.map BitVec.toNat).map inetNtoa)
  have areAddresses : ∀ addr ∈ (addrs.map BitVec.toNat).map inetNtoa, isIPv4 addr = true := by
    intro addr announced
    obtain ⟨n, -, rfl⟩ := List.mem_map.mp announced
    exact isIPv4_inetNtoa n
  have empty : (newEntry startPort endPort maxConnection
      ((addrs.map BitVec.toNat).map inetNtoa)).connections = [] := by
    rw [Pool.connections, newEntry, addPoolAddresses_db]
    rfl
  refine ⟨⟨fresh.1, fresh.2, ?_, ?_⟩, empty⟩
  · intro addr member
    rw [newEntry, mem_addPoolAddresses areAddresses] at member
    rcases member with none | announced
    · cases none
    · simp only [List.mem_map] at announced
      obtain ⟨n, ⟨word, -, isWord⟩, isAddr⟩ := announced
      exact ⟨n, isWord ▸ word.isLt, isAddr.symm⟩
  · rw [empty]
    simp

end Database

structure Both (property : Pool → Prop) (server : Server) : Prop where
  tcp : property server.tcpDB
  udp : property server.udpDB

section Both

variable {property : Pool → Prop} {server : Server}

theorem Both.databaseOf (both : Both property server) {protocol : Nat} {pool : Pool}
    (found : server.databaseOf protocol = some pool) : property pool := by
  unfold Server.databaseOf at found
  split at found
  · cases found
    exact both.tcp
  · split at found
    · cases found
      exact both.udp
    · cases found

theorem Both.withDatabase (both : Both property server) (protocol : Nat) {pool : Pool}
    (holds : property pool) : Both property (server.withDatabase protocol pool) := by
  unfold Server.withDatabase
  split
  · exact ⟨holds, both.udp⟩
  · split
    · exact ⟨both.tcp, holds⟩
    · exact both

end Both

def Fields.connection (fields : Fields) : Connection :=
  { wanIp := inetNtoa fields.wanIp, wanPort := fields.wanPort
    lanIp := inetNtoa fields.lanIp, lanPort := fields.lanPort }

/-- Both addresses fit the text conversion. -/
structure Fields.Words (fields : Fields) : Prop where
  lan : fields.lanIp < 2 ^ 32
  wan : fields.wanIp < 2 ^ 32

theorem Fields.connection_inj {left right : Fields} (leftWords : left.Words)
    (rightWords : right.Words) (protocol : left.protocol = right.protocol)
    (same : left.connection = right.connection) : left = right := by
  obtain ⟨sameWanIp, sameWanPort, sameLanIp, sameLanPort⟩ := Connection.mk.inj same
  have wanIp := inetNtoa_inj leftWords.wan rightWords.wan sameWanIp
  have lanIp := inetNtoa_inj leftWords.lan rightWords.lan sameLanIp
  cases left
  cases right
  simp only at protocol wanIp lanIp sameWanPort sameLanPort
  rw [protocol, wanIp, lanIp, sameWanPort, sameLanPort]

namespace Server

variable {server : Server}

def Mapped (server : Server) (fields : Fields) : Prop :=
  fields.Words ∧
    ∃ pool, server.databaseOf fields.protocol = some pool ∧ fields.connection ∈ pool.connections

def HasRow (server : Server) (protocol ip : Nat) : Prop :=
  ∃ pool, server.databaseOf protocol = some pool ∧ get pool.db (inetNtoa ip) ≠ none

structure Inv (server : Server) : Prop where
  tcp : DatabaseInv server.tcpDB
  udp : DatabaseInv server.udpDB

theorem Inv.both (inv : server.Inv) : Both DatabaseInv server := ⟨inv.tcp, inv.udp⟩

theorem Inv.databaseOf {protocol : Nat} {pool : Pool} (inv : server.Inv)
    (found : server.databaseOf protocol = some pool) : DatabaseInv pool :=
  inv.both.databaseOf found

theorem Inv.withDatabase {pool : Pool} (inv : server.Inv) (protocol : Nat)
    (database : DatabaseInv pool) : (server.withDatabase protocol pool).Inv :=
  have both := inv.both.withDatabase protocol database
  ⟨both.tcp, both.udp⟩

theorem databaseOf_withDatabase_self {protocol : Nat} {old : Pool} (pool : Pool)
    (found : server.databaseOf protocol = some old) :
    (server.withDatabase protocol pool).databaseOf protocol = some pool := by
  rw [databaseOf, withDatabase] at *
  cases tcp : isTCP protocol with
  | true => rfl
  | false =>
      cases udp : isUDP protocol with
      | true => rfl
      | false =>
          rw [tcp, udp] at found
          cases found

theorem databaseOf_withDatabase_other {protocol other : Nat} (pool : Pool)
    (different : other ≠ protocol) :
    (server.withDatabase protocol pool).databaseOf other = server.databaseOf other := by
  rw [databaseOf, databaseOf, withDatabase]
  cases tcp : isTCP protocol with
  | true =>
      have otherTcp : isTCP other = false := by
        simp only [isTCP, beq_iff_eq, beq_eq_false_iff_ne] at tcp ⊢
        omega
      rw [otherTcp]
      rfl
  | false =>
      cases udp : isUDP protocol with
      | true =>
          have otherUdp : isUDP other = false := by
            simp only [isUDP, beq_iff_eq, beq_eq_false_iff_ne] at udp ⊢
            omega
          rw [otherUdp]
          rfl
      | false => rfl

/-- One message keeps the databases sound and every row in place. -/
structure Serves (before after : Server) : Prop where
  inv : after.Inv
  kept : ∀ protocol ip, before.HasRow protocol ip → after.HasRow protocol ip

theorem Serves.refl (inv : server.Inv) : Serves server server := ⟨inv, fun _ _ => id⟩

theorem serves_withDatabase {protocol : Nat} {old pool : Pool} (inv : server.Inv)
    (found : server.databaseOf protocol = some old) (database : DatabaseInv pool)
    (kept : RowsKept old pool) : Serves server (server.withDatabase protocol pool) := by
  refine ⟨inv.withDatabase protocol database, ?_⟩
  rintro other ip ⟨held, isHeld, row⟩
  by_cases same : other = protocol
  · subst same
    rw [found] at isHeld
    cases isHeld
    exact ⟨pool, databaseOf_withDatabase_self pool found, kept _ row⟩
  · exact ⟨held, (databaseOf_withDatabase_other pool same).trans isHeld, row⟩

theorem mapped_iff {protocol : Nat} {pool : Pool} (found : server.databaseOf protocol = some pool)
    {fields : Fields} (same : fields.protocol = protocol) :
    server.Mapped fields ↔ fields.Words ∧ fields.connection ∈ pool.connections := by
  constructor
  · rintro ⟨words, held, isHeld, member⟩
    rw [same, found] at isHeld
    cases isHeld
    exact ⟨words, member⟩
  · rintro ⟨words, member⟩
    exact ⟨words, pool, same ▸ found, member⟩

theorem mapped_withDatabase_other {protocol : Nat} (pool : Pool) {fields : Fields}
    (different : fields.protocol ≠ protocol) :
    (server.withDatabase protocol pool).Mapped fields ↔ server.Mapped fields := by
  rw [Mapped, Mapped, databaseOf_withDatabase_other pool different]

theorem mapped_refused {protocol : Nat} {old pool : Pool}
    (found : server.databaseOf protocol = some old)
    (entries : ∀ entry, entry ∈ pool.connections ↔ entry ∈ old.connections) (fields : Fields) :
    (server.withDatabase protocol pool).Mapped fields ↔ server.Mapped fields := by
  by_cases same : fields.protocol = protocol
  · rw [mapped_iff (databaseOf_withDatabase_self pool found) same, mapped_iff found same, entries]
  · exact mapped_withDatabase_other pool same

theorem mapped_granted {grant : Fields} {old pool : Pool} (words : grant.Words)
    (found : server.databaseOf grant.protocol = some old)
    (entries : ∀ entry, entry ∈ pool.connections ↔
      entry ∈ old.connections ∨ entry = grant.connection) (fields : Fields) :
    (server.withDatabase grant.protocol pool).Mapped fields ↔
      server.Mapped fields ∨ fields = grant := by
  by_cases same : fields.protocol = grant.protocol
  · rw [mapped_iff (databaseOf_withDatabase_self pool found) same, mapped_iff found same, entries]
    constructor
    · rintro ⟨known, old | new⟩
      · exact .inl ⟨known, old⟩
      · exact .inr (Fields.connection_inj known words same new)
    · rintro (⟨known, old⟩ | rfl)
      · exact ⟨known, .inl old⟩
      · exact ⟨words, .inr rfl⟩
  · rw [mapped_withDatabase_other pool same]
    have different : fields ≠ grant := fun equal => same (congrArg Fields.protocol equal)
    exact (or_iff_left different).symm

theorem mapped_released {gone : Fields} {old pool : Pool} (words : gone.Words)
    (found : server.databaseOf gone.protocol = some old)
    (entries : ∀ entry, entry ∈ pool.connections ↔
      entry ∈ old.connections ∧ entry ≠ gone.connection) (fields : Fields) :
    (server.withDatabase gone.protocol pool).Mapped fields ↔
      server.Mapped fields ∧ fields ≠ gone := by
  by_cases same : fields.protocol = gone.protocol
  · rw [mapped_iff (databaseOf_withDatabase_self pool found) same, mapped_iff found same, entries]
    constructor
    · rintro ⟨known, member, different⟩
      exact ⟨⟨known, member⟩, fun equal => different (congrArg Fields.connection equal)⟩
    · rintro ⟨⟨known, member⟩, different⟩
      exact ⟨known, member, fun equal => different (Fields.connection_inj known words same equal)⟩
  · rw [mapped_withDatabase_other pool same]
    have different : fields ≠ gone := fun equal => same (congrArg Fields.protocol equal)
    exact (and_iff_left different).symm

/-- The answer to a request names its client; a grant is the one new mapping. -/
structure Requested (server : Server) (protocol ipSrc : Nat) (portSrc : Int)
    (after : Server) (reply : Reply) : Prop where
  serves : Serves server after
  sameProtocol : reply.fields.protocol = protocol
  sameIp : reply.fields.lanIp = ipSrc
  samePort : reply.fields.lanPort = portSrc
  outcome :
    reply.type = .requestDiscard ∧ (∀ fields, after.Mapped fields ↔ server.Mapped fields) ∨
    reply.type = .requestAck ∧ after.HasRow protocol ipSrc ∧
      ∀ fields, after.Mapped fields ↔ server.Mapped fields ∨ fields = reply.fields

theorem mkMessage_request (inv : server.Inv) (socketId : JsString) (protocol : Nat) {ipSrc : Nat}
    (word : ipSrc < 2 ^ 32) (portSrc : Int) (ipDst : Nat) (portDst : Int) :
    ∃ after reply, server.mkMessage socketId (.request protocol ipSrc portSrc ipDst portDst) =
        (after, .reply reply) ∧ Requested server protocol ipSrc portSrc after reply := by
  cases found : server.databaseOf protocol with
  | none =>
      have echoed := inetAton_inetNtoa word
      rw [mkMessage, request, found]
      simp only [echoed]
      exact ⟨_, _, rfl, Serves.refl inv, rfl, rfl, rfl, .inl ⟨rfl, fun _ => Iff.rfl⟩⟩
  | some pool =>
      have given := assigns (inv.databaseOf found) word portSrc
      simp only [mkMessage, request, found]
      generalize assignConnection pool (inetNtoa ipSrc) portSrc = result at given ⊢
      obtain ⟨newPool, outcome⟩ := result
      have serves := serves_withDatabase inv found given.inv given.kept
      cases outcome with
      | none =>
          simp only [inetAton_inetNtoa word]
          exact ⟨_, _, rfl, serves, rfl, rfl, rfl,
            .inl ⟨rfl, mapped_refused found (given.refused rfl)⟩⟩
      | some entry =>
          obtain ⟨sameIp, samePort, row, entries⟩ := given.granted entry rfl
          obtain ⟨wan, wanWord, isWan⟩ : ∃ n < 2 ^ 32, entry.wanIp = inetNtoa n :=
            given.inv.addresses _ (given.inv.formed.pooled entry ((entries entry).mpr (.inr rfl)))
          have isEntry : Fields.connection
              { protocol := protocol, lanIp := ipSrc, lanPort := entry.lanPort
                wanIp := wan, wanPort := entry.wanPort } = entry := by
            rw [Fields.connection, ← isWan, ← sameIp]
          rw [← isEntry] at entries
          simp only [sameIp, isWan, inetAton_inetNtoa word, inetAton_inetNtoa wanWord]
          refine ⟨_, _, rfl, serves, rfl, rfl, samePort, .inr ⟨rfl, ?_, ?_⟩⟩
          · exact ⟨newPool, databaseOf_withDatabase_self newPool found, row⟩
          · exact mapped_granted ⟨word, wanWord⟩ found entries

theorem mkMessage_release (inv : server.Inv) (socketId : JsString) {fields : Fields}
    (words : fields.Words) (row : server.HasRow fields.protocol fields.lanIp) :
    ∃ after, server.mkMessage socketId (.release fields) =
        (after, .reply { type := .releaseAck, fields := fields }) ∧ Serves server after ∧
      ∀ other, after.Mapped other ↔ server.Mapped other ∧ other ≠ fields := by
  obtain ⟨pool, found, hasRow⟩ := row
  have given := releases (inv.databaseOf found) fields.connection (isIPv4_inetNtoa _)
    (isIPv4_inetNtoa _)
  have echoed : ({ fields with
      lanIp := inetAton (inetNtoa fields.lanIp), wanIp := inetAton (inetNtoa fields.wanIp) } :
        Fields) = fields := by
    rw [inetAton_inetNtoa words.lan, inetAton_inetNtoa words.wan]
  rw [mkMessage, release, found]
  simp only [echoed]
  have answers := given.answers hasRow
  have serves := serves_withDatabase inv found given.inv given.kept
  have entries := given.entries
  change Serves server (server.withDatabase fields.protocol (releaseConnection pool
    (inetNtoa fields.lanIp) fields.lanPort (inetNtoa fields.wanIp) fields.wanPort).1) at serves
  change (releaseConnection pool (inetNtoa fields.lanIp) fields.lanPort (inetNtoa fields.wanIp)
    fields.wanPort).2 ≠ .threw at answers
  change ∀ entry, entry ∈ (releaseConnection pool (inetNtoa fields.lanIp) fields.lanPort
    (inetNtoa fields.wanIp) fields.wanPort).1.connections ↔
      entry ∈ pool.connections ∧ entry ≠ fields.connection at entries
  generalize releaseConnection pool (inetNtoa fields.lanIp) fields.lanPort
    (inetNtoa fields.wanIp) fields.wanPort = result at answers serves entries ⊢
  obtain ⟨newPool, outcome⟩ := result
  refine ⟨server.withDatabase fields.protocol newPool, ?_, serves, ?_⟩
  · cases outcome with
    | threw => exact absurd rfl answers
    | done => rfl
    | refused => rfl
  · exact mapped_released words found entries

end Server

end PoolServer
end NatPorte
