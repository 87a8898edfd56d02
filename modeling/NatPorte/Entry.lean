/-
The port pool of entry.js, one object per transport protocol.

Addresses are JavaScript strings, kept as lists of characters; ports and bounds
are integer numbers.  Log and print methods are left out, and so is the
`protocol` field, which no method reads.
-/

import Mathlib.Data.List.Perm.Subperm
import NatPorte.Library.Numerals
import NatPorte.Library.ObjectMap
import NatPorte.Library.StepSystem

namespace NatPorte
namespace Entry

open ObjectMap StepSystem

abbrev JsString := List Char

instance lawfulJsString : LawfulBEq JsString := List.instLawfulBEq

/-! ### nettool.js -/

def isDigit (char : Char) : Bool := '0' ≤ char && char ≤ '9'

/-- One group of the address pattern: `\d|[01]?\d\d|2[0-4]\d|25[0-5]`. -/
def isOctet : JsString → Bool
  | [a] => isDigit a
  | [a, b] => isDigit a && isDigit b
  | [a, b, c] =>
      (a == '0' || a == '1') && isDigit b && isDigit c ||
        a == '2' && ('0' ≤ b && b ≤ '4') && isDigit c ||
        a == '2' && b == '5' && ('0' ≤ c && c ≤ '5')
  | _ => false

/-- `text.split(".")` -/
def splitDots : JsString → List JsString
  | [] => [[]]
  | char :: rest =>
      if char = '.' then [] :: splitDots rest
      else
        match splitDots rest with
        | [] => [[char]]
        | first :: others => (char :: first) :: others

def isIPv4 (addr : JsString) : Bool :=
  match splitDots addr with
  | [a, b, c, d] => isOctet a && isOctet b && isOctet c && isOctet d
  | _ => false

/-- `parseInt` of a string of digits. -/
def parseInt (digits : JsString) : Nat :=
  digits.foldl (fun number digit => number * 10 + (digit.toNat - '0'.toNat)) 0

/-- The digits that parseInt reads. -/
def decimals : Numerals Char where
  base := 10
  IsDigit := fun char => isDigit char = true
  digit := fun char => char.toNat - '0'.toNat
  below := by
    intro char digit
    rw [isDigit, Bool.and_eq_true, decide_eq_true_eq, decide_eq_true_eq] at digit
    have upper : char.toNat ≤ '9'.toNat := digit.2
    have nine : '9'.toNat = 57 := rfl
    have zero : '0'.toNat = 48 := rfl
    omega
  ordered := by
    intro left right leftDigit rightDigit
    rw [isDigit, Bool.and_eq_true, decide_eq_true_eq, decide_eq_true_eq] at leftDigit rightDigit
    have leftLow : '0'.toNat ≤ left.toNat := leftDigit.1
    have rightLow : '0'.toNat ≤ right.toNat := rightDigit.1
    have order : left < right ↔ left.toNat < right.toNat := Iff.rfl
    rw [order]
    omega

/-! ### The pool -/

/-- One element of a row `db[lan_ip]`. -/
structure Connection where
  wanIp : JsString
  wanPort : Int
  lanIp : JsString
  lanPort : Int
  deriving DecidableEq, Repr

structure Pool where
  startPort : Int
  endPort : Int
  maxConnection : Int
  poolAddrs : List JsString
  db : Object JsString (List Connection)
  poolPorts : Object JsString (List Int)
  deriving DecidableEq, Repr

/-- `for (var j=startPort; j<=endPort; j++)` -/
def portRange (startPort endPort : Int) : List Int :=
  (List.range (endPort + 1 - startPort).toNat).map fun index : Nat => startPort + (index : Int)

/-- One round of the loops in `addPoolAddresses`; a single string takes the same steps. -/
def addPoolAddress (pool : Pool) (addr : JsString) : Pool :=
  if isIPv4 addr = false then pool
  else if addr ∈ pool.poolAddrs then pool
  else
    { pool with
      poolAddrs := pool.poolAddrs ++ [addr]
      poolPorts := set pool.poolPorts addr (portRange pool.startPort pool.endPort) }

def addPoolAddresses (pool : Pool) (addrs : List JsString) : Pool :=
  addrs.foldl addPoolAddress pool

def delDBEntoryByPoolAddr (pool : Pool) (addr : JsString) : Pool :=
  { pool with
    db := pool.db.map fun row => (row.1, row.2.filter fun entry => entry.wanIp ≠ addr) }

def delPoolAddress (pool : Pool) (addr : JsString) : Pool :=
  if isIPv4 addr = false then pool
  else if addr ∈ pool.poolAddrs then
    delDBEntoryByPoolAddr
      { pool with
        poolAddrs := pool.poolAddrs.erase addr
        poolPorts := delete pool.poolPorts addr } addr
  else pool

def delPoolAddresses (pool : Pool) (addrs : List JsString) : Pool :=
  addrs.foldl delPoolAddress pool

def newEntry (startPort endPort maxConnection : Int) (wanAddrs : List JsString) : Pool :=
  addPoolAddresses
    { startPort := startPort, endPort := endPort, maxConnection := maxConnection
      poolAddrs := [], db := [], poolPorts := [] } wanAddrs

def sameEntryCheck (pool : Pool) (lanIp : JsString) (lanPort : Int) : Option Connection :=
  match get pool.db lanIp with
  | none => none
  | some entryList => entryList.find? fun entry => entry.lanIp = lanIp ∧ entry.lanPort = lanPort

/-- The last octet picks the address; an empty list of addresses gives undefined. -/
def assignWanIP (pool : Pool) (ipSrc : JsString) : Option JsString :=
  if isIPv4 ipSrc then
    match (splitDots ipSrc)[3]? with
    | none => none
    | some segment => pool.poolAddrs[parseInt segment % pool.poolAddrs.length]?
  else none

/-- The pool without the port that `shift` took. -/
def Pool.shifted (pool : Pool) (wanIp : JsString) (rest : List Int) : Pool :=
  { pool with poolPorts := set pool.poolPorts wanIp rest }

def Pool.withRow (pool : Pool) (lanIp : JsString) (row : List Connection) : Pool :=
  { pool with db := set pool.db lanIp row }

/-- `pool_ports[ip].shift()`: the first free port and the pool without it. -/
def assignWanPort (pool : Pool) (wanIp : JsString) : Option (Pool × Int) :=
  match get pool.poolPorts wanIp with
  | none => none
  | some [] => none
  | some (port :: rest) => some (pool.shifted wanIp rest, port)

/-- The port leaves the free list before the row's length is looked at. -/
def assignConnection (pool : Pool) (lanIp : JsString) (lanPort : Int) :
    Pool × Option Connection :=
  if isIPv4 lanIp then
    match sameEntryCheck pool lanIp lanPort with
    | some entry => (pool, some entry)
    | none =>
        match assignWanIP pool lanIp with
        | none => (pool, none)
        | some wanIp =>
            match assignWanPort pool wanIp with
            | none => (pool, none)
            | some (pool, wanPort) =>
                let result : Connection :=
                  { wanIp := wanIp, wanPort := wanPort, lanIp := lanIp, lanPort := lanPort }
                match get pool.db lanIp with
                | some row =>
                    if row.length < pool.maxConnection then
                      (pool.withRow lanIp (row ++ [result]), some result)
                    else (pool, none)
                | none => (pool.withRow lanIp [result], some result)
  else (pool, none)

/-- How a call of `releaseConnection` ends. -/
inductive Released where
  | done | refused
  /-- a TypeError: the client has no row, or the address has no free list -/
  | threw
  deriving DecidableEq, Repr

def matchesConnection (lanIp : JsString) (lanPort : Int) (wanIp : JsString) (wanPort : Int)
    (entry : Connection) : Bool :=
  entry.lanIp = lanIp ∧ entry.wanIp = wanIp ∧ entry.lanPort = lanPort ∧ entry.wanPort = wanPort

def releaseWanPort (pool : Pool) (wanIp : JsString) (wanPort : Int) : Option Pool :=
  match get pool.poolPorts wanIp with
  | none => none
  | some ports => some { pool with poolPorts := set pool.poolPorts wanIp (ports ++ [wanPort]) }

def releaseConnection (pool : Pool) (lanIp : JsString) (lanPort : Int) (wanIp : JsString)
    (wanPort : Int) : Pool × Released :=
  if isIPv4 lanIp = false then (pool, .refused)
  else if isIPv4 wanIp = false then (pool, .refused)
  else
    match get pool.db lanIp with
    | none => (pool, .threw)
    | some table =>
        if table.any (matchesConnection lanIp lanPort wanIp wanPort) then
          let pool :=
            pool.withRow lanIp (table.eraseP (matchesConnection lanIp lanPort wanIp wanPort))
          match releaseWanPort pool wanIp wanPort with
          | none => (pool, .threw)
          | some pool => (pool, .done)
        else (pool, .refused)

inductive Call where
  | addPoolAddresses (addrs : List JsString)
  | delPoolAddresses (addrs : List JsString)
  | assignConnection (lanIp : JsString) (lanPort : Int)
  | releaseConnection (lanIp : JsString) (lanPort : Int) (wanIp : JsString) (wanPort : Int)

def Pool.apply (pool : Pool) : Call → Pool
  | .addPoolAddresses addrs => addPoolAddresses pool addrs
  | .delPoolAddresses addrs => delPoolAddresses pool addrs
  | .assignConnection lanIp lanPort => (assignConnection pool lanIp lanPort).1
  | .releaseConnection lanIp lanPort wanIp wanPort =>
      (releaseConnection pool lanIp lanPort wanIp wanPort).1

def poolStep (pool : Pool) (call : Call) : Option Pool := some (pool.apply call)

def Pool.connections (pool : Pool) : List Connection := contents pool.db

def Pool.free (pool : Pool) (addr : JsString) : List Int := (get pool.poolPorts addr).getD []

def portsOf (addr : JsString) (entries : List Connection) : List Int :=
  (entries.filter fun entry => entry.wanIp = addr).map Connection.wanPort

/-- The ports of an address, free or assigned. -/
def Pool.stock (pool : Pool) (addr : JsString) : List Int :=
  pool.free addr ++ portsOf addr pool.connections

structure WellFormed (pool : Pool) : Prop where
  addrsNodup : pool.poolAddrs.Nodup
  portsNodup : (keys pool.poolPorts).Nodup
  portsKeys : ∀ addr, addr ∈ keys pool.poolPorts ↔ addr ∈ pool.poolAddrs
  dbNodup : (keys pool.db).Nodup
  home : ∀ lanIp row, (lanIp, row) ∈ pool.db → ∀ entry ∈ row, entry.lanIp = lanIp
  pooled : ∀ entry ∈ pool.connections, entry.wanIp ∈ pool.poolAddrs
  clients : (pool.connections.map fun entry => (entry.lanIp, entry.lanPort)).Nodup

/-- The free and the assigned ports of every pooled address, compared with the
whole range.  Equality up to order is conservation; being contained is exclusivity. -/
def Stocked (related : List Int → List Int → Prop) (pool : Pool) : Prop :=
  ∀ addr ∈ pool.poolAddrs, related (pool.stock addr) (portRange pool.startPort pool.endPort)

/-- What the two comparisons share. -/
structure Comparison (related : List Int → List Int → Prop) : Prop where
  self : ∀ ports, related ports ports
  perm : ∀ {left middle right : List Int}, left.Perm middle → related middle right →
    related left right

theorem comparison_perm : Comparison List.Perm where
  self := List.Perm.refl
  perm := List.Perm.trans

theorem comparison_subperm : Comparison List.Subperm where
  self := List.Subperm.refl
  perm := fun left right => left.subperm.trans right

section Addresses

variable {related : List Int → List Int → Prop} {pool : Pool}

theorem portsOf_of_unpooled (formed : WellFormed pool) {addr : JsString}
    (unpooled : addr ∉ pool.poolAddrs) : portsOf addr pool.connections = [] := by
  rw [portsOf, List.filter_eq_nil_iff.mpr, List.map_nil]
  intro entry member same
  have here : entry.wanIp = addr := of_decide_eq_true same
  exact unpooled (here ▸ formed.pooled entry member)

theorem addPoolAddress_formed (formed : WellFormed pool) (addr : JsString) :
    WellFormed (addPoolAddress pool addr) := by
  rw [addPoolAddress]
  split
  · exact formed
  · split
    · exact formed
    · next unpooled =>
        constructor
        · refine List.nodup_append.mpr ⟨formed.addrsNodup, List.nodup_singleton addr, ?_⟩
          rintro old inPool new isAddr rfl
          exact unpooled (List.mem_singleton.mp isAddr ▸ inPool)
        · exact nodup_keys_set formed.portsNodup
        · intro other
          rw [mem_keys_set, formed.portsKeys, List.mem_append, List.mem_singleton]
          exact or_comm
        · exact formed.dbNodup
        · exact formed.home
        · intro entry member
          exact List.mem_append_left _ (formed.pooled entry member)
        · exact formed.clients

theorem addPoolAddress_stocked (comparison : Comparison related) (formed : WellFormed pool)
    (stocked : Stocked related pool) (addr : JsString) :
    Stocked related (addPoolAddress pool addr) := by
  rw [addPoolAddress]
  split
  · exact stocked
  · split
    · exact stocked
    · next unpooled =>
        intro other member
        rcases List.mem_append.mp member with inPool | isNew
        · have different : other ≠ addr := fun same => unpooled (same ▸ inPool)
          rw [Pool.stock, Pool.free, get_set_other different]
          exact stocked other inPool
        · have same : other = addr := List.mem_singleton.mp isNew
          subst same
          have unused := portsOf_of_unpooled formed unpooled
          rw [Pool.connections] at unused
          rw [Pool.stock, Pool.free, get_set_self, Pool.connections, unused, List.append_nil]
          exact comparison.self _

theorem delPoolAddress_cases (pool : Pool) (addr : JsString) :
    delPoolAddress pool addr = pool ∨
      delPoolAddress pool addr =
        { pool with
          poolAddrs := pool.poolAddrs.erase addr
          poolPorts := delete pool.poolPorts addr
          db := pool.db.map fun row =>
            (row.1, row.2.filter fun entry => entry.wanIp ≠ addr) } := by
  by_cases isAddress : isIPv4 addr = true
  · by_cases pooled : addr ∈ pool.poolAddrs
    · rw [delPoolAddress, if_neg (by simp [isAddress]), if_pos pooled, delDBEntoryByPoolAddr]
      exact .inr rfl
    · rw [delPoolAddress, if_neg (by simp [isAddress]), if_neg pooled]
      exact .inl rfl
  · rw [delPoolAddress, if_pos (by simpa using isAddress)]
    exact .inl rfl

theorem delPoolAddress_formed (formed : WellFormed pool) (addr : JsString) :
    WellFormed (delPoolAddress pool addr) := by
  rcases delPoolAddress_cases pool addr with result | result
  · rw [result]
    exact formed
  rw [result]
  constructor
  · exact formed.addrsNodup.erase addr
  · exact nodup_keys_delete formed.portsNodup
  · intro other
    rw [mem_keys_delete, formed.portsKeys, formed.addrsNodup.mem_erase_iff]
    exact and_comm
  · change (keys (pool.db.map _)).Nodup
    rw [keys_map_values fun row : List Connection => row.filter fun entry => entry.wanIp ≠ addr]
    exact formed.dbNodup
  · intro lanIp row member entry inRow
    obtain ⟨⟨name, old⟩, inDb, same⟩ := List.mem_map.mp member
    cases same
    exact formed.home name old inDb entry (List.mem_filter.mp inRow).1
  · intro entry member
    change entry ∈ contents (pool.db.map _) at member
    rw [contents_map_filter (fun entry : Connection => decide (entry.wanIp ≠ addr))] at member
    obtain ⟨inPool, different⟩ := List.mem_filter.mp member
    exact formed.addrsNodup.mem_erase_iff.mpr
      ⟨of_decide_eq_true different, formed.pooled entry inPool⟩
  · change ((contents (pool.db.map _)).map _).Nodup
    rw [contents_map_filter (fun entry : Connection => decide (entry.wanIp ≠ addr))]
    exact List.Nodup.sublist (List.Sublist.map _ List.filter_sublist) formed.clients

theorem delPoolAddress_stocked (formed : WellFormed pool) (stocked : Stocked related pool)
    (addr : JsString) : Stocked related (delPoolAddress pool addr) := by
  rcases delPoolAddress_cases pool addr with result | result
  · rw [result]
    exact stocked
  rw [result]
  intro other member
  obtain ⟨different, inPool⟩ := formed.addrsNodup.mem_erase_iff.mp member
  have unused : portsOf other (contents (pool.db.map fun row =>
      (row.1, row.2.filter fun entry => entry.wanIp ≠ addr))) =
      portsOf other pool.connections := by
    rw [contents_map_filter (fun entry : Connection => decide (entry.wanIp ≠ addr)), portsOf,
      portsOf, List.filter_filter, Pool.connections]
    congr 1
    refine List.filter_congr (fun entry _ => ?_)
    by_cases here : entry.wanIp = other
    · simp [here, different]
    · simp [here]
  rw [Pool.stock, Pool.free, get_delete_other different, Pool.connections, unused]
  exact stocked other inPool

end Addresses

def RowFull (pool : Pool) (lanIp : JsString) : Prop :=
  ∃ row, get pool.db lanIp = some row ∧ pool.maxConnection ≤ row.length

def PortReady (pool : Pool) (lanIp : JsString) : Prop :=
  ∃ wanIp port rest, assignWanIP pool lanIp = some wanIp ∧
    get pool.poolPorts wanIp = some (port :: rest)

/-- Everything a call of `assignConnection` can do. -/
inductive AssignCase (pool : Pool) (lanIp : JsString) (lanPort : Int) :
    Pool × Option Connection → Prop
  | notAddress (isNot : isIPv4 lanIp = false) : AssignCase pool lanIp lanPort (pool, none)
  | known (isAddress : isIPv4 lanIp = true) {entry : Connection}
      (found : sameEntryCheck pool lanIp lanPort = some entry) :
      AssignCase pool lanIp lanPort (pool, some entry)
  | noPort (isAddress : isIPv4 lanIp = true)
      (missing : sameEntryCheck pool lanIp lanPort = none) (noneReady : ¬PortReady pool lanIp) :
      AssignCase pool lanIp lanPort (pool, none)
  | full (isAddress : isIPv4 lanIp = true)
      (missing : sameEntryCheck pool lanIp lanPort = none) {wanIp : JsString} {port : Int}
      {rest : List Int} (chosen : assignWanIP pool lanIp = some wanIp)
      (ready : get pool.poolPorts wanIp = some (port :: rest)) (full : RowFull pool lanIp) :
      AssignCase pool lanIp lanPort (pool.shifted wanIp rest, none)
  | assigned (isAddress : isIPv4 lanIp = true)
      (missing : sameEntryCheck pool lanIp lanPort = none) {wanIp : JsString} {port : Int}
      {rest : List Int} (chosen : assignWanIP pool lanIp = some wanIp)
      (ready : get pool.poolPorts wanIp = some (port :: rest)) {row : List Connection}
      (place : get pool.db lanIp = some row ∧ row.length < pool.maxConnection ∨
        lanIp ∉ keys pool.db ∧ row = []) :
      AssignCase pool lanIp lanPort
        ((pool.shifted wanIp rest).withRow lanIp
            (row ++ [{ wanIp := wanIp, wanPort := port, lanIp := lanIp, lanPort := lanPort }]),
          some { wanIp := wanIp, wanPort := port, lanIp := lanIp, lanPort := lanPort })

theorem assignConnection_case (pool : Pool) (lanIp : JsString) (lanPort : Int) :
    AssignCase pool lanIp lanPort (assignConnection pool lanIp lanPort) := by
  rw [assignConnection]
  cases isAddress : isIPv4 lanIp with
  | false => exact .notAddress isAddress
  | true =>
      rw [if_pos rfl]
      cases missing : sameEntryCheck pool lanIp lanPort with
      | some entry => exact .known isAddress missing
      | none =>
          cases chosen : assignWanIP pool lanIp with
          | none =>
              refine .noPort isAddress missing ?_
              rintro ⟨wanIp, port, rest, found, -⟩
              rw [chosen] at found
              cases found
          | some wanIp =>
              have unready : ∀ ports, get pool.poolPorts wanIp = ports →
                  (∀ port rest, ports ≠ some (port :: rest)) → ¬PortReady pool lanIp := by
                rintro ports held none ⟨other, port, rest, found, ready⟩
                rw [chosen] at found
                cases found
                exact none port rest (held.symm.trans ready)
              simp only [assignWanPort]
              cases ready : get pool.poolPorts wanIp with
              | none => exact .noPort isAddress missing (unready none ready (by simp))
              | some ports =>
                  cases ports with
                  | nil => exact .noPort isAddress missing (unready (some []) ready (by simp))
                  | cons port rest =>
                      have sameDb : (pool.shifted wanIp rest).db = pool.db := rfl
                      simp only [sameDb]
                      cases present : get pool.db lanIp with
                      | none =>
                          exact .assigned isAddress missing chosen ready
                            (.inr ⟨get_eq_none.mp present, rfl⟩)
                      | some row =>
                          simp only
                          split
                          · next room =>
                              exact .assigned isAddress missing chosen ready
                                (.inl ⟨present, room⟩)
                          · next noRoom =>
                              exact .full isAddress missing chosen ready
                                ⟨row, present, Int.not_lt.mp noRoom⟩

section Assign

variable {related : List Int → List Int → Prop} {pool : Pool} {wanIp lanIp : JsString}
  {port lanPort : Int} {rest : List Int}

theorem shifted_formed (formed : WellFormed pool)
    (ready : get pool.poolPorts wanIp = some (port :: rest)) :
    WellFormed (pool.shifted wanIp rest) where
  addrsNodup := formed.addrsNodup
  portsNodup := nodup_keys_set formed.portsNodup
  portsKeys addr := by
    have known : wanIp ∈ keys pool.poolPorts := by
      by_contra unknown
      rw [get_eq_none.mpr unknown] at ready
      cases ready
    rw [Pool.shifted, keys_set_of_mem known]
    exact formed.portsKeys addr
  dbNodup := formed.dbNodup
  home := formed.home
  pooled := formed.pooled
  clients := formed.clients

theorem stock_shifted_other {addr : JsString} (different : addr ≠ wanIp) :
    (pool.shifted wanIp rest).stock addr = pool.stock addr := by
  rw [Pool.stock, Pool.stock, Pool.free, Pool.shifted, get_set_other different]
  rfl

theorem stock_shifted_self (ready : get pool.poolPorts wanIp = some (port :: rest)) :
    pool.stock wanIp = port :: (pool.shifted wanIp rest).stock wanIp := by
  rw [Pool.stock, Pool.stock, Pool.free, Pool.free, Pool.shifted, get_set_self, ready]
  rfl

theorem row_of_connection (formed : WellFormed pool) {entry : Connection}
    (member : entry ∈ pool.connections) :
    ∃ row, get pool.db entry.lanIp = some row ∧ entry ∈ row := by
  obtain ⟨home, row, inDb, inRow⟩ := mem_contents.mp member
  refine ⟨row, ?_, inRow⟩
  rw [formed.home home row inDb entry inRow]
  exact get_of_mem formed.dbNodup inDb

theorem sameEntryCheck_none (formed : WellFormed pool)
    (missing : sameEntryCheck pool lanIp lanPort = none) :
    ∀ entry ∈ pool.connections, (entry.lanIp, entry.lanPort) ≠ (lanIp, lanPort) := by
  intro entry member same
  obtain ⟨row, inDb, inRow⟩ := row_of_connection formed member
  obtain ⟨sameIp, samePort⟩ := Prod.mk.inj same
  rw [sameIp] at inDb
  rw [sameEntryCheck, inDb] at missing
  exact List.find?_eq_none.mp missing entry inRow (decide_eq_true ⟨sameIp, samePort⟩)

theorem assignWanIP_mem (chosen : assignWanIP pool lanIp = some wanIp) :
    wanIp ∈ pool.poolAddrs := by
  rw [assignWanIP] at chosen
  split at chosen
  · split at chosen
    · cases chosen
    · exact List.mem_of_getElem? chosen
  · cases chosen

theorem connections_withRow (pool : Pool) {row : List Connection} (entry : Connection)
    (place : get pool.db lanIp = some row ∧ row.length < pool.maxConnection ∨
      lanIp ∉ keys pool.db ∧ row = []) :
    (pool.withRow lanIp (row ++ [entry])).connections.Perm (entry :: pool.connections) := by
  rcases place with ⟨present, -⟩ | ⟨fresh, rfl⟩
  · exact contents_push present entry
  · rw [Pool.connections, Pool.withRow, contents_set_new fresh]
    exact List.perm_append_singleton entry _

theorem assigned_formed (formed : WellFormed pool)
    (missing : sameEntryCheck pool lanIp lanPort = none)
    (chosen : assignWanIP pool lanIp = some wanIp) {row : List Connection}
    (place : get pool.db lanIp = some row ∧ row.length < pool.maxConnection ∨
      lanIp ∉ keys pool.db ∧ row = []) :
    WellFormed (pool.withRow lanIp
      (row ++ [{ wanIp := wanIp, wanPort := port, lanIp := lanIp, lanPort := lanPort }])) := by
  have entries := connections_withRow pool
    { wanIp := wanIp, wanPort := port, lanIp := lanIp, lanPort := lanPort } place
  constructor
  · exact formed.addrsNodup
  · exact formed.portsNodup
  · exact formed.portsKeys
  · exact nodup_keys_set formed.dbNodup
  · intro home held member entry inRow
    rcases mem_set member with same | inDb
    · cases same
      rcases List.mem_append.mp inRow with old | new
      · rcases place with ⟨present, -⟩ | ⟨-, rfl⟩
        · exact formed.home lanIp row (mem_of_get present) entry old
        · cases old
      · rw [List.mem_singleton.mp new]
    · exact formed.home home held inDb entry inRow
  · intro entry member
    rcases List.mem_cons.mp (entries.mem_iff.mp member) with rfl | old
    · exact assignWanIP_mem chosen
    · exact formed.pooled entry old
  · rw [(entries.map _).nodup_iff, List.map_cons, List.nodup_cons]
    refine ⟨?_, formed.clients⟩
    intro taken
    obtain ⟨entry, member, same⟩ := List.mem_map.mp taken
    exact sameEntryCheck_none formed missing entry member same

theorem assigned_stock {row : List Connection}
    (ready : get pool.poolPorts wanIp = some (port :: rest))
    (place : get pool.db lanIp = some row ∧ row.length < pool.maxConnection ∨
      lanIp ∉ keys pool.db ∧ row = []) (addr : JsString) :
    (((pool.shifted wanIp rest).withRow lanIp (row ++
        [{ wanIp := wanIp, wanPort := port, lanIp := lanIp, lanPort := lanPort }])).stock
      addr).Perm (pool.stock addr) := by
  have entries := connections_withRow (pool.shifted wanIp rest)
    { wanIp := wanIp, wanPort := port, lanIp := lanIp, lanPort := lanPort } place
  have ports := ((entries.filter fun entry => decide (entry.wanIp = addr)).map
    Connection.wanPort).append_left ((pool.shifted wanIp rest).free addr)
  refine ports.trans ?_
  by_cases here : wanIp = addr
  · subst here
    rw [List.filter_cons_of_pos (by simp), List.map_cons, stock_shifted_self ready]
    exact List.perm_middle
  · rw [List.filter_cons_of_neg (by simp [here]), ← stock_shifted_other (Ne.symm here)]
    exact List.Perm.refl _

/-- Everything a call of `releaseConnection` can do to a well-formed pool: nothing,
or one entry leaves its row and its port goes to the end of the free list. -/
inductive ReleaseCase (pool : Pool) (lanIp : JsString) (lanPort : Int) (wanIp : JsString)
    (wanPort : Int) : Pool × Released → Prop
  | unchanged {result : Released}
      (unmatched : isIPv4 lanIp = true → isIPv4 wanIp = true →
        (get pool.db lanIp ≠ none → result ≠ .threw) ∧
          ∀ entry ∈ pool.connections,
            matchesConnection lanIp lanPort wanIp wanPort entry = false) :
      ReleaseCase pool lanIp lanPort wanIp wanPort (pool, result)
  | released {before after : List Connection} {entry : Connection} {ports : List Int}
      (present : get pool.db lanIp = some (before ++ entry :: after))
      (free : get pool.poolPorts wanIp = some ports)
      (matched : matchesConnection lanIp lanPort wanIp wanPort entry = true) :
      ReleaseCase pool lanIp lanPort wanIp wanPort
        ((pool.withRow lanIp (before ++ after)).shifted wanIp (ports ++ [wanPort]), .done)

theorem matchesConnection_eq_true {wanPort : Int} {entry : Connection} :
    matchesConnection lanIp lanPort wanIp wanPort entry = true ↔
      entry = { wanIp := wanIp, wanPort := wanPort, lanIp := lanIp, lanPort := lanPort } := by
  obtain ⟨entryWanIp, entryWanPort, entryLanIp, entryLanPort⟩ := entry
  simp only [matchesConnection, decide_eq_true_eq, Connection.mk.injEq]
  tauto

theorem releaseConnection_case (formed : WellFormed pool) (lanIp : JsString) (lanPort : Int)
    (wanIp : JsString) (wanPort : Int) :
    ReleaseCase pool lanIp lanPort wanIp wanPort
      (releaseConnection pool lanIp lanPort wanIp wanPort) := by
  rw [releaseConnection]
  cases lan : isIPv4 lanIp with
  | false => exact .unchanged (fun isAddress => by rw [lan] at isAddress; cases isAddress)
  | true =>
  cases wan : isIPv4 wanIp with
  | false => exact .unchanged (fun _ isAddress => by rw [wan] at isAddress; cases isAddress)
  | true =>
  rw [if_neg (by simp), if_neg (by simp)]
  cases present : get pool.db lanIp with
  | none =>
      refine .unchanged (fun _ _ => ⟨fun known => absurd present known, ?_⟩)
      intro entry member
      apply Bool.eq_false_iff.mpr
      intro matched
      obtain ⟨row, inDb, -⟩ := row_of_connection formed member
      rw [matchesConnection_eq_true.mp matched, present] at inDb
      cases inDb
  | some table =>
      simp only
      cases found : table.any (matchesConnection lanIp lanPort wanIp wanPort) with
      | true =>
          obtain ⟨candidate, inTable, matched⟩ := List.any_eq_true.mp found
          obtain ⟨entry, before, after, -, same, rfl, erased⟩ :=
            List.exists_of_eraseP inTable matched
          have sameWan : entry.wanIp = wanIp :=
            congrArg Connection.wanIp (matchesConnection_eq_true.mp same)
          have member : entry ∈ pool.connections :=
            mem_contents.mpr ⟨lanIp, _, mem_of_get present, by simp⟩
          have pooled : wanIp ∈ keys pool.poolPorts :=
            (formed.portsKeys wanIp).mpr (sameWan ▸ formed.pooled entry member)
          cases ports : get pool.poolPorts wanIp with
          | none => exact absurd pooled (get_eq_none.mp ports)
          | some free =>
              have sameFree : get (pool.withRow lanIp (before ++ after)).poolPorts wanIp =
                  some free := ports
              rw [if_pos rfl, erased, releaseWanPort, sameFree]
              exact .released present ports same
      | false =>
          refine .unchanged (fun _ _ => ⟨by simp, ?_⟩)
          intro entry member
          apply Bool.eq_false_iff.mpr
          intro matched
          obtain ⟨row, inDb, inRow⟩ := row_of_connection formed member
          rw [matchesConnection_eq_true.mp matched, present] at inDb
          cases inDb
          exact List.any_eq_false.mp found entry inRow matched

theorem connections_withoutRow {before after : List Connection} {entry : Connection}
    (present : get pool.db lanIp = some (before ++ entry :: after)) :
    (entry :: (pool.withRow lanIp (before ++ after)).connections).Perm pool.connections :=
  contents_remove present

theorem released_formed (formed : WellFormed pool) {before after : List Connection}
    {entry : Connection} {ports : List Int} {wanPort : Int}
    (present : get pool.db lanIp = some (before ++ entry :: after))
    (free : get pool.poolPorts wanIp = some ports) :
    WellFormed ((pool.withRow lanIp (before ++ after)).shifted wanIp (ports ++ [wanPort])) := by
  have entries := connections_withoutRow present
  constructor
  · exact formed.addrsNodup
  · exact nodup_keys_set formed.portsNodup
  · intro addr
    have known : wanIp ∈ keys pool.poolPorts := by
      by_contra unknown
      rw [get_eq_none.mpr unknown] at free
      cases free
    change addr ∈ keys (set pool.poolPorts wanIp (ports ++ [wanPort])) ↔ addr ∈ pool.poolAddrs
    rw [keys_set_of_mem known]
    exact formed.portsKeys addr
  · exact nodup_keys_set formed.dbNodup
  · intro home held member other inRow
    rcases mem_set member with same | inDb
    · cases same
      refine formed.home lanIp _ (mem_of_get present) other ?_
      rcases List.mem_append.mp inRow with early | late
      · exact List.mem_append_left _ early
      · exact List.mem_append_right _ (List.mem_cons_of_mem _ late)
    · exact formed.home home held inDb other inRow
  · intro other member
    exact formed.pooled other (entries.mem_iff.mp (List.mem_cons_of_mem _ member))
  · have clients := (entries.map fun entry => (entry.lanIp, entry.lanPort)).nodup_iff.mpr
      formed.clients
    rw [List.map_cons, List.nodup_cons] at clients
    exact clients.2

theorem released_stock {before after : List Connection} {entry : Connection} {ports : List Int}
    {wanPort : Int} (present : get pool.db lanIp = some (before ++ entry :: after))
    (free : get pool.poolPorts wanIp = some ports) (sameWan : entry.wanIp = wanIp)
    (samePort : entry.wanPort = wanPort) (addr : JsString) :
    (((pool.withRow lanIp (before ++ after)).shifted wanIp (ports ++ [wanPort])).stock
      addr).Perm (pool.stock addr) := by
  have entries := connections_withoutRow present
  have held := (entries.filter fun entry => decide (entry.wanIp = addr)).map Connection.wanPort
  by_cases here : wanIp = addr
  · subst here
    rw [List.filter_cons_of_pos (by simp [sameWan]), List.map_cons, samePort] at held
    rw [Pool.stock, Pool.stock, Pool.free, Pool.free, Pool.shifted, get_set_self, free]
    change ((ports ++ [wanPort]) ++
      portsOf wanIp (pool.withRow lanIp (before ++ after)).connections).Perm _
    rw [List.append_assoc]
    exact held.append_left ports
  · rw [List.filter_cons_of_neg (by simp [sameWan, here])] at held
    rw [stock_shifted_other (Ne.symm here)]
    exact held.append_left (pool.free addr)

end Assign

/-- A request that would find a free port but whose client may not take it. -/
def Leaks (pool : Pool) : Call → Prop
  | .assignConnection lanIp lanPort =>
      isIPv4 lanIp = true ∧ sameEntryCheck pool lanIp lanPort = none ∧
        PortReady pool lanIp ∧ RowFull pool lanIp
  | _ => False

section Runs

variable {related : List Int → List Int → Prop} {pool : Pool}

theorem mem_addPoolAddress {addr other : JsString} (isAddress : isIPv4 addr = true) :
    other ∈ (addPoolAddress pool addr).poolAddrs ↔ other ∈ pool.poolAddrs ∨ other = addr := by
  unfold addPoolAddress
  rw [if_neg (ne_false_of_eq_true isAddress)]
  by_cases pooled : addr ∈ pool.poolAddrs
  · rw [if_pos pooled]
    constructor
    · intro member
      exact .inl member
    · intro either
      rcases either with member | same
      · exact member
      · exact same ▸ pooled
  · rw [if_neg pooled, List.mem_append, List.mem_singleton]

theorem mem_addPoolAddresses {addrs : List JsString} {other : JsString}
    (areAddresses : ∀ addr ∈ addrs, isIPv4 addr = true) :
    other ∈ (addPoolAddresses pool addrs).poolAddrs ↔
      other ∈ pool.poolAddrs ∨ other ∈ addrs := by
  induction addrs generalizing pool with
  | nil => exact (or_iff_left List.not_mem_nil).symm
  | cons head rest ih =>
      have later := @ih (addPoolAddress pool head)
        (fun addr member => areAddresses addr (List.mem_cons_of_mem head member))
      rw [mem_addPoolAddress (areAddresses head List.mem_cons_self)] at later
      rw [List.mem_cons, ← or_assoc]
      exact later

theorem addPoolAddresses_db (pool : Pool) (addrs : List JsString) :
    (addPoolAddresses pool addrs).db = pool.db := by
  induction addrs generalizing pool with
  | nil => rfl
  | cons head rest ih =>
      have later := ih (addPoolAddress pool head)
      refine later.trans ?_
      rw [addPoolAddress]
      split
      · rfl
      · split <;> rfl

theorem addPoolAddresses_inv (comparison : Comparison related) (addrs : List JsString)
    (formed : WellFormed pool) (stocked : Stocked related pool) :
    WellFormed (addPoolAddresses pool addrs) ∧ Stocked related (addPoolAddresses pool addrs) := by
  induction addrs generalizing pool with
  | nil => exact ⟨formed, stocked⟩
  | cons addr rest ih =>
      exact ih (addPoolAddress_formed formed addr)
        (addPoolAddress_stocked comparison formed stocked addr)

theorem delPoolAddresses_inv (addrs : List JsString) (formed : WellFormed pool)
    (stocked : Stocked related pool) :
    WellFormed (delPoolAddresses pool addrs) ∧ Stocked related (delPoolAddresses pool addrs) := by
  induction addrs generalizing pool with
  | nil => exact ⟨formed, stocked⟩
  | cons addr rest ih =>
      exact ih (delPoolAddress_formed formed addr) (delPoolAddress_stocked formed stocked addr)

/-- One call keeps both invariants; a leaking call needs a comparison that
tolerates a missing port. -/
theorem apply_inv (comparison : Comparison related) (formed : WellFormed pool)
    (stocked : Stocked related pool) (call : Call)
    (tolerated : Leaks pool call → ∀ port (left right : List Int),
      related (port :: left) right → related left right) :
    WellFormed (pool.apply call) ∧ Stocked related (pool.apply call) := by
  cases call with
  | addPoolAddresses addrs => exact addPoolAddresses_inv comparison addrs formed stocked
  | delPoolAddresses addrs => exact delPoolAddresses_inv addrs formed stocked
  | assignConnection lanIp lanPort =>
      have taken := assignConnection_case pool lanIp lanPort
      rw [Pool.apply]
      generalize assignConnection pool lanIp lanPort = result at taken ⊢
      cases taken with
      | notAddress => exact ⟨formed, stocked⟩
      | known => exact ⟨formed, stocked⟩
      | noPort => exact ⟨formed, stocked⟩
      | @full isAddress missing wanIp port rest chosen ready full =>
          refine ⟨shifted_formed formed ready, ?_⟩
          have loses := tolerated ⟨isAddress, missing, ⟨_, _, _, chosen, ready⟩, full⟩
          intro addr member
          have before := stocked addr member
          by_cases here : addr = wanIp
          · subst here
            rw [stock_shifted_self ready] at before
            exact loses _ _ _ before
          · rw [stock_shifted_other here]
            exact before
      | assigned isAddress missing chosen ready place =>
          refine ⟨assigned_formed (shifted_formed formed ready) missing chosen place, ?_⟩
          intro addr member
          exact comparison.perm (assigned_stock ready place addr) (stocked addr member)
  | releaseConnection lanIp lanPort wanIp wanPort =>
      have given := releaseConnection_case formed lanIp lanPort wanIp wanPort
      rw [Pool.apply]
      generalize releaseConnection pool lanIp lanPort wanIp wanPort = result at given ⊢
      cases given with
      | unchanged => exact ⟨formed, stocked⟩
      | released present free matched =>
          cases matchesConnection_eq_true.mp matched
          refine ⟨released_formed formed present free, ?_⟩
          intro addr member
          exact comparison.perm (released_stock present free rfl rfl addr) (stocked addr member)

theorem newEntry_inv (comparison : Comparison related) (startPort endPort maxConnection : Int)
    (wanAddrs : List JsString) :
    WellFormed (newEntry startPort endPort maxConnection wanAddrs) ∧
      Stocked related (newEntry startPort endPort maxConnection wanAddrs) := by
  refine addPoolAddresses_inv comparison wanAddrs ?_ ?_
  · constructor
    · exact List.nodup_nil
    · exact List.nodup_nil
    · intro addr
      exact Iff.rfl
    · exact List.nodup_nil
    · intro lanIp row member
      cases member
    · intro entry member
      cases member
    · exact List.nodup_nil
  · intro addr member
    cases member

structure Configured (startPort endPort maxConnection : Int) (pool : Pool) : Prop where
  start : pool.startPort = startPort
  stop : pool.endPort = endPort
  limit : pool.maxConnection = maxConnection

theorem foldl_configured {startPort endPort maxConnection : Int}
    {change : Pool → JsString → Pool}
    (keeps : ∀ pool addr, Configured startPort endPort maxConnection pool →
      Configured startPort endPort maxConnection (change pool addr))
    (addrs : List JsString) (configured : Configured startPort endPort maxConnection pool) :
    Configured startPort endPort maxConnection (addrs.foldl change pool) := by
  induction addrs generalizing pool with
  | nil => exact configured
  | cons addr rest ih => exact ih (keeps pool addr configured)

theorem addPoolAddress_configured {startPort endPort maxConnection : Int} (pool : Pool)
    (addr : JsString) (configured : Configured startPort endPort maxConnection pool) :
    Configured startPort endPort maxConnection (addPoolAddress pool addr) := by
  rw [addPoolAddress]
  split
  · exact configured
  · split <;> exact ⟨configured.start, configured.stop, configured.limit⟩

theorem delPoolAddress_configured {startPort endPort maxConnection : Int} (pool : Pool)
    (addr : JsString) (configured : Configured startPort endPort maxConnection pool) :
    Configured startPort endPort maxConnection (delPoolAddress pool addr) := by
  rcases delPoolAddress_cases pool addr with result | result
  · rw [result]
    exact configured
  · rw [result]
    exact ⟨configured.start, configured.stop, configured.limit⟩

theorem apply_configured {startPort endPort maxConnection : Int} (formed : WellFormed pool)
    (configured : Configured startPort endPort maxConnection pool) (call : Call) :
    Configured startPort endPort maxConnection (pool.apply call) := by
  cases call with
  | addPoolAddresses addrs => exact foldl_configured addPoolAddress_configured addrs configured
  | delPoolAddresses addrs => exact foldl_configured delPoolAddress_configured addrs configured
  | assignConnection lanIp lanPort =>
      have taken := assignConnection_case pool lanIp lanPort
      rw [Pool.apply]
      generalize assignConnection pool lanIp lanPort = result at taken ⊢
      cases taken <;> exact ⟨configured.start, configured.stop, configured.limit⟩
  | releaseConnection lanIp lanPort wanIp wanPort =>
      have given := releaseConnection_case formed lanIp lanPort wanIp wanPort
      rw [Pool.apply]
      generalize releaseConnection pool lanIp lanPort wanIp wanPort = result at given ⊢
      cases given <;> exact ⟨configured.start, configured.stop, configured.limit⟩

def RowsBounded (pool : Pool) : Prop :=
  ∀ lanIp row, (lanIp, row) ∈ pool.db → row.length ≤ pool.maxConnection

theorem foldl_rowsBounded {change : Pool → JsString → Pool}
    (keeps : ∀ pool addr, RowsBounded pool → RowsBounded (change pool addr))
    (addrs : List JsString) (bounded : RowsBounded pool) :
    RowsBounded (addrs.foldl change pool) := by
  induction addrs generalizing pool with
  | nil => exact bounded
  | cons addr rest ih => exact ih (keeps pool addr bounded)

theorem addPoolAddress_rowsBounded (pool : Pool) (addr : JsString) (bounded : RowsBounded pool) :
    RowsBounded (addPoolAddress pool addr) := by
  rw [addPoolAddress]
  split
  · exact bounded
  · split <;> exact bounded

theorem delPoolAddress_rowsBounded (pool : Pool) (addr : JsString) (bounded : RowsBounded pool) :
    RowsBounded (delPoolAddress pool addr) := by
  rcases delPoolAddress_cases pool addr with result | result
  · rw [result]
    exact bounded
  · rw [result]
    intro lanIp row member
    obtain ⟨⟨name, old⟩, inDb, same⟩ := List.mem_map.mp member
    cases same
    have shorter := List.length_filter_le (fun entry : Connection => decide (entry.wanIp ≠ addr)) old
    have limit := bounded name old inDb
    change ((old.filter fun entry => decide (entry.wanIp ≠ addr)).length : Int) ≤
      pool.maxConnection
    omega

theorem apply_rowsBounded (formed : WellFormed pool) (positive : 1 ≤ pool.maxConnection)
    (bounded : RowsBounded pool) (call : Call) : RowsBounded (pool.apply call) := by
  cases call with
  | addPoolAddresses addrs => exact foldl_rowsBounded addPoolAddress_rowsBounded addrs bounded
  | delPoolAddresses addrs => exact foldl_rowsBounded delPoolAddress_rowsBounded addrs bounded
  | assignConnection lanIp lanPort =>
      have taken := assignConnection_case pool lanIp lanPort
      rw [Pool.apply]
      generalize assignConnection pool lanIp lanPort = result at taken ⊢
      cases taken with
      | notAddress => exact bounded
      | known => exact bounded
      | noPort => exact bounded
      | full => exact bounded
      | assigned isAddress missing chosen ready place =>
          intro client row member
          rcases mem_set member with same | inDb
          · cases same
            rw [List.length_append, List.length_singleton]
            change ((_ + 1 : Nat) : Int) ≤ pool.maxConnection
            rcases place with ⟨-, room⟩ | ⟨-, rfl⟩
            · omega
            · exact positive
          · exact bounded client row inDb
  | releaseConnection lanIp lanPort wanIp wanPort =>
      have given := releaseConnection_case formed lanIp lanPort wanIp wanPort
      rw [Pool.apply]
      generalize releaseConnection pool lanIp lanPort wanIp wanPort = result at given ⊢
      cases given with
      | unchanged => exact bounded
      | @released before after entry ports present =>
          intro client row member
          rcases mem_set member with same | inDb
          · cases same
            have limit := bounded lanIp _ (mem_of_get present)
            rw [List.length_append, List.length_cons] at limit
            rw [List.length_append]
            change ((before.length + after.length : Nat) : Int) ≤ pool.maxConnection
            omega
          · exact bounded client row inDb

/-! ### Exclusivity -/

theorem mem_portRange {startPort endPort port : Int} :
    port ∈ portRange startPort endPort ↔ startPort ≤ port ∧ port ≤ endPort := by
  rw [portRange, List.mem_map]
  constructor
  · rintro ⟨index, inRange, rfl⟩
    have bound := List.mem_range.mp inRange
    omega
  · rintro ⟨low, high⟩
    exact ⟨(port - startPort).toNat, List.mem_range.mpr (by omega), by omega⟩

theorem nodup_portRange (startPort endPort : Int) : (portRange startPort endPort).Nodup := by
  refine List.Nodup.map ?_ List.nodup_range
  intro left right same
  have shifted : startPort + (left : Int) = startPort + right := same
  omega

theorem nodup_endpoints {entries : List Connection}
    (each : ∀ addr, (portsOf addr entries).Nodup) :
    (entries.map fun entry => (entry.wanIp, entry.wanPort)).Nodup := by
  induction entries with
  | nil => exact List.nodup_nil
  | cons entry rest ih =>
      rw [List.map_cons, List.nodup_cons]
      constructor
      · intro taken
        obtain ⟨other, member, same⟩ := List.mem_map.mp taken
        obtain ⟨sameIp, samePort⟩ := Prod.mk.inj same
        have own := each entry.wanIp
        rw [portsOf, List.filter_cons_of_pos (by simp), List.map_cons, List.nodup_cons] at own
        refine own.1 (List.mem_map.mpr ⟨other, List.mem_filter.mpr ⟨member, ?_⟩, samePort⟩)
        exact decide_eq_true sameIp
      · refine ih (fun addr => ?_)
        have own := each addr
        rw [portsOf] at own ⊢
        exact List.Nodup.sublist
          (List.Sublist.map _ (List.Sublist.filter _ (List.sublist_cons_self entry rest))) own

theorem stock_nodup (formed : WellFormed pool) (stocked : Stocked List.Subperm pool)
    (addr : JsString) : (pool.stock addr).Nodup := by
  by_cases pooled : addr ∈ pool.poolAddrs
  · obtain ⟨ports, same, sub⟩ := stocked addr pooled
    exact same.nodup_iff.mp (List.Nodup.sublist sub (nodup_portRange _ _))
  · have noPorts : get pool.poolPorts addr = none :=
      get_eq_none.mpr (fun known => pooled ((formed.portsKeys addr).mp known))
    rw [Pool.stock, portsOf_of_unpooled formed pooled, Pool.free, noPorts]
    exact List.nodup_nil

abbrev ReachablePool (startPort endPort maxConnection : Int) (wanAddrs : List JsString)
    (pool : Pool) : Prop :=
  Reachable poolStep (fun _ _ => True) (newEntry startPort endPort maxConnection wanAddrs) pool

theorem newEntry_configured (startPort endPort maxConnection : Int) (wanAddrs : List JsString) :
    Configured startPort endPort maxConnection
      (newEntry startPort endPort maxConnection wanAddrs) :=
  foldl_configured addPoolAddress_configured wanAddrs ⟨rfl, rfl, rfl⟩

structure PoolInv (related : List Int → List Int → Prop)
    (startPort endPort maxConnection : Int) (pool : Pool) : Prop where
  configured : Configured startPort endPort maxConnection pool
  formed : WellFormed pool
  stocked : Stocked related pool
  bounded : 1 ≤ maxConnection → RowsBounded pool

theorem reachable_inv (comparison : Comparison related) {guard : Pool → Call → Prop}
    (tolerated : ∀ pool call, guard pool call → Leaks pool call →
      ∀ port (left right : List Int), related (port :: left) right → related left right)
    {startPort endPort maxConnection : Int} {wanAddrs : List JsString}
    (reached : Reachable poolStep guard (newEntry startPort endPort maxConnection wanAddrs)
      pool) : PoolInv related startPort endPort maxConnection pool := by
  refine Reachable.invariant ?_ ?_ reached
  · have fresh := newEntry_inv comparison startPort endPort maxConnection wanAddrs
    refine ⟨newEntry_configured _ _ _ _, fresh.1, fresh.2, fun _ => ?_⟩
    refine foldl_rowsBounded addPoolAddress_rowsBounded wanAddrs ?_
    intro lanIp row member
    cases member
  · intro before call after inv guarded stepped
    cases stepped
    have kept := apply_inv comparison inv.formed inv.stocked call (tolerated before call guarded)
    refine ⟨apply_configured inv.formed inv.configured call, kept.1, kept.2, fun positive => ?_⟩
    exact apply_rowsBounded inv.formed (inv.configured.limit ▸ positive) (inv.bounded positive) call

end Runs

/-- In every state of a pool no WAN endpoint and no LAN endpoint is assigned twice,
no assigned port is free, every free list is duplicate-free, entries use pooled
addresses and ports of the range, the address list and the free lists have the
same keys, and no client exceeds its limit. -/
theorem pool_exclusivity (startPort endPort maxConnection : Int) (wanAddrs : List JsString)
    (positive : 1 ≤ maxConnection) (pool : Pool)
    (reached : ReachablePool startPort endPort maxConnection wanAddrs pool) :
    (pool.connections.map fun entry => (entry.wanIp, entry.wanPort)).Nodup ∧
    (pool.connections.map fun entry => (entry.lanIp, entry.lanPort)).Nodup ∧
    (∀ entry ∈ pool.connections, entry.wanPort ∉ pool.free entry.wanIp) ∧
    (∀ addr, (pool.free addr).Nodup) ∧
    (∀ entry ∈ pool.connections, entry.wanIp ∈ pool.poolAddrs ∧
      startPort ≤ entry.wanPort ∧ entry.wanPort ≤ endPort) ∧
    pool.poolAddrs.Nodup ∧ (keys pool.poolPorts).Nodup ∧
    (∀ addr, addr ∈ keys pool.poolPorts ↔ addr ∈ pool.poolAddrs) ∧
    (∀ lanIp row, (lanIp, row) ∈ pool.db → row.length ≤ maxConnection) := by
  obtain ⟨configured, formed, stocked, bounded⟩ :=
    reachable_inv comparison_subperm
      (fun _ _ _ _ port left _ sub => (List.sublist_cons_self port left).subperm.trans sub) reached
  have nodup : ∀ addr, (pool.free addr ++ portsOf addr pool.connections).Nodup :=
    stock_nodup formed stocked
  have owned : ∀ entry ∈ pool.connections, entry.wanPort ∈ portsOf entry.wanIp pool.connections :=
    fun entry member => List.mem_map.mpr
      ⟨entry, List.mem_filter.mpr ⟨member, decide_eq_true rfl⟩, rfl⟩
  refine ⟨nodup_endpoints (fun addr => (List.nodup_append.mp (nodup addr)).2.1), formed.clients,
    ?_, fun addr => (List.nodup_append.mp (nodup addr)).1, ?_, formed.addrsNodup,
    formed.portsNodup, formed.portsKeys, ?_⟩
  · intro entry member free
    exact (List.nodup_append.mp (nodup entry.wanIp)).2.2 _ free _ (owned entry member) rfl
  · intro entry member
    have pooled := formed.pooled entry member
    have inStock : entry.wanPort ∈ pool.stock entry.wanIp :=
      List.mem_append_right _ (owned entry member)
    have inRange := (stocked entry.wanIp pooled).subset inStock
    rw [configured.start, configured.stop, mem_portRange] at inRange
    exact ⟨pooled, inRange⟩
  · intro lanIp row member
    have limit := bounded positive lanIp row member
    rw [configured.limit] at limit
    exact limit

private def poolAddr : JsString := ['1', '9', '2', '.', '0', '.', '2', '.', '1']

private def client : JsString := ['1', '0', '.', '0', '.', '0', '.', '1']

/-- Two requests of one client that may hold a single entry. -/
private def leakingCalls : List Call := [.assignConnection client 1, .assignConnection client 2]

private def leakedPool : Pool :=
  { startPort := 1, endPort := 2, maxConnection := 1, poolAddrs := [poolAddr]
    db := [(client, [{ wanIp := poolAddr, wanPort := 1, lanIp := client, lanPort := 1 }])]
    poolPorts := [(poolAddr, [])] }

private theorem leakedPool_reachable : ReachablePool 1 2 1 [poolAddr] leakedPool :=
  reachable_of_run leakingCalls .start (by decide)

theorem pool_exclusivity_leaked :
    (leakedPool.connections.map fun entry => (entry.wanIp, entry.wanPort)).Nodup ∧
      ∀ entry ∈ leakedPool.connections, entry.wanPort ∉ leakedPool.free entry.wanIp :=
  have settled := pool_exclusivity 1 2 1 [poolAddr] (by decide) leakedPool leakedPool_reachable
  ⟨settled.1, settled.2.2.1⟩

/-! ### Conservation -/

/-- As long as no request finds a free port for a client whose row is full, every
port of every pooled address is free or assigned exactly once, and a refused
request changes nothing. -/
theorem port_conservation (startPort endPort maxConnection : Int) (wanAddrs : List JsString)
    (pool : Pool)
    (reached : Reachable poolStep (fun pool call => ¬Leaks pool call)
      (newEntry startPort endPort maxConnection wanAddrs) pool) :
    (∀ addr ∈ pool.poolAddrs,
      (pool.free addr ++ portsOf addr pool.connections).Perm (portRange startPort endPort)) ∧
    (∀ lanIp lanPort, ¬Leaks pool (.assignConnection lanIp lanPort) →
      (assignConnection pool lanIp lanPort).2 = none →
      (assignConnection pool lanIp lanPort).1 = pool) := by
  obtain ⟨configured, -, stocked, -⟩ :=
    reachable_inv comparison_perm (fun _ _ safe leaks => absurd leaks safe) reached
  constructor
  · intro addr pooled
    have conserved := stocked addr pooled
    rw [configured.start, configured.stop] at conserved
    exact conserved
  · intro lanIp lanPort safe refused
    have taken := assignConnection_case pool lanIp lanPort
    generalize assignConnection pool lanIp lanPort = result at taken refused ⊢
    cases taken with
    | notAddress => rfl
    | known => rfl
    | noPort => rfl
    | full isAddress missing chosen ready full =>
        exact absurd ⟨isAddress, missing, ⟨_, _, _, chosen, ready⟩, full⟩ safe
    | assigned => cases refused

/-- After two requests, a third that finds no free port, a release, and a request that
gets the port that came back. -/
private def conservedPool : Pool :=
  { startPort := 1, endPort := 2, maxConnection := 2, poolAddrs := [poolAddr]
    db :=
      [(client, [{ wanIp := poolAddr, wanPort := 2, lanIp := client, lanPort := 2 },
        { wanIp := poolAddr, wanPort := 1, lanIp := client, lanPort := 4 }])]
    poolPorts := [(poolAddr, [])] }

theorem not_leaks_of_room {pool : Pool} {lanIp : JsString} {lanPort : Int}
    (room : ∀ row ∈ get pool.db lanIp, (row.length : Int) < pool.maxConnection) :
    ¬Leaks pool (.assignConnection lanIp lanPort) := by
  rintro ⟨-, -, -, row, present, full⟩
  have short := room row present
  omega

theorem not_leaks_of_noPort {pool : Pool} {lanIp : JsString} {lanPort : Int}
    (empty : ∀ wanIp ∈ assignWanIP pool lanIp, get pool.poolPorts wanIp = some []) :
    ¬Leaks pool (.assignConnection lanIp lanPort) := by
  rintro ⟨-, -, ⟨wanIp, port, rest, chosen, ready⟩, -⟩
  rw [empty wanIp chosen] at ready
  cases ready

private theorem conservedPool_reached :
    Reachable poolStep (fun pool call => ¬Leaks pool call) (newEntry 1 2 2 [poolAddr])
      conservedPool := by
  have run := @Reachable.start _ _ poolStep (fun pool call => ¬Leaks pool call)
    (newEntry 1 2 2 [poolAddr])
  have first := run.next (.assignConnection client 1) (not_leaks_of_room (by decide)) rfl
  have second := first.next (.assignConnection client 2) (not_leaks_of_room (by decide)) rfl
  have refused := second.next (.assignConnection client 3) (not_leaks_of_noPort (by decide)) rfl
  have released := refused.next (.releaseConnection client 1 poolAddr 1) (by exact not_false) rfl
  exact released.next (.assignConnection client 4) (not_leaks_of_room (by decide)) (by decide)

theorem port_conservation_one_client :
    (conservedPool.free poolAddr ++ portsOf poolAddr conservedPool.connections).Perm
      (portRange 1 2) ∧
    (assignConnection conservedPool client 5).1 = conservedPool :=
  have conserved := port_conservation 1 2 2 [poolAddr] conservedPool conservedPool_reached
  ⟨conserved.1 poolAddr (by decide),
    conserved.2 client 5 (not_leaks_of_noPort (by decide)) (by decide)⟩

theorem leaks_port {pool : Pool} {lanIp : JsString} {lanPort : Int}
    (leaks : Leaks pool (.assignConnection lanIp lanPort)) :
    (assignConnection pool lanIp lanPort).2 = none ∧
      ∃ wanIp port, pool.stock wanIp = port :: (assignConnection pool lanIp lanPort).1.stock wanIp := by
  obtain ⟨isAddress, missing, ⟨wanIp, port, rest, chosen, ready⟩, row, present, full⟩ := leaks
  have taken := assignConnection_case pool lanIp lanPort
  generalize assignConnection pool lanIp lanPort = result at taken ⊢
  cases taken with
  | notAddress isNot => rw [isNot] at isAddress; cases isAddress
  | known _ found => rw [missing] at found; cases found
  | noPort _ _ noneReady => exact absurd ⟨wanIp, port, rest, chosen, ready⟩ noneReady
  | full _ _ _ ready' => exact ⟨rfl, _, _, stock_shifted_self ready'⟩
  | assigned _ _ _ _ place =>
      rcases place with ⟨present', room⟩ | ⟨fresh, -⟩
      · rw [present] at present'
        cases present'
        omega
      · rw [get_eq_none.mpr fresh] at present
        cases present

/-- One refused request is enough: the second port is neither free nor assigned. -/
theorem port_conservation_fails :
    ¬∀ (startPort endPort maxConnection : Int) (wanAddrs : List JsString) (pool : Pool),
      startPort ≤ endPort → ReachablePool startPort endPort maxConnection wanAddrs pool →
      (∀ addr ∈ pool.poolAddrs,
        (pool.free addr ++ portsOf addr pool.connections).Perm (portRange startPort endPort)) ∧
      (∀ lanIp lanPort, (assignConnection pool lanIp lanPort).2 = none →
        (assignConnection pool lanIp lanPort).1 = pool) := by
  intro conserved
  have lost := (conserved 1 2 1 [poolAddr] leakedPool (by decide) leakedPool_reachable).1 poolAddr
    (by decide)
  have short := lost.length_eq
  revert short
  decide

end Entry
end NatPorte
