/-
One natporte process and its pool server.

Five threads of control share the NAT table, the timer queue and two rings, and
talk over one TCP connection:

  divert    loop_divert of divert.h
  timer     the kevent loop of main.cpp
  sender    addrpool_sender of addrpool.h
  receiver  addrpool_receiver of addrpool.h
  server    server_data of bin/pool_server

A step of a thread is what it does between two operations on something that it
shares: a queue (divert socket, kevent, ring, connection), the table's trees or an
entry.  Steps interleave freely.  The table's lock is held for a lookup only, so an
entry that a thread has found may be gone, and its memory in other hands, when the
thread comes to use it.  The receiver alone changes the trees: the entries that it
finds stay, and it unlinks an entry, stops its timer and frees it in one step.

A ring of `n` slots is the bounded queue that Ring.lean shows it to be, the connection
is a reliable queue of messages, and the timer queue is a set of idents.  Forwarded
packets leave the model.
-/

import NatPorte.Lookup
import NatPorte.PoolServer

namespace NatPorte
namespace System

open TcpState Structure Packet Checksum Alias Tracking Lookup PoolServer Entry StepSystem

/-- Options of the two programs, and the timeouts that the server announced. -/
structure Settings where
  nat : Alias.Config
  sendSlots : Nat
  recvSlots : Nat
  timeoutTcp : Int
  timeoutUdp : Int
  startPort : Int
  endPort : Int
  maxConnection : Int
  poolAddr : List (BitVec 32)
  socketId : JsString

/-- A received packet; its TCP or UDP header is complete. -/
structure Datagram where
  buf : Buffer
  size : Nat
  formed : ipP buf = ipprotoTcp ∨ ipP buf = ipprotoUdp → TransportPacket buf size
  deriving DecidableEq, Repr

/-- Where a release comes from: the interface, and the entry that the packet
resolved to.  No thread reads it. -/
structure Origin where
  side : Side
  ptr : Ptr
  deriving DecidableEq, Repr

/-- An element of `h_send`, by its `AP_*` flag. -/
inductive SendItem where
  | sendReq (buf : Buffer) (size : Nat)
  | sendRel (buf : Buffer) (size : Nat) (origin : Origin)
  | timeout (ptr : Ptr)
  deriving DecidableEq, Repr

/-- An element of `h_recv`; a release is `AP_REL_L2W` for `.lan` and `AP_REL_W2L`
for `.wan`. -/
inductive RecvItem where
  | request (buf : Buffer) (size : Nat)
  | release (rel : Side) (buf : Buffer) (size : Nat) (origin : Origin)
  | timeout (ptr : Ptr)
  deriving DecidableEq, Repr

/-- A packet whose entry is `found`, or the first of the two entries of a `hairpin`
packet, which is `turned` when the second one is found; a request or a release about to
be pushed; a closed connection whose entry is looked up, has its close timer armed
(`arming` up to `timer_flags`, `suspending` up to `EV_DELETE`, `rearming` up to
`EV_ADD`). -/
inductive DivertPc where
  | reading
  | found (side : Side) (packet : Datagram) (ptr : Ptr)
  | hairpin (packet : Datagram) (ptr : Ptr)
  | turned (packet : Datagram) (buf : Buffer) (ptr : Ptr)
  | requesting (buf : Buffer) (size : Nat)
  | releasing (buf : Buffer) (size : Nat) (origin : Origin)
  | closing (side : Side) (buf : Buffer) (size : Nat)
  | arming (side : Side) (buf : Buffer) (size : Nat) (ptr : Ptr)
  | suspending (side : Side) (buf : Buffer) (size : Nat) (ident : BitVec 64)
  | rearming (side : Side) (buf : Buffer) (size : Nat) (ident : BitVec 64)
  deriving DecidableEq, Repr

/-- A `late` entry has failed the idle test and keeps its timer up to `EV_DELETE`. -/
inductive TimerPc where
  | waiting
  | fetched (ident : BitVec 64)
  | found (ident : BitVec 64) (ptr : Ptr)
  | late (ident : BitVec 64) (ptr : Ptr)
  | expiring (ptr : Ptr)
  deriving DecidableEq, Repr

/-- A released packet is `matched` to an entry through either tree. -/
inductive SenderPc where
  | popping
  | formatting (item : SendItem)
  | unmatched (buf : Buffer) (size : Nat) (origin : Origin)
  | matched (rel : Side) (buf : Buffer) (size : Nat) (origin : Origin) (ptr : Ptr)
  | pushing (item : RecvItem) (message : Message)
  | sending (item : RecvItem) (message : Message)
  deriving DecidableEq, Repr

/-- A granted mapping is inserted, its timer is added, its packet is forwarded. -/
inductive ReceiverPc where
  | receiving
  | popping (reply : Reply)
  | handling (reply : Reply) (item : RecvItem)
  | adding (ident : BitVec 64) (protocol : BitVec 8) (buf : Buffer) (size : Nat)
  | forwarding (protocol : BitVec 8) (buf : Buffer) (size : Nat)
  deriving DecidableEq, Repr

/-- `crashed` is a step through a NULL or a mistaken pointer. -/
inductive Status where
  | running | exited | crashed
  deriving DecidableEq, Repr

/-- The last four fields are records of the run that no thread reads: the nodes
whose release was put on `h_send`, the nodes that were freed (both since the
address was last handed out), the items behind the messages sent, and the items
popped for the replies. -/
structure State where
  status : Status
  now : Int
  table : Table
  bucket : IcmpBucket
  timers : List (BitVec 64)
  live : List Ptr
  hSend : List SendItem
  hRecv : List RecvItem
  divert : DivertPc
  timer : TimerPc
  sender : SenderPc
  receiver : ReceiverPc
  toServer : List Message
  toClient : List Reply
  server : Server
  releases : List Ptr
  frees : List Ptr
  sent : List RecvItem
  popped : List RecvItem

def State.exit (state : State) : State := { state with status := .exited }
def State.crash (state : State) : State := { state with status := .crashed }

/-! ### structure.h -/

/-- A zeroed node filled by `mk_node`. -/
def mkNode (buf : Buffer) (size : Nat) : Node :=
  let none : Endpoint := { port := 0, ip := 0 }
  let n : Node :=
    { ctime := 0, atime := 0, flags := .established, timerFlags := .loop, protocol := 0
      wan := none, lan := none, l2wKey := 0, w2lKey := 0 }
  if size ≤ 20 then n
  else if ipP buf = ipprotoTcp ∨ ipP buf = ipprotoUdp then
    { n with protocol := ipP buf, lan := endpoint buf .source, wan := endpoint buf .destination }
  else
    { n with
      protocol := ipP buf
      lan := { port := 0, ip := ipSrc buf }, wan := { port := 0, ip := ipDst buf } }

def withKeys (n : Node) : Node := { n with l2wKey := varLan n, w2lKey := varWan n }

/-- `EV_ADD` -/
def addTimerEvent (timers : List (BitVec 64)) (ident : BitVec 64) : List (BitVec 64) :=
  if ident ∈ timers then timers else ident :: timers

/-- `EV_DELETE`, which fails for an ident that is not registered. -/
def delTimerEvent (timers : List (BitVec 64)) (ident : BitVec 64) : Option (List (BitVec 64)) :=
  if ident ∈ timers then some (timers.filter fun other => other ≠ ident) else none

/-! ### divert.h -/

/-- The lookup after `ALIAS_DEL_TABLE`: the packet is translated already, so its
source or destination is the other endpoint of the entry. -/
def closingEntry (table : Table) (side : Side) (buf : Buffer) (size : Nat) : Option Ptr :=
  let n := mkNode buf size
  match side with
  | .lan =>
      let n := { n with wan := n.lan }
      findW2l table { n with w2lKey := varWan n }
  | .wan =>
      let n := { n with lan := n.wan }
      findL2w table { n with l2wKey := varLan n }

/-- The second half of an alias function, in the state that it finds the entry in. -/
def State.used (settings : Settings) (state : State) (side : Side) (packet : Datagram) (ptr : Ptr) :
    Outcome :=
  useEntry settings.nat state.now state.table state.bucket side packet.buf packet.size ptr

/-- `loop_divert` after the alias function. -/
def divertVerdict (settings : Settings) (state : State) (side : Side) (size : Nat) (ptr : Ptr)
    (outcome : Outcome) : State :=
  let state :=
    { state with table := outcome.table, bucket := outcome.bucket, divert := .reading }
  let origin : Origin := { side := side, ptr := ptr }
  match outcome.verdict with
  | .noTable =>
      match side with
      | .lan => { state with divert := .requesting outcome.buf size }
      | .wan => state
  | .resetTable => { state with divert := .releasing outcome.buf size origin }
  | .delTable =>
      if settings.nat.build.waitTimeDelete then
        { state with divert := .closing side outcome.buf size }
      else { state with divert := .releasing outcome.buf size origin }
  | _ => state

/-- A packet is looked up; without an entry the alias function decides at once. -/
def divertPacket (settings : Settings) (state : State) (side : Side) (packet : Datagram) : State :=
  match resolved settings.nat state.table side packet.buf packet.size with
  | some ptr => { state with divert := .found side packet ptr }
  | none =>
      match hairpinEntry settings.nat state.table side packet.buf packet.size with
      | some ptr => { state with divert := .hairpin packet ptr }
      | none =>
          divertVerdict settings state side packet.size 0
            (aliasPacket settings.nat state.now state.table state.bucket side packet.buf
              packet.size)

def hasRoom {Item : Type} (slots : Nat) (items : List Item) : Bool := items.length + 1 < slots

/-- A request is dropped when the ring is full; a release spins until it fits.  In
`timer_event_delete` only the `EV_ADD` has to succeed. -/
def divertStep (settings : Settings) (state : State) : Option State :=
  match state.divert with
  | .reading => none
  | .found side packet ptr =>
      some (divertVerdict settings state side packet.size ptr (state.used settings side packet ptr))
  | .hairpin packet ptr =>
      let table := attach state.table state.now ptr
      let turned := toLan settings.nat state.table ptr packet.buf packet.size
      match lookup table .lan packet.buf with
      | none => some { state with table := table, divert := .requesting turned packet.size }
      | some source =>
          some { state with table := table, divert := .turned packet turned source }
  | .turned _ _ ptr =>
      some { state with table := attach state.table state.now ptr, divert := .reading }
  | .requesting buf size =>
      if hasRoom settings.sendSlots state.hSend then
        some { state with divert := .reading, hSend := state.hSend ++ [.sendReq buf size] }
      else some { state with divert := .reading }
  | .releasing buf size origin =>
      if hasRoom settings.sendSlots state.hSend then
        some
          { state with
            divert := .reading
            hSend := state.hSend ++ [.sendRel buf size origin]
            releases := origin.ptr :: state.releases }
      else none
  | .closing side buf size =>
      match closingEntry state.table side buf size with
      | none => some { state with divert := .reading }
      | some ptr => some { state with divert := .arming side buf size ptr }
  | .arming side buf size ptr =>
      some
        { state with
          table := state.table.store ptr { state.table.heap ptr with timerFlags := .close }
          divert := .suspending side buf size (state.table.l2wKeyOf ptr) }
  | .suspending side buf size ident =>
      some
        { state with
          timers := (delTimerEvent state.timers ident).getD state.timers
          divert := .rearming side buf size ident }
  | .rearming _ _ _ ident =>
      some { state with timers := addTimerEvent state.timers ident, divert := .reading }

/-! ### main.cpp -/

def timerEntry (table : Table) (ident : BitVec 64) : Option Ptr :=
  findL2w table (probeLan (getProtocolFromVarLan ident)
    { port := getPortFromVarLan ident, ip := getIpFromVarLan ident })

/-- Idle for too long, or closed in a build that waits with the deletion. -/
def expires (settings : Settings) (now : Int) (node : Node) : Bool :=
  let closing := settings.nat.build.waitTimeDelete && node.timerFlags != .loop
  if node.protocol = ipprotoTcp then
    decide (now - node.atime > settings.timeoutTcp.tdiv 1000) || closing
  else if node.protocol = ipprotoUdp then
    decide (now - node.atime > settings.timeoutUdp.tdiv 1000) || closing
  else false

/-- Ident 1 belongs to the debug timer. -/
def timerFetch (state : State) (ident : BitVec 64) : Option State :=
  match state.timer with
  | .waiting =>
      if ident ∈ state.timers ∧ ident ≠ 1 then some { state with timer := .fetched ident } else none
  | _ => none

def timerStep (settings : Settings) (state : State) : Option State :=
  match state.timer with
  | .waiting => none
  | .fetched ident =>
      match timerEntry state.table ident with
      | none => some { state with timer := .waiting }
      | some ptr => some { state with timer := .found ident ptr }
  | .found ident ptr =>
      if expires settings state.now (state.table.heap ptr) then
        some { state with timer := .late ident ptr }
      else some { state with timer := .waiting }
  | .late ident ptr =>
      match delTimerEvent state.timers ident with
      | none => some state.exit
      | some timers => some { state with timers := timers, timer := .expiring ptr }
  | .expiring ptr =>
      if hasRoom settings.sendSlots state.hSend then
        some
          { state with
            timer := .waiting
            hSend := state.hSend ++ [.timeout ptr]
            releases := ptr :: state.releases }
      else none

/-! ### addrpool_sender -/

def requestOf (n : Node) : Message :=
  .request n.protocol.toNat (swap32 n.lan.ip).toNat (swap16 n.lan.port).toNat
    (swap32 n.wan.ip).toNat (swap16 n.wan.port).toNat

/-- The numbers of a release message. -/
def fieldsOf (node : Node) : Fields :=
  { protocol := node.protocol.toNat
    lanIp := (swap32 node.lan.ip).toNat, lanPort := (swap16 node.lan.port).toNat
    wanIp := (swap32 node.wan.ip).toNat, wanPort := (swap16 node.wan.port).toNat }

/-- What is printed, and the item for `h_recv`. -/
def format (table : Table) : SenderPc → Option (RecvItem × Message)
  | .formatting (.sendReq buf size) => some (.request buf size, requestOf (mkNode buf size))
  | .formatting (.timeout ptr) => some (.timeout ptr, .release (fieldsOf (table.heap ptr)))
  | .matched rel buf size origin ptr =>
      some (.release rel buf size origin, .release (fieldsOf (table.heap ptr)))
  | _ => none

/-- The two lookups for a released packet, first with `AP_REL_L2W` in mind. -/
def releaseEntry (table : Table) (rel : Side) (buf : Buffer) (size : Nat) : Option Ptr :=
  let n := withKeys (mkNode buf size)
  match rel with
  | .lan => findL2w table n
  | .wan => findW2l table n

/-- A packet that neither lookup finds an entry for is reported through a NULL `table`. -/
def senderStep (settings : Settings) (state : State) : Option State :=
  match state.sender with
  | .popping =>
      match state.hSend with
      | [] => none
      | item :: rest => some { state with hSend := rest, sender := .formatting item }
  | .formatting (.sendRel buf size origin) =>
      match releaseEntry state.table .lan buf size with
      | some ptr => some { state with sender := .matched .lan buf size origin ptr }
      | none => some { state with sender := .unmatched buf size origin }
  | .unmatched buf size origin =>
      match releaseEntry state.table .wan buf size with
      | some ptr => some { state with sender := .matched .wan buf size origin ptr }
      | none => some state.crash
  | .pushing item message =>
      if hasRoom settings.recvSlots state.hRecv then
        some { state with hRecv := state.hRecv ++ [item], sender := .sending item message }
      else none
  | .sending item message =>
      some
        { state with
          toServer := state.toServer ++ [message]
          sender := .popping
          sent := state.sent ++ [item] }
  | pc =>
      (format state.table pc).map fun (item, message) =>
        { state with sender := .pushing item message }

/-! ### server_data -/

def serverStep (settings : Settings) (state : State) : Option State :=
  match state.toServer with
  | [] => none
  | message :: rest =>
      match state.server.mkMessage settings.socketId message with
      | (server, .reply reply) =>
          some
            { state with
              toServer := rest, server := server, toClient := state.toClient ++ [reply] }
      | (server, _) => some { state with toServer := rest, server := server }

/-! ### addrpool_receiver -/

/-- `pt.get` finds numbers that fit `uint32_t`, `uint16_t` and `unsigned int`. -/
def numbersFit (fields : Fields) : Bool :=
  fields.protocol < 2 ^ 32 && fields.lanIp < 2 ^ 32 && fields.wanIp < 2 ^ 32 &&
    (0 ≤ fields.lanPort && fields.lanPort < 2 ^ 16) &&
    (0 ≤ fields.wanPort && fields.wanPort < 2 ^ 16)

/-- A discard is not parsed. -/
def parses (reply : Reply) : Bool :=
  match reply.type with
  | .requestDiscard => true
  | .requestAck => numbersFit reply.fields
  | .releaseAck => numbersFit reply.fields

/-- The node that a reply describes, with its keys. -/
def parsedNode (now : Int) (fields : Fields) : Node :=
  let protocol := BitVec.ofNat 8 fields.protocol
  withKeys
    { ctime := now, atime := now
      flags := if protocol = ipprotoTcp then .synSent else .established
      timerFlags := .loop, protocol := protocol
      lan :=
        { ip := swap32 (BitVec.ofNat 32 fields.lanIp)
          port := swap16 (BitVec.ofInt 16 fields.lanPort) }
      wan :=
        { ip := swap32 (BitVec.ofNat 32 fields.wanIp)
          port := swap16 (BitVec.ofInt 16 fields.wanPort) }
      l2wKey := 0, w2lKey := 0 }

/-- The packet that waited for the mapping, hairpin first. -/
def forward (settings : Settings) (now : Int) (table : Table) (bucket : IcmpBucket)
    (protocol : BitVec 8) (buf : Buffer) (size : Nat) : Outcome :=
  if protocol = ipprotoUdp ∧ chkSelfaddr settings.nat (ipDst buf) .lan2wan = true then
    let hairpin := wan2lanAlias settings.nat now table bucket buf size
    if hairpin.verdict ≠ .doalias then hairpin
    else lan2wanAlias settings.nat now hairpin.table hairpin.bucket hairpin.buf size
  else lan2wanAlias settings.nat now table bucket buf size

/-- `request_ack` up to `s_insert`; `fresh` is what malloc returned. -/
def requestAck (state : State) (fresh : Ptr) (fields : Fields) (buf : Buffer) (size : Nat) : State :=
  let node := parsedNode state.now fields
  match sInsert (state.table.store fresh node) fresh with
  | (table, some _) => { state with table := table, receiver := .receiving }
  | (table, none) =>
      { state with
        table := table
        live := fresh :: state.live
        releases := state.releases.filter fun ptr => ptr ≠ fresh
        frees := state.frees.filter fun ptr => ptr ≠ fresh
        receiver :=
          if node.protocol = ipprotoTcp ∨ node.protocol = ipprotoUdp then
            .adding node.l2wKey node.protocol buf size
          else .forwarding node.protocol buf size }

def State.free (state : State) (ptr : Ptr) : State :=
  { state with live := state.live.erase ptr, frees := ptr :: state.frees }

/-- `s_delete_for_value`, the timer and the node. -/
def deleteMapping (state : State) (fields : Fields) : State :=
  let n := parsedNode state.now fields
  if n.protocol = ipprotoTcp ∨ n.protocol = ipprotoUdp then
    match sDeleteForValue state.table n with
    | (_, none) => state.exit
    | (table, some ptr) =>
        match delTimerEvent state.timers (table.l2wKeyOf ptr) with
        | none => state.exit
        | some timers =>
            State.free { state with table := table, timers := timers, receiver := .receiving } ptr
  else { state with receiver := .receiving }

/-- `release_ack`; unless the packet is translated, nothing is deleted. -/
def releaseAck (settings : Settings) (state : State) (fields : Fields) : RecvItem → State
  | .timeout ptr =>
      State.free
        { state with table := (sDeleteForPoint state.table ptr).1, receiver := .receiving } ptr
  | .release rel buf size _ =>
      let outcome := aliasPacket settings.nat state.now state.table state.bucket rel buf size
      let state := { state with table := outcome.table, bucket := outcome.bucket }
      if outcome.verdict ≠ .doalias then { state with receiver := .receiving }
      else deleteMapping state fields
  | .request _ _ => deleteMapping state fields

/-- A node's memory taken for a packet is not followed any further. -/
def handleReply (settings : Settings) (state : State) (fresh : Ptr) (reply : Reply)
    (item : RecvItem) : Option State :=
  match reply.type, item with
  | .requestAck, .request buf size =>
      if fresh ∈ state.live then none
      else some (requestAck state fresh reply.fields buf size)
  | .requestAck, .release _ buf size _ =>
      if fresh ∈ state.live then none
      else some (requestAck state fresh reply.fields buf size)
  | .requestAck, .timeout _ => some state.crash
  | .requestDiscard, .timeout _ => some state.crash
  | .requestDiscard, _ => some { state with receiver := .receiving }
  | .releaseAck, item => some (releaseAck settings state reply.fields item)

def receiverStep (settings : Settings) (state : State) (fresh : Ptr) : Option State :=
  match state.receiver with
  | .receiving =>
      match state.toClient with
      | [] => none
      | reply :: rest =>
          if parses reply then
            some { state with toClient := rest, receiver := .popping reply }
          else some state.exit
  | .popping reply =>
      match state.hRecv with
      | [] => none
      | item :: rest =>
          some
            { state with
              hRecv := rest
              receiver := .handling reply item
              popped := state.popped ++ [item] }
  | .handling reply item => handleReply settings state fresh reply item
  | .adding ident protocol buf size =>
      some
        { state with
          timers := addTimerEvent state.timers ident, receiver := .forwarding protocol buf size }
  | .forwarding protocol buf size =>
      let outcome := forward settings state.now state.table state.bucket protocol buf size
      some { state with table := outcome.table, bucket := outcome.bucket, receiver := .receiving }

/-! ### Runs -/

inductive Event where
  | clock (now : Int)
  /-- whoever owns freed memory now writes to it -/
  | scribble (ptr : Ptr) (node : Node)
  | packet (side : Side) (packet : Datagram)
  | divert
  | kevent (ident : BitVec 64)
  | timer
  | sender
  | server
  /-- `fresh` is only looked at when the step allocates -/
  | receiver (fresh : Ptr)
  /-- a `sendto` fails for good: neither EHOSTDOWN nor EHOSTUNREACH -/
  | sendto

def running (settings : Settings) (state : State) : Event → Option State
  | .clock now => some { state with now := now }
  | .scribble ptr node =>
      if ptr ∈ state.live then none else some { state with table := state.table.store ptr node }
  | .packet side packet =>
      match state.divert with
      | .reading => some (divertPacket settings state side packet)
      | _ => none
  | .divert => divertStep settings state
  | .kevent ident => timerFetch state ident
  | .timer => timerStep settings state
  | .sender => senderStep settings state
  | .server => serverStep settings state
  | .receiver fresh => receiverStep settings state fresh
  | .sendto => some state.exit

def step (settings : Settings) (state : State) (event : Event) : Option State :=
  match state.status with
  | .running => running settings state event
  | _ => none

/-- The addresses were announced in the first message; no other box shares the server. -/
def startServer (settings : Settings) : Server :=
  ((newServer settings.startPort settings.endPort settings.maxConnection).mkMessage
    settings.socketId (.initializeAddrs (settings.poolAddr.map BitVec.toNat))).1

def start (settings : Settings) (memory : Ptr → Node) : State :=
  { status := .running, now := 0, table := sInit memory, bucket := { localAddr := 0, foreign := 0 }
    timers := [], live := [], hSend := [], hRecv := []
    divert := .reading, timer := .waiting, sender := .popping, receiver := .receiving
    toServer := [], toClient := [], server := startServer settings
    releases := [], frees := [], sent := [], popped := [] }

end System
end NatPorte
