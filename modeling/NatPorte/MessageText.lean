/-
The messages of natporte and the pool server as texts, one JSON object a line.

natporte writes with `sprintf` and reads with `read_json` and `ptree::get`, which are not
part of the repository; the server writes with `JSON.stringify` and reads with `JSON.parse`.
-/

import NatPorte.Framing
import NatPorte.Library.JsonPrinter
import NatPorte.Library.ScriptNumber
import NatPorte.System

namespace NatPorte
namespace MessageText

open ByteBuffer Delimited ObjectMap Entry PoolServer Framing JsonText ScriptNumber

/-! ### What natporte writes -/

/-- `%d`, `%u` and `%ld` behind the text in front of each. -/
def formatted (pieces : List (String × Int)) : List Char :=
  pieces.flatMap fun piece => piece.1.toList ++ integerText piece.2

/-- What `addrpool_sender` prints for `AP_SEND_REQ`, up to the newline. -/
def requestLine (ctime : Int) (protocol ipSrc : Nat) (portSrc : Int) (ipDst : Nat)
    (portDst : Int) : List Char :=
  formatted
    [("\x7b \"type\" :\"request\",  \"protocol\": ", protocol), (",  \"ctime\"   : ", ctime),
     (",  \"ip_src\"  : ", ipSrc), (",  \"ip_dst\"  : ", ipDst),
     (",  \"port_src\": ", portSrc), (",  \"port_dst\": ", portDst)] ++ "\x7d".toList

/-- What it prints for `AP_SEND_REL` and `AP_TIMEOUT`. -/
def releaseLine (ctime : Int) (fields : Fields) : List Char :=
  formatted
    [("\x7b \"type\" :\"release\",  \"protocol\": ", fields.protocol), (",  \"ctime\"   : ", ctime),
     (",  \"lan_ip\"  : ", fields.lanIp), (",  \"wan_ip\"  : ", fields.wanIp),
     (",  \"lan_port\": ", fields.lanPort), (",  \"wan_port\": ", fields.wanPort)] ++ "\x7d".toList

/-- `addrpool_initialize`: the erased character is the last separator. -/
def initializeLine (poolAddr : List Nat) : List Char :=
  let array := poolAddr.flatMap fun (addr : Nat) => integerText addr ++ [',']
  let buffer := "\x7b \"type\" :\"initialize\", \"wan_addrs\":[".toList ++ array
  buffer.dropLast ++ "] \x7d".toList

def senderLine (ctime : Int) : Message → List Char
  | .request protocol ipSrc portSrc ipDst portDst =>
      requestLine ctime protocol ipSrc portSrc ipDst portDst
  | .release fields => releaseLine ctime fields
  | .initializeAddrs wanAddrs => initializeLine wanAddrs

/-! ### What the server reads -/

/-- Integers only: natporte writes no others. -/
def numberOf : Json → Option Int
  | .number mantissa 0 => some (double mantissa)
  | _ => none

def naturalOf (json : Json) : Option Nat :=
  match numberOf json with
  | some (.ofNat number) => some number
  | _ => none

/-- An object with a member twice keeps the last value. -/
def scriptObject : Json → Option (Object JsString Json)
  | .object members =>
      some (members.foldl (fun object member => set object member.1 member.2) [])
  | _ => none

def field (message : Object JsString Json) (name : String) : Option Json := get message name.toList

/-- The record that a message stands for, from the members that `mk_message` reads. -/
def messageOf (message : Object JsString Json) : Option Message :=
  match field message "type" with
  | some (.string type) =>
      if type = "request".toList then do
        let protocol ← field message "protocol" >>= naturalOf
        let ipSrc ← field message "ip_src" >>= naturalOf
        let ipDst ← field message "ip_dst" >>= naturalOf
        let portSrc ← field message "port_src" >>= numberOf
        let portDst ← field message "port_dst" >>= numberOf
        return .request protocol ipSrc portSrc ipDst portDst
      else if type = "release".toList then do
        let protocol ← field message "protocol" >>= naturalOf
        let wanIp ← field message "wan_ip" >>= naturalOf
        let wanPort ← field message "wan_port" >>= numberOf
        let lanIp ← field message "lan_ip" >>= naturalOf
        let lanPort ← field message "lan_port" >>= numberOf
        return .release
          { protocol := protocol, lanIp := lanIp, lanPort := lanPort, wanIp := wanIp
            wanPort := wanPort }
      else if type = "initialize".toList then
        match field message "wan_addrs" with
        | some (.array wanAddrs) => (wanAddrs.mapM naturalOf).map .initializeAddrs
        | _ => none
      else none
  | _ => none

/-! ### What the server writes -/

def integer (number : Int) : Json := .number number 0

/-- The object that `mk_message` returns, with its members in the order they are added. -/
def answerObject (message : Object JsString Json) (reply : Reply) : Object JsString Json :=
  match reply.type with
  | .requestAck =>
      [("wan_ip".toList, integer reply.fields.wanIp), ("wan_port".toList, integer reply.fields.wanPort),
       ("lan_ip".toList, integer reply.fields.lanIp), ("lan_port".toList, integer reply.fields.lanPort),
       ("protocol".toList, integer reply.fields.protocol),
       ("type".toList, .string "request_ack".toList)]
  | .requestDiscard =>
      [("lan_ip".toList, integer reply.fields.lanIp), ("wan_ip".toList, integer reply.fields.wanIp),
       ("lan_port".toList, integer reply.fields.lanPort),
       ("wan_port".toList, integer reply.fields.wanPort),
       ("protocol".toList, integer reply.fields.protocol),
       ("type".toList, .string "request_discard".toList)]
  -- the message itself comes back
  | .releaseAck =>
      set (set (set message "type".toList (.string "release_ack".toList)) "wan_ip".toList
        (integer reply.fields.wanIp)) "lan_ip".toList (integer reply.fields.lanIp)

/-- One line of `server_data`: what is written to the socket, without the newline.  A
SyntaxError and a TypeError are logged. -/
def serverLine (socketId : JsString) (server : Server) (line : JsString) :
    Server × List JsString :=
  match parse line >>= scriptObject with
  | none => (server, [])
  | some object =>
      match messageOf object with
      | none => (server, [])
      | some message =>
          match server.mkMessage socketId message with
          | (server, .reply reply) => (server, [stringify (.object (answerObject object reply))])
          | (server, _) => (server, [])

/-- What `server_connect` writes first; the timeouts are in seconds. -/
def greeting (timeoutTcp timeoutUdp : Int) : Object JsString Json :=
  [("type".toList, .string "initialize".toList),
   ("timeout_tcp".toList, integer (timeoutTcp * 1000)),
   ("timeout_udp".toList, integer (timeoutUdp * 1000))]

/-! ### What natporte reads -/

/-- What `addrpool_receiver` does with a line. -/
inductive Received where
  | requestAck (fields : Fields)
  | requestDiscard
  | releaseAck (fields : Fields)
  | releaseDiscard
  | timeouts (tcp udp : Int)
  | ignored
  | exit
  deriving DecidableEq, Repr

/-- `read_json` and `pt.get`, which are not part of the repository; `none` is an
exception.  The unsigned types differ in their width. -/
structure PropertyTree (Tree : Type) where
  readJson : Bytes → Option Tree
  getString : Tree → String → Option JsString
  getUnsigned : Nat → Tree → String → Option Nat
  getInt : Tree → String → Option Int

section Received

variable {Tree : Type} (pt : PropertyTree Tree)

def getFields (tree : Tree) : Option Fields := do
  let wanIp ← pt.getUnsigned 32 tree "wan_ip"
  let lanIp ← pt.getUnsigned 32 tree "lan_ip"
  let wanPort ← pt.getUnsigned 16 tree "wan_port"
  let lanPort ← pt.getUnsigned 16 tree "lan_port"
  let protocol ← pt.getUnsigned 32 tree "protocol"
  return { protocol := protocol, lanIp := lanIp, lanPort := lanPort, wanIp := wanIp
           wanPort := wanPort }

/-- Nothing catches what `get<int>` throws. -/
def getTimeouts (tree : Tree) : Option (Int × Int) := do
  let tcp ← pt.getInt tree "timeout_tcp"
  let udp ← pt.getInt tree "timeout_udp"
  return (tcp, udp)

def receivedTree (tree : Tree) : Received :=
  match pt.getString tree "type" with
  | none => .exit
  | some type =>
      if type = "request_ack".toList then (getFields pt tree).elim .exit .requestAck
      else if type = "request_discard".toList then .requestDiscard
      else if type = "release_ack".toList then (getFields pt tree).elim .exit .releaseAck
      else if type = "release_discard".toList then .releaseDiscard
      else if type = "initialize".toList then
        (getTimeouts pt tree).elim .exit fun timeouts => .timeouts timeouts.1 timeouts.2
      else .ignored

/-- A line that `read_json` refuses ends the process. -/
def receivedLine (line : Bytes) : Received := (pt.readJson line).elim .exit (receivedTree pt)

end Received

/-- Some number is larger than its type. -/
def TooLarge (fields : Fields) : Prop :=
  2 ^ 32 ≤ fields.protocol ∨ 2 ^ 32 ≤ fields.lanIp ∨ 2 ^ 32 ≤ fields.wanIp ∨
    2 ^ 16 ≤ fields.lanPort ∨ 2 ^ 16 ≤ fields.wanPort

/-- What a reply comes to.  The numbers of a discard are not read, and what becomes of a
negative number is left open. -/
structure ReadAs (reply : Reply) (received : Received) : Prop where
  requestAck : reply.type = .requestAck → System.numbersFit reply.fields = true →
    received = .requestAck reply.fields
  requestDiscard : reply.type = .requestDiscard → received = .requestDiscard
  releaseAck : reply.type = .releaseAck → System.numbersFit reply.fields = true →
    received = .releaseAck reply.fields
  tooLarge : reply.type ≠ .requestDiscard → TooLarge reply.fields → received = .exit

def bytesOf (text : List Char) : Bytes := text.map fun char => BitVec.ofNat 8 char.toNat

def fitsInt (number : Int) : Bool := -2 ^ 31 ≤ number && number < 2 ^ 31

/-- `pt.get` finds the members of an object: a string as it is, and an integer when it is
not too large for the type. -/
structure Gets {Tree : Type} (pt : PropertyTree Tree) (tree : Tree)
    (members : Object JsString Json) : Prop where
  string : ∀ name value, get members name.toList = some (.string value) →
    pt.getString tree name = some value
  unsigned : ∀ width name (number : Nat), width = 16 ∨ width = 32 →
    get members name.toList = some (integer number) →
    pt.getUnsigned width tree name = if number < 2 ^ width then some number else none
  int : ∀ name number, get members name.toList = some (integer number) →
    pt.getInt tree name = if fitsInt number then some number else none

/-- `read_json` reads JSON texts of plain characters, and `pt.get` what it read. -/
def ReadsJson {Tree : Type} (pt : PropertyTree Tree) : Prop :=
  ∀ text (members : Object JsString Json), Plain text → Denotes text (.object members) →
    (keys members).Nodup →
    ∃ tree, pt.readJson (bytesOf text) = some tree ∧ Gets pt tree members

def typeMember (type : String) : Laid :=
  { before := [' '], name := "type".toList, between := [' '], middle := []
    json := .string type.toList, after := [] }

def numberMember (name : String) (gap : Nat) (number : Int) : Laid :=
  { before := [' ', ' '], name := name.toList, between := List.replicate gap ' ', middle := [' ']
    json := integer number, after := []
    betweenSpaces := by
      intro char member
      rw [List.eq_of_mem_replicate member]
      rfl }

def senderMembers (ctime : Int) : Message → List Laid
  | .request protocol ipSrc portSrc ipDst portDst =>
      [typeMember "request", numberMember "protocol" 0 protocol, numberMember "ctime" 3 ctime,
       numberMember "ip_src" 2 ipSrc, numberMember "ip_dst" 2 ipDst,
       numberMember "port_src" 0 portSrc, numberMember "port_dst" 0 portDst]
  | .release fields =>
      [typeMember "release", numberMember "protocol" 0 fields.protocol, numberMember "ctime" 3 ctime,
       numberMember "lan_ip" 2 fields.lanIp, numberMember "wan_ip" 2 fields.wanIp,
       numberMember "lan_port" 0 fields.lanPort, numberMember "wan_port" 0 fields.wanPort]
  | .initializeAddrs wanAddrs =>
      [typeMember "initialize",
       { before := [' '], name := "wan_addrs".toList, between := [], middle := []
         json := .array (wanAddrs.map fun (addr : Nat) => integer addr), after := [' '] }]

section Sender

variable {ctime : Int} {message : Message}

/-- With a comma behind each address and the last one erased, the list is an array's. -/
theorem array_text {addr : Nat} {wanAddrs : List Nat} :
    ((addr :: wanAddrs).flatMap fun (addr : Nat) => integerText addr ++ [',']).dropLast ++ [']'] =
      stringifyItems true ((addr :: wanAddrs).map fun (addr : Nat) => integer addr) := by
  induction wanAddrs generalizing addr with
  | nil => simp [stringifyItems, separator, stringify, integer, numberText]
  | cons next wanAddrs ih =>
      have later := @ih next
      rw [List.map_cons, stringifyItems, List.flatMap_cons,
        List.dropLast_append_of_ne_nil (by simp), List.append_assoc, later]
      simp [stringifyItems, separator, stringify, integer, numberText]

/-- Every message but an announcement of no address. -/
def Announces : Message → Prop
  | .initializeAddrs wanAddrs => wanAddrs ≠ []
  | _ => True

theorem senderLine_laid (announces : Announces message) :
    senderLine ctime message = laidObject (senderMembers ctime message) := by
  cases message with
  | request =>
      simp [senderLine, requestLine, formatted, laidObject, senderMembers, typeMember, numberMember,
        laidMembers, separator, escaped, escapeChar, stringify, integer, numberText]
  | release =>
      simp [senderLine, releaseLine, formatted, laidObject, senderMembers, typeMember, numberMember,
        laidMembers, separator, escaped, escapeChar, stringify, integer, numberText]
  | initializeAddrs wanAddrs =>
      cases wanAddrs with
      | nil => exact absurd rfl announces
      | cons addr wanAddrs =>
          have array := @array_text addr wanAddrs
          have text : senderLine ctime (.initializeAddrs (addr :: wanAddrs)) =
              "\x7b \"type\" :\"initialize\", \"wan_addrs\":[".toList ++
                (((addr :: wanAddrs).flatMap fun (addr : Nat) => integerText addr ++ [',']).dropLast ++
                  "] \x7d".toList) := by
            rw [senderLine, initializeLine, List.dropLast_append_of_ne_nil (by simp),
              List.append_assoc]
          have closing : "] \x7d".toList = [']'] ++ " \x7d".toList := by simp
          rw [text, closing, ← List.append_assoc (List.dropLast _), array]
          simp [laidObject, senderMembers, typeMember, laidMembers, separator, escaped, escapeChar,
            stringify]

theorem senderMembers_nonempty : senderMembers ctime message ≠ [] := by
  cases message <;> exact List.cons_ne_nil _ _

theorem senderLine_denotes (announces : Announces message) :
    Denotes (senderLine ctime message) (.object ((senderMembers ctime message).map Laid.member)) := by
  rw [senderLine_laid announces]
  exact laidObject_denotes senderMembers_nonempty

def numbersOf : Message → List Int
  | .request protocol ipSrc portSrc ipDst portDst => [protocol, ipSrc, portSrc, ipDst, portDst]
  | .release fields =>
      [fields.protocol, fields.lanIp, fields.lanPort, fields.wanIp, fields.wanPort]
  | .initializeAddrs wanAddrs => wanAddrs.map Int.ofNat

def Exact (message : Message) : Prop := ∀ number ∈ numbersOf message, 0 ≤ number ∧ number < 2 ^ 53

theorem double_small {number : Int} (small : 0 ≤ number ∧ number < 2 ^ 53) :
    double number = number := by
  obtain ⟨natural, rfl⟩ := Int.eq_ofNat_of_zero_le small.1
  exact double_exact (by omega)

theorem numberOf_integer {number : Int} (small : 0 ≤ number ∧ number < 2 ^ 53) :
    numberOf (integer number) = some number := congrArg some (double_small small)

theorem naturalOf_integer {number : Nat} (small : 0 ≤ (number : Int) ∧ (number : Int) < 2 ^ 53) :
    naturalOf (integer number) = some number := by
  rw [naturalOf, numberOf_integer small]

theorem mapM_naturalOf {wanAddrs : List Nat}
    (small : ∀ number ∈ wanAddrs.map Int.ofNat, 0 ≤ number ∧ number < 2 ^ 53) :
    (wanAddrs.map fun (addr : Nat) => integer addr).mapM naturalOf = some wanAddrs := by
  induction wanAddrs with
  | nil => rfl
  | cons addr wanAddrs ih =>
      have later := ih fun number member => small number (List.mem_cons_of_mem _ member)
      rw [List.map_cons, List.mapM_cons, naturalOf_integer (small _ List.mem_cons_self), later]
      rfl

/-- The object of a text of natporte. -/
def senderObject (ctime : Int) (message : Message) : Object JsString Json :=
  (senderMembers ctime message).map Laid.member

theorem scriptObject_sender :
    scriptObject (.object ((senderMembers ctime message).map Laid.member)) =
      some (senderObject ctime message) := by
  cases message <;> rfl

theorem messageOf_senderObject (exact : Exact message) :
    messageOf (senderObject ctime message) = some message := by
  cases message with
  | request protocol ipSrc portSrc ipDst portDst =>
      simp only [Exact, numbersOf, List.forall_mem_cons] at exact
      obtain ⟨isProtocol, isSource, isSourcePort, isTarget, isTargetPort, -⟩ := exact
      change (do
        let protocol ← naturalOf (integer protocol)
        let ipSrc ← naturalOf (integer ipSrc)
        let ipDst ← naturalOf (integer ipDst)
        let portSrc ← numberOf (integer portSrc)
        let portDst ← numberOf (integer portDst)
        return Message.request protocol ipSrc portSrc ipDst portDst) = _
      rw [naturalOf_integer isProtocol, naturalOf_integer isSource, naturalOf_integer isTarget,
        numberOf_integer isSourcePort, numberOf_integer isTargetPort]
      rfl
  | release fields =>
      simp only [Exact, numbersOf, List.forall_mem_cons] at exact
      obtain ⟨isProtocol, isLan, isLanPort, isWan, isWanPort, -⟩ := exact
      change (do
        let protocol ← naturalOf (integer fields.protocol)
        let wanIp ← naturalOf (integer fields.wanIp)
        let wanPort ← numberOf (integer fields.wanPort)
        let lanIp ← naturalOf (integer fields.lanIp)
        let lanPort ← numberOf (integer fields.lanPort)
        return Message.release
          { protocol := protocol, lanIp := lanIp, lanPort := lanPort, wanIp := wanIp
            wanPort := wanPort }) = _
      rw [naturalOf_integer isProtocol, naturalOf_integer isLan, naturalOf_integer isWan,
        numberOf_integer isLanPort, numberOf_integer isWanPort]
      rfl
  | initializeAddrs wanAddrs =>
      change ((wanAddrs.map fun (addr : Nat) => integer addr).mapM naturalOf).map
        Message.initializeAddrs = _
      rw [mapM_naturalOf exact]
      rfl

end Sender

section Answers

variable {Tree : Type} {pt : PropertyTree Tree} {tree : Tree} {members : Object JsString Json}

/-- The members that make up the fields. -/
structure Carries (members : Object JsString Json) (fields : Fields) : Prop where
  wanIp : get members "wan_ip".toList = some (integer fields.wanIp)
  lanIp : get members "lan_ip".toList = some (integer fields.lanIp)
  wanPort : get members "wan_port".toList = some (integer fields.wanPort)
  lanPort : get members "lan_port".toList = some (integer fields.lanPort)
  protocol : get members "protocol".toList = some (integer fields.protocol)

theorem Gets.fits {width number : Nat} {name : String} (gets : Gets pt tree members)
    (known : width = 16 ∨ width = 32)
    (isMember : get members name.toList = some (integer number)) (small : number < 2 ^ width) :
    pt.getUnsigned width tree name = some number := by
  rw [gets.unsigned width name number known isMember, if_pos small]

theorem Gets.throws {width : Nat} {number : Int} {name : String} (gets : Gets pt tree members)
    (known : width = 16 ∨ width = 32)
    (isMember : get members name.toList = some (integer number)) (large : 2 ^ width ≤ number) :
    pt.getUnsigned width tree name = none := by
  have natural : 0 ≤ number := Int.le_trans (Int.pow_nonneg (by decide)) large
  obtain ⟨number, rfl⟩ := Int.eq_ofNat_of_zero_le natural
  rw [gets.unsigned width name number known isMember, if_neg]
  exact Nat.not_lt.mpr (by exact_mod_cast large)

theorem Carries.getFields {fields : Fields} (carries : Carries members fields)
    (gets : Gets pt tree members) (fit : System.numbersFit fields = true) :
    getFields pt tree = some fields := by
  simp only [System.numbersFit, Bool.and_eq_true, decide_eq_true_eq] at fit
  obtain ⟨⟨⟨⟨isProtocol, isLan⟩, isWan⟩, isLanPort⟩, isWanPort⟩ := fit
  obtain ⟨protocol, lanIp, lanPort, wanIp, wanPort⟩ := fields
  obtain ⟨lanPort, rfl⟩ := Int.eq_ofNat_of_zero_le isLanPort.1
  obtain ⟨wanPort, rfl⟩ := Int.eq_ofNat_of_zero_le isWanPort.1
  have smallLan : lanPort < 2 ^ 16 := Int.ofNat_lt.mp isLanPort.2
  have smallWan : wanPort < 2 ^ 16 := Int.ofNat_lt.mp isWanPort.2
  rw [MessageText.getFields, gets.fits (.inr rfl) carries.wanIp isWan,
    gets.fits (.inr rfl) carries.lanIp isLan, gets.fits (.inl rfl) carries.wanPort smallWan,
    gets.fits (.inl rfl) carries.lanPort smallLan,
    gets.fits (.inr rfl) carries.protocol isProtocol]
  rfl

/-- One `pt.get` that throws is enough. -/
theorem Carries.getFields_none {fields : Fields} (carries : Carries members fields)
    (gets : Gets pt tree members) (large : TooLarge fields) : MessageText.getFields pt tree = none := by
  have none : pt.getUnsigned 32 tree "wan_ip" = none ∨ pt.getUnsigned 32 tree "lan_ip" = none ∨
      pt.getUnsigned 16 tree "wan_port" = none ∨ pt.getUnsigned 16 tree "lan_port" = none ∨
      pt.getUnsigned 32 tree "protocol" = none := by
    rcases large with large | large | large | large | large
    · exact .inr (.inr (.inr (.inr (gets.throws (.inr rfl) carries.protocol (by omega)))))
    · exact .inr (.inl (gets.throws (.inr rfl) carries.lanIp (by omega)))
    · exact .inl (gets.throws (.inr rfl) carries.wanIp (by omega))
    · exact .inr (.inr (.inr (.inl (gets.throws (.inl rfl) carries.lanPort large))))
    · exact .inr (.inr (.inl (gets.throws (.inl rfl) carries.wanPort large)))
  rw [MessageText.getFields]
  cases wanIp : pt.getUnsigned 32 tree "wan_ip" with
  | none => rfl
  | some wanIp' =>
      cases lanIp : pt.getUnsigned 32 tree "lan_ip" with
      | none => rfl
      | some lanIp' =>
          cases wanPort : pt.getUnsigned 16 tree "wan_port" with
          | none => rfl
          | some wanPort' =>
              cases lanPort : pt.getUnsigned 16 tree "lan_port" with
              | none => rfl
              | some lanPort' =>
                  cases protocol : pt.getUnsigned 32 tree "protocol" with
                  | none => rfl
                  | some protocol' =>
                      rw [wanIp, lanIp, wanPort, lanPort, protocol] at none
                      simp only [reduceCtorEq, or_self] at none

def typeName : ReplyType → String
  | .requestAck => "request_ack"
  | .requestDiscard => "request_discard"
  | .releaseAck => "release_ack"

theorem Carries.received {reply : Reply} (carries : Carries members reply.fields)
    (gets : Gets pt tree members)
    (isType : get members "type".toList = some (.string (typeName reply.type).toList)) :
    ReadAs reply (receivedTree pt tree) := by
  have type := gets.string "type" _ isType
  have whole := carries.getFields gets
  have cut := carries.getFields_none gets
  obtain ⟨replyType, fields⟩ := reply
  constructor
  · rintro rfl fit
    simp [receivedTree, type, typeName, whole fit]
  · rintro rfl
    simp [receivedTree, type, typeName]
  · rintro rfl fit
    simp [receivedTree, type, typeName, whole fit]
  · intro acknowledges large
    cases replyType with
    | requestAck => simp [receivedTree, type, typeName, cut large]
    | requestDiscard => exact absurd rfl acknowledges
    | releaseAck => simp [receivedTree, type, typeName, cut large]

theorem answerObject_carries {ctime : Int} {message : Message} {reply : Reply}
    (echoes : reply.type = .releaseAck →
      ∃ fields, message = .release fields ∧
        reply.fields = { fields with lanIp := reply.fields.lanIp, wanIp := reply.fields.wanIp }) :
    Carries (answerObject (senderObject ctime message) reply) reply.fields ∧
      get (answerObject (senderObject ctime message) reply) "type".toList =
        some (.string (typeName reply.type).toList) ∧
      (keys (answerObject (senderObject ctime message) reply)).Nodup := by
  obtain ⟨type, fields⟩ := reply
  cases type with
  | requestAck => exact ⟨⟨rfl, rfl, rfl, rfl, rfl⟩, rfl, by simp [answerObject, keys]⟩
  | requestDiscard => exact ⟨⟨rfl, rfl, rfl, rfl, rfl⟩, rfl, by simp [answerObject, keys]⟩
  | releaseAck =>
      obtain ⟨released, rfl, same⟩ := echoes rfl
      simp only at same
      rw [same]
      refine ⟨⟨rfl, rfl, rfl, rfl, rfl⟩, rfl, ?_⟩
      refine nodup_keys_set (nodup_keys_set (nodup_keys_set ?_))
      simp [senderObject, senderMembers, keys, Laid.member, typeMember, numberMember]

theorem answerObject_plain {ctime : Int} {message : Message} {reply : Reply}
    (echoes : reply.type = .releaseAck → ∃ fields, message = .release fields) :
    membersPlain (answerObject (senderObject ctime message) reply) = true := by
  obtain ⟨type, fields⟩ := reply
  cases type with
  | requestAck => rfl
  | requestDiscard => rfl
  | releaseAck =>
      obtain ⟨released, rfl⟩ := echoes rfl
      rfl

end Answers

section Lines

variable {socketId : JsString} {server after : Server} {ctime : Int} {message : Message}
  {reply : Reply}

theorem mkMessage_echoes (answered : server.mkMessage socketId message = (after, .reply reply))
    (ack : reply.type = .releaseAck) : ∃ fields, message = .release fields ∧
      reply.fields = { fields with lanIp := reply.fields.lanIp, wanIp := reply.fields.wanIp } := by
  cases message with
  | request protocol ipSrc portSrc ipDst portDst =>
      simp only [Server.mkMessage] at answered
      split at answered <;> cases answered <;> cases ack
  | release fields =>
      simp only [Server.mkMessage] at answered
      split at answered
      · cases answered
      · cases answered
        exact ⟨fields, rfl, rfl⟩
  | initializeAddrs => cases answered

/-- The messages that natporte sends: those that `addrpool_sender` formats, and the
announcement of its addresses. -/
inductive FromSender : Message → Prop
  | formatted {table : Structure.Table} {pc : System.SenderPc} {received : System.RecvItem}
      {message : Message} : System.format table pc = some (received, message) →
      FromSender message
  | announced (poolAddr : List (BitVec 32)) :
      FromSender (.initializeAddrs (poolAddr.map BitVec.toNat))

theorem exact_requestOf (node : Structure.Node) : Exact (System.requestOf node) := by
  have protocol := node.protocol.isLt
  have lanIp := (Packet.swap32 node.lan.ip).isLt
  have wanIp := (Packet.swap32 node.wan.ip).isLt
  have lanPort := (Packet.swap16 node.lan.port).isLt
  have wanPort := (Packet.swap16 node.wan.port).isLt
  simp only [Exact, System.requestOf, numbersOf, List.forall_mem_cons, List.not_mem_nil,
    IsEmpty.forall_iff, implies_true, and_true]
  omega

theorem exact_fieldsOf (node : Structure.Node) : Exact (.release (System.fieldsOf node)) := by
  have protocol := node.protocol.isLt
  have lanIp := (Packet.swap32 node.lan.ip).isLt
  have wanIp := (Packet.swap32 node.wan.ip).isLt
  have lanPort := (Packet.swap16 node.lan.port).isLt
  have wanPort := (Packet.swap16 node.wan.port).isLt
  simp only [Exact, System.fieldsOf, numbersOf, List.forall_mem_cons, List.not_mem_nil,
    IsEmpty.forall_iff, implies_true, and_true]
  omega

theorem FromSender.exact (sent : FromSender message) : Exact message := by
  cases sent with
  | @formatted table pc received _ formats =>
      cases pc with
      | formatting item =>
          cases item with
          | sendReq buf size =>
              cases formats
              exact exact_requestOf _
          | sendRel buf size origin => cases formats
          | timeout ptr =>
              cases formats
              exact exact_fieldsOf _
      | matched rel buf size origin ptr =>
          cases formats
          exact exact_fieldsOf _
      | popping => cases formats
      | unmatched => cases formats
      | pushing => cases formats
      | sending => cases formats
  | announced poolAddr =>
      intro number member
      obtain ⟨natural, inList, rfl⟩ := List.mem_map.mp member
      obtain ⟨addr, -, rfl⟩ := List.mem_map.mp inList
      have word := addr.isLt
      simp only [Int.ofNat_eq_natCast]
      omega

def readLine (line : JsString) : Option Message := parse line >>= scriptObject >>= messageOf

theorem announces_or (message : Message) : Announces message ∨ message = .initializeAddrs [] := by
  cases message with
  | request => exact .inl trivial
  | release => exact .inl trivial
  | initializeAddrs wanAddrs =>
      cases wanAddrs with
      | nil => exact .inr rfl
      | cons => exact .inl (List.cons_ne_nil _ _)

theorem parse_initializeLine_nil : parse (initializeLine []) = none :=
  Option.isNone_iff_eq_none.mp (by decide +kernel)

/-- What a message is understood as. -/
def understood (message : Message) : Option Message :=
  if message = .initializeAddrs [] then none else some message

theorem readLine_senderLine (sent : FromSender message) :
    readLine (senderLine ctime message) = understood message := by
  rcases announces_or message with announces | rfl
  · have nonempty : message ≠ .initializeAddrs [] := by
      rintro rfl
      exact announces rfl
    rw [readLine, (senderLine_denotes announces).parse, understood, if_neg nonempty]
    simp only [Option.bind_eq_bind, Option.bind_some]
    rw [scriptObject_sender]
    exact messageOf_senderObject sent.exact
  · rw [readLine, senderLine, parse_initializeLine_nil]
    rfl

/-- The reply that `mk_message` returns, if it returns one. -/
def answers (socketId : JsString) (server : Server) (message : Message) : List Reply :=
  match server.mkMessage socketId message with
  | (_, .reply reply) => [reply]
  | _ => []

def answerText (ctime : Int) (message : Message) (reply : Reply) : JsString :=
  stringify (.object (answerObject (senderObject ctime message) reply))

theorem serverLine_senderLine (sent : FromSender message) :
    (serverLine socketId server (senderLine ctime message)).2 =
      (answers socketId server message).map (answerText ctime message) := by
  rcases announces_or message with announces | rfl
  · rw [serverLine, (senderLine_denotes announces).parse]
    simp only [Option.bind_eq_bind, Option.bind_some]
    rw [scriptObject_sender]
    simp only
    rw [messageOf_senderObject sent.exact]
    simp only [answers]
    generalize server.mkMessage socketId message = result
    obtain ⟨after, answer⟩ := result
    cases answer <;> rfl
  · rw [serverLine, senderLine, parse_initializeLine_nil]
    rfl

end Lines

section Streams

variable {text : List Char}

theorem plain_byte {char : Char} (plain : isPlain char = true) :
    (BitVec.ofNat 8 char.toNat).toNat = char.toNat ∧ 0x20 ≤ char.toNat ∧ char.toNat < 0x7f := by
  rw [isPlain, Bool.and_eq_true, decide_eq_true_eq, decide_eq_true_eq] at plain
  refine ⟨?_, plain⟩
  rw [BitVec.toNat_ofNat]
  omega

theorem bytesOf_line (plain : Plain text) (nonempty : text ≠ []) : Line (bytesOf text) where
  nonempty := fun empty => nonempty (List.map_eq_nil_iff.mp empty)
  free := by
    intro member
    obtain ⟨char, inText, same⟩ := List.mem_map.mp member
    have byte := plain_byte (plain char inText)
    rw [same] at byte
    have value : newline.toNat = 10 := rfl
    omega
  ascii := by
    intro byte member
    obtain ⟨char, inText, rfl⟩ := List.mem_map.mp member
    have byte := plain_byte (plain char inText)
    omega

theorem ascii_bytesOf (plain : Plain text) : ascii (bytesOf text) = text := by
  rw [ascii, bytesOf, List.map_map]
  refine (List.map_congr_left ?_).trans (List.map_id text)
  intro char member
  have byte := plain_byte (plain char member)
  have small : char.toNat % 128 = char.toNat := by omega
  simp only [Function.comp_apply, asciiChar, byte.1, small, id_eq]
  exact Char.ofNat_toNat char

/-- The bytes of the lines, each with its newline. -/
def streamOf (lines : List (List Char)) : Bytes :=
  bytesOf (lines.flatMap fun line => line ++ ['\n'])

theorem streamOf_frame (lines : List (List Char)) :
    streamOf lines = frame newline (lines.map bytesOf) := by
  rw [streamOf, bytesOf, List.map_flatMap, frame, List.flatMap_map]
  refine List.flatMap_congr fun line _ => ?_
  rw [List.map_append]
  rfl

theorem formatted_plain {pieces : List (String × Int)}
    (plain : pieces.all (fun piece => piece.1.toList.all isPlain) = true) :
    Plain (formatted pieces) := by
  intro char member
  obtain ⟨piece, inPieces, inPiece⟩ := List.mem_flatMap.mp member
  have label := List.all_eq_true.mp (List.all_eq_true.mp plain piece inPieces)
  exact (Plain.append label (integerText_plain piece.2)) char inPiece

theorem senderLine_plain (ctime : Int) (message : Message) : Plain (senderLine ctime message) := by
  cases message with
  | request =>
      refine (formatted_plain ?_).append (by decide)
      simp only [List.all_cons]
      decide
  | release =>
      refine (formatted_plain ?_).append (by decide)
      simp only [List.all_cons]
      decide
  | initializeAddrs wanAddrs =>
      have array : Plain (wanAddrs.flatMap fun (addr : Nat) => integerText addr ++ [',']) := by
        intro char member
        obtain ⟨addr, -, inAddr⟩ := List.mem_flatMap.mp member
        exact (integerText_plain addr).append (by decide) char inAddr
      have buffer : Plain ("\x7b \"type\" :\"initialize\", \"wan_addrs\":[".toList ++
          wanAddrs.flatMap fun (addr : Nat) => integerText addr ++ [',']) :=
        Plain.append (by decide) array
      refine Plain.append (fun char member => ?_) (by decide)
      exact buffer char (List.mem_of_mem_dropLast member)

section Cuts

variable {lines : List (List Char)} {chunks seen : List Bytes}

theorem frames_lines (areLines : ∀ line ∈ lines, Plain line ∧ line ≠ [])
    (cut : chunks.flatten = streamOf lines) (soFar : seen <+: chunks) :
    ∃ rest, Frames newline seen.flatten
      ((lines.take (seen.flatten.count newline)).map bytesOf) rest ∧
      ∀ byte ∈ seen.flatten, byte.toNat < 128 := by
  obtain ⟨later, isPrefix⟩ := soFar
  have isLine : ∀ message ∈ lines.map bytesOf, Line message := by
    intro message member
    obtain ⟨line, inLines, rfl⟩ := List.mem_map.mp member
    exact bytesOf_line (areLines line inLines).1 (areLines line inLines).2
  have stream : seen.flatten ++ later.flatten = frame newline (lines.map bytesOf) := by
    rw [← List.flatten_append, isPrefix, cut, streamOf_frame]
  obtain ⟨rest, frames⟩ := frames_so_far isLine stream
  rw [← List.map_take] at frames
  refine ⟨rest, frames, fun byte member => line_bytes isLine byte ?_⟩
  rw [← stream]
  exact List.mem_append_left _ member

theorem lines_reach_natporte (areLines : ∀ line ∈ lines, Plain line ∧ line ≠ [])
    (nonempty : ∀ chunk ∈ chunks, chunk ≠ []) (cut : chunks.flatten = streamOf lines)
    (soFar : seen <+: chunks) :
    ∃ rest, receiveAll addrpoolReceive [] seen =
      some ((lines.take (seen.flatten.count newline)).map bytesOf, rest) := by
  obtain ⟨rest, frames, -⟩ := frames_lines areLines cut soFar
  refine ⟨rest, receiveAll_frames addrpoolReceive_frames
    (fun chunk member => nonempty chunk (soFar.subset member)) List.not_mem_nil ?_ frames⟩
  intro message member
  obtain ⟨line, inLines, rfl⟩ := List.mem_map.mp member
  have known := areLines line (List.mem_of_mem_take inLines)
  exact (bytesOf_line known.1 known.2).nonempty

theorem lines_reach_server (areLines : ∀ line ∈ lines, Plain line ∧ line ≠ [])
    (nonempty : ∀ chunk ∈ chunks, chunk ≠ []) (cut : chunks.flatten = streamOf lines)
    (soFar : seen <+: chunks) {natporteMessage : Object JsString JsString}
    {events : List (JsString × Bytes)} {socketId : JsString}
    (present : get natporteMessage socketId = some []) (own : ofSocket socketId events = seen) :
    ofSocket socketId (serverDataAll natporteMessage events).2 =
      lines.take (seen.flatten.count newline) := by
  obtain ⟨rest, frames, small⟩ := frames_lines areLines cut soFar
  have decoded := frames.map asciiChar fun byte member => asciiChar_newline byte (small byte member)
  have texts : ((lines.take (seen.flatten.count newline)).map bytesOf).map
      (fun message => message.map asciiChar) = lines.take (seen.flatten.count newline) := by
    rw [List.map_map]
    refine (List.map_congr_left ?_).trans (List.map_id _)
    intro line member
    exact ascii_bytesOf (areLines line (List.mem_of_mem_take member)).1
  rw [texts] at decoded
  have right : ∀ buffer text lines kept, text ≠ [] → (∀ line ∈ lines, True) →
      Frames '\n' (buffer ++ text) lines kept →
      some (serverLines buffer text) = some (lines, kept) :=
    fun buffer text lines kept _ _ framed => congrArg some (serverLines_frames framed)
  have alone : receiveAll (fun buffer text => some (serverLines buffer text)) []
      ((ofSocket socketId events).map ascii) =
        some (lines.take (seen.flatten.count newline), rest.map asciiChar) := by
    rw [own]
    refine receiveAll_frames right ?_ List.not_mem_nil (fun _ _ => trivial) ?_
    · intro piece member
      obtain ⟨chunk, inSeen, rfl⟩ := List.mem_map.mp member
      exact fun empty => nonempty chunk (soFar.subset inSeen) (List.map_eq_nil_iff.mp empty)
    · have text : (seen.map ascii).flatten = seen.flatten.map asciiChar := List.map_flatten.symm
      rw [List.nil_append, text]
      exact decoded
  exact (serverDataAll_socket events present alone).2

end Cuts

end Streams

/-! ### The dialogue over a connection -/

/-- A message of natporte, with the server's state when its line is read. -/
structure Turn where
  ctime : Int
  message : Message
  server : Server

def Turn.line (turn : Turn) : JsString := senderLine turn.ctime turn.message

/-- What is written to the socket. -/
def Turn.written (socketId : JsString) (turn : Turn) : List JsString :=
  (serverLine socketId turn.server turn.line).2

def Turn.replies (socketId : JsString) (turn : Turn) : List Reply :=
  answers socketId turn.server turn.message

/-- The timeouts arrive in milliseconds, when they fit an `int`. -/
def greeted (timeoutTcp timeoutUdp : Int) : Received :=
  if fitsInt (timeoutTcp * 1000) && fitsInt (timeoutUdp * 1000) then
    .timeouts (timeoutTcp * 1000) (timeoutUdp * 1000)
  else .exit

theorem receivedTree_greeting {Tree : Type} {pt : PropertyTree Tree} {tree : Tree}
    {timeoutTcp timeoutUdp : Int} (gets : Gets pt tree (greeting timeoutTcp timeoutUdp)) :
    receivedTree pt tree = greeted timeoutTcp timeoutUdp := by
  have type := gets.string "type" "initialize".toList rfl
  have tcp := gets.int "timeout_tcp" (timeoutTcp * 1000) rfl
  have udp := gets.int "timeout_udp" (timeoutUdp * 1000) rfl
  have read : receivedTree pt tree = (getTimeouts pt tree).elim .exit
      fun timeouts => .timeouts timeouts.1 timeouts.2 := by
    simp [receivedTree, type]
  rw [read, getTimeouts, tcp, udp, greeted]
  cases fitsInt (timeoutTcp * 1000) <;> cases fitsInt (timeoutUdp * 1000) <;> rfl

theorem forall₂_flatMap {Item Left Right : Type} {related : Left → Right → Prop}
    {left : Item → List Left} {right : Item → List Right} {items : List Item}
    (each : ∀ item ∈ items, List.Forall₂ related (left item) (right item)) :
    List.Forall₂ related (items.flatMap left) (items.flatMap right) := by
  induction items with
  | nil => exact .nil
  | cons item rest ih =>
      rw [List.flatMap_cons, List.flatMap_cons]
      exact List.rel_append (each item List.mem_cons_self)
        (ih fun other member => each other (List.mem_cons_of_mem item member))

theorem senderLine_nonempty (ctime : Int) (message : Message) : senderLine ctime message ≠ [] := by
  cases message <;> exact List.append_ne_nil_of_right_ne_nil _ (by decide)

theorem mem_answers {socketId : JsString} {server : Server} {message : Message} {reply : Reply}
    (member : reply ∈ answers socketId server message) :
    ∃ after, server.mkMessage socketId message = (after, .reply reply) := by
  rw [answers] at member
  split at member
  · next after answer same =>
      rw [List.mem_singleton.mp member]
      exact ⟨after, same⟩
  · cases member

theorem receivedLine_answer {Tree : Type} {pt : PropertyTree Tree} (reads : ReadsJson pt)
    {socketId : JsString} {server : Server} {ctime : Int} {message : Message} {reply : Reply}
    (member : reply ∈ answers socketId server message) :
    Plain (answerText ctime message reply) ∧
      ReadAs reply (receivedLine pt (bytesOf (answerText ctime message reply))) := by
  obtain ⟨after, answered⟩ := mem_answers member
  have plain : Plain (answerText ctime message reply) :=
    stringify_plain _ (answerObject_plain fun ack =>
      have ⟨fields, isRelease, _⟩ := mkMessage_echoes answered ack
      ⟨fields, isRelease⟩)
  obtain ⟨carries, isType, distinct⟩ :=
    @answerObject_carries ctime message reply (mkMessage_echoes answered)
  obtain ⟨tree, read, gets⟩ := reads _ _ plain (stringify_denotes _) distinct
  refine ⟨plain, ?_⟩
  have whole : receivedLine pt (bytesOf (answerText ctime message reply)) =
      receivedTree pt tree := by
    rw [receivedLine]
    exact congrArg (fun tree => Option.elim tree Received.exit (receivedTree pt)) read
  rw [whole]
  exact carries.received gets isType

/-- Whatever the other sockets send and however the stream is cut, the server has read
exactly the messages whose newline has arrived; an announcement of no address is not
understood. -/
theorem server_reads_sent (sent : List (Int × Message))
    (fromSender : ∀ item ∈ sent, FromSender item.2) (chunks : List Bytes)
    (nonempty : ∀ chunk ∈ chunks, chunk ≠ [])
    (cut : chunks.flatten = streamOf (sent.map fun item => senderLine item.1 item.2))
    (seen : List Bytes) (soFar : seen <+: chunks) (natporteMessage : Object JsString JsString)
    (events : List (JsString × Bytes)) (socketId : JsString)
    (present : get natporteMessage socketId = some []) (own : ofSocket socketId events = seen) :
    (ofSocket socketId (serverDataAll natporteMessage events).2).map readLine =
      ((sent.map Prod.snd).take (seen.flatten.count newline)).map understood := by
  have areLines : ∀ line ∈ sent.map fun item => senderLine item.1 item.2,
      Plain line ∧ line ≠ [] := by
    intro line member
    obtain ⟨item, -, rfl⟩ := List.mem_map.mp member
    exact ⟨senderLine_plain _ _, senderLine_nonempty _ _⟩
  rw [lines_reach_server areLines nonempty cut soFar present own, ← List.map_take, ← List.map_take,
    List.map_map, List.map_map]
  refine List.map_congr_left fun item member => ?_
  exact readLine_senderLine (fromSender item (List.mem_of_mem_take member))

/-- An address, and the first packet of a client. -/
private def announcement : Message := .initializeAddrs [0xC0000201]

private def clientRequest : Message :=
  .request 6 0x0A000001 80 0x0A000002 443

private def clientPacket : Packet.Buffer :=
  [69, 0, 0, 40, 0, 1, 0, 0, 64, 6, 0, 0, 10, 0, 0, 1, 10, 0, 0, 2,
    0, 80, 1, 187, 0, 0, 0, 0, 0, 0, 0, 0, 80, 2, 32, 0, 0, 0, 0, 0]

private theorem clientRequest_formatted : FromSender clientRequest :=
  @FromSender.formatted (Structure.sInit fun _ => System.mkNode [] 0)
    (.formatting (.sendReq clientPacket 40)) (.request clientPacket 40) clientRequest
    (by decide +kernel)

private def twoMessages : List (Int × Message) := [(5, announcement), (6, clientRequest)]

private def upstream : Bytes := streamOf (twoMessages.map fun item => senderLine item.1 item.2)

/-- The stream is cut within the first line. -/
private def upstreamChunks : List Bytes := [upstream.take 9, upstream.drop 9]

theorem server_reads_sent_two_messages :
    (ofSocket ['a'] (serverDataAll [(['a'], [])]
      (upstreamChunks.map fun data => (['a'], data))).2).map readLine =
        [some announcement, some clientRequest] := by
  have fromSender : ∀ item ∈ twoMessages, FromSender item.2 := by
    intro item member
    rcases List.mem_cons.mp member with rfl | later
    · exact .announced [0xC0000201]
    · rw [List.mem_singleton.mp later]
      exact clientRequest_formatted
  have read := server_reads_sent twoMessages fromSender upstreamChunks (by decide +kernel)
    (by decide +kernel) upstreamChunks (List.prefix_refl _) [(['a'], [])]
    (upstreamChunks.map fun data => (['a'], data)) ['a'] rfl (by decide +kernel)
  rw [read]
  decide +kernel

/-- However the stream is cut, natporte has read the timeouts and then exactly the replies
whose newline has arrived. -/
theorem natporte_reads_answers {Tree : Type} {pt : PropertyTree Tree} (reads : ReadsJson pt)
    (socketId : JsString) (timeoutTcp timeoutUdp : Int) (turns : List Turn)
    (fromSender : ∀ turn ∈ turns, FromSender turn.message) (chunks : List Bytes)
    (nonempty : ∀ chunk ∈ chunks, chunk ≠ [])
    (cut : chunks.flatten = streamOf
      (stringify (.object (greeting timeoutTcp timeoutUdp)) :: turns.flatMap (Turn.written socketId)))
    (seen : List Bytes) (soFar : seen <+: chunks) :
    ∃ lines rest, receiveAll addrpoolReceive [] seen = some (lines, rest) ∧
      List.Forall₂ (fun meant line => meant (receivedLine pt line))
        (((fun received => received = greeted timeoutTcp timeoutUdp) ::
          (turns.flatMap (Turn.replies socketId)).map ReadAs).take (seen.flatten.count newline))
        lines := by
  have written : turns.flatMap (Turn.written socketId) = turns.flatMap fun turn =>
      (turn.replies socketId).map (answerText turn.ctime turn.message) :=
    List.flatMap_congr fun turn member => serverLine_senderLine (fromSender turn member)
  rw [written] at cut
  have greetingPlain : Plain (stringify (.object (greeting timeoutTcp timeoutUdp))) :=
    stringify_plain _ rfl
  have areLines : ∀ line ∈ stringify (.object (greeting timeoutTcp timeoutUdp)) ::
      turns.flatMap fun turn => (turn.replies socketId).map (answerText turn.ctime turn.message),
      Plain line ∧ line ≠ [] := by
    intro line member
    rcases List.mem_cons.mp member with rfl | inTurns
    · exact ⟨greetingPlain, List.cons_ne_nil _ _⟩
    · obtain ⟨turn, -, inTurn⟩ := List.mem_flatMap.mp inTurns
      obtain ⟨reply, inReplies, rfl⟩ := List.mem_map.mp inTurn
      exact ⟨(receivedLine_answer reads inReplies).1, List.cons_ne_nil _ _⟩
  obtain ⟨rest, received⟩ := lines_reach_natporte areLines nonempty cut soFar
  refine ⟨_, rest, received, ?_⟩
  rw [List.forall₂_map_right_iff]
  refine List.forall₂_take _ (.cons ?_ ?_)
  · obtain ⟨tree, read, gets⟩ := reads _ _ greetingPlain (stringify_denotes _)
      (by simp [greeting, keys])
    have whole : receivedLine pt (bytesOf (stringify
        (.object (greeting timeoutTcp timeoutUdp)))) = receivedTree pt tree := by
      rw [receivedLine]
      exact congrArg (fun tree => Option.elim tree Received.exit (receivedTree pt)) read
    rw [whole]
    exact receivedTree_greeting gets
  · rw [List.forall₂_map_left_iff]
    refine forall₂_flatMap fun turn _ => ?_
    rw [List.forall₂_map_right_iff, List.forall₂_same]
    exact fun reply member => (receivedLine_answer reads member).2

private def smallServer : Server := newServer 4097 4098 100

private def twoTurns : List Turn :=
  [{ ctime := 5, message := announcement, server := smallServer },
   { ctime := 6, message := clientRequest, server := (smallServer.mkMessage ['a'] announcement).1 }]

private def downstream : Bytes :=
  streamOf (stringify (.object (greeting 3600 10)) :: twoTurns.flatMap (Turn.written ['a']))

/-- A reader that keeps the object it read. -/
private def objects : PropertyTree (Object JsString Json) where
  readJson bytes :=
    match parse (ascii bytes) with
    | some (.object members) => some members
    | _ => none
  getString members name :=
    match get members name.toList with
    | some (.string text) => some text
    | _ => none
  getUnsigned width members name :=
    match get members name.toList with
    | some (.number (.ofNat number) 0) => if number < 2 ^ width then some number else none
    | _ => none
  getInt members name :=
    match get members name.toList with
    | some (.number number 0) => if fitsInt number then some number else none
    | _ => none

private theorem objects_reads : ReadsJson objects := by
  intro text members plain denotes _
  refine ⟨members, ?_, ?_, ?_, ?_⟩
  · simp only [objects]
    rw [ascii_bytesOf plain, denotes.parse]
  · intro name value isMember
    simp only [objects, isMember]
  · intro width name number _ isMember
    simp only [objects, isMember]
    rfl
  · intro name number isMember
    simp only [objects, isMember]
    rfl

theorem natporte_reads_answers_two_turns :
    ∃ first second rest, receiveAll addrpoolReceive [] [downstream.take 9, downstream.drop 9] =
        some ([first, second], rest) ∧
      receivedLine objects first = .timeouts 3600000 10000 ∧
      receivedLine objects second = .requestAck
        { protocol := 6, lanIp := 0x0A000001, lanPort := 80, wanIp := 0xC0000201
          wanPort := 4097 } := by
  have fromSender : ∀ turn ∈ twoTurns, FromSender turn.message := by
    intro turn member
    rcases List.mem_cons.mp member with rfl | later
    · exact .announced [0xC0000201]
    · rw [List.mem_singleton.mp later]
      exact clientRequest_formatted
  obtain ⟨lines, rest, received, read⟩ := natporte_reads_answers objects_reads ['a'] 3600 10
    twoTurns fromSender [downstream.take 9, downstream.drop 9] (by decide +kernel)
    (by decide +kernel) [downstream.take 9, downstream.drop 9] (List.prefix_refl _)
  have both : [downstream.take 9, downstream.drop 9].flatten.count newline = 2 := by
    decide +kernel
  have reply : twoTurns.flatMap (Turn.replies ['a']) =
      [{ type := .requestAck
         fields :=
          { protocol := 6, lanIp := 0x0A000001, lanPort := 80, wanIp := 0xC0000201
            wanPort := 4097 } }] := by
    decide +kernel
  rw [both, reply] at read
  cases read with
  | cons greeting replies =>
      cases replies with
      | cons ack none =>
          cases none
          exact ⟨_, _, rest, received, greeting, ack.requestAck rfl rfl⟩

end MessageText
end NatPorte
