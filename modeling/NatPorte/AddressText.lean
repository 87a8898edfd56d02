/-
The text form of addresses, with the numbers of nettool.js as JavaScript computes them.

`inet_ntoa` takes the octets off with `&` and `>>>=`, which work on 32 bits, and
`inet_aton` puts them together with the arithmetic of doubles.  On the numbers below
2^32 both agree with the functions on naturals that the pool server's model uses.
-/

import NatPorte.Library.ScriptNumber
import NatPorte.PoolServer

namespace NatPorte
namespace AddressText

open Entry Numerals ScriptNumber

/-! ### nettool.js -/

/-- The loop of `inet_ntoa`: `octets[i] = n & 0xff`, then `n >>>= 8`. -/
def octetsOf : Nat → Int → List Int
  | 0, _ => []
  | places + 1, n => octetsOf places (shiftRightZero n 8) ++ [bitAnd n 0xff]

/-- The text of an integer, as `join` writes it. -/
def numberText (number : Int) : JsString :=
  if number < 0 then '-' :: PoolServer.decimal number.natAbs else PoolServer.decimal number.natAbs

def inetNtoa (n : Int) : JsString := PoolServer.joinDots ((octetsOf 4 n).map numberText)

/-- `n = (n*256) + parseInt(octets[i])`, rounded after each operation. -/
def shiftIn (n : Int) (octet : JsString) : Int :=
  double (double (n * 256) + double (parseInt octet))

def inetAton (a : JsString) : Int :=
  ((PoolServer.padOctets (splitDots a)).take 4).foldl shiftIn 0

theorem octetsOf_eq (places n : Nat) :
    octetsOf places (n : Int) = (PoolServer.octetsOf places n).map Int.ofNat := by
  induction places generalizing n with
  | zero => rfl
  | succ places ih =>
      have low : bitAnd n 0xff = (n % 2 ^ 8 : Nat) := @bitAnd_mask n 8 (by omega)
      rw [octetsOf, shiftRightZero_eq n (by omega), ih, low, PoolServer.octetsOf, List.map_append]
      rfl

theorem inetNtoa_eq (n : Nat) : inetNtoa n = PoolServer.inetNtoa n := by
  have text : numberText ∘ Int.ofNat = PoolServer.decimal := rfl
  rw [inetNtoa, octetsOf_eq, List.map_map, text, PoolServer.inetNtoa]

theorem shiftIn_eq {n : Nat} {octet : JsString} (small : n < 2 ^ 40)
    (octetSmall : parseInt octet < 256) :
    shiftIn n octet = (n * 256 + parseInt octet : Nat) := by
  have product : double ((n : Int) * 256) = (n * 256 : Nat) :=
    @double_exact (n * 256) (by omega)
  have digits : double (parseInt octet : Int) = (parseInt octet : Nat) := double_exact (by omega)
  rw [shiftIn, product, digits, ← Int.natCast_add, double_exact (by omega)]

theorem foldl_shiftIn {octets : List JsString} (small : ∀ octet ∈ octets, parseInt octet < 256)
    {n : Nat} (room : n < 256 ^ (4 - octets.length)) (short : octets.length ≤ 4) :
    octets.foldl shiftIn (n : Int) =
      (octets.foldl (fun n octet => n * 256 + parseInt octet) n : Nat) := by
  induction octets generalizing n with
  | nil => rfl
  | cons octet octets ih =>
      have octetSmall := small octet List.mem_cons_self
      rw [List.length_cons] at room short
      have whole : 256 ^ (4 - octets.length) = 256 ^ (4 - (octets.length + 1)) * 256 := by
        rw [← Nat.pow_succ]
        congr 1
        omega
      have bounded : 256 ^ (4 - (octets.length + 1)) ≤ 256 ^ 4 :=
        Nat.pow_le_pow_right (by omega) (by omega)
      have limit : 256 ^ 4 < 2 ^ 40 := by decide
      rw [List.foldl_cons, List.foldl_cons, shiftIn_eq (by omega) octetSmall]
      exact ih (fun other member => small other (List.mem_cons_of_mem octet member))
        (by omega) (by omega)

theorem inetAton_eq {a : JsString}
    (small : ∀ octet ∈ (PoolServer.padOctets (splitDots a)).take 4, parseInt octet < 256) :
    inetAton a = PoolServer.inetAton a :=
  foldl_shiftIn small (Nat.pow_pos (by decide))
    (by rw [List.length_take]; exact Nat.min_le_left _ _)

/-- `0` to `255`, without superfluous leading zeros. -/
structure PlainOctet (text : JsString) : Prop where
  plain : decimals.Plain text
  small : parseInt text ≤ 255

def DottedQuad (a : JsString) : Prop :=
  ∃ first second third fourth, PlainOctet first ∧ PlainOctet second ∧ PlainOctet third ∧
    PlainOctet fourth ∧ a = PoolServer.joinDots [first, second, third, fourth]

theorem decimal_plain {octet : Nat} (small : octet < 256) :
    decimals.Plain (PoolServer.decimal octet) := by
  have checked : ∀ octet < 256, (PoolServer.decimal octet).all isDigit = true ∧
      PoolServer.decimal octet ≠ [] ∧
      ((PoolServer.decimal octet).length = 1 ∨ (PoolServer.decimal octet).head? ≠ some '0') := by
    decide +kernel
  obtain ⟨areDigits, nonempty, leading⟩ := checked octet small
  have digits := List.all_eq_true.mp areDigits
  constructor
  · exact digits
  · exact nonempty
  · intro first rest word more zero
    rw [word] at leading digits
    have isZero : first = '0' :=
      @digit_injective Char _ decimals first '0' (digits first List.mem_cons_self) rfl zero
    rcases leading with single | nonzero
    · exact more (List.length_eq_zero_iff.mp (Nat.succ.inj single))
    · exact nonzero (congrArg some isZero)

theorem PlainOctet.decimal {text : JsString} (octet : PlainOctet text) :
    PoolServer.decimal (parseInt text) = text := by
  have small : parseInt text < 256 := Nat.lt_succ_of_le octet.small
  exact (decimal_plain small).unique octet.plain (PoolServer.decimal_octet _ small).1

theorem PlainOctet.dotless {text : JsString} (octet : PlainOctet text) : '.' ∉ text := by
  intro member
  have digit : isDigit '.' = true := octet.plain.written '.' member
  cases digit

theorem splitDots_joinDots {first second third fourth : JsString} (firstFree : '.' ∉ first)
    (secondFree : '.' ∉ second) (thirdFree : '.' ∉ third) (fourthFree : '.' ∉ fourth) :
    splitDots (PoolServer.joinDots [first, second, third, fourth]) =
      [first, second, third, fourth] := by
  simp only [PoolServer.joinDots]
  rw [PoolServer.splitDots_piece firstFree, PoolServer.splitDots_piece secondFree,
    PoolServer.splitDots_piece thirdFree, PoolServer.splitDots_last fourthFree]

theorem inetAton_inetNtoa {n : Nat} (word : n < 2 ^ 32) : inetAton (inetNtoa n) = n := by
  rw [inetNtoa_eq, inetAton_eq, PoolServer.inetAton_inetNtoa word]
  rw [PoolServer.splitDots_inetNtoa, PoolServer.octetsOf_four]
  intro octet member
  have small : ∀ number < 256, parseInt (PoolServer.decimal number) < 256 := by
    intro number low
    rw [(PoolServer.decimal_octet number low).1]
    exact low
  simp only [List.map_cons, List.map_nil, PoolServer.padOctets, List.length_cons, List.length_nil,
    List.take_succ_cons, List.take_zero, List.drop_succ_cons, List.drop_zero, Nat.sub_self,
    List.replicate_zero, List.append_nil, List.nil_append, List.cons_append, List.mem_cons,
    List.not_mem_nil, or_false] at member
  rcases member with rfl | rfl | rfl | rfl
  · exact small _ (by omega)
  · exact small _ (by omega)
  · exact small _ (by omega)
  · exact small _ (by omega)

theorem inetNtoa_inetAton {a : JsString} (quad : DottedQuad a) : inetNtoa (inetAton a) = a := by
  obtain ⟨first, second, third, fourth, isFirst, isSecond, isThird, isFourth, rfl⟩ := quad
  have firstSmall := isFirst.small
  have secondSmall := isSecond.small
  have thirdSmall := isThird.small
  have fourthSmall := isFourth.small
  have pieces := splitDots_joinDots isFirst.dotless isSecond.dotless isThird.dotless
    isFourth.dotless
  have padded : (PoolServer.padOctets [first, second, third, fourth]).take 4 =
      [first, second, third, fourth] := rfl
  have number : PoolServer.inetAton (PoolServer.joinDots [first, second, third, fourth]) =
      ((parseInt first * 256 + parseInt second) * 256 + parseInt third) * 256 +
        parseInt fourth := by
    rw [PoolServer.inetAton, pieces, padded]
    simp only [List.foldl_cons, List.foldl_nil, Nat.zero_mul, Nat.zero_add]
  have same : inetAton (PoolServer.joinDots [first, second, third, fourth]) =
      PoolServer.inetAton (PoolServer.joinDots [first, second, third, fourth]) := by
    apply inetAton_eq
    rw [pieces, padded]
    intro octet member
    simp only [List.mem_cons, List.not_mem_nil, or_false] at member
    rcases member with rfl | rfl | rfl | rfl <;> omega
  have octets : PoolServer.octetsOf 4
      (((parseInt first * 256 + parseInt second) * 256 + parseInt third) * 256 +
        parseInt fourth) =
      [parseInt first, parseInt second, parseInt third, parseInt fourth] := by
    rw [PoolServer.octetsOf_four]
    simp only [List.cons.injEq, and_true]
    omega
  rw [same, inetNtoa_eq, PoolServer.inetNtoa, number, octets, List.map_cons, List.map_cons,
    List.map_cons, List.map_cons, List.map_nil, isFirst.decimal, isSecond.decimal,
    isThird.decimal, isFourth.decimal]

section Answers

variable {server after : PoolServer.Server} {socketId : JsString} {reply : PoolServer.Reply}

theorem release_echoes {fields : PoolServer.Fields} (words : fields.Words)
    (answered : server.mkMessage socketId (.release fields) = (after, .reply reply)) :
    reply.fields = fields := by
  rw [PoolServer.Server.mkMessage] at answered
  split at answered
  · cases answered
  · cases answered
    simp only [PoolServer.inetAton_inetNtoa words.lan, PoolServer.inetAton_inetNtoa words.wan]

theorem discard_echoes {protocol ipSrc ipDst : Nat} {portSrc portDst : Int}
    (destination : ipDst < 2 ^ 32)
    (answered : server.mkMessage socketId (.request protocol ipSrc portSrc ipDst portDst) =
      (after, .reply reply)) (discard : reply.type = .requestDiscard) :
    reply.fields.wanIp = ipDst := by
  rw [PoolServer.Server.mkMessage] at answered
  split at answered
  · cases answered
    exact PoolServer.inetAton_inetNtoa destination
  · cases answered
    cases discard

theorem request_echoes {protocol ipSrc ipDst : Nat} {portSrc portDst : Int} (inv : server.Inv)
    (source : ipSrc < 2 ^ 32)
    (answered : server.mkMessage socketId (.request protocol ipSrc portSrc ipDst portDst) =
      (after, .reply reply)) :
    reply.fields.lanIp = ipSrc ∧ (reply.type = .requestAck → after.Mapped reply.fields) := by
  obtain ⟨known, given, answers, requested⟩ :=
    PoolServer.Server.mkMessage_request inv socketId protocol source portSrc ipDst portDst
  rw [answered] at answers
  cases answers
  refine ⟨requested.sameIp, ?_⟩
  intro granted
  rcases requested.outcome with ⟨discard, -⟩ | ⟨-, -, mapped⟩
  · rw [granted] at discard
    cases discard
  · exact (mapped reply.fields).mpr (.inr rfl)

end Answers

/-- Numbers survive the text form and dotted quads the numbers, no two addresses share a
key, and the addresses of an answer are those of the message or of the mapping it grants. -/
theorem addresses_survive :
    (∀ n : Int, 0 ≤ n → n < 2 ^ 32 → isIPv4 (inetNtoa n) = true ∧ inetAton (inetNtoa n) = n) ∧
      (∀ a, DottedQuad a → inetNtoa (inetAton a) = a) ∧
      (∀ n m : Int, 0 ≤ n → n < 2 ^ 32 → 0 ≤ m → m < 2 ^ 32 → inetNtoa n = inetNtoa m → n = m) ∧
      ∀ (server after : PoolServer.Server) (socketId : JsString) (reply : PoolServer.Reply),
        (∀ fields : PoolServer.Fields, fields.Words →
          server.mkMessage socketId (.release fields) = (after, .reply reply) →
          reply.fields = fields) ∧
        ∀ (protocol ipSrc ipDst : Nat) (portSrc portDst : Int), server.Inv →
          ipSrc < 2 ^ 32 → ipDst < 2 ^ 32 →
          server.mkMessage socketId (.request protocol ipSrc portSrc ipDst portDst) =
            (after, .reply reply) →
          reply.fields.lanIp = ipSrc ∧
            (reply.type = .requestDiscard → reply.fields.wanIp = ipDst) ∧
            (reply.type = .requestAck → after.Mapped reply.fields) := by
  have back : ∀ n : Int, 0 ≤ n → n < 2 ^ 32 → inetAton (inetNtoa n) = n := by
    intro n positive word
    obtain ⟨number, rfl⟩ := Int.eq_ofNat_of_zero_le positive
    exact inetAton_inetNtoa (by omega)
  refine ⟨?_, fun a quad => inetNtoa_inetAton quad, ?_, ?_⟩
  · intro n positive word
    refine ⟨?_, back n positive word⟩
    obtain ⟨number, rfl⟩ := Int.eq_ofNat_of_zero_le positive
    rw [inetNtoa_eq]
    exact PoolServer.isIPv4_inetNtoa number
  · intro n m positive word otherPositive otherWord same
    rw [← back n positive word, same, back m otherPositive otherWord]
  · intro server after socketId reply
    constructor
    · intro fields words answered
      exact release_echoes words answered
    · intro protocol ipSrc ipDst portSrc portDst inv source destination answered
      obtain ⟨client, granted⟩ := request_echoes inv source answered
      exact ⟨client, discard_echoes destination answered, granted⟩

/-- 192.168.0.20 -/
private def highAddress : JsString :=
  PoolServer.joinDots [PoolServer.decimal 192, PoolServer.decimal 168, PoolServer.decimal 0,
    PoolServer.decimal 20]

private theorem highAddress_quad : DottedQuad highAddress :=
  ⟨_, _, _, _, ⟨decimal_plain (by decide), by decide⟩, ⟨decimal_plain (by decide), by decide⟩,
    ⟨decimal_plain (by decide), by decide⟩, ⟨decimal_plain (by decide), by decide⟩, rfl⟩

private def smallServer : PoolServer.Server := PoolServer.newServer 4097 4098 1

private theorem smallServer_inv : smallServer.Inv :=
  have database := (PoolServer.newEntry_database 4097 4098 1 []).1
  ⟨database, database⟩

/-- The client 192.168.0.20 asks, and 192.168.0.2 is its peer. -/
theorem addresses_survive_high_address :
    inetAton (inetNtoa 3232235540) = 3232235540 ∧ inetNtoa (inetAton highAddress) = highAddress ∧
      (inetNtoa 3232235522 = inetNtoa 3232235540 → (3232235522 : Int) = 3232235540) ∧
      ∀ after reply,
        smallServer.mkMessage ['a'] (.request 6 3232235540 80 3232235522 80) =
          (after, .reply reply) →
        reply.fields.lanIp = 3232235540 := by
  obtain ⟨back, forth, apart, answers⟩ := addresses_survive
  refine ⟨(back 3232235540 (by decide) (by decide)).2, forth _ highAddress_quad,
    apart _ _ (by decide) (by decide) (by decide) (by decide), ?_⟩
  intro after reply answered
  exact ((answers smallServer after ['a'] reply).2 6 3232235540 3232235522 80 80 smallServer_inv
    (by decide) (by decide) answered).1

end AddressText
end NatPorte
