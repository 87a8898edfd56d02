/-
The TCP tracker of one NAT entry.

`tcpStateCheck` is the tracker's transition table.  The rest of the module
feeds a whole conversation to an entry created in `synSent` and says, for every
conforming conversation, which part of the history each tracker state stands
for.  Nothing here touches packets or the table; the alias functions supply the
flag byte and the direction.
-/

import Mathlib.Data.List.Induction
import NatPorte.Library.TracePattern

namespace NatPorte
namespace TcpState

open TracePattern

/-- The `S_TF_*` values of `Node::flags`. -/
inductive TcpFlag where
  | established | synSent | synackRecived
  | finWaitL2w | finWaitW2l
  | finackWaitL2w | finackWaitW2l
  | closingL2w | closingW2l
  | closed | reset | unknown
  deriving DecidableEq, Repr

/-- The `ALIAS_FROM_*` values. -/
inductive AliasFrom where
  | lan2wan | wan2lan | unknown
  deriving DecidableEq, Repr

def thFin : BitVec 8 := 0x01
def thSyn : BitVec 8 := 0x02
def thRst : BitVec 8 := 0x04
def thAck : BitVec 8 := 0x10

/-- `pflag & mask` read as a condition. -/
def anyOf (pflag mask : BitVec 8) : Bool :=
  pflag &&& mask != 0

/-- `(pflag & mask) == mask`. -/
def allOf (pflag mask : BitVec 8) : Bool :=
  pflag &&& mask == mask

/-- The tables for the two directions are separate switches in the source.
States that a switch does not name take its `default` branch. -/
def tcpStateCheck (tflag : TcpFlag) (pflag : BitVec 8) (direction : AliasFrom) : TcpFlag :=
  match direction with
  | .wan2lan =>
      match tflag with
      | .established =>
          if anyOf pflag thRst then .reset
          else if anyOf pflag thFin then .finWaitL2w
          else .established
      | .synSent =>
          if anyOf pflag thRst then .reset
          else if anyOf pflag thSyn then .synackRecived
          else .unknown
      | .synackRecived =>
          if anyOf pflag thRst then .reset
          else if allOf pflag (thSyn ||| thAck) then .established
          else if anyOf pflag thAck then .synackRecived
          else .unknown
      | .finWaitW2l =>
          if anyOf pflag thRst then .reset
          else if anyOf pflag thAck && !allOf pflag thFin then .finackWaitW2l
          else if anyOf pflag (thAck ||| thFin) then .closingL2w
          else .unknown
      | .finackWaitW2l =>
          if anyOf pflag thRst then .reset
          else if anyOf pflag thFin then .closingL2w
          else if anyOf pflag thAck then .finackWaitW2l
          else .unknown
      | .closingW2l =>
          if anyOf pflag thRst then .reset
          else if anyOf pflag thAck then .closed
          else .unknown
      | .closed => .unknown
      | .reset => .unknown
      | .finackWaitL2w => if anyOf pflag thRst then .reset else .finackWaitL2w
      | .closingL2w => if anyOf pflag thRst then .reset else .closingL2w
      | .finWaitL2w => if anyOf pflag thRst then .reset else .finWaitL2w
      | .unknown => if anyOf pflag thRst then .reset else .unknown
  | .lan2wan =>
      match tflag with
      | .established =>
          if anyOf pflag thRst then .reset
          else if anyOf pflag thFin then .finWaitW2l
          else .established
      | .synSent =>
          if anyOf pflag thRst then .reset
          else if anyOf pflag thSyn then .synackRecived
          else .unknown
      | .synackRecived =>
          if anyOf pflag thRst then .reset
          else if allOf pflag (thSyn ||| thAck) then .established
          -- a retransmitted SYN, where the other direction looks for an ACK
          else if anyOf pflag thSyn then .synackRecived
          else .unknown
      | .finWaitL2w =>
          if anyOf pflag thRst then .reset
          else if anyOf pflag thAck && !allOf pflag thFin then .finackWaitL2w
          else if anyOf pflag (thAck ||| thFin) then .closingW2l
          else .unknown
      | .finackWaitL2w =>
          if anyOf pflag thRst then .reset
          else if anyOf pflag thFin then .closingW2l
          else if anyOf pflag thAck then .finackWaitL2w
          else .unknown
      | .closingL2w =>
          if anyOf pflag thRst then .reset
          else if anyOf pflag thAck then .closed
          else .unknown
      | .closed => .unknown
      | .reset => .unknown
      | .finackWaitW2l => if anyOf pflag thRst then .reset else .finackWaitW2l
      | .closingW2l => if anyOf pflag thRst then .reset else .closingW2l
      | .finWaitW2l => if anyOf pflag thRst then .reset else .finWaitW2l
      | .unknown => if anyOf pflag thRst then .reset else .unknown
  | .unknown => .unknown

/-- What the alias functions store in `table->flags` for one segment: a closed
or reset entry is left alone. -/
def nextFlags (tflag : TcpFlag) (pflag : BitVec 8) (direction : AliasFrom) : TcpFlag :=
  if tflag = .closed then tflag
  else if tflag = .reset then tflag
  else tcpStateCheck tflag pflag direction

/-! ### Conversations -/

inductive Side where
  | lan | wan
  deriving DecidableEq, Repr

def Side.other : Side → Side
  | .lan => .wan
  | .wan => .lan

def Side.direction : Side → AliasFrom
  | .lan => .lan2wan
  | .wan => .wan2lan

structure Segment where
  side : Side
  flags : BitVec 8
  deriving DecidableEq, Repr

namespace Segment

def Fin (segment : Segment) : Prop := anyOf segment.flags thFin = true
def Syn (segment : Segment) : Prop := anyOf segment.flags thSyn = true
def Rst (segment : Segment) : Prop := anyOf segment.flags thRst = true
def Ack (segment : Segment) : Prop := anyOf segment.flags thAck = true

instance (segment : Segment) : Decidable segment.Fin := inferInstanceAs (Decidable (_ = true))
instance (segment : Segment) : Decidable segment.Syn := inferInstanceAs (Decidable (_ = true))
instance (segment : Segment) : Decidable segment.Rst := inferInstanceAs (Decidable (_ = true))
instance (segment : Segment) : Decidable segment.Ack := inferInstanceAs (Decidable (_ = true))

def SentBy (side : Side) (segment : Segment) : Prop := segment.side = side
def FinBy (side : Side) (segment : Segment) : Prop := segment.side = side ∧ segment.Fin

/-- The WAN side's SYN|ACK. -/
def Opens (segment : Segment) : Prop := segment.side = .wan ∧ segment.Syn ∧ segment.Ack

end Segment

/-- Feed the segments to an entry created in `S_TF_SYN_SENT`. -/
def track (history : List Segment) : TcpFlag :=
  history.foldl (fun tflag segment => nextFlags tflag segment.flags segment.side.direction)
    .synSent

def Opened (history : List Segment) : Prop :=
  OccursInOrder [Segment.Opens] history

/-- `side` sent a FIN after the SYN|ACK. -/
def FirstFin (side : Side) (history : List Segment) : Prop :=
  OccursInOrder [Segment.Opens, Segment.FinBy side] history

/-- ... and the other side one later. -/
def BothFins (side : Side) (history : List Segment) : Prop :=
  OccursInOrder [Segment.Opens, Segment.FinBy side, Segment.FinBy side.other] history

/-- ... and `side` another segment later still. -/
def ClosesBy (side : Side) (history : List Segment) : Prop :=
  OccursInOrder [Segment.Opens, Segment.FinBy side, Segment.FinBy side.other,
    Segment.SentBy side] history

def Closes (history : List Segment) : Prop :=
  ClosesBy .lan history ∨ ClosesBy .wan history

/-- Some RST arrived while closing was not complete. -/
def RstBeforeClose (history : List Segment) : Prop :=
  ∃ before segment after, history = before ++ segment :: after ∧ segment.Rst ∧ ¬Closes before

/-- What a non-RST segment must look like after `before`. -/
def Expected (before : List Segment) (segment : Segment) : Prop :=
  (Opened before → segment.Ack) ∧
  (¬Opened before → segment.side = .lan → segment.Syn ∧ ¬segment.Ack) ∧
  (¬Opened before → segment.side = .wan → segment.Ack)

structure Conforming (history : List Segment) : Prop where
  starts : ∃ first rest, history = first :: rest ∧ first.side = .lan ∧ first.Syn ∧ ¬first.Ack
  follows : ∀ before segment after, history = before ++ segment :: after → before ≠ [] →
    ¬segment.Rst → Expected before segment

section Histories

variable (history : List Segment) (segment : Segment) (side : Side)

theorem opened_snoc :
    Opened (history ++ [segment]) ↔ Opened history ∨ segment.Opens := by
  rw [Opened, Opened, ← List.nil_append [Segment.Opens], occursInOrder_snoc]
  simp only [OccursInOrder, true_and]

theorem firstFin_snoc :
    FirstFin side (history ++ [segment]) ↔
      FirstFin side history ∨ Opened history ∧ segment.FinBy side :=
  occursInOrder_snoc [Segment.Opens] _ history segment

theorem bothFins_snoc :
    BothFins side (history ++ [segment]) ↔
      BothFins side history ∨ FirstFin side history ∧ segment.FinBy side.other :=
  occursInOrder_snoc [Segment.Opens, Segment.FinBy side] _ history segment

theorem closesBy_snoc :
    ClosesBy side (history ++ [segment]) ↔
      ClosesBy side history ∨ BothFins side history ∧ segment.SentBy side :=
  occursInOrder_snoc [Segment.Opens, Segment.FinBy side, Segment.FinBy side.other] _
    history segment

theorem rstBeforeClose_snoc :
    RstBeforeClose (history ++ [segment]) ↔
      RstBeforeClose history ∨ segment.Rst ∧ ¬Closes history := by
  constructor
  · rintro ⟨before, found, after, split, rst, open'⟩
    rcases List.eq_nil_or_concat after with rfl | ⟨front, last, rfl⟩
    · obtain ⟨rfl, same⟩ := List.append_inj' split rfl
      cases same
      exact .inr ⟨rst, open'⟩
    · rw [List.concat_eq_append, ← List.cons_append, ← List.append_assoc] at split
      obtain ⟨same, -⟩ := List.append_inj' split rfl
      exact .inl ⟨before, found, front, same, rst, open'⟩
  · rintro (⟨before, found, after, rfl, rst, open'⟩ | ⟨rst, open'⟩)
    · exact ⟨before, found, after ++ [segment], by simp, rst, open'⟩
    · exact ⟨history, segment, [], rfl, rst, open'⟩

variable {history side}

theorem FirstFin.opened (fin : FirstFin side history) : Opened history :=
  OccursInOrder.dropLast [Segment.Opens] fin

theorem BothFins.firstFin (fins : BothFins side history) : FirstFin side history :=
  OccursInOrder.dropLast [Segment.Opens, Segment.FinBy side] fins

theorem BothFins.otherFin (fins : BothFins side history) : FirstFin side.other history :=
  OccursInOrder.skip fins

theorem ClosesBy.bothFins (closes : ClosesBy side history) : BothFins side history :=
  OccursInOrder.dropLast [Segment.Opens, Segment.FinBy side, Segment.FinBy side.other] closes

theorem Closes.extend (closes : Closes history) (more : List Segment) :
    Closes (history ++ more) :=
  closes.imp (fun found => OccursInOrder.extend found more)
    (fun found => OccursInOrder.extend found more)

theorem not_closes_of_not_firstFin (side : Side) (missing : ¬FirstFin side history) :
    ¬Closes history := by
  cases side with
  | lan =>
      rintro (byLan | byWan)
      · exact missing byLan.bothFins.firstFin
      · exact missing byWan.bothFins.otherFin
  | wan =>
      rintro (byLan | byWan)
      · exact missing byLan.bothFins.otherFin
      · exact missing byWan.bothFins.firstFin

end Histories

theorem Conforming.ne_nil {history : List Segment} (conforms : Conforming history) :
    history ≠ [] := by
  obtain ⟨first, rest, rfl, -⟩ := conforms.starts
  exact List.cons_ne_nil first rest

theorem Conforming.front {history more : List Segment}
    (conforms : Conforming (history ++ more)) (nonempty : history ≠ []) :
    Conforming history := by
  constructor
  · obtain ⟨first, rest, split, opening⟩ := conforms.starts
    cases history with
    | nil => exact absurd rfl nonempty
    | cons head tail =>
        obtain ⟨rfl, -⟩ := List.cons.inj split
        exact ⟨head, tail, rfl, opening⟩
  · intro before segment after split started plain
    exact conforms.follows before segment (after ++ more) (by simp [split]) started plain

theorem Conforming.expected {history : List Segment} {segment : Segment}
    (conforms : Conforming (history ++ [segment])) (nonempty : history ≠ [])
    (plain : ¬segment.Rst) : Expected history segment :=
  conforms.follows history segment [] rfl nonempty plain

theorem conforming_singleton {first : Segment} (fromLan : first.side = .lan)
    (syn : first.Syn) (noAck : ¬first.Ack) : Conforming [first] := by
  refine ⟨⟨first, [], rfl, fromLan, syn, noAck⟩, ?_⟩
  intro before segment after split started
  cases before with
  | nil => exact absurd rfl started
  | cons head tail => simp at split

theorem Conforming.snoc {history : List Segment} {segment : Segment}
    (conforms : Conforming history) (expected : ¬segment.Rst → Expected history segment) :
    Conforming (history ++ [segment]) := by
  constructor
  · obtain ⟨first, rest, rfl, opening⟩ := conforms.starts
    exact ⟨first, rest ++ [segment], rfl, opening⟩
  · intro before next after split started plain
    rcases List.eq_nil_or_concat after with rfl | ⟨front, last, rfl⟩
    · obtain ⟨rfl, same⟩ := List.append_inj' split rfl
      cases same
      exact expected plain
    · rw [List.concat_eq_append, ← List.cons_append, ← List.append_assoc] at split
      obtain ⟨same, -⟩ := List.append_inj' split rfl
      exact conforms.follows before next front same started plain

/-- The history each state stands for while no RST has arrived in time. -/
def Explains : TcpFlag → List Segment → Prop
  | .synackRecived, history => ¬Opened history
  | .established, history => Opened history ∧ ¬FirstFin .lan history ∧ ¬FirstFin .wan history
  | .finWaitW2l, history => FirstFin .lan history ∧ ¬FirstFin .wan history
  | .finackWaitW2l, history => FirstFin .lan history ∧ ¬FirstFin .wan history
  | .finWaitL2w, history => FirstFin .wan history ∧ ¬FirstFin .lan history
  | .finackWaitL2w, history => FirstFin .wan history ∧ ¬FirstFin .lan history
  | .closingL2w, history =>
      BothFins .lan history ∧ ¬BothFins .wan history ∧ ¬ClosesBy .lan history
  | .closingW2l, history =>
      BothFins .wan history ∧ ¬BothFins .lan history ∧ ¬ClosesBy .wan history
  | .closed, history => Closes history
  | .reset, _ | .synSent, _ | .unknown, _ => False

/-- The invariant: a reset is explained by an early RST, any other state by the
segments seen. -/
def Tracks (tflag : TcpFlag) (history : List Segment) : Prop :=
  (tflag = .reset ∧ RstBeforeClose history) ∨
    (¬RstBeforeClose history ∧ Explains tflag history)

theorem Explains.closes_iff {tflag : TcpFlag} {history : List Segment}
    (explains : Explains tflag history) : Closes history ↔ tflag = .closed := by
  cases tflag with
  | closed => exact iff_of_true explains rfl
  | synackRecived =>
      exact iff_of_false
        (not_closes_of_not_firstFin .lan (fun fin => explains fin.opened)) nofun
  | established => exact iff_of_false (not_closes_of_not_firstFin _ explains.2.1) nofun
  | finWaitW2l => exact iff_of_false (not_closes_of_not_firstFin _ explains.2) nofun
  | finackWaitW2l => exact iff_of_false (not_closes_of_not_firstFin _ explains.2) nofun
  | finWaitL2w => exact iff_of_false (not_closes_of_not_firstFin _ explains.2) nofun
  | finackWaitL2w => exact iff_of_false (not_closes_of_not_firstFin _ explains.2) nofun
  | closingL2w =>
      refine iff_of_false ?_ nofun
      rintro (byLan | byWan)
      · exact explains.2.2 byLan
      · exact explains.2.1 byWan.bothFins
  | closingW2l =>
      refine iff_of_false ?_ nofun
      rintro (byLan | byWan)
      · exact explains.2.1 byLan.bothFins
      · exact explains.2.2 byWan
  | reset => exact explains.elim
  | synSent => exact explains.elim
  | unknown => exact explains.elim

theorem allOf_syn_ack (segment : Segment) :
    allOf segment.flags (thSyn ||| thAck) = true ↔ segment.Syn ∧ segment.Ack := by
  change _ ↔ anyOf segment.flags thSyn = true ∧ anyOf segment.flags thAck = true
  generalize segment.flags = pflag
  revert pflag
  decide

theorem allOf_fin (segment : Segment) : allOf segment.flags thFin = true ↔ segment.Fin := by
  change _ ↔ anyOf segment.flags thFin = true
  generalize segment.flags = pflag
  revert pflag
  decide

theorem anyOf_ack_fin (segment : Segment) :
    anyOf segment.flags (thAck ||| thFin) = true ↔ segment.Ack ∨ segment.Fin := by
  change _ ↔ anyOf segment.flags thAck = true ∨ anyOf segment.flags thFin = true
  generalize segment.flags = pflag
  revert pflag
  decide

theorem nextFlags_rst {tflag : TcpFlag} {segment : Segment} (rst : segment.Rst)
    (notClosed : tflag ≠ .closed) :
    nextFlags tflag segment.flags segment.side.direction = .reset := by
  have found : anyOf segment.flags thRst = true := rst
  cases tflag <;> cases side : segment.side <;>
    simp_all [nextFlags, tcpStateCheck, Side.direction]

section Step

variable {history : List Segment} {segment : Segment}

private theorem explains_from_synackRecived (plain : ¬segment.Rst)
    (expected : Expected history segment) (explains : Explains .synackRecived history) :
    Explains (nextFlags .synackRecived segment.flags segment.side.direction)
      (history ++ [segment]) := by
  have noRst : ¬anyOf segment.flags thRst = true := plain
  have closedBefore : ¬Opened history := explains
  cases side : segment.side with
  | lan =>
      have ⟨syn, noAck⟩ := expected.2.1 closedBefore side
      have notBoth : ¬allOf segment.flags (thSyn ||| thAck) = true :=
        fun both => noAck ((allOf_syn_ack segment).mp both).2
      have found : anyOf segment.flags thSyn = true := syn
      simp only [nextFlags, tcpStateCheck, Side.direction, noRst, notBoth, found, reduceCtorEq,
        if_false, if_true, Explains, opened_snoc, closedBefore, false_or]
      rintro ⟨fromWan, -⟩
      rw [side] at fromWan
      cases fromWan
  | wan =>
      have ack : segment.Ack := expected.2.2 closedBefore side
      have found : anyOf segment.flags thAck = true := ack
      by_cases syn : segment.Syn
      · have both := (allOf_syn_ack segment).mpr ⟨syn, ack⟩
        simp only [nextFlags, tcpStateCheck, Side.direction, noRst, both, reduceCtorEq,
          if_false, if_true, Explains, opened_snoc, firstFin_snoc, closedBefore, false_and,
          or_false]
        exact ⟨.inr ⟨side, syn, ack⟩, fun fin => closedBefore fin.opened,
          fun fin => closedBefore fin.opened⟩
      · have notBoth : ¬allOf segment.flags (thSyn ||| thAck) = true :=
          fun both => syn ((allOf_syn_ack segment).mp both).1
        simp only [nextFlags, tcpStateCheck, Side.direction, noRst, notBoth, found, reduceCtorEq,
          if_false, if_true, Explains, opened_snoc, closedBefore, false_or]
        exact fun opens => syn opens.2.1

private theorem explains_from_established (plain : ¬segment.Rst)
    (explains : Explains .established history) :
    Explains (nextFlags .established segment.flags segment.side.direction)
      (history ++ [segment]) := by
  have noRst : ¬anyOf segment.flags thRst = true := plain
  obtain ⟨opened, lanOpen, wanOpen⟩ := explains
  by_cases fin : segment.Fin
  · have found : anyOf segment.flags thFin = true := fin
    cases side : segment.side <;>
      simp [nextFlags, tcpStateCheck, Side.direction, noRst, found, Explains, firstFin_snoc,
        opened, lanOpen, wanOpen, Segment.FinBy, side, fin]
  · have missing : ¬anyOf segment.flags thFin = true := fin
    cases side : segment.side <;>
      simp [nextFlags, tcpStateCheck, Side.direction, noRst, missing, Explains, opened_snoc,
        firstFin_snoc, opened, lanOpen, wanOpen, Segment.FinBy, fin]

/-! The two close orders are mirror images: name the states by the side that
sent its FIN first. -/

def finWaitFor : Side → TcpFlag
  | .lan => .finWaitW2l
  | .wan => .finWaitL2w

def finackWaitFor : Side → TcpFlag
  | .lan => .finackWaitW2l
  | .wan => .finackWaitL2w

def closingFor : Side → TcpFlag
  | .lan => .closingL2w
  | .wan => .closingW2l

theorem explains_waiting (side : Side) (tflag : TcpFlag)
    (waiting : tflag = finWaitFor side ∨ tflag = finackWaitFor side) :
    Explains tflag history ↔ FirstFin side history ∧ ¬FirstFin side.other history := by
  rcases waiting with rfl | rfl <;> cases side <;> rfl

theorem explains_closingFor (side : Side) :
    Explains (closingFor side) history ↔
      BothFins side history ∧ ¬BothFins side.other history ∧ ¬ClosesBy side history := by
  cases side <;> rfl

/-- The side that sent the first FIN may send anything while the other's is
awaited; the other side's FIN starts the closing. -/
private theorem nextFlags_waiting (side : Side) (tflag : TcpFlag)
    (waiting : tflag = finWaitFor side ∨ tflag = finackWaitFor side)
    (plain : ¬segment.Rst) (ack : segment.Ack) :
    nextFlags tflag segment.flags segment.side.direction =
      if segment.side = side then tflag
      else if segment.Fin then closingFor side else finackWaitFor side := by
  have noRst : ¬anyOf segment.flags thRst = true := plain
  have acked : anyOf segment.flags thAck = true := ack
  have either : anyOf segment.flags (thAck ||| thFin) = true :=
    (anyOf_ack_fin segment).mpr (.inl ack)
  have whole : allOf segment.flags thFin = anyOf segment.flags thFin :=
    Bool.eq_iff_iff.mpr (allOf_fin segment)
  rcases waiting with rfl | rfl <;> cases side <;> cases sentBy : segment.side <;>
    cases fin : anyOf segment.flags thFin <;>
    simp [nextFlags, tcpStateCheck, Side.direction, finWaitFor, finackWaitFor, closingFor,
      Segment.Fin, noRst, acked, either, whole, fin]

private theorem explains_from_waiting (side : Side) (tflag : TcpFlag)
    (waiting : tflag = finWaitFor side ∨ tflag = finackWaitFor side)
    (plain : ¬segment.Rst) (expected : Expected history segment)
    (explains : Explains tflag history) :
    Explains (nextFlags tflag segment.flags segment.side.direction) (history ++ [segment]) := by
  obtain ⟨first, awaited⟩ := (explains_waiting side tflag waiting).mp explains
  rw [nextFlags_waiting side tflag waiting plain (expected.1 first.opened)]
  split
  · next sentBy =>
      have notOther : segment.side ≠ side.other := by
        rw [sentBy]
        cases side <;> nofun
      rw [explains_waiting side tflag waiting, firstFin_snoc, firstFin_snoc]
      exact ⟨.inl first, not_or.mpr ⟨awaited, fun fin => notOther fin.2.1⟩⟩
  · next notSide =>
      have sentBy : segment.side = side.other := by
        cases side <;> cases other : segment.side <;> simp_all [Side.other]
      split
      · next fin =>
          rw [explains_closingFor, bothFins_snoc, bothFins_snoc, closesBy_snoc]
          refine ⟨.inr ⟨first, sentBy, fin⟩, not_or.mpr ⟨?_, ?_⟩, not_or.mpr ⟨?_, ?_⟩⟩
          · exact fun both => awaited both.firstFin
          · exact fun both => awaited both.1
          · exact fun closes => awaited closes.bothFins.otherFin
          · exact fun closes => awaited closes.1.otherFin
      · next noFin =>
          rw [explains_waiting side _ (.inr rfl), firstFin_snoc, firstFin_snoc]
          exact ⟨.inl first, not_or.mpr ⟨awaited, fun fin => noFin fin.2.2⟩⟩

private theorem explains_from_closing (side : Side) (plain : ¬segment.Rst)
    (expected : Expected history segment) (explains : Explains (closingFor side) history) :
    Explains (nextFlags (closingFor side) segment.flags segment.side.direction)
      (history ++ [segment]) := by
  obtain ⟨both, notOther, notYet⟩ := (explains_closingFor side).mp explains
  have noRst : ¬anyOf segment.flags thRst = true := plain
  have ack : anyOf segment.flags thAck = true := expected.1 both.firstFin.opened
  have next : nextFlags (closingFor side) segment.flags segment.side.direction =
      if segment.side = side then .closed else closingFor side := by
    cases side <;> cases sentBy : segment.side <;>
      simp [nextFlags, tcpStateCheck, Side.direction, closingFor, noRst, ack]
  rw [next]
  split
  · next sentBy =>
      have closes : ClosesBy side (history ++ [segment]) :=
        (closesBy_snoc history segment side).mpr (.inr ⟨both, sentBy⟩)
      cases side with
      | lan => exact .inl closes
      | wan => exact .inr closes
  · next notSide =>
      rw [explains_closingFor, bothFins_snoc, bothFins_snoc, closesBy_snoc]
      refine ⟨.inl both, not_or.mpr ⟨notOther, ?_⟩, not_or.mpr ⟨notYet, ?_⟩⟩
      · rintro ⟨-, fromSide, -⟩
        cases side <;> exact notSide fromSide
      · exact fun closes => notSide closes.2

/-- One conforming segment moves the tracker to the state of the longer history. -/
theorem explains_nextFlags {tflag : TcpFlag} (plain : ¬segment.Rst)
    (expected : Expected history segment) (explains : Explains tflag history) :
    Explains (nextFlags tflag segment.flags segment.side.direction) (history ++ [segment]) := by
  cases tflag with
  | synackRecived => exact explains_from_synackRecived plain expected explains
  | established => exact explains_from_established plain explains
  | finWaitW2l => exact explains_from_waiting .lan _ (.inl rfl) plain expected explains
  | finackWaitW2l => exact explains_from_waiting .lan _ (.inr rfl) plain expected explains
  | finWaitL2w => exact explains_from_waiting .wan _ (.inl rfl) plain expected explains
  | finackWaitL2w => exact explains_from_waiting .wan _ (.inr rfl) plain expected explains
  | closingL2w => exact explains_from_closing .lan plain expected explains
  | closingW2l => exact explains_from_closing .wan plain expected explains
  | closed => exact Closes.extend explains [segment]
  | reset => exact explains.elim
  | synSent => exact explains.elim
  | unknown => exact explains.elim

theorem tracks_nextFlags {tflag : TcpFlag}
    (expected : ¬segment.Rst → Expected history segment) (tracks : Tracks tflag history) :
    Tracks (nextFlags tflag segment.flags segment.side.direction) (history ++ [segment]) := by
  rcases tracks with ⟨rfl, early⟩ | ⟨noneYet, explains⟩
  · exact .inl ⟨rfl, (rstBeforeClose_snoc history segment).mpr (.inl early)⟩
  · by_cases rst : segment.Rst
    · by_cases closed : tflag = .closed
      · subst closed
        refine .inr ⟨?_, Closes.extend explains [segment]⟩
        rw [rstBeforeClose_snoc]
        exact not_or.mpr ⟨noneYet, fun early => early.2 explains⟩
      · refine .inl ⟨nextFlags_rst rst closed, ?_⟩
        rw [rstBeforeClose_snoc]
        exact .inr ⟨rst, fun closes => closed (explains.closes_iff.mp closes)⟩
    · refine .inr ⟨?_, explains_nextFlags rst (expected rst) explains⟩
      rw [rstBeforeClose_snoc]
      exact not_or.mpr ⟨noneYet, fun early => rst early.1⟩

end Step

theorem track_snoc (history : List Segment) (segment : Segment) :
    track (history ++ [segment]) =
      nextFlags (track history) segment.flags segment.side.direction := by
  rw [track, List.foldl_append]
  rfl

theorem not_closes_nil : ¬Closes [] := by
  rintro (byLan | byWan)
  · exact not_occursInOrder_nil _ _ byLan
  · exact not_occursInOrder_nil _ _ byWan

private theorem tracks_first {first : Segment} (fromLan : first.side = .lan) (syn : first.Syn)
    (noAck : ¬first.Ack) : Tracks (track [first]) [first] := by
  have nothing : ¬RstBeforeClose [] := by
    rintro ⟨before, segment, after, impossible, -⟩
    simp at impossible
  have early : RstBeforeClose [first] ↔ first.Rst := by
    rw [← List.nil_append [first], rstBeforeClose_snoc]
    simp [nothing, not_closes_nil]
  have found : anyOf first.flags thSyn = true := syn
  by_cases rst : first.Rst
  · have notClosed : TcpFlag.synSent ≠ .closed := by decide
    exact .inl ⟨nextFlags_rst rst notClosed, early.mpr rst⟩
  · have noRst : ¬anyOf first.flags thRst = true := rst
    have next : track [first] = .synackRecived := by
      simp [track, nextFlags, tcpStateCheck, fromLan, Side.direction, noRst, found]
    rw [next]
    refine .inr ⟨fun found => rst (early.mp found), ?_⟩
    change ¬Opened ([] ++ [first])
    rw [opened_snoc]
    exact not_or.mpr ⟨not_occursInOrder_nil _ _, fun opens => noAck opens.2.2⟩

theorem tracks_of_conforming (history : List Segment) (conforms : Conforming history) :
    Tracks (track history) history := by
  induction history using List.reverseRecOn with
  | nil => exact absurd rfl conforms.ne_nil
  | append_singleton history segment ih =>
      cases history with
      | nil =>
          obtain ⟨first, rest, split, fromLan, syn, noAck⟩ := conforms.starts
          obtain ⟨rfl, -⟩ := List.cons.inj split
          exact tracks_first fromLan syn noAck
      | cons first rest =>
          have nonempty : first :: rest ≠ [] := List.cons_ne_nil first rest
          rw [track_snoc]
          exact tracks_nextFlags (conforms.expected nonempty) (ih (conforms.front nonempty))

theorem Tracks.ne_unknown {tflag : TcpFlag} {history : List Segment}
    (tracks : Tracks tflag history) : tflag ≠ .unknown := by
  rintro rfl
  rcases tracks with ⟨impossible, -⟩ | ⟨-, impossible⟩
  · cases impossible
  · exact impossible

/-- In a conforming conversation the tracker is never lost, is in `reset`
exactly after an RST that came before closing completed, and without any RST is
in `closed` exactly when both sides have closed and the first was heard again. -/
theorem conforming_conversation (history : List Segment) (conforms : Conforming history) :
    (∀ before after, history = before ++ after → track before ≠ .unknown) ∧
      (track history = .reset ↔ RstBeforeClose history) ∧
      ((∀ segment ∈ history, ¬segment.Rst) → (track history = .closed ↔ Closes history)) := by
  have tracks := tracks_of_conforming history conforms
  refine ⟨?_, ?_, ?_⟩
  · rintro before after rfl
    cases before with
    | nil => nofun
    | cons first rest =>
        exact (tracks_of_conforming _ (conforms.front (List.cons_ne_nil first rest))).ne_unknown
  · rcases tracks with ⟨isReset, early⟩ | ⟨noneYet, explains⟩
    · exact iff_of_true isReset early
    · refine iff_of_false (fun isReset => ?_) noneYet
      rw [isReset] at explains
      exact explains
  · intro plain
    rcases tracks with ⟨-, before, segment, after, rfl, rst, -⟩ | ⟨-, explains⟩
    · exact absurd rst (plain segment (by simp))
    · exact explains.closes_iff.symm

private def closingHandshake : List Segment :=
  [⟨.lan, 0x02⟩, ⟨.wan, 0x12⟩, ⟨.lan, 0x11⟩, ⟨.wan, 0x11⟩, ⟨.lan, 0x10⟩]

private theorem closingHandshake_conforming : Conforming closingHandshake := by
  have opened : Opened [⟨.lan, 0x02⟩, ⟨.wan, 0x12⟩] :=
    ⟨[⟨.lan, 0x02⟩], ⟨.wan, 0x12⟩, [], rfl,
      ⟨rfl, by decide, by decide⟩, trivial⟩
  have syn : Conforming [⟨.lan, 0x02⟩] := conforming_singleton rfl (by decide) (by decide)
  have synAck : Conforming [⟨.lan, 0x02⟩, ⟨.wan, 0x12⟩] :=
    syn.snoc fun _ => ⟨fun _ => by decide, nofun, fun _ _ => by decide⟩
  have lanFin : Conforming [⟨.lan, 0x02⟩, ⟨.wan, 0x12⟩, ⟨.lan, 0x11⟩] :=
    synAck.snoc fun _ => ⟨fun _ => by decide, fun early => absurd opened early, nofun⟩
  have wanFin : Conforming [⟨.lan, 0x02⟩, ⟨.wan, 0x12⟩, ⟨.lan, 0x11⟩, ⟨.wan, 0x11⟩] :=
    lanFin.snoc fun _ => ⟨fun _ => by decide, nofun, fun _ _ => by decide⟩
  exact wanFin.snoc fun _ =>
    ⟨fun _ => by decide, fun early => absurd (OccursInOrder.extend opened _) early, nofun⟩

theorem conforming_conversation_closing_handshake :
    track closingHandshake = .closed ∧
      (track closingHandshake = .closed ↔ Closes closingHandshake) :=
  ⟨by decide, (conforming_conversation closingHandshake closingHandshake_conforming).2.2
    (by decide)⟩

end TcpState
end NatPorte
