/-
Requests in flight over an ordered connection.

A requester keeps one item for each message it sends, the other side answers the
messages in order, and neither messages nor replies carry an identifier.  What an
item is due is still on its way out or already on its way back.  `Aligned` pairs
the items with what they are due, oldest first.
-/

import Mathlib.Data.List.Forall2

namespace Pipeline

inductive Due (Message Reply : Type) where
  | asked (message : Message)
  | replied (reply : Reply)

variable {Item Message Reply : Type}

/-- Replies were asked for before the messages that are still unanswered. -/
def due (replies : List Reply) (messages : List Message) : List (Due Message Reply) :=
  replies.map .replied ++ messages.map .asked

def Aligned (Fits : Item → Due Message Reply → Prop) (items : List Item) (replies : List Reply)
    (messages : List Message) : Prop :=
  List.Forall₂ Fits items (due replies messages)

variable {Fits Fits' : Item → Due Message Reply → Prop} {items : List Item} {replies : List Reply}
  {messages : List Message}

theorem Aligned.nil : Aligned Fits [] [] [] := List.Forall₂.nil

theorem Aligned.length (aligned : Aligned Fits items replies messages) :
    items.length = replies.length + messages.length := by
  have same := List.Forall₂.length_eq aligned
  rw [due, List.length_append, List.length_map, List.length_map] at same
  exact same

theorem Aligned.imp (aligned : Aligned Fits items replies messages)
    (implies : ∀ item ∈ items, ∀ answer, Fits item answer → Fits' item answer) :
    Aligned Fits' items replies messages := by
  refine List.forall₂_iff_zip.mpr ⟨List.Forall₂.length_eq aligned, ?_⟩
  intro item answer paired
  exact implies item (List.of_mem_zip paired).1 answer ((List.forall₂_iff_zip.mp aligned).2 paired)

theorem Aligned.send {item : Item} {message : Message}
    (aligned : Aligned Fits items replies messages) (fits : Fits item (.asked message)) :
    Aligned Fits (items ++ [item]) replies (messages ++ [message]) := by
  rw [Aligned, due, List.map_append, ← List.append_assoc]
  exact List.rel_append aligned (.cons fits .nil)

private theorem replace_one {due : Due Message Reply} {before after : List (Due Message Reply)}
    (new : Due Message Reply) (related : List.Forall₂ Fits items (before ++ due :: after))
    (implies : ∀ item ∈ items, Fits item due → Fits item new) :
    List.Forall₂ Fits items (before ++ new :: after) := by
  induction before generalizing items with
  | nil =>
      cases related with
      | cons fits rest => exact .cons (implies _ List.mem_cons_self fits) rest
  | cons head before ih =>
      cases related with
      | cons fits rest =>
          exact .cons fits (ih rest (fun item member =>
            implies item (List.mem_cons_of_mem _ member)))

theorem Aligned.answer {message : Message} {rest : List Message} (reply : Reply)
    (aligned : Aligned Fits items replies (message :: rest))
    (implies : ∀ item ∈ items, Fits item (.asked message) → Fits item (.replied reply)) :
    Aligned Fits items (replies ++ [reply]) rest := by
  rw [Aligned, due, List.map_append, List.append_assoc]
  exact replace_one (.replied reply) aligned implies

theorem Aligned.due (aligned : Aligned Fits items replies messages) {answer : Due Message Reply}
    (isDue : answer ∈ Pipeline.due replies messages) : ∃ item ∈ items, Fits item answer := by
  obtain ⟨index, inRange, isAnswer⟩ := List.getElem_of_mem isDue
  have same := List.Forall₂.length_eq aligned
  have inItems : index < items.length := by omega
  refine ⟨items[index], List.getElem_mem inItems, ?_⟩
  rw [← isAnswer]
  exact List.Forall₂.get aligned inItems inRange

theorem Aligned.asked {message : Message} {rest : List Message}
    (aligned : Aligned Fits items replies (message :: rest)) :
    ∃ item ∈ items, Fits item (.asked message) := by
  apply aligned.due
  rw [Pipeline.due, List.map_cons]
  exact List.mem_append_right _ List.mem_cons_self

theorem Aligned.replied {reply : Reply} (aligned : Aligned Fits items replies messages)
    (member : reply ∈ replies) : ∃ item ∈ items, Fits item (.replied reply) :=
  aligned.due (List.mem_append_left _ (List.mem_map_of_mem member))

theorem Aligned.and (left : Aligned Fits items replies messages)
    (right : Aligned Fits' items replies messages) :
    Aligned (fun item answer => Fits item answer ∧ Fits' item answer) items replies messages := by
  refine List.forall₂_iff_zip.mpr ⟨List.Forall₂.length_eq left, ?_⟩
  intro item answer paired
  exact ⟨(List.forall₂_iff_zip.mp left).2 paired, (List.forall₂_iff_zip.mp right).2 paired⟩

theorem Aligned.front {item : Item} {reply : Reply}
    (aligned : Aligned Fits (item :: items) (reply :: replies) messages) :
    Fits item (.replied reply) ∧ Aligned Fits items replies messages := by
  cases aligned with
  | cons fits rest => exact ⟨fits, rest⟩

end Pipeline
