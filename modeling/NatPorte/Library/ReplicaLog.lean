/-
A follower that applies the leader's changes late.

The leader holds a set of facts and announces every change to it.  The follower
applies the announced changes in order; those it has not applied yet are the log.
`Catches` says that the log takes the follower to where the leader is, and that
every set on the way is sound because the leader went through it.
-/

import Mathlib.Data.Set.Insert

namespace ReplicaLog

variable {Fact : Type}

inductive Change (Fact : Type) where
  | add (fact : Fact)
  | drop (fact : Fact)

def Change.apply : Change Fact → Set Fact → Set Fact
  | .add fact, facts => insert fact facts
  | .drop fact, facts => facts \ {fact}

def Catches (Sound : Set Fact → Prop) : Set Fact → List (Change Fact) → Set Fact → Prop
  | follower, [], leader => follower = leader
  | follower, change :: log, leader =>
      Sound (change.apply follower) ∧ Catches Sound (change.apply follower) log leader

variable {Sound : Set Fact → Prop} {follower leader : Set Fact} {log : List (Change Fact)}
  {change : Change Fact} {fact : Fact}

theorem Catches.append (catches : Catches Sound follower log leader)
    (sound : Sound (change.apply leader)) :
    Catches Sound follower (log ++ [change]) (change.apply leader) := by
  induction log generalizing follower with
  | nil =>
      have same : follower = leader := catches
      rw [same]
      exact ⟨sound, rfl⟩
  | cons head rest ih => exact ⟨catches.1, ih catches.2⟩

theorem Catches.next (catches : Catches Sound follower (change :: log) leader) :
    Sound (change.apply follower) ∧ Catches Sound (change.apply follower) log leader := catches

theorem Catches.mem_leader (catches : Catches Sound follower log leader) (member : fact ∈ follower) :
    fact ∈ leader ∨ .drop fact ∈ log := by
  induction log generalizing follower with
  | nil =>
      have same : follower = leader := catches
      exact .inl (same ▸ member)
  | cons head rest ih =>
      have later : fact ∈ head.apply follower → fact ∈ leader ∨ .drop fact ∈ head :: rest :=
        fun stays => (ih catches.2 stays).imp_right (List.mem_cons_of_mem head)
      cases head with
      | add other => exact later (Set.mem_insert_of_mem other member)
      | drop other =>
          by_cases same : fact = other
          · subst same
            exact .inr List.mem_cons_self
          · exact later ⟨member, same⟩

theorem Catches.mem_follower (catches : Catches Sound follower log leader) (member : fact ∈ leader) :
    fact ∈ follower ∨ .add fact ∈ log := by
  induction log generalizing follower with
  | nil =>
      have same : follower = leader := catches
      exact .inl (same ▸ member)
  | cons head rest ih =>
      rcases ih catches.2 with held | added
      · cases head with
        | add other =>
            rcases Set.mem_insert_iff.mp held with same | held
            · exact .inr (same ▸ List.mem_cons_self)
            · exact .inl held
        | drop other => exact .inl held.1
      · exact .inr (List.mem_cons_of_mem head added)

end ReplicaLog
