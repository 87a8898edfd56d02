/-
Patterns occurring in order along a trace.

`OccursInOrder [p, q] trace` says that some item satisfies `p` and some strictly
later one satisfies `q`.  A history-indexed invariant only needs to know how one
more item changes such a statement, which is `occursInOrder_snoc`.
-/

namespace TracePattern

variable {Item : Type}

def OccursInOrder : List (Item → Prop) → List Item → Prop
  | [], _ => True
  | pattern :: later, trace =>
      ∃ before item after, trace = before ++ item :: after ∧ pattern item ∧
        OccursInOrder later after

theorem OccursInOrder.extend {patterns : List (Item → Prop)} {trace : List Item}
    (occurs : OccursInOrder patterns trace) (more : List Item) :
    OccursInOrder patterns (trace ++ more) := by
  induction patterns generalizing trace with
  | nil => trivial
  | cons pattern later ih =>
      obtain ⟨before, item, after, rfl, holds, rest⟩ := occurs
      exact ⟨before, item, after ++ more, by simp, holds, ih rest⟩

theorem OccursInOrder.dropLast (patterns : List (Item → Prop)) {last : Item → Prop}
    {trace : List Item} (occurs : OccursInOrder (patterns ++ [last]) trace) :
    OccursInOrder patterns trace := by
  induction patterns generalizing trace with
  | nil => trivial
  | cons pattern later ih =>
      obtain ⟨before, item, after, same, holds, rest⟩ := occurs
      exact ⟨before, item, after, same, holds, ih rest⟩

theorem OccursInOrder.skip {first second : Item → Prop} {later : List (Item → Prop)}
    {trace : List Item} (occurs : OccursInOrder (first :: second :: later) trace) :
    OccursInOrder (first :: later) trace := by
  obtain ⟨before, item, after, same, holds, rest⟩ := occurs
  refine ⟨before, item, after, same, holds, ?_⟩
  obtain ⟨between, next, tail, rfl, _, inTail⟩ := rest
  cases later with
  | nil => trivial
  | cons third others =>
      obtain ⟨start, found, tail, rfl, holds, rest⟩ := inTail
      exact ⟨between ++ next :: start, found, tail, by simp, holds, rest⟩

private theorem occurs_snoc_singleton (pattern : Item → Prop) (trace : List Item) (item : Item) :
    OccursInOrder [pattern] (trace ++ [item]) ↔
      OccursInOrder [pattern] trace ∨ pattern item := by
  constructor
  · rintro ⟨before, found, after, split, holds, -⟩
    rcases List.eq_nil_or_concat after with rfl | ⟨front, last, rfl⟩
    · obtain ⟨-, same⟩ := List.append_inj' split rfl
      cases same
      exact .inr holds
    · rw [List.concat_eq_append, ← List.cons_append, ← List.append_assoc] at split
      obtain ⟨same, -⟩ := List.append_inj' split rfl
      exact .inl ⟨before, found, front, same, holds, trivial⟩
  · rintro (occurs | holds)
    · exact occurs.extend [item]
    · exact ⟨trace, item, [], rfl, holds, trivial⟩

theorem occursInOrder_snoc (patterns : List (Item → Prop)) (last : Item → Prop)
    (trace : List Item) (item : Item) :
    OccursInOrder (patterns ++ [last]) (trace ++ [item]) ↔
      OccursInOrder (patterns ++ [last]) trace ∨ OccursInOrder patterns trace ∧ last item := by
  induction patterns generalizing trace with
  | nil =>
      rw [List.nil_append, occurs_snoc_singleton]
      simp only [OccursInOrder, true_and]
  | cons pattern later ih =>
      constructor
      · rintro ⟨before, found, after, split, holds, rest⟩
        rcases List.eq_nil_or_concat after with rfl | ⟨front, tail, rfl⟩
        · -- the later patterns cannot occur in nothing
          cases later <;> obtain ⟨start, next, others, impossible, -⟩ := rest <;>
            simp at impossible
        · rw [List.concat_eq_append] at split rest
          rw [← List.cons_append, ← List.append_assoc] at split
          obtain ⟨rfl, same⟩ := List.append_inj' split rfl
          cases same
          rcases (ih front).mp rest with inside | ⟨inside, completes⟩
          · exact .inl ⟨before, found, front, rfl, holds, inside⟩
          · exact .inr ⟨⟨before, found, front, rfl, holds, inside⟩, completes⟩
      · rintro (occurs | ⟨⟨before, found, after, rfl, holds, inside⟩, completes⟩)
        · exact occurs.extend [item]
        · exact ⟨before, found, after ++ [item], by simp, holds,
            (ih after).mpr (.inr ⟨inside, completes⟩)⟩

theorem not_occursInOrder_nil (pattern : Item → Prop) (later : List (Item → Prop)) :
    ¬OccursInOrder (pattern :: later) [] := by
  rintro ⟨before, found, after, impossible, -⟩
  simp at impossible

end TracePattern
