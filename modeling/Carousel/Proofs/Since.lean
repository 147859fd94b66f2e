/-
# What the last mark in a list says

Items of a list can mark, and they can spoil what was marked before them. What was marked
holds as long as nothing after the last mark spoils it. So of a list that grows at its end
only the last item has to be looked at, and a spoiler makes all that was before it
forgotten.
-/

import Mathlib.Data.List.Induction

namespace Carousel

/-- Something in the list marks, and nothing after it spoils. -/
def Since {α : Type} (marks spoils : α → Prop) (items : List α) : Prop :=
  ∃ earlier item later, items = earlier ++ item :: later ∧ marks item ∧
    ∀ other ∈ later, ¬ spoils other

theorem not_since_nil {α : Type} {marks spoils : α → Prop} : ¬ Since marks spoils [] := by
  rintro ⟨earlier, item, later, split, _⟩
  cases earlier <;> cases split

/-- The last item marks, or does not spoil what was marked before it. -/
theorem since_append_singleton {α : Type} {marks spoils : α → Prop} {items : List α}
    {last : α} :
    Since marks spoils (items ++ [last]) ↔
      marks last ∨ Since marks spoils items ∧ ¬ spoils last := by
  constructor
  · rintro ⟨earlier, item, later, split, marked, unspoilt⟩
    cases later using List.reverseRecOn with
    | nil =>
      obtain ⟨_, same⟩ := List.append_inj' split rfl
      cases same
      exact .inl marked
    | append_singleton later other _ =>
      rw [← List.cons_append, ← List.append_assoc] at split
      obtain ⟨front, same⟩ := List.append_inj' split rfl
      cases same
      rw [List.forall_mem_append, List.forall_mem_singleton] at unspoilt
      exact .inr ⟨⟨earlier, item, later, front, marked, unspoilt.1⟩, unspoilt.2⟩
  · rintro (marked | ⟨⟨earlier, item, later, rfl, marked, unspoilt⟩, spared⟩)
    · exact ⟨items, last, [], rfl, marked, List.forall_mem_nil _⟩
    · refine ⟨earlier, item, later ++ [last], by simp, marked, ?_⟩
      rw [List.forall_mem_append, List.forall_mem_singleton]
      exact ⟨unspoilt, spared⟩

/-- It depends on nothing but which items mark and which ones spoil. -/
theorem since_congr {α : Type} {marks spoils marks' spoils' : α → Prop} {items : List α}
    (same : ∀ item ∈ items, (marks item ↔ marks' item) ∧ (spoils item ↔ spoils' item)) :
    Since marks spoils items ↔ Since marks' spoils' items := by
  induction items using List.reverseRecOn with
  | nil => exact iff_of_false not_since_nil not_since_nil
  | append_singleton items last ih =>
    rw [List.forall_mem_append, List.forall_mem_singleton] at same
    rw [since_append_singleton, since_append_singleton, ih same.1, same.2.1, same.2.2]

/-- Without an item that marks there is nothing to hold. -/
theorem not_since_of_unmarked {α : Type} {marks spoils : α → Prop} {items : List α}
    (unmarked : ∀ item ∈ items, ¬ marks item) : ¬ Since marks spoils items := by
  rintro ⟨earlier, item, later, rfl, marked, _⟩
  exact unmarked item (by simp) marked

/-- Where nothing spoils, one item that marks is enough. -/
theorem since_of_unspoilt {α : Type} {marks spoils : α → Prop} {items : List α}
    (unspoilt : ∀ item ∈ items, ¬ spoils item) (marked : ∃ item ∈ items, marks item) :
    Since marks spoils items := by
  obtain ⟨item, listed, marked⟩ := marked
  obtain ⟨earlier, later, rfl⟩ := List.append_of_mem listed
  exact ⟨earlier, item, later, rfl, marked, fun other behind =>
    unspoilt other (List.mem_append_right _ (List.mem_cons_of_mem _ behind))⟩

/-- What stands before a spoiler counts for nothing. -/
theorem since_append_spoiler_iff {α : Type} {marks spoils : α → Prop}
    {earlier later : List α} {spoiler : α} (spoilt : spoils spoiler)
    (unmarked : ¬ marks spoiler) :
    Since marks spoils (earlier ++ spoiler :: later) ↔ Since marks spoils later := by
  induction later using List.reverseRecOn with
  | nil => simp [since_append_singleton, spoilt, unmarked, not_since_nil]
  | append_singleton later last ih =>
    rw [← List.cons_append, ← List.append_assoc, since_append_singleton, ih,
      since_append_singleton]

end Carousel
