/-
**Orders that sorts can rely on, and what a stable sort is.**

An order of items is a total preorder when comparing the other way round gives the opposite, and what is
not after one that is not after a third is not after the third.  A stable sort of a list rearranges it in
ascending order and keeps the order of items that are not told apart: any items of which none is less
than another stay as they were.  For a total preorder these conditions leave one list.

Main definitions:

* `IsPreorderOn` — an order that is a total preorder on the items of a list;
* `NoneLess` — a test that no two items pass of which one is less;
* `Rearranges`, `Sorts` — rearranging without changing such items, and sorting.

Main results:

* `Sorts.unique` — **there is one stable sort**;
* `Rearranges.trans`, `Rearranges.append` — rearranging in steps, and parts on their own.
-/

import Mathlib.Data.List.Basic

set_option autoImplicit false

namespace CardQuery

variable {α : Type} {order : α → α → Ordering}

/-! ### Total preorders -/

/-- The order is a total preorder on the items: to compare two of them the other way round gives the
opposite, and what is not after one that is not after a third is not after the third. -/
structure IsPreorderOn (order : α → α → Ordering) (items : List α) : Prop where
  swap : ∀ a ∈ items, ∀ b ∈ items, order b a = (order a b).swap
  trans : ∀ a ∈ items, ∀ b ∈ items, ∀ c ∈ items,
    order a b ≠ .gt → order b c ≠ .gt → order a c ≠ .gt

namespace IsPreorderOn

variable {items : List α} {a b c : α}

theorem mono {items' : List α} (h : IsPreorderOn order items) (hsubset : items' ⊆ items) :
    IsPreorderOn order items' where
  swap a ha b hb := h.swap a (hsubset ha) b (hsubset hb)
  trans a ha b hb c hc := h.trans a (hsubset ha) b (hsubset hb) c (hsubset hc)

/-- What is not less than another does not come before it, and conversely. -/
theorem ne_gt_iff (h : IsPreorderOn order items) (ha : a ∈ items) (hb : b ∈ items) :
    order b a ≠ .gt ↔ order a b ≠ .lt := by
  rw [h.swap a ha b hb]
  cases order a b <;> simp

theorem ne_gt_of_lt (hlt : order a b = .lt) : order a b ≠ .gt := by
  rw [hlt]
  decide

theorem ne_lt_of_lt (h : IsPreorderOn order items) (ha : a ∈ items) (hb : b ∈ items)
    (hlt : order a b = .lt) : order b a ≠ .lt :=
  (h.ne_gt_iff hb ha).1 (ne_gt_of_lt hlt)

/-- What is not less than an item that is not less than a third is not less than the third. -/
theorem ne_lt_trans (h : IsPreorderOn order items) (ha : a ∈ items) (hb : b ∈ items) (hc : c ∈ items)
    (hba : order b a ≠ .lt) (hcb : order c b ≠ .lt) : order c a ≠ .lt := by
  rw [← h.ne_gt_iff hc ha]
  exact h.trans a ha b hb c hc ((h.ne_gt_iff hb ha).2 hba) ((h.ne_gt_iff hc hb).2 hcb)

/-- What is less than an item is less than one that is not less than that. -/
theorem lt_of_lt_of_ne_lt (h : IsPreorderOn order items) (ha : a ∈ items) (hb : b ∈ items)
    (hc : c ∈ items) (hab : order a b = .lt) (hcb : order c b ≠ .lt) : order a c = .lt := by
  by_contra hac
  exact h.ne_lt_trans hb hc ha hcb hac hab

theorem lt_of_ne_lt_of_lt (h : IsPreorderOn order items) (ha : a ∈ items) (hb : b ∈ items)
    (hc : c ∈ items) (hba : order b a ≠ .lt) (hbc : order b c = .lt) : order a c = .lt := by
  by_contra hac
  exact h.ne_lt_trans hc ha hb hac hba hbc

theorem lt_trans (h : IsPreorderOn order items) (ha : a ∈ items) (hb : b ∈ items) (hc : c ∈ items)
    (hab : order a b = .lt) (hbc : order b c = .lt) : order a c = .lt :=
  h.lt_of_lt_of_ne_lt ha hb hc hab (h.ne_lt_of_lt hb hc hbc)

/-- To be not told apart is transitive as well. -/
theorem trans_eq (h : IsPreorderOn order items) (ha : a ∈ items) (hb : b ∈ items) (hc : c ∈ items)
    (hab : order a b = .eq) (hbc : order b c = .eq) : order a c = .eq := by
  have hac : order a c ≠ .gt := h.trans a ha b hb c hc (by simp [hab]) (by simp [hbc])
  have hca : order a c ≠ .lt := by
    refine h.ne_lt_trans hc hb ha ?_ ?_
    · simp [hbc]
    · simp [hab]
  cases hcase : order a c with
  | lt => exact absurd hcase hca
  | eq => rfl
  | gt => exact absurd hcase hac

/-- An order that tells the same items apart as a total preorder is one, if to compare two items the
other way round gives the opposite. -/
theorem congr {order' : α → α → Ordering} (h : IsPreorderOn order items)
    (hswap : ∀ a ∈ items, ∀ b ∈ items, order' b a = (order' a b).swap)
    (hlt : ∀ a ∈ items, ∀ b ∈ items, order' a b = .lt ↔ order a b = .lt) :
    IsPreorderOn order' items where
  swap := hswap
  trans a ha b hb c hc hab hbc := by
    have hiff {x y : α} (hx : x ∈ items) (hy : y ∈ items) : order' x y ≠ .gt ↔ order x y ≠ .gt := by
      rw [h.ne_gt_iff hy hx, hswap y hy x hx, Ne, Ne, Ordering.swap_eq_gt, hlt y hy x hx]
    rw [hiff ha hb] at hab
    rw [hiff hb hc] at hbc
    rw [hiff ha hc]
    exact h.trans a ha b hb c hc hab hbc

end IsPreorderOn

/-! ### Rearranging -/

/-- No two items pass the test of which one is less. -/
def NoneLess (order : α → α → Ordering) (items : List α) (p : α → Bool) : Prop :=
  ∀ a ∈ items, ∀ b ∈ items, p a = true → p b = true → order a b ≠ .lt

theorem NoneLess.mono {items items' : List α} {p : α → Bool} (h : NoneLess order items p)
    (hsubset : items' ⊆ items) : NoneLess order items' p :=
  fun a ha b hb => h a (hsubset ha) b (hsubset hb)

/-- The items in another order, which is the same for items of which none is less than another. -/
structure Rearranges (order : α → α → Ordering) (items result : List α) : Prop where
  perm : result.Perm items
  ties : ∀ p, NoneLess order items p → result.filter p = items.filter p

namespace Rearranges

variable {items result : List α}

theorem refl (items : List α) : Rearranges order items items := ⟨.refl _, fun _ _ => rfl⟩

/-- Rearranging in steps. -/
theorem trans {last : List α} (h : Rearranges order items result)
    (h' : Rearranges order result last) : Rearranges order items last :=
  ⟨h'.perm.trans h.perm, fun p hp => (h'.ties p (hp.mono h.perm.subset)).trans (h.ties p hp)⟩

/-- Rearranging the parts of a list. -/
theorem append {items' result' : List α} (h : Rearranges order items result)
    (h' : Rearranges order items' result') :
    Rearranges order (items ++ items') (result ++ result') := by
  refine ⟨h.perm.append h'.perm, fun p hp => ?_⟩
  rw [List.filter_append, List.filter_append, h.ties p (hp.mono (List.subset_append_left _ _)),
    h'.ties p (hp.mono (List.subset_append_right _ _))]

end Rearranges

/-! ### Stable sorts -/

/-- No item comes before one that it is after. -/
def Ascends (order : α → α → Ordering) (items : List α) : Prop :=
  items.Pairwise fun a b => order a b ≠ .gt

/-- The items rearranged in ascending order. -/
structure Sorts (order : α → α → Ordering) (items result : List α) : Prop
    extends Rearranges order items result where
  ascends : Ascends order result

theorem IsPreorderOn.of_perm {items result : List α} (h : IsPreorderOn order items)
    (hperm : result.Perm items) : IsPreorderOn order result := h.mono hperm.subset

/-- Is an item not told apart from `a`? -/
def tiesWith (order : α → α → Ordering) (a b : α) : Bool := order a b == .eq

theorem IsPreorderOn.order_self {items : List α} (h : IsPreorderOn order items) {a : α}
    (ha : a ∈ items) : order a a = .eq := by
  have hswap := h.swap a ha a ha
  cases hself : order a a with
  | eq => rfl
  | lt => simp [hself] at hswap
  | gt => simp [hself] at hswap

/-- Of the items that are not told apart from one of them none is less than another. -/
theorem IsPreorderOn.noneLess_tiesWith {items : List α} (h : IsPreorderOn order items) {a : α}
    (ha : a ∈ items) : NoneLess order items (tiesWith order a) := by
  intro b hb c hc hab hac
  rw [tiesWith, beq_iff_eq] at hab hac
  have hba : order b a = .eq := by
    rw [h.swap a ha b hb, hab]
    rfl
  rw [h.trans_eq hb ha hc hba hac]
  decide

/-- Two lists in ascending order with the same items, that agree on items that are not told apart, are
equal: their first items are not told apart, and the first of those in either list. -/
theorem eq_of_ascends {items result : List α} (h : IsPreorderOn order items)
    (hitems : Ascends order items) (hresult : Ascends order result) (hperm : result.Perm items)
    (hties : ∀ a ∈ items, result.filter (tiesWith order a) = items.filter (tiesWith order a)) :
    result = items := by
  induction items generalizing result with
  | nil => exact hperm.eq_nil
  | cons a items ih =>
      cases result with
      | nil => exact absurd hperm.symm (by simp)
      | cons b result =>
          have ha : a ∈ a :: items := List.mem_cons_self
          have hb : b ∈ a :: items := hperm.subset List.mem_cons_self
          have hself := h.order_self ha
          obtain ⟨hfirst, hrest⟩ := List.pairwise_cons.1 hitems
          obtain ⟨hleast, hrest'⟩ := List.pairwise_cons.1 hresult
          have hab : order a b = .eq := by
            have hle : order a b ≠ .gt := by
              rcases List.mem_cons.1 hb with rfl | hmem
              · simp [hself]
              · exact hfirst b hmem
            have hge : order a b ≠ .lt := by
              rw [← h.ne_gt_iff ha hb]
              rcases List.mem_cons.1 (hperm.symm.subset ha) with rfl | hmem
              · simp [hself]
              · exact hleast a hmem
            cases hcase : order a b with
            | lt => exact absurd hcase hge
            | eq => rfl
            | gt => exact absurd hcase hle
          have hequal : b = a := by
            have hclass := hties a ha
            rw [List.filter_cons_of_pos (by simp [tiesWith, hab]),
              List.filter_cons_of_pos (by simp [tiesWith, hself])] at hclass
            exact (List.cons.inj hclass).1
          subst hequal
          refine congrArg _ (ih (h.mono (List.subset_cons_self b items)) hrest hrest'
            ((List.perm_cons b).1 hperm) fun c hc => ?_)
          have hclass := hties c (List.mem_cons_of_mem b hc)
          rw [List.filter_cons, List.filter_cons] at hclass
          split at hclass
          · exact (List.cons.inj hclass).2
          · exact hclass

/-- **There is one stable sort** for a total preorder. -/
theorem Sorts.unique {items result result' : List α} (h : IsPreorderOn order items)
    (hresult : Sorts order items result) (hresult' : Sorts order items result') : result = result' := by
  refine eq_of_ascends (h.of_perm hresult'.perm) hresult'.ascends hresult.ascends
    (hresult.perm.trans hresult'.perm.symm) fun a ha => ?_
  have hclass := h.noneLess_tiesWith (hresult'.perm.subset ha)
  rw [hresult.ties _ hclass, hresult'.ties _ hclass]

end CardQuery
