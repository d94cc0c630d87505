/-
**Sorting by insertion.**

Insertion looks at nothing but whether one item is less than another.  It does not matter whether items
are sorted themselves or by what is attached to them, and two orders with the same items less than others
sort alike.  Whatever the order, the items are only rearranged; when it is a total preorder, insertion is
a stable sort.

Main results:

* `rearranges_insertAll`, `sorts_insertAll` — **inserting further items rearranges and sorts**;
* `insertionSort_perm`, `sorts_insertionSort` — so does sorting by insertion;
* `insertionSort_map` — sorting what items are mapped to;
* `insertionSort_congr` — **orders that tell the same items apart sort alike**;
* `insertionSort_pair` — two items, sorted.
-/

import CardQuery.Proofs.Sort.Order
import CardQuery.Sort.Small

set_option autoImplicit false

namespace CardQuery

variable {α β : Type} {order order' : α → α → Ordering}

/-! ### One item -/

theorem insertDescending_perm (a : α) (sorted : List α) :
    (insertDescending order a sorted).Perm (a :: sorted) := by
  induction sorted with
  | nil => exact .refl _
  | cons b rest ih =>
      rw [insertDescending]
      split
      · exact (ih.cons b).trans (.swap a b rest)
      · exact .refl _

theorem insertDescending_map (f : β → α) (b : β) (sorted : List β) :
    insertDescending order (f b) (sorted.map f) =
      (insertDescending (fun b b' => order (f b) (f b')) b sorted).map f := by
  induction sorted with
  | nil => rfl
  | cons b' rest ih =>
      rw [List.map_cons, insertDescending, insertDescending]
      split
      · rw [ih, List.map_cons]
      · rfl

theorem insertDescending_congr {a : α} {sorted : List α}
    (h : ∀ b ∈ sorted, order a b = .lt ↔ order' a b = .lt) :
    insertDescending order a sorted = insertDescending order' a sorted := by
  induction sorted with
  | nil => rfl
  | cons b rest ih =>
      rw [List.forall_mem_cons] at h
      rw [insertDescending, insertDescending, ih h.2]
      simp only [h.1]

/-- An item is inserted behind the items that it is less than, and it is in front of the items of which
none is less than another. -/
theorem rearranges_insertDescending (order : α → α → Ordering) (a : α) (sorted : List α) :
    Rearranges order (a :: sorted) (insertDescending order a sorted) := by
  refine ⟨insertDescending_perm a sorted, fun p hp => ?_⟩
  induction sorted with
  | nil => rfl
  | cons b rest ih =>
      rw [insertDescending]
      split
      · next hlt =>
        have hsubset : a :: rest ⊆ a :: b :: rest :=
          List.cons_subset_cons a (List.subset_cons_self b rest)
        rw [List.filter_cons, ih (hp.mono hsubset)]
        cases ha : p a with
        | false => simp only [List.filter_cons, ha, Bool.false_eq_true, if_false]
        | true =>
            have hb : p b = false := by
              by_contra hb
              exact hp a List.mem_cons_self b (by simp) ha (by simpa using hb) hlt
            simp [ha, hb]
      · rfl

/-- An item is inserted where the descending order allows it. -/
theorem descends_insertDescending {a : α} {sorted : List α} (h : IsPreorderOn order (a :: sorted))
    (hsorted : sorted.Pairwise fun b c => order c b ≠ .gt) :
    (insertDescending order a sorted).Pairwise fun b c => order c b ≠ .gt := by
  induction sorted with
  | nil => exact List.pairwise_singleton _ _
  | cons b rest ih =>
      have ha : a ∈ a :: b :: rest := List.mem_cons_self
      have hb : b ∈ a :: b :: rest := List.mem_cons_of_mem _ List.mem_cons_self
      obtain ⟨hfirst, hrest⟩ := List.pairwise_cons.1 hsorted
      rw [insertDescending]
      split
      · next hlt =>
        have hsubset : a :: rest ⊆ a :: b :: rest :=
          List.cons_subset_cons a (List.subset_cons_self b rest)
        refine List.pairwise_cons.2 ⟨fun c hc => ?_, ih (h.mono hsubset) hrest⟩
        rcases List.mem_cons.1 ((insertDescending_perm a rest).subset hc) with rfl | hc
        · exact IsPreorderOn.ne_gt_of_lt hlt
        · exact hfirst c hc
      · next hlt =>
        have hba : order b a ≠ .gt := (h.ne_gt_iff ha hb).2 hlt
        refine List.pairwise_cons.2 ⟨fun c hc => ?_, hsorted⟩
        rcases List.mem_cons.1 hc with rfl | hmem
        · exact hba
        · exact h.trans c (List.mem_cons_of_mem _ hc) b hb a ha (hfirst c hmem) hba

/-! ### Further items -/

theorem insertAll_cons (order : α → α → Ordering) (sorted : List α) (a : α) (items : List α) :
    insertAll order sorted (a :: items) =
      insertAll order (insertDescending order a sorted.reverse).reverse items := by
  rw [insertAll, insertAll, List.foldl_cons, List.reverse_reverse]

theorem Rearranges.reverse {items result : List α} (h : Rearranges order items result) :
    Rearranges order items.reverse result.reverse := by
  refine ⟨(List.reverse_perm _).trans (h.perm.trans (List.reverse_perm _).symm), fun p hp => ?_⟩
  rw [List.filter_reverse, List.filter_reverse, h.ties p (hp.mono (List.reverse_perm _).symm.subset)]

/-- **Inserting further items rearranges them**, whatever the order. -/
theorem rearranges_insertAll (order : α → α → Ordering) (sorted items : List α) :
    Rearranges order (sorted ++ items) (insertAll order sorted items) := by
  induction items generalizing sorted with
  | nil =>
      rw [insertAll, List.foldl_nil, List.reverse_reverse, List.append_nil]
      exact .refl sorted
  | cons a items ih =>
      have hone : Rearranges order (sorted ++ [a])
          (insertDescending order a sorted.reverse).reverse := by
        have hinsert := (rearranges_insertDescending order a sorted.reverse).reverse
        rwa [List.reverse_cons, List.reverse_reverse] at hinsert
      rw [insertAll_cons, ← List.singleton_append, ← List.append_assoc]
      exact (hone.append (.refl items)).trans (ih _)

/-- **Inserting further items into items in order sorts them all.** -/
theorem sorts_insertAll {sorted items : List α} (h : IsPreorderOn order (sorted ++ items))
    (hsorted : Ascends order sorted) : Sorts order (sorted ++ items) (insertAll order sorted items) := by
  refine ⟨rearranges_insertAll order sorted items, ?_⟩
  induction items generalizing sorted with
  | nil => rwa [insertAll, List.foldl_nil, List.reverse_reverse]
  | cons a items ih =>
      have hperm : ((insertDescending order a sorted.reverse).reverse ++ items).Perm
          (sorted ++ a :: items) := by
        refine ((List.reverse_perm _).append_right items).trans ?_
        refine ((insertDescending_perm a _).append_right items).trans ?_
        exact (((List.reverse_perm sorted).cons a).append_right items).trans List.perm_middle.symm
      rw [insertAll_cons]
      refine ih (h.of_perm hperm) (List.pairwise_reverse.2 (descends_insertDescending ?_ ?_))
      · refine h.mono (List.cons_subset.2 ⟨by simp, fun b hb => ?_⟩)
        exact List.mem_append_left _ (List.mem_reverse.1 hb)
      · exact List.pairwise_reverse.2 hsorted

/-! ### The whole list -/

/-- The sorted items are the given ones. -/
theorem insertionSort_perm (order : α → α → Ordering) (items : List α) :
    (insertionSort order items).Perm items := (rearranges_insertAll order [] items).perm

/-- Sorting by insertion is a stable sort. -/
theorem sorts_insertionSort {items : List α} (h : IsPreorderOn order items) :
    Sorts order items (insertionSort order items) := @sorts_insertAll _ _ [] _ h .nil

/-- Sorting what items are mapped to is sorting the items by it. -/
theorem insertionSort_map (order : α → α → Ordering) (f : β → α) (items : List β) :
    insertionSort order (items.map f) =
      (insertionSort (fun b b' => order (f b) (f b')) items).map f := by
  have hall (sorted : List β) : insertAll order (sorted.map f) (items.map f) =
      (insertAll (fun b b' => order (f b) (f b')) sorted items).map f := by
    induction items generalizing sorted with
    | nil => simp [insertAll]
    | cons b items ih =>
        rw [List.map_cons, insertAll_cons, insertAll_cons, ← List.map_reverse, insertDescending_map,
          ← List.map_reverse, ih]
  exact hall []

/-- **Orders that tell the same items apart sort alike.**  Every item is inserted among items that stand
before it in the list. -/
theorem insertionSort_congr {items : List α}
    (h : ∀ a ∈ items, ∀ b ∈ items, order a b = .lt ↔ order' a b = .lt) :
    insertionSort order items = insertionSort order' items := by
  have hall (rest sorted : List α) (hmem : ∀ a ∈ sorted ++ rest, a ∈ items) :
      insertAll order sorted rest = insertAll order' sorted rest := by
    induction rest generalizing sorted with
    | nil => rfl
    | cons a rest ih =>
        have ha : a ∈ items := hmem a (by simp)
        have heq : insertDescending order a sorted.reverse =
            insertDescending order' a sorted.reverse :=
          insertDescending_congr fun b hb =>
            h a ha b (hmem b (List.mem_append_left _ (List.mem_reverse.1 hb)))
        rw [insertAll_cons, insertAll_cons, heq]
        refine ih _ fun b hb => hmem b ?_
        rcases List.mem_append.1 hb with hb | hb
        · rcases List.mem_cons.1 ((insertDescending_perm a _).subset (List.mem_reverse.1 hb)) with
            rfl | hb
          · simp
          · exact List.mem_append_left _ (List.mem_reverse.1 hb)
        · simp [hb]
  exact hall items [] (by simp)

/-- Two items change places when the second is less than the first. -/
theorem insertionSort_pair (order : α → α → Ordering) (a b : α) :
    insertionSort order [a, b] = if order b a = .lt then [b, a] else [a, b] := by
  rw [insertionSort, insertAll_cons, insertAll_cons]
  simp only [insertAll, List.reverse_nil, insertDescending, List.reverse_singleton, List.foldl_nil,
    List.reverse_reverse]
  split <;> rfl

end CardQuery
