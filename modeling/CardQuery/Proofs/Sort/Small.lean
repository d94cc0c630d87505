/-
**Sorting a few items.**

Merging from the front keeps to a cut through both lists: what is taken is not after what is left, and
items of the right list come first only where they are less.  Merging from the back keeps to such a cut
too.  There is one cut for each number of items in front of it, so that both ends meet and what they
have taken is what a merge from the front takes.

Main definitions:

* `IsCut` — a cut through two lists.

Main results:

* `sorts_mergeFront` — **merging from the front sorts**;
* `IsCut.le` — **there is one cut** for each number of items in front of it;
* `mergeFromEnds?_perm`, `mergeFromEnds?_eq` — **merging from both ends** only rearranges, and does what
  merging from the front does when the order is a total preorder;
* `smallSort?_perm`, `smallSort?_sorts` — so does the sort of a few items.
-/

import CardQuery.Proofs.Sort.Insertion

set_option autoImplicit false

namespace CardQuery

variable {α : Type} {order : α → α → Ordering}

/-! ### Merging from the front -/

section Front

variable {l r : List α}

theorem mergeFront_nil_left (r : List α) : mergeFront order [] r = r := List.nil_merge r

theorem mergeFront_nil_right (l : List α) : mergeFront order l [] = l := List.merge_right l

theorem mergeFront_left {a b : α} (h : order b a ≠ .lt) (l r : List α) :
    mergeFront order (a :: l) (b :: r) = a :: mergeFront order l (b :: r) :=
  List.cons_merge_cons_pos _ _ _ (by simpa using h)

theorem mergeFront_right {a b : α} (h : order b a = .lt) (l r : List α) :
    mergeFront order (a :: l) (b :: r) = b :: mergeFront order (a :: l) r :=
  List.cons_merge_cons_neg _ _ _ (by simp [h])

theorem mergeFront_perm (order : α → α → Ordering) (l r : List α) :
    (mergeFront order l r).Perm (l ++ r) := List.merge_perm_append _

/-- An item of the right list that is less than the first of the left is less than all of them. -/
theorem lt_of_lt_head {a b : α} (h : IsPreorderOn order (a :: l ++ b :: r))
    (hl : Ascends order (a :: l)) (hlt : order b a = .lt) : ∀ x ∈ a :: l, order b x = .lt := by
  intro x hx
  rcases List.mem_cons.1 hx with rfl | hmem
  · exact hlt
  · have hax : order x a ≠ .lt :=
      (h.ne_gt_iff (by simp [hmem]) (by simp)).1 ((List.pairwise_cons.1 hl).1 x hmem)
    exact h.lt_of_lt_of_ne_lt (by simp) (by simp) (by simp [hmem]) hlt hax

/-- An item of the left list that the first of the right is not less than comes before all of them. -/
theorem ne_lt_of_ne_lt_head {a b : α} (h : IsPreorderOn order (a :: l ++ b :: r))
    (hr : Ascends order (b :: r)) (hge : order b a ≠ .lt) : ∀ y ∈ b :: r, order y a ≠ .lt := by
  intro y hy
  rcases List.mem_cons.1 hy with rfl | hmem
  · exact hge
  · have hby : order y b ≠ .lt :=
      (h.ne_gt_iff (by simp [hmem]) (by simp)).1 ((List.pairwise_cons.1 hr).1 y hmem)
    exact h.ne_lt_trans (by simp) (by simp) (by simp [hmem]) hge hby

/-- Items of which none is less than another come from the left list first. -/
theorem filter_mergeFront (h : IsPreorderOn order (l ++ r)) (hl : Ascends order l) {p : α → Bool}
    (hp : NoneLess order (l ++ r) p) : (mergeFront order l r).filter p = (l ++ r).filter p := by
  induction l generalizing r with
  | nil => rw [mergeFront_nil_left, List.nil_append]
  | cons a l ihl =>
      induction r with
      | nil => rw [mergeFront_nil_right, List.append_nil]
      | cons b r ihr =>
          by_cases hlt : order b a = .lt
          · have hsubset : a :: l ++ r ⊆ a :: l ++ b :: r :=
              ((List.sublist_cons_self b r).append_left (a :: l)).subset
            rw [mergeFront_right hlt, List.filter_cons, ihr (h.mono hsubset) (hp.mono hsubset)]
            split
            · next hb =>
              -- no item of the left list passes the test with one that is less than all of them
              have hnone : (a :: l).filter p = [] := by
                rw [List.filter_eq_nil_iff]
                exact fun x hx hpx => hp b (by simp) x (List.mem_append_left _ hx) hb hpx
                  (lt_of_lt_head h hl hlt x hx)
              rw [List.filter_append, List.filter_append, hnone, List.nil_append, List.nil_append,
                List.filter_cons_of_pos hb]
            · next hb => rw [List.filter_append, List.filter_append, List.filter_cons_of_neg hb]
          · have hsubset : l ++ b :: r ⊆ a :: l ++ b :: r := List.subset_cons_self a _
            rw [mergeFront_left hlt, List.filter_cons,
              ihl (h.mono hsubset) (List.pairwise_cons.1 hl).2 (hp.mono hsubset), List.cons_append,
              List.filter_cons]

theorem ascends_mergeFront (h : IsPreorderOn order (l ++ r)) (hl : Ascends order l)
    (hr : Ascends order r) : Ascends order (mergeFront order l r) := by
  induction l generalizing r with
  | nil => rwa [mergeFront_nil_left]
  | cons a l ihl =>
      induction r with
      | nil => rwa [mergeFront_nil_right]
      | cons b r ihr =>
          by_cases hlt : order b a = .lt
          · have hsubset : a :: l ++ r ⊆ a :: l ++ b :: r :=
              ((List.sublist_cons_self b r).append_left (a :: l)).subset
            obtain ⟨hfirst, hrest⟩ := List.pairwise_cons.1 hr
            rw [mergeFront_right hlt]
            refine List.pairwise_cons.2 ⟨fun x hx => ?_, ihr (h.mono hsubset) hrest⟩
            rcases List.mem_append.1 ((mergeFront_perm order _ _).subset hx) with hx | hx
            · exact IsPreorderOn.ne_gt_of_lt (lt_of_lt_head h hl hlt x hx)
            · exact hfirst x hx
          · obtain ⟨hfirst, hrest⟩ := List.pairwise_cons.1 hl
            rw [mergeFront_left hlt]
            refine List.pairwise_cons.2
              ⟨fun x hx => ?_, ihl (h.mono (List.subset_cons_self a _)) hrest hr⟩
            rcases List.mem_append.1 ((mergeFront_perm order _ _).subset hx) with hx | hx
            · exact hfirst x hx
            · exact (h.ne_gt_iff (List.mem_append_right _ hx) (by simp)).2
                (ne_lt_of_ne_lt_head h hr hlt x hx)

/-- **Merging from the front sorts** two lists in ascending order. -/
theorem sorts_mergeFront (h : IsPreorderOn order (l ++ r)) (hl : Ascends order l)
    (hr : Ascends order r) : Sorts order (l ++ r) (mergeFront order l r) :=
  ⟨⟨mergeFront_perm order l r, fun _ hp => filter_mergeFront h hl hp⟩, ascends_mergeFront h hl hr⟩

end Front

/-! ### Cuts -/

/-- A cut through two lists: the items in front of it are not after those behind it, and those of the
right list in front of it are less than those of the left list behind it. -/
structure IsCut (order : α → α → Ordering) (l r l' r' : List α) : Prop where
  left : ∀ x ∈ l, ∀ y ∈ r', order y x ≠ .lt
  right : ∀ y ∈ r, ∀ x ∈ l', order y x = .lt

namespace IsCut

variable {l r l' r' : List α}

/-- A cut stays one when items in front of it are left out. -/
theorem mono {m n : List α} (h : IsCut order l r l' r') (hl : m ⊆ l) (hr : n ⊆ r) :
    IsCut order m n l' r' :=
  ⟨fun x hx => h.left x (hl hx), fun y hy => h.right y (hr hy)⟩

theorem tail_left {a : α} (h : IsCut order (a :: l) r l' r') : IsCut order l r l' r' :=
  h.mono (List.subset_cons_self a l) (List.Subset.refl r)

theorem tail_right {b : α} (h : IsCut order l (b :: r) l' r') : IsCut order l r l' r' :=
  h.mono (List.Subset.refl l) (List.subset_cons_self b r)

/-- What is in front of a cut and what is behind it are merged on their own. -/
theorem mergeFront_append (h : IsCut order l r l' r') :
    mergeFront order (l ++ l') (r ++ r') = mergeFront order l r ++ mergeFront order l' r' := by
  induction l generalizing r with
  | nil =>
      rw [mergeFront_nil_left, List.nil_append]
      induction r with
      | nil => rfl
      | cons b r ih =>
          rw [List.cons_append, List.cons_append, ← ih h.tail_right]
          cases l' with
          | nil => rw [mergeFront_nil_left, mergeFront_nil_left]
          | cons a l' => exact mergeFront_right (h.right b (by simp) a (by simp)) _ _
  | cons a l ihl =>
      induction r with
      | nil =>
          rw [mergeFront_nil_right, List.nil_append]
          cases r' with
          | nil => rw [mergeFront_nil_right, mergeFront_nil_right]
          | cons b r' =>
              have hrest := ihl h.tail_left
              rw [mergeFront_nil_right, List.nil_append] at hrest
              rw [List.cons_append, List.cons_append, ← hrest]
              exact mergeFront_left (h.left a (by simp) b (by simp)) _ _
      | cons b r ihr =>
          rw [List.cons_append, List.cons_append]
          by_cases hlt : order b a = .lt
          · rw [mergeFront_right hlt, mergeFront_right hlt, List.cons_append, ← ihr h.tail_right,
              List.cons_append]
          · rw [mergeFront_left hlt, mergeFront_left hlt, List.cons_append, ← ihl h.tail_left,
              List.cons_append]

/-- Two ways to cut a list: what is between the cuts. -/
theorem exists_between {l l' m m' : List α} (h : l ++ l' = m ++ m') (hlength : l.length ≤ m.length) :
    ∃ k, m = l ++ k ∧ l' = k ++ m' := by
  rcases List.append_eq_append_iff.1 h with ⟨k, hm, hl'⟩ | ⟨k, rfl, rfl⟩
  · exact ⟨k, hm, hl'⟩
  · have hk : k = [] := List.eq_nil_of_length_eq_zero (by rw [List.length_append] at hlength; omega)
    exact ⟨[], by simp [hk], by simp [hk]⟩

/-- If the first piece is longer in the second way, an item is in it that is behind the cut in the first
way. -/
theorem exists_mem_of_length_lt {l l' m m' : List α} (h : l ++ l' = m ++ m')
    (hlength : l.length < m.length) : ∃ x ∈ m, x ∈ l' := by
  obtain ⟨k, rfl, rfl⟩ := exists_between h (Nat.le_of_lt hlength)
  cases k with
  | nil => simp at hlength
  | cons x k => exact ⟨x, by simp, by simp⟩

/-- **Cuts do not cross**: with at least as many items in front of it, a cut is not further to the front
in either list. -/
theorem le {m n m' n' : List α} (h : IsCut order l r l' r') (h' : IsCut order m n m' n')
    (hl : l ++ l' = m ++ m') (hr : r ++ r' = n ++ n')
    (hlength : l.length + r.length ≤ m.length + n.length) :
    l.length ≤ m.length ∧ r.length ≤ n.length := by
  constructor
  · by_contra hlong
    obtain ⟨x, hx, hx'⟩ := exists_mem_of_length_lt hl.symm (by omega)
    obtain ⟨y, hy, hy'⟩ := exists_mem_of_length_lt hr (by omega)
    exact h.left x hx y hy' (h'.right y hy x hx')
  · by_contra hlong
    obtain ⟨x, hx, hx'⟩ := exists_mem_of_length_lt hl (by omega)
    obtain ⟨y, hy, hy'⟩ := exists_mem_of_length_lt hr.symm (by omega)
    exact h'.left x hx y hy' (h.right y hy x hx')

end IsCut

/-! ### Steps from one end -/

section Steps

variable {takesLeft : α → α → Bool}

theorem takeSteps_induction {motive : Nat → List α → List α → Merging α → Prop}
    (stop : ∀ k l r, (k = 0 ∨ l = [] ∨ r = []) → motive k l r ⟨[], l, r⟩)
    (left : ∀ k a b l r m, takesLeft a b = true → motive k l (b :: r) m →
      motive (k + 1) (a :: l) (b :: r) { m with taken := a :: m.taken })
    (right : ∀ k a b l r m, takesLeft a b = false → motive k (a :: l) r m →
      motive (k + 1) (a :: l) (b :: r) { m with taken := b :: m.taken })
    (k : Nat) (l r : List α) : motive k l r (takeSteps takesLeft k l r) := by
  induction k generalizing l r with
  | zero => exact stop 0 l r (Or.inl rfl)
  | succ k ih =>
      cases l with
      | nil => exact stop _ _ _ (Or.inr (Or.inl rfl))
      | cons a l =>
          cases r with
          | nil => exact stop _ _ _ (Or.inr (Or.inr rfl))
          | cons b r =>
              rw [takeSteps]
              split
              · next h => exact left k a b l r _ h (ih l (b :: r))
              · next h => exact right k a b l r _ (by simpa using h) (ih (a :: l) r)

theorem length_taken (takesLeft : α → α → Bool) {k : Nat} {l r : List α} (hl : k ≤ l.length)
    (hr : k ≤ r.length) : (takeSteps takesLeft k l r).taken.length = k := by
  refine takeSteps_induction (motive := fun k l r m => k ≤ l.length → k ≤ r.length →
    m.taken.length = k) ?_ ?_ ?_ k l r hl hr
  · rintro k l r (rfl | rfl | rfl) hl hr
    · rfl
    · exact (Nat.le_zero.1 hl).symm
    · exact (Nat.le_zero.1 hr).symm
  · intro k a b l r m _ ih hl hr
    simp only [List.length_cons] at hl hr ⊢
    rw [ih (by omega) (by simp; omega)]
  · intro k a b l r m _ ih hl hr
    simp only [List.length_cons] at hl hr ⊢
    rw [ih (by simp; omega) (by omega)]

/-- The items taken are those that are missing from the two lists. -/
theorem exists_takeSteps (takesLeft : α → α → Bool) (k : Nat) (l r : List α) :
    ∃ l' r', l = l' ++ (takeSteps takesLeft k l r).left ∧
      r = r' ++ (takeSteps takesLeft k l r).right ∧
      (takeSteps takesLeft k l r).taken.Perm (l' ++ r') := by
  refine takeSteps_induction (motive := fun _ l r m => ∃ l' r', l = l' ++ m.left ∧ r = r' ++ m.right ∧
    m.taken.Perm (l' ++ r')) ?_ ?_ ?_ k l r
  · exact fun _ l r _ => ⟨[], [], rfl, rfl, .refl _⟩
  · rintro k a b l r m - ⟨l', r', rfl, hr, hperm⟩
    exact ⟨a :: l', r', rfl, hr, hperm.cons a⟩
  · rintro k a b l r m - ⟨l', r', hl, rfl, hperm⟩
    exact ⟨l', b :: r', hl, rfl, (hperm.cons b).trans List.perm_middle.symm⟩

end Steps

/-! ### Merging from both ends -/

section Ends

variable {l r : List α} {a b : α}

theorem mergeFront_cons_left (h : ∀ y ∈ r, order y a ≠ .lt) :
    mergeFront order (a :: l) r = a :: mergeFront order l r := by
  have hcut : IsCut order [a] [] l r := ⟨by simpa using h, by simp⟩
  simpa [mergeFront_nil_right] using hcut.mergeFront_append

theorem mergeFront_cons_right (h : ∀ x ∈ l, order b x = .lt) :
    mergeFront order l (b :: r) = b :: mergeFront order l r := by
  have hcut : IsCut order [] [b] l r := ⟨by simp, by simpa using h⟩
  simpa [mergeFront_nil_left] using hcut.mergeFront_append

theorem mergeFront_concat_left (h : ∀ y ∈ r, order y a = .lt) :
    mergeFront order (l ++ [a]) r = mergeFront order l r ++ [a] := by
  have hcut : IsCut order l r [a] [] := ⟨by simp, by simpa using h⟩
  simpa [mergeFront_nil_right] using hcut.mergeFront_append

theorem mergeFront_concat_right (h : ∀ x ∈ l, order b x ≠ .lt) :
    mergeFront order l (r ++ [b]) = mergeFront order l r ++ [b] := by
  have hcut : IsCut order l r [] [b] := ⟨by simpa using h, by simp⟩
  simpa [mergeFront_nil_left] using hcut.mergeFront_append

/-- The steps from the front keep to a cut, and do what merging does. -/
theorem exists_cut_front (k : Nat) (h : IsPreorderOn order (l ++ r)) (hl : Ascends order l)
    (hr : Ascends order r) : ∃ l' r',
      let m := takeSteps (fun a b => order b a != .lt) k l r
      l = l' ++ m.left ∧ r = r' ++ m.right ∧ m.taken = mergeFront order l' r' ∧
        IsCut order l' r' m.left m.right := by
  refine takeSteps_induction (motive := fun _ l r m => IsPreorderOn order (l ++ r) →
    Ascends order l → Ascends order r → ∃ l' r', l = l' ++ m.left ∧ r = r' ++ m.right ∧
      m.taken = mergeFront order l' r' ∧ IsCut order l' r' m.left m.right) ?_ ?_ ?_ k l r h hl hr
  · exact fun _ l r _ _ _ _ => ⟨[], [], rfl, rfl, (mergeFront_nil_left _).symm, by simp, by simp⟩
  · intro k a b l r m hge ih h hl hr
    rw [bne_iff_ne] at hge
    have hall := ne_lt_of_ne_lt_head h hr hge
    obtain ⟨l', r', rfl, hr', htaken, hcut⟩ :=
      ih (h.mono (List.subset_cons_self a _)) (List.pairwise_cons.1 hl).2 hr
    simp only [hr', List.mem_append] at hall
    refine ⟨a :: l', r', rfl, hr', ?_, fun x hx y hy => ?_, hcut.right⟩
    · rw [mergeFront_cons_left fun y hy => hall y (Or.inl hy), htaken]
    · rcases List.mem_cons.1 hx with rfl | hx
      · exact hall y (Or.inr hy)
      · exact hcut.left x hx y hy
  · intro k a b l r m hlt ih h hl hr
    rw [bne_eq_false_iff_eq] at hlt
    have hall := lt_of_lt_head h hl hlt
    have hsubset := ((List.sublist_cons_self b r).append_left (a :: l)).subset
    obtain ⟨l', r', hl', rfl, htaken, hcut⟩ := ih (h.mono hsubset) hl (List.pairwise_cons.1 hr).2
    simp only [hl', List.mem_append] at hall
    refine ⟨l', b :: r', hl', rfl, ?_, hcut.left, fun y hy x hx => ?_⟩
    · rw [mergeFront_cons_right fun x hx => hall x (Or.inl hx), htaken]
    · rcases List.mem_cons.1 hy with rfl | hy
      · exact hall x (Or.inr hx)
      · exact hcut.right y hy x hx

/-- Items of the right list are less than one that the last of them is less than. -/
theorem lt_of_last_lt (h : IsPreorderOn order (a :: l ++ b :: r)) (hr : Ascends order (b :: r).reverse)
    (hlt : order b a = .lt) : ∀ y ∈ b :: r, order y a = .lt := by
  intro y hy
  rcases List.mem_cons.1 hy with rfl | hmem
  · exact hlt
  · have hyb : order b y ≠ .lt := (h.ne_gt_iff (by simp) (by simp [hmem])).1
      ((List.pairwise_cons.1 (List.pairwise_reverse.1 hr)).1 y hmem)
    exact h.lt_of_ne_lt_of_lt (by simp [hmem]) (by simp) (by simp) hyb hlt

/-- Items of the left list come before one that is not less than the last of them. -/
theorem ne_lt_of_last_ne_lt (h : IsPreorderOn order (a :: l ++ b :: r))
    (hl : Ascends order (a :: l).reverse) (hge : order b a ≠ .lt) : ∀ x ∈ a :: l, order b x ≠ .lt := by
  intro x hx
  rcases List.mem_cons.1 hx with rfl | hmem
  · exact hge
  · have hxa : order a x ≠ .lt := (h.ne_gt_iff (by simp) (by simp [hmem])).1
      ((List.pairwise_cons.1 (List.pairwise_reverse.1 hl)).1 x hmem)
    exact h.ne_lt_trans (by simp [hmem]) (by simp) (by simp) hxa hge

/-- So do the steps from the back, where the lists are turned round. -/
theorem exists_cut_back (k : Nat) (h : IsPreorderOn order (l ++ r)) (hl : Ascends order l.reverse)
    (hr : Ascends order r.reverse) : ∃ l' r',
      let m := takeSteps (fun a b => order b a == .lt) k l r
      l.reverse = m.left.reverse ++ l' ∧ r.reverse = m.right.reverse ++ r' ∧
        m.taken.reverse = mergeFront order l' r' ∧
        IsCut order m.left.reverse m.right.reverse l' r' := by
  refine takeSteps_induction (motive := fun _ l r m => IsPreorderOn order (l ++ r) →
    Ascends order l.reverse → Ascends order r.reverse → ∃ l' r', l.reverse = m.left.reverse ++ l' ∧
      r.reverse = m.right.reverse ++ r' ∧ m.taken.reverse = mergeFront order l' r' ∧
      IsCut order m.left.reverse m.right.reverse l' r') ?_ ?_ ?_ k l r h hl hr
  · exact fun _ l r _ _ _ _ => ⟨[], [], by simp, by simp, (mergeFront_nil_left _).symm, by simp, by simp⟩
  · intro k a b l r m hlt ih h hl hr
    rw [beq_iff_eq] at hlt
    have hall := lt_of_last_lt h hr hlt
    rw [List.reverse_cons] at hl
    obtain ⟨l', r', hl', hr', htaken, hcut⟩ := ih (h.mono (List.subset_cons_self a _))
      (List.pairwise_append.1 hl).1 hr
    simp only [← @List.mem_reverse _ _ (b :: r), hr', List.mem_append] at hall
    refine ⟨l' ++ [a], r', ?_, hr', ?_, hcut.left, fun y hy x hx => ?_⟩
    · rw [List.reverse_cons, hl', List.append_assoc]
    · rw [List.reverse_cons, mergeFront_concat_left fun y hy => hall y (Or.inr hy), htaken]
    · rcases List.mem_append.1 hx with hx | hx
      · exact hcut.right y hy x hx
      · rw [List.mem_singleton.1 hx]
        exact hall y (Or.inl hy)
  · intro k a b l r m hge ih h hl hr
    rw [beq_eq_false_iff_ne] at hge
    have hall := ne_lt_of_last_ne_lt h hl hge
    have hsubset := ((List.sublist_cons_self b r).append_left (a :: l)).subset
    rw [List.reverse_cons] at hr
    obtain ⟨l', r', hl', hr', htaken, hcut⟩ := ih (h.mono hsubset) hl (List.pairwise_append.1 hr).1
    simp only [← @List.mem_reverse _ _ (a :: l), hl', List.mem_append] at hall
    refine ⟨l', r' ++ [b], hl', ?_, ?_, fun x hx y hy => ?_, hcut.right⟩
    · rw [List.reverse_cons, hr', List.append_assoc]
    · rw [List.reverse_cons, mergeFront_concat_right fun x hx => hall x (Or.inr hx), htaken]
    · rcases List.mem_append.1 hy with hy | hy
      · exact hcut.left x hx y hy
      · rw [List.mem_singleton.1 hy]
        exact hall x (Or.inl hx)

/-- The items taken are still those that are missing when the item left over is taken. -/
theorem exists_takeLast {m : Merging α} {l' r' : List α} (isOdd fromLeft : Bool)
    (hl : l = l' ++ m.left) (hr : r = r' ++ m.right) (hperm : m.taken.Perm (l' ++ r')) :
    ∃ l' r', l = l' ++ (m.takeLast isOdd fromLeft).left ∧
      r = r' ++ (m.takeLast isOdd fromLeft).right ∧
      (m.takeLast isOdd fromLeft).taken.Perm (l' ++ r') := by
  cases isOdd with
  | false => exact ⟨l', r', hl, hr, hperm⟩
  | true =>
      cases fromLeft with
      | true =>
          refine ⟨l' ++ m.left.take 1, r', ?_, hr, ?_⟩
          · rw [hl, List.append_assoc]
            exact congrArg _ (List.take_append_drop 1 m.left).symm
          · refine (hperm.append_right _).trans ?_
            rw [List.append_assoc, List.append_assoc]
            exact List.perm_append_comm.append_left l'
      | false =>
          refine ⟨l', r' ++ m.right.take 1, hl, ?_, ?_⟩
          · rw [hr, List.append_assoc]
            exact congrArg _ (List.take_append_drop 1 m.right).symm
          · rw [← List.append_assoc]
            exact hperm.append_right _

/-- The item left over is the one that the front has left and the back has not taken. -/
theorem takeLast_between {k k' : List α} {isOdd fromLeft : Bool} (taken l r : List α)
    (hfew : k.length + k'.length = isOdd.toNat) (hside : fromLeft = true ↔ k ≠ []) :
    (⟨taken, k ++ l, k' ++ r⟩ : Merging α).takeLast isOdd fromLeft = ⟨taken ++ (k ++ k'), l, r⟩ := by
  cases isOdd with
  | false =>
      obtain ⟨hk, hk'⟩ := Nat.add_eq_zero_iff.1 hfew
      rw [List.eq_nil_of_length_eq_zero hk, List.eq_nil_of_length_eq_zero hk', List.append_nil,
        List.append_nil]
      rfl
  | true =>
      rcases Nat.add_eq_one_iff.1 hfew with ⟨hk, hk'⟩ | ⟨hk, hk'⟩
      · obtain rfl := List.eq_nil_of_length_eq_zero hk
        obtain ⟨y, rfl⟩ := List.length_eq_one_iff.1 hk'
        have hright : fromLeft = false := by simpa using hside
        rw [hright]
        rfl
      · obtain ⟨x, rfl⟩ := List.length_eq_one_iff.1 hk
        obtain rfl := List.eq_nil_of_length_eq_zero hk'
        have hleft : fromLeft = true := by simpa using hside
        rw [hleft]
        rfl

/-- Of one item nothing is merged. -/
theorem mergeFront_eq_append {k k' : List α} (h : k.length + k'.length ≤ 1) :
    mergeFront order k k' = k ++ k' := by
  cases k with
  | nil => exact mergeFront_nil_left k'
  | cons x k =>
      have hk' : k' = [] := by
        refine List.eq_nil_of_length_eq_zero ?_
        rw [List.length_cons] at h
        omega
      rw [hk', mergeFront_nil_right, List.append_nil]

/-- What the front has left of a list is what the back has taken of it, if their numbers fit. -/
theorem eq_reverse_of_meet {items taken left taken' left' : List α} (h : items = taken ++ left)
    (h' : items.reverse = taken' ++ left') (hmeet : left.length + left'.length = items.length) :
    left = taken'.reverse := by
  have heq : taken ++ left = left'.reverse ++ taken'.reverse := by
    rw [← h, ← List.reverse_append, ← h', List.reverse_reverse]
  refine (List.append_inj' heq ?_).2
  have hlength := congrArg List.length h'
  simp only [List.length_append, List.length_reverse] at hlength ⊢
  omega

/-- The items merged from both ends are those of the two lists, whatever the order. -/
theorem mergeFromEnds?_perm {merged : List α} (h : mergeFromEnds? order l r = some merged) :
    merged.Perm (l ++ r) := by
  obtain ⟨_, _, hl₁, hr₁, hfront⟩ :=
    exists_takeSteps (fun a b => order b a != .lt) l.length l r
  obtain ⟨l₂, r₂, hl₂, hr₂, hback⟩ :=
    exists_takeSteps (fun a b => order b a == .lt) l.length l.reverse r.reverse
  simp only [mergeFromEnds?] at h
  generalize takeSteps (fun a b => order b a != .lt) l.length l r = front at *
  generalize takeSteps (fun a b => order b a == .lt) l.length l.reverse r.reverse = back at *
  obtain ⟨l₁, r₁, hl₁, hr₁, hfront⟩ := exists_takeLast (l.length < r.length)
    (l.length < front.left.length + back.left.length) hl₁ hr₁ hfront
  generalize front.takeLast _ _ = front at *
  split at h
  · next hmeet =>
    cases h
    -- the items left at the front are those that the back has taken
    have hends := (hfront.append ((List.reverse_perm _).trans hback))
    have hl := eq_reverse_of_meet hl₁ hl₂ hmeet.1
    have hr := eq_reverse_of_meet hr₁ hr₂ hmeet.2
    refine hends.trans ?_
    rw [hl₁, hr₁, hl, hr, List.append_assoc, List.append_assoc]
    refine List.Perm.append_left l₁ (List.perm_append_comm.trans ?_)
    rw [List.append_assoc]
    refine (List.reverse_perm l₂).symm.append (List.perm_append_comm.trans ?_)
    exact (List.reverse_perm r₂).symm.append_left r₁
  · contradiction

/-- **Merging from both ends does what merging from the front does** when the order is a total preorder
and the right list is as long as the left one or longer by one. -/
theorem mergeFromEnds?_eq (h : IsPreorderOn order (l ++ r)) (hl : Ascends order l)
    (hr : Ascends order r) (hle : l.length ≤ r.length) (hlt : r.length ≤ l.length + 1) :
    mergeFromEnds? order l r = some (mergeFront order l r) := by
  obtain ⟨l₁, r₁, hl₁, hr₁, htaken₁, hcut₁⟩ := exists_cut_front l.length h hl hr
  have hback : IsPreorderOn order (l.reverse ++ r.reverse) :=
    h.of_perm ((List.reverse_perm l).append (List.reverse_perm r))
  obtain ⟨l₂, r₂, hl₂, hr₂, htaken₂, hcut₂⟩ := exists_cut_back l.length hback
    (by rwa [List.reverse_reverse]) (by rwa [List.reverse_reverse])
  have hsteps₁ := length_taken (fun a b => order b a != .lt) (Nat.le_refl l.length) hle
  have hsteps₂ := length_taken (fun a b => order b a == .lt) (l := l.reverse)
    (r := r.reverse) (Nat.le_of_eq List.length_reverse.symm) (by simpa using hle)
  simp only [mergeFromEnds?]
  generalize takeSteps (fun a b => order b a != .lt) l.length l r = front at *
  generalize takeSteps (fun a b => order b a == .lt) l.length l.reverse r.reverse = back at *
  simp only [List.reverse_reverse] at hl₂ hr₂
  rw [htaken₁, (mergeFront_perm order l₁ r₁).length_eq, List.length_append] at hsteps₁
  rw [← List.length_reverse, htaken₂, (mergeFront_perm order l₂ r₂).length_eq, List.length_append]
    at hsteps₂
  have hlengths := congrArg List.length hl₂
  have hlengths' := congrArg List.length hr₂
  simp only [List.length_append, List.length_reverse] at hlengths hlengths'
  -- the cut of the back is not in front of that of the front: at most one item is between them
  obtain ⟨hlefts, hrights⟩ := hcut₁.le hcut₂ (hl₁.symm.trans hl₂) (hr₁.symm.trans hr₂) (by
    simp only [List.length_reverse]
    omega)
  obtain ⟨k, hk, hleft⟩ := IsCut.exists_between (hl₁.symm.trans hl₂) hlefts
  obtain ⟨k', hk', hright⟩ := IsCut.exists_between (hr₁.symm.trans hr₂) hrights
  have hbetween := congrArg List.length hk
  have hbetween' := congrArg List.length hk'
  have hrest := congrArg List.length hleft
  have hrest' := congrArg List.length hright
  simp only [List.length_append, List.length_reverse] at hbetween hbetween' hrest hrest'
  have hfew : k.length + k'.length = r.length - l.length := by omega
  -- what is between them comes behind what the front has taken, and before what the back has
  have hmerge := hcut₁.mergeFront_append
  have hcut : IsCut order k k' l₂ r₂ := hcut₂.mono (by simp [hk]) (by simp [hk'])
  have hmiddle : mergeFront order k k' = k ++ k' := mergeFront_eq_append (by omega)
  rw [← hl₁, ← hr₁, ← htaken₁, hleft, hright, hcut.mergeFront_append, hmiddle,
    ← List.append_assoc] at hmerge
  have hfront : front = ⟨front.taken, k ++ l₂, k' ++ r₂⟩ := by rw [← hleft, ← hright]
  have hlast : front.takeLast (l.length < r.length)
      (l.length < front.left.length + back.left.length) = ⟨front.taken ++ (k ++ k'), l₂, r₂⟩ := by
    rw [hfront]
    refine takeLast_between front.taken l₂ r₂ ?_ ?_
    · by_cases hodd : l.length < r.length
      · rw [decide_eq_true hodd, Bool.toNat_true]
        omega
      · rw [decide_eq_false hodd, Bool.toNat_false]
        omega
    · rw [decide_eq_true_iff, ← List.length_pos_iff, List.length_append]
      omega
  rw [hlast, htaken₂, ← hmerge, if_pos]
  simp only
  omega

end Ends

/-! ### Small sorts -/

section Few

variable {a b c d : α}

theorem mergePairs_perm (order : α → α → Ordering) (a b c d : α) :
    (mergePairs order a b c d).Perm [a, b, c, d] := by
  have hmiddle {w x y z : α} (h : [w, x, y, z].Perm [a, b, c, d]) :
      (if order y x = .lt then [w, y, x, z] else [w, x, y, z]).Perm [a, b, c, d] := by
    split
    · exact ((List.Perm.swap x y [z]).cons w).trans h
    · exact h
  have hlast : [c, d, b].Perm [b, c, d] :=
    show ([c, d] ++ [b]).Perm ([b] ++ [c, d]) from List.perm_append_comm
  have hfirst : [c, a, b].Perm [a, b, c] :=
    show ([c] ++ [a, b]).Perm ([a, b] ++ [c]) from List.perm_append_comm
  simp only [mergePairs]
  by_cases hca : order c a = .lt
  · by_cases hdb : order d b = .lt
    · simp only [hca, hdb, if_true]
      exact hmiddle ((List.Perm.swap a c [d, b]).trans (hlast.cons a))
    · simp only [hca, hdb, if_true, if_false]
      exact hmiddle (hfirst.append_right [d])
  · by_cases hdb : order d b = .lt
    · simp only [hca, hdb, if_true, if_false]
      exact hmiddle (hlast.cons a)
    · simp only [hca, hdb, if_false]
      exact hmiddle (.refl _)

/-- The pairs are merged as from the front. -/
theorem mergePairs_eq (h : IsPreorderOn order [a, b, c, d]) (hab : order b a ≠ .lt)
    (hcd : order d c ≠ .lt) : mergePairs order a b c d = mergeFront order [a, b] [c, d] := by
  simp only [mergePairs]
  by_cases hca : order c a = .lt
  · rw [mergeFront_right hca]
    by_cases hdb : order d b = .lt
    · by_cases hda : order d a = .lt
      · simp [hca, hdb, hda, mergeFront_right, mergeFront_nil_right]
      · simp [hca, hdb, hda, mergeFront_left, mergeFront_right, mergeFront_nil_right]
    · -- the right pair's last item is not less than either of the left pair
      have hda : order d a ≠ .lt := h.ne_lt_trans (by simp) (by simp) (by simp) hab hdb
      simp [hca, hdb, hda, hab, mergeFront_left, mergeFront_nil_left]
  · rw [mergeFront_left hca]
    by_cases hdb : order d b = .lt
    · have hcb : order c b = .lt := h.lt_of_ne_lt_of_lt (by simp) (by simp) (by simp) hcd hdb
      simp [hca, hdb, hcb, hcd, mergeFront_right, mergeFront_nil_right]
    · by_cases hcb : order c b = .lt
      · simp [hca, hdb, hcb, mergeFront_left, mergeFront_right, mergeFront_nil_left]
      · simp [hca, hdb, hcb, mergeFront_left, mergeFront_nil_left]

theorem insertionSort_pair_eq (order : α → α → Ordering) (a b : α) :
    insertionSort order [a, b] = [(sortTwo order a b).1, (sortTwo order a b).2] := by
  rw [insertionSort_pair, sortTwo]
  split <;> rfl

theorem sortFour_perm (order : α → α → Ordering) (a b c d : α) :
    (sortFour order a b c d).Perm [a, b, c, d] := by
  refine (mergePairs_perm order _ _ _ _).trans ?_
  have hpairs := (insertionSort_perm order [a, b]).append (insertionSort_perm order [c, d])
  rwa [insertionSort_pair_eq, insertionSort_pair_eq] at hpairs

/-- Four items are sorted when the order is a total preorder. -/
theorem sorts_sortFour (h : IsPreorderOn order [a, b, c, d]) :
    Sorts order [a, b, c, d] (sortFour order a b c d) := by
  have hleft : IsPreorderOn order [a, b] := h.mono (by simp)
  have hright : IsPreorderOn order [c, d] := h.mono (by simp)
  have hab := sorts_insertionSort hleft
  have hcd := sorts_insertionSort hright
  have hpairs := hab.toRearranges.append hcd.toRearranges
  have hmerge := sorts_mergeFront (h.of_perm hpairs.perm) hab.ascends hcd.ascends
  have heq : sortFour order a b c d =
      mergeFront order (insertionSort order [a, b]) (insertionSort order [c, d]) := by
    have hpre := h.of_perm hpairs.perm
    have hfirst := hab.ascends
    have hsecond := hcd.ascends
    rw [sortFour]
    rw [insertionSort_pair_eq, insertionSort_pair_eq] at hpre ⊢
    rw [insertionSort_pair_eq] at hfirst hsecond
    generalize sortTwo order a b = p at *
    generalize sortTwo order c d = q at *
    exact mergePairs_eq hpre
      ((hpre.ne_gt_iff (by simp) (by simp)).1 ((List.pairwise_cons.1 hfirst).1 _ (by simp)))
      ((hpre.ne_gt_iff (by simp) (by simp)).1 ((List.pairwise_cons.1 hsecond).1 _ (by simp)))
  rw [heq]
  exact ⟨hpairs.trans hmerge.toRearranges, hmerge.ascends⟩

variable {items result : List α}

/-- Two sorted halves are sorted when they are merged from both ends. -/
theorem mergeFromEnds?_sorts {l r l' r' : List α} (h : IsPreorderOn order (l ++ r))
    (hl : Sorts order l l') (hr : Sorts order r r') (hle : l.length ≤ r.length)
    (hlt : r.length ≤ l.length + 1) :
    ∃ merged, mergeFromEnds? order l' r' = some merged ∧ Sorts order (l ++ r) merged := by
  have hboth := hl.toRearranges.append hr.toRearranges
  have hpre := h.of_perm hboth.perm
  have hmerge := sorts_mergeFront hpre hl.ascends hr.ascends
  refine ⟨_, mergeFromEnds?_eq hpre hl.ascends hr.ascends ?_ ?_,
    hboth.trans hmerge.toRearranges, hmerge.ascends⟩
  · rwa [hl.perm.length_eq, hr.perm.length_eq]
  · rwa [hl.perm.length_eq, hr.perm.length_eq]

theorem sortFew?_perm (h : sortFew? order items = some result) : result.Perm items := by
  unfold sortFew? at h
  split at h
  · next a b c d =>
    cases h
    exact sortFour_perm order a b c d
  · next a b c d a' b' c' d' =>
    exact (mergeFromEnds?_perm h).trans
      ((sortFour_perm order a b c d).append (sortFour_perm order a' b' c' d'))
  · cases h
    exact .refl _

theorem sortFew?_sorts {length : Nat} (h : IsPreorderOn order items)
    (hlength : items.length = fewOf length) :
    ∃ result, sortFew? order items = some result ∧ Sorts order items result := by
  unfold sortFew?
  split
  · next a b c d => exact ⟨_, rfl, sorts_sortFour h⟩
  · next a b c d a' b' c' d' =>
    refine mergeFromEnds?_sorts (l := [a, b, c, d]) (r := [a', b', c', d']) h
      (sorts_sortFour (h.mono ?_)) (sorts_sortFour (h.mono ?_)) (Nat.le_refl 4) (Nat.le_succ 4)
    · exact List.subset_append_left [a, b, c, d] [a', b', c', d']
    · exact List.subset_append_right [a, b, c, d] [a', b', c', d']
  · next hfour height =>
    -- only a single item is left
    have hcases : items.length = 8 ∨ items.length = 4 ∨ items.length = 1 := by
      rw [hlength, fewOf]
      split
      · exact Or.inl rfl
      · split
        · exact Or.inr (Or.inl rfl)
        · exact Or.inr (Or.inr rfl)
    rcases hcases with h8 | h4 | h1
    · rcases items with _ | ⟨a, _ | ⟨b, _ | ⟨c, _ | ⟨d, _ | ⟨a', _ | ⟨b', _ | ⟨c', _ | ⟨d', rest⟩⟩⟩⟩⟩⟩⟩⟩
      all_goals simp at h8
      exact absurd (by rw [h8]) (height a b c d a' b' c' d')
    · rcases items with _ | ⟨a, _ | ⟨b, _ | ⟨c, _ | ⟨d, rest⟩⟩⟩⟩
      all_goals simp at h4
      exact absurd (by rw [h4]) (hfour a b c d)
    · obtain ⟨a, rfl⟩ := List.length_eq_one_iff.1 h1
      exact ⟨_, rfl, .refl _, List.pairwise_singleton _ _⟩

theorem sortHalf?_perm {length : Nat} (h : sortHalf? order length items = some result) :
    result.Perm items := by
  obtain ⟨few, hfew, rfl⟩ := Option.map_eq_some_iff.1 h
  refine (rearranges_insertAll order few _).perm.trans ?_
  have hperm := (sortFew?_perm hfew).append_right (items.drop (fewOf length))
  rwa [List.take_append_drop] at hperm

theorem sortHalf?_sorts (length : Nat) (h : IsPreorderOn order items)
    (hlength : fewOf length ≤ items.length) :
    ∃ result, sortHalf? order length items = some result ∧ Sorts order items result := by
  have hfits : (items.take (fewOf length)).length = fewOf length := by
    rw [List.length_take]
    omega
  obtain ⟨few, hfew, hsorts⟩ := sortFew?_sorts (h.mono (List.take_subset (fewOf length) items)) hfits
  have hrest := hsorts.toRearranges.append (.refl (items.drop (fewOf length)))
  rw [List.take_append_drop] at hrest
  have hall := sorts_insertAll (h.of_perm hrest.perm) hsorts.ascends
  exact ⟨_, by rw [sortHalf?, hfew, Option.map_some], hrest.trans hall.toRearranges, hall.ascends⟩

/-- A few items are rearranged, if there is a result. -/
theorem smallSort?_perm (h : smallSort? order items = some result) : result.Perm items := by
  unfold smallSort? at h
  split at h
  · cases h
    exact .refl _
  · obtain ⟨left, hleft, h⟩ := Option.bind_eq_some_iff.1 h
    obtain ⟨right, hright, h⟩ := Option.bind_eq_some_iff.1 h
    have hperm := (sortHalf?_perm hleft).append (sortHalf?_perm hright)
    rw [List.take_append_drop] at hperm
    exact (mergeFromEnds?_perm h).trans hperm

/-- **A few items are sorted** when the order is a total preorder. -/
theorem smallSort?_sorts (h : IsPreorderOn order items) :
    ∃ result, smallSort? order items = some result ∧ Sorts order items result := by
  unfold smallSort?
  split
  · next hshort =>
    refine ⟨items, rfl, .refl items, ?_⟩
    rcases items with _ | ⟨a, _ | ⟨b, rest⟩⟩
    · exact .nil
    · exact List.pairwise_singleton _ _
    · simp only [List.length_cons] at hshort
      omega
  · next hlong =>
    have hfew : fewOf items.length ≤ items.length / 2 := by
      unfold fewOf
      split
      · omega
      · split <;> omega
    obtain ⟨left, hleft, hsorted⟩ := sortHalf?_sorts items.length
      (h.mono (List.take_subset (items.length / 2) items)) (by simp; omega)
    obtain ⟨right, hright, hsorted'⟩ := sortHalf?_sorts items.length
      (h.mono (List.drop_subset (items.length / 2) items)) (by simp; omega)
    rw [← List.take_append_drop (items.length / 2) items] at h
    obtain ⟨merged, hmerged, hall⟩ := mergeFromEnds?_sorts h hsorted hsorted' (by simp; omega)
      (by simp; omega)
    rw [List.take_append_drop] at hall
    exact ⟨merged, by simp only [hleft, hright, Option.bind_eq_bind, Option.bind_some, hmerged], hall⟩

end Few

end CardQuery
