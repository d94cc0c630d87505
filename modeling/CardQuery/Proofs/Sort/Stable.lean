/-
**The stable sort sorts.**

A division at a pivot puts items before others that they are less than, so that two items of which
neither is less stay on one side, in the order in which they were.  For a total preorder the pivot has
a place, both sides are sorted by induction on the number of divisions that may follow, and the whole
sort gives the one stable sort; with any other order it rearranges the items, or gives up.

Main results:

* `choosePivot_lt` — the pivot is one of the items;
* `Sorts.of_division` — **sorting both sides of a division** sorts the items;
* `quickSort?_perm`, `quickSort?_sorts` — sorting by division;
* `stableSort?_perm`, `stableSort?_eq` — **the whole sort** rearranges, and does what insertion does
  when the order is a total preorder.
-/

import CardQuery.Proofs.Sort.Runs
import CardQuery.Sort.Stable

set_option autoImplicit false

namespace CardQuery

variable {α : Type} {order : α → α → Ordering}

/-! ### The pivot -/

theorem medianOfThree_lt (less : Nat → Nat → Bool) {i j k n : Nat} (hi : i < n) (hj : j < n)
    (hk : k < n) : medianOfThree less i j k < n := by
  unfold medianOfThree
  split
  · split
    · exact hk
    · exact hj
  · exact hi

/-- A median is found among the `width` items from one of the three places on. -/
theorem medianFrom_lt (less : Nat → Nat → Bool) {steps width i j k n : Nat} (hwidth : 0 < width)
    (hi : i + width ≤ n) (hj : j + width ≤ n) (hk : k + width ≤ n) :
    medianFrom less steps width i j k < n := by
  induction steps generalizing width i j k with
  | zero => exact medianOfThree_lt less (by omega) (by omega) (by omega)
  | succ steps ih =>
      rw [medianFrom]
      split
      · have hmedian {i : Nat} (hi : i + width ≤ n) :
            medianFrom less steps (width / 8) i (i + width / 8 * 4) (i + width / 8 * 7) < n :=
          ih (by omega) (by omega) (by omega) (by omega)
        exact medianOfThree_lt less (hmedian hi) (hmedian hj) (hmedian hk)
      · exact medianOfThree_lt less (by omega) (by omega) (by omega)

theorem choosePivot_lt (order : α → α → Ordering) {items : List α} (h : 8 ≤ items.length) :
    choosePivot order items < items.length :=
  medianFrom_lt _ (by omega) (by omega) (by omega) (by omega)

/-! ### Division -/

theorem IsPreorderOn.filter {items : List α} (h : IsPreorderOn order items) (p : α → Bool) :
    IsPreorderOn order (items.filter p) := h.mono fun _ => List.mem_of_mem_filter

theorem divide_perm (test : α → Bool) (pivotPasses : Bool) (before : List α) (pivot : α)
    (after : List α) : ((divide test pivotPasses before pivot after).1 ++
      (divide test pivotPasses before pivot after).2).Perm (before ++ pivot :: after) := by
  have hsides : (before.filter test ++ (after.filter test ++
      (before.filter (!test ·) ++ after.filter (!test ·)))).Perm (before ++ after) := by
    refine ((List.perm_append_comm_assoc _ _ _).append_left _).trans ?_
    rw [← List.append_assoc]
    exact (List.filter_append_perm test before).append (List.filter_append_perm test after)
  refine List.Perm.trans ?_ ((hsides.cons pivot).trans List.perm_middle.symm)
  cases pivotPasses with
  | false =>
      simp only [divide, Bool.false_eq_true, if_false, if_true, List.append_nil, List.append_assoc,
        List.cons_append, List.nil_append]
      refine (List.Perm.append_left _ ?_).trans List.perm_middle
      exact (List.perm_middle.append_left _).trans List.perm_middle
  | true =>
      simp only [divide, Bool.true_eq_false, if_false, if_true, List.append_nil, List.append_assoc,
        List.cons_append, List.nil_append]
      exact List.perm_middle

/-- With the pivot where the test says, a division is made by the test alone. -/
theorem divide_eq (test : α → Bool) {pivotPasses : Bool} {pivot : α} (h : test pivot = pivotPasses)
    (before after : List α) : divide test pivotPasses before pivot after =
      ((before ++ pivot :: after).filter test, (before ++ pivot :: after).filter (!test ·)) := by
  subst h
  cases hpivot : test pivot <;> simp [divide, hpivot]

section Division

variable {items : List α} {test : α → Bool}

theorem filter_and_of_forall {p : α → Bool} (h : ∀ b ∈ items, p b = true → test b = true) :
    items.filter (fun b => p b && test b) = items.filter p := by
  refine List.filter_congr fun b hb => ?_
  cases hpb : p b with
  | false => rfl
  | true => rw [h b hb hpb, Bool.and_self]

theorem filter_and_of_forall_not {p : α → Bool} (h : ∀ b ∈ items, p b = true → test b = false) :
    items.filter (fun b => p b && test b) = [] := by
  rw [List.filter_eq_nil_iff]
  intro b hb hboth
  rw [Bool.and_eq_true] at hboth
  rw [h b hb hboth.1] at hboth
  exact Bool.false_ne_true hboth.2

/-- Items that are on different sides are told apart, so that a division rearranges. -/
theorem rearranges_division
    (h : ∀ a ∈ items, ∀ b ∈ items, test a = true → test b = false → order a b = .lt) :
    Rearranges order items (items.filter test ++ items.filter (!test ·)) := by
  refine ⟨List.filter_append_perm test items, fun p hp => ?_⟩
  rw [List.filter_append, List.filter_filter, List.filter_filter]
  by_cases hpasses : ∃ a ∈ items, p a = true ∧ test a = true
  · -- all items that pass `p` pass the test
    obtain ⟨a, ha, hpa, htest⟩ := hpasses
    have hall : ∀ b ∈ items, p b = true → test b = true := by
      intro b hb hpb
      by_contra hfails
      exact hp a ha b hb hpa hpb (h a ha b hb htest (Bool.eq_false_iff.2 hfails))
    have hnone : items.filter (fun b => p b && !test b) = [] :=
      filter_and_of_forall_not fun b hb hpb => by rw [hall b hb hpb, Bool.not_true]
    rw [filter_and_of_forall hall, hnone, List.append_nil]
  · have hall : ∀ b ∈ items, p b = true → test b = false := fun b hb hpb =>
      Bool.eq_false_iff.2 fun htest => hpasses ⟨b, hb, hpb, htest⟩
    have hsame : items.filter (fun b => p b && !test b) = items.filter p :=
      filter_and_of_forall fun b hb hpb => by rw [hall b hb hpb, Bool.not_false]
    rw [filter_and_of_forall_not hall, hsame, List.nil_append]

/-- **Sorting both sides of a division** sorts the items. -/
theorem Sorts.of_division {left right : List α}
    (h : ∀ a ∈ items, ∀ b ∈ items, test a = true → test b = false → order a b = .lt)
    (hleft : Sorts order (items.filter test) left)
    (hright : Sorts order (items.filter (!test ·)) right) : Sorts order items (left ++ right) where
  toRearranges := (rearranges_division h).trans (hleft.toRearranges.append hright.toRearranges)
  ascends := by
    refine List.pairwise_append.2 ⟨hleft.ascends, hright.ascends, fun a ha b hb => ?_⟩
    obtain ⟨ha, htest⟩ := List.mem_filter.1 (hleft.perm.subset ha)
    obtain ⟨hb, hfails⟩ := List.mem_filter.1 (hright.perm.subset hb)
    exact IsPreorderOn.ne_gt_of_lt (h a ha b hb htest (by simpa using hfails))

section Pivot

variable {pivot : α} (h : IsPreorderOn order items) (hpivot : pivot ∈ items)

include h hpivot

/-- The items that are less than the pivot are less than the others. -/
theorem lt_of_below (a : α) (ha : a ∈ items) (b : α) (hb : b ∈ items)
    (hlt : (order a pivot == .lt) = true) (hge : (order b pivot == .lt) = false) : order a b = .lt :=
  h.lt_of_lt_of_ne_lt ha hpivot hb (beq_iff_eq.1 hlt) (beq_eq_false_iff_ne.1 hge)

/-- The items that the pivot is not less than are less than the others. -/
theorem lt_of_not_above (a : α) (ha : a ∈ items) (b : α) (hb : b ∈ items)
    (hle : (order pivot a != .lt) = true) (hlt : (order pivot b != .lt) = false) : order a b = .lt :=
  h.lt_of_ne_lt_of_lt ha hpivot hb (bne_iff_ne.1 hle) (bne_eq_false_iff_eq.1 hlt)

/-- The items that are not after an item that none is less than are in order already. -/
theorem sorts_least (hleast : ∀ a ∈ items, order a pivot ≠ .lt) :
    Sorts order (items.filter (order pivot · != .lt)) (items.filter (order pivot · != .lt)) := by
  refine ⟨.refl _, List.pairwise_of_forall_mem_list fun a ha b hb => ?_⟩
  obtain ⟨ha, hle⟩ := List.mem_filter.1 ha
  have hb := (List.mem_filter.1 hb).1
  rw [bne_iff_ne] at hle
  exact (h.ne_gt_iff hb ha).2 (h.ne_lt_trans ha hpivot hb hle (hleast b hb))

end Pivot

end Division

/-! ### Sorting by division -/

section Quick

variable {room limit : Nat} {ancestor : Option α} {items result : List α}

theorem quickSort?_perm (h : quickSort? order room limit ancestor items = some result) :
    result.Perm items := by
  induction limit generalizing ancestor items result with
  | zero =>
      rw [quickSort?] at h
      split at h
      · exact smallSort?_perm h
      · exact sortByRuns?_perm (isSort_smallSort? order) h
  | succ limit ih =>
      rw [quickSort?] at h
      split at h
      · exact smallSort?_perm h
      · simp only at h
        split at h
        · contradiction
        · next pivot after hdrop =>
          have hitems := List.take_append_drop (choosePivot order items) items
          rw [hdrop] at hitems
          split at h
          · obtain ⟨rest, hrest, rfl⟩ := Option.map_eq_some_iff.1 h
            have hperm := divide_perm (order pivot · != .lt) true
              (items.take (choosePivot order items)) pivot after
            rw [hitems] at hperm
            exact ((ih hrest).append_left _).trans hperm
          · obtain ⟨right, hright, h⟩ := Option.bind_eq_some_iff.1 h
            obtain ⟨left, hleft, heq⟩ := Option.bind_eq_some_iff.1 h
            cases heq
            have hperm := divide_perm (order · pivot == .lt) false
              (items.take (choosePivot order items)) pivot after
            rw [hitems] at hperm
            exact ((ih hleft).append (ih hright)).trans hperm

/-- No item is less than the pivot when the ancestor is not, or when no item is found below it. -/
theorem ne_lt_pivot {pivot : α} (h : IsPreorderOn order (ancestor.toList ++ items))
    (hancestor : ∀ a ∈ ancestor, ∀ b ∈ items, order b a ≠ .lt) (hpivot : pivot ∈ items)
    (hequal : (ancestor.any (order · pivot != .lt) ||
      (items.filter (order · pivot == .lt)).isEmpty) = true) :
    ∀ b ∈ items, order b pivot ≠ .lt := by
  rw [Bool.or_eq_true, Option.any_eq_true, List.isEmpty_iff] at hequal
  intro b hb
  rcases hequal with ⟨a, ha, hle⟩ | hnone
  · have hmem : a ∈ ancestor.toList ++ items := by simp [Option.mem_def.1 ha]
    exact h.ne_lt_trans (List.mem_append_right _ hpivot) hmem (List.mem_append_right _ hb)
      (bne_iff_ne.1 hle) (hancestor a ha b hb)
  · exact fun hlt => List.filter_eq_nil_iff.1 hnone b hb (beq_iff_eq.2 hlt)

/-- **Sorting by division sorts** when the order is a total preorder and no item is less than the
ancestor. -/
theorem quickSort?_sorts (h : IsPreorderOn order (ancestor.toList ++ items))
    (hancestor : ∀ a ∈ ancestor, ∀ b ∈ items, order b a ≠ .lt) :
    ∃ result, quickSort? order room limit ancestor items = some result ∧
      Sorts order items result := by
  have hitems := h.mono (List.subset_append_right ancestor.toList items)
  induction limit generalizing ancestor items with
  | zero =>
      rw [quickSort?]
      split
      · exact smallSort?_sorts hitems
      · exact sortByRuns?_sorts (isSort_smallSort? order) room true hitems
  | succ limit ih =>
      rw [quickSort?]
      split
      · exact smallSort?_sorts hitems
      · next hlong =>
        have hplace : choosePivot order items < items.length := by
          refine choosePivot_lt order ?_
          have : smallLength = 32 := rfl
          omega
        have hsplit := List.take_append_drop (choosePivot order items) items
        simp only
        split
        · next hdrop =>
          rw [List.drop_eq_nil_iff] at hdrop
          omega
        · next pivot after hdrop =>
          rw [hdrop] at hsplit
          have hpivot : pivot ∈ items := by
            rw [← hsplit]
            simp
          have hself := hitems.order_self hpivot
          rw [divide_eq (order · pivot == .lt) (by simp [hself]),
            divide_eq (order pivot · != .lt) (by simp [hself]), hsplit]
          simp only
          split
          · next hequal =>
            have hleast := ne_lt_pivot h hancestor hpivot hequal
            have hrest := hitems.filter fun a => !(order pivot a != .lt)
            obtain ⟨rest, hsome, hsorts⟩ := @ih none _ hrest (by simp) hrest
            exact ⟨_, by rw [hsome, Option.map_some], .of_division (lt_of_not_above hitems hpivot)
              (sorts_least hitems hpivot hleast) hsorts⟩
          · have hbelow := hitems.filter (order · pivot == .lt)
            have hrest := hitems.filter fun a => !(order a pivot == .lt)
            obtain ⟨right, hright, hsorts⟩ := @ih (some pivot) _
              (hitems.mono (List.cons_subset.2 ⟨hpivot, fun _ => List.mem_of_mem_filter⟩))
              (fun a ha b hb => by
                cases ha
                simpa using (List.mem_filter.1 hb).2) hrest
            obtain ⟨left, hleft, hsorts'⟩ := @ih ancestor _
              (h.mono ((List.filter_sublist.append_left _).subset))
              (fun a ha b hb => hancestor a ha b (List.mem_of_mem_filter hb)) hbelow
            exact ⟨_, by rw [hright, hleft]; rfl,
              .of_division (lt_of_below hitems hpivot) hsorts' hsorts⟩

end Quick

/-! ### The whole sort -/

section Whole

variable {items result : List α}

theorem isSort_quickSort? (order : α → α → Ordering) (room : Nat) :
    IsSort order fun run => quickSort? order room (2 * run.length.log2) none run :=
  ⟨quickSort?_perm, fun h => quickSort?_sorts h (by simp)⟩

theorem stableSort?_of_length_le (order : α → α → Ordering) (h : items.length ≤ 20) :
    stableSort? order items = some (insertionSort order items) := if_pos h

/-- **The stable sort rearranges**, if there is a result. -/
theorem stableSort?_perm (h : stableSort? order items = some result) : result.Perm items := by
  unfold stableSort? at h
  simp only at h
  split at h
  · cases h
    exact insertionSort_perm order items
  · exact sortByRuns?_perm (isSort_quickSort? order _) h

/-- **The stable sort does what insertion does** when the order is a total preorder. -/
theorem stableSort?_eq (h : IsPreorderOn order items) :
    stableSort? order items = some (insertionSort order items) := by
  unfold stableSort?
  simp only
  split
  · rfl
  · obtain ⟨result, hresult, hsorts⟩ := sortByRuns?_sorts
      (isSort_quickSort? order (roomFor items.length)) (roomFor items.length)
      (items.length ≤ 2 * smallLength) h
    rw [hresult, hsorts.unique h (sorts_insertionSort h)]

end Whole

end CardQuery
