/-
**Sorting by runs.**

Every step of the sort rearranges what it works on: cutting a list into runs, making one run of two,
and closing cuts.  For a total preorder every step has a result, runs that count as sorted are in
ascending order, and items that are not told apart keep their order; so does the whole sort then, in
whatever order the cuts are closed.

Main definitions:

* `Run.IsSound` — a run in ascending order, if it counts as sorted;
* `IsSort` — a sort of lists of any length;
* `contentOf` — the items of the open runs and the last one.

Main results:

* `mergeRuns_eq` — **merging from the back does what merging from the front does**;
* `sortByRuns?_perm`, `sortByRuns?_sorts` — **the sort by runs** rearranges, and sorts.
-/

import CardQuery.Proofs.Sort.Small
import CardQuery.Sort.Runs

set_option autoImplicit false

namespace CardQuery

variable {α : Type} {order : α → α → Ordering}

/-! ### Items in order already -/

theorem spanNext_append (continues : α → α → Bool) (a : α) (items : List α) :
    (spanNext continues a items).1 ++ (spanNext continues a items).2 = items := by
  induction items generalizing a with
  | nil => rfl
  | cons b rest ih =>
      rw [spanNext]
      split
      · exact congrArg (b :: ·) (ih b)
      · rfl

/-- Items of which each continues the one before it continue all those before it, if to continue is
transitive. -/
theorem pairwise_spanNext (continues : α → α → Bool) {a : α} (items : List α)
    (htrans : ∀ x ∈ a :: items, ∀ y ∈ a :: items, ∀ z ∈ a :: items, continues x y = true →
      continues y z = true → continues x z = true) :
    (a :: (spanNext continues a items).1).Pairwise fun x y => continues x y = true := by
  induction items generalizing a with
  | nil => exact List.pairwise_singleton _ _
  | cons b rest ih =>
      rw [spanNext]
      split
      · next hab =>
        have hrest := ih fun x hx y hy z hz => htrans x (List.mem_cons_of_mem a hx) y
          (List.mem_cons_of_mem a hy) z (List.mem_cons_of_mem a hz)
        refine List.pairwise_cons.2 ⟨fun c hc => ?_, hrest⟩
        rcases List.mem_cons.1 hc with rfl | hmem
        · exact hab
        · have hc' : c ∈ rest := by
            rw [← spanNext_append continues b rest]
            exact List.mem_append_left _ hmem
          exact htrans a (by simp) b (by simp) c (by simp [hc']) hab
            ((List.pairwise_cons.1 hrest).1 c hmem)
      · exact List.pairwise_singleton _ _

/-- Items that descend strictly may be turned round. -/
theorem rearranges_reverse {items : List α} (h : items.Pairwise fun a b => order b a = .lt) :
    Rearranges order items items.reverse := by
  refine ⟨List.reverse_perm items, fun p hp => ?_⟩
  induction items with
  | nil => rfl
  | cons a items ih =>
      obtain ⟨hfirst, hrest⟩ := List.pairwise_cons.1 h
      rw [List.reverse_cons, List.filter_append, ih hrest (hp.mono (List.subset_cons_self a items)),
        List.filter_cons]
      split
      · next ha =>
        -- no other item passes the test
        have hnone : items.filter p = [] := by
          rw [List.filter_eq_nil_iff]
          exact fun b hb hpb => hp b (List.mem_cons_of_mem a hb) a List.mem_cons_self hpb ha (hfirst b hb)
        simp [hnone, ha]
      · next ha => simp [ha]

theorem presorted_perm (order : α → α → Ordering) (items : List α) :
    ((presorted order items).1 ++ (presorted order items).2).Perm items := by
  unfold presorted
  split
  · next a b rest =>
    split
    · refine ((List.reverse_perm _).append_right _).trans ?_
      rw [List.cons_append, spanNext_append]
    · rw [List.cons_append, spanNext_append]
  · exact .refl _
  · exact .refl _

/-- Items that are in order already, from either end, count as sorted. -/
theorem presorted_sorts {items : List α} (h : IsPreorderOn order items) :
    Rearranges order items ((presorted order items).1 ++ (presorted order items).2) ∧
      Ascends order (presorted order items).1 := by
  unfold presorted
  split
  · next a b rest =>
    split
    · have hspan := pairwise_spanNext (fun x y => order y x == .lt) (a := a) (b :: rest)
        fun x hx y hy z hz hxy hyz => by
          rw [beq_iff_eq] at hxy hyz ⊢
          exact h.lt_trans hz hy hx hyz hxy
      simp only [beq_iff_eq] at hspan
      have hall := (rearranges_reverse hspan).append
        (.refl (spanNext (fun x y => order y x == .lt) a (b :: rest)).2)
      rw [List.cons_append, spanNext_append] at hall
      exact ⟨hall, List.pairwise_reverse.2 (hspan.imp fun hlt => IsPreorderOn.ne_gt_of_lt hlt)⟩
    · have hspan := pairwise_spanNext (fun x y => order y x != .lt) (a := a) (b :: rest)
        fun x hx y hy z hz hxy hyz => by
          rw [bne_iff_ne] at hxy hyz ⊢
          exact h.ne_lt_trans hx hy hz hxy hyz
      have hmem : a :: (spanNext (fun x y => order y x != .lt) a (b :: rest)).1 ⊆ a :: b :: rest := by
        refine List.cons_subset_cons a fun x hx => ?_
        rw [← spanNext_append (fun x y => order y x != .lt) a (b :: rest)]
        exact List.mem_append_left _ hx
      rw [List.cons_append, spanNext_append]
      refine ⟨.refl _, hspan.imp_of_mem fun hx hy hxy => ?_⟩
      rw [bne_iff_ne] at hxy
      exact (h.ne_gt_iff (hmem hy) (hmem hx)).2 hxy
  · exact ⟨.refl _, List.pairwise_singleton _ _⟩
  · exact ⟨.refl _, .nil⟩

/-! ### Cutting into runs -/

/-- The items are in ascending order if they count as sorted. -/
def Run.IsSound (order : α → α → Ordering) (r : Run α) : Prop :=
  r.isSorted = true → Ascends order r.items

theorem nextRun?_perm {enough : Nat} {eager : Bool} {items rest : List α} {run : Run α}
    (h : nextRun? order enough eager items = some (run, rest)) :
    (run.items ++ rest).Perm items := by
  simp only [nextRun?] at h
  split at h
  · cases h
    exact presorted_perm order items
  · split at h
    · obtain ⟨sorted, hsorted, heq⟩ := Option.map_eq_some_iff.1 h
      cases heq
      have hperm := (smallSort?_perm hsorted).append_right (items.drop smallLength)
      rwa [List.take_append_drop] at hperm
    · cases h
      rw [List.take_append_drop]

/-- A run has an item, so that the rest is shorter. -/
theorem length_rest_lt {enough : Nat} {eager : Bool} {items rest : List α} {run : Run α}
    (henough : 0 < enough) (hitems : items ≠ [])
    (h : nextRun? order enough eager items = some (run, rest)) : rest.length < items.length := by
  have hlength := (nextRun?_perm h).length_eq
  have hpos : 0 < items.length := List.length_pos_iff.2 hitems
  rw [List.length_append] at hlength
  suffices hrun : 0 < run.items.length by omega
  simp only [nextRun?] at h
  split at h
  · next hlong =>
    cases h
    exact Nat.lt_of_lt_of_le henough hlong
  · split at h
    · obtain ⟨sorted, hsorted, heq⟩ := Option.map_eq_some_iff.1 h
      cases heq
      rw [(smallSort?_perm hsorted).length_eq, List.length_take]
      exact Nat.lt_min.2 ⟨by decide, hpos⟩
    · cases h
      rw [List.length_take]
      exact Nat.lt_min.2 ⟨henough, hpos⟩

theorem nextRun?_sorts (enough : Nat) (eager : Bool) {items : List α}
    (h : IsPreorderOn order items) : ∃ run rest, nextRun? order enough eager items = some (run, rest) ∧
      Rearranges order items (run.items ++ rest) ∧ run.IsSound order := by
  simp only [nextRun?]
  split
  · obtain ⟨hrearranges, hascends⟩ := presorted_sorts h
    exact ⟨_, _, rfl, hrearranges, fun _ => hascends⟩
  · split
    · obtain ⟨sorted, hsorted, hsorts⟩ := smallSort?_sorts (h.mono (List.take_subset smallLength items))
      have hall := hsorts.toRearranges.append (.refl (items.drop smallLength))
      rw [List.take_append_drop] at hall
      exact ⟨_, _, by rw [hsorted, Option.map_some], hall, fun _ => hsorts.ascends⟩
    · refine ⟨_, _, rfl, ?_, fun hfalse => by cases hfalse⟩
      rw [List.take_append_drop]
      exact .refl items

/-- The items of runs, in the order of the runs. -/
def itemsOf (runs : List (Run α)) : List α := runs.flatMap (·.items)

theorem cutRuns?_perm {enough steps : Nat} {eager : Bool} {items : List α} {runs : List (Run α)}
    (h : cutRuns? order enough eager steps items = some runs) : (itemsOf runs).Perm items := by
  induction steps generalizing items runs with
  | zero =>
      cases items with
      | nil =>
          cases h
          exact .refl _
      | cons a items => contradiction
  | succ steps ih =>
      cases items with
      | nil =>
          cases h
          exact .refl _
      | cons a items =>
          obtain ⟨⟨run, rest⟩, hrun, h⟩ := Option.bind_eq_some_iff.1 h
          obtain ⟨later, hlater, heq⟩ := Option.bind_eq_some_iff.1 h
          cases heq
          exact ((ih hlater).append_left run.items).trans (nextRun?_perm hrun)

theorem cutRuns?_sorts {enough : Nat} (henough : 0 < enough) (eager : Bool) {steps : Nat}
    {items : List α} (hsteps : items.length ≤ steps) (h : IsPreorderOn order items) :
    ∃ runs, cutRuns? order enough eager steps items = some runs ∧
      Rearranges order items (itemsOf runs) ∧ ∀ run ∈ runs, run.IsSound order := by
  induction steps generalizing items with
  | zero =>
      have hnil : items = [] := List.eq_nil_of_length_eq_zero (Nat.le_zero.1 hsteps)
      subst hnil
      exact ⟨[], rfl, .refl _, by simp⟩
  | succ steps ih =>
      cases items with
      | nil => exact ⟨[], rfl, .refl _, by simp⟩
      | cons a items =>
          obtain ⟨run, rest, hrun, hfirst, hsound⟩ := nextRun?_sorts enough eager h
          have hshort := length_rest_lt henough (List.cons_ne_nil a items) hrun
          have hrest : IsPreorderOn order rest :=
            (h.of_perm hfirst.perm).mono (List.subset_append_right _ _)
          obtain ⟨later, hlater, hafter, hsounds⟩ := ih (by omega) hrest
          refine ⟨run :: later, ?_, ?_, List.forall_mem_cons.2 ⟨hsound, hsounds⟩⟩
          · simp only [cutRuns?, hrun, hlater, Option.bind_eq_bind, Option.bind_some, Option.pure_def]
          · exact hfirst.trans ((Rearranges.refl run.items).append hafter)

/-! ### Two runs made one -/

theorem mergeBack_perm (order : α → α → Ordering) (left right : List α) :
    (mergeBack order left right).Perm (left ++ right) := by
  fun_induction mergeBack order left right with
  | case1 l left r right hlt ih => exact ih.cons l
  | case2 l left r right hge ih => exact (ih.cons r).trans List.perm_middle.symm
  | case3 right => exact .refl _
  | case4 left => rw [List.append_nil]

/-- **Merging from the back does what merging from the front does.** -/
theorem mergeBack_eq {left right : List α} (h : IsPreorderOn order (left ++ right))
    (hl : Ascends order left.reverse) (hr : Ascends order right.reverse) :
    (mergeBack order left right).reverse = mergeFront order left.reverse right.reverse := by
  fun_induction mergeBack order left right with
  | case1 l left r right hlt ih =>
      have hall := lt_of_last_lt h hr hlt
      rw [List.reverse_cons] at hl
      rw [List.reverse_cons, ih (h.mono (List.subset_cons_self l _)) (List.pairwise_append.1 hl).1 hr,
        @List.reverse_cons _ l left, mergeFront_concat_left]
      exact fun y hy => hall y (List.mem_reverse.1 hy)
  | case2 l left r right hge ih =>
      have hall := ne_lt_of_last_ne_lt h hl hge
      have hsubset := ((List.sublist_cons_self r right).append_left (l :: left)).subset
      rw [List.reverse_cons] at hr
      rw [List.reverse_cons, ih (h.mono hsubset) hl (List.pairwise_append.1 hr).1,
        @List.reverse_cons _ r right, mergeFront_concat_right]
      exact fun x hx => hall x (List.mem_reverse.1 hx)
  | case3 right => rw [List.reverse_nil, mergeFront_nil_left]
  | case4 left => rw [List.reverse_nil, mergeFront_nil_right]

theorem mergeRuns_perm (order : α → α → Ordering) (left right : List α) :
    (mergeRuns order left right).Perm (left ++ right) := by
  unfold mergeRuns
  split
  · exact mergeFront_perm order left right
  · exact (List.reverse_perm _).trans ((mergeBack_perm order _ _).trans
      ((List.reverse_perm left).append (List.reverse_perm right)))

theorem mergeRuns_eq {left right : List α} (h : IsPreorderOn order (left ++ right))
    (hl : Ascends order left) (hr : Ascends order right) :
    mergeRuns order left right = mergeFront order left right := by
  unfold mergeRuns
  split
  · rfl
  · have hback : IsPreorderOn order (left.reverse ++ right.reverse) :=
      h.of_perm ((List.reverse_perm left).append (List.reverse_perm right))
    rw [mergeBack_eq hback (by rwa [List.reverse_reverse]) (by rwa [List.reverse_reverse]),
      List.reverse_reverse, List.reverse_reverse]

/-- What sorts runs: it rearranges, and it sorts when the order is a total preorder. -/
structure IsSort (order : α → α → Ordering) (sort : List α → Option (List α)) : Prop where
  perm : ∀ {items result}, sort items = some result → result.Perm items
  sorts : ∀ {items}, IsPreorderOn order items → ∃ result, sort items = some result ∧
    Sorts order items result

theorem isSort_smallSort? (order : α → α → Ordering) : IsSort order (smallSort? order) :=
  ⟨smallSort?_perm, smallSort?_sorts⟩

section Join

variable {sort : List α → Option (List α)} {run : Run α}

theorem Run.sorted?_perm (hsort : IsSort order sort) {result : List α}
    (h : run.sorted? sort = some result) : result.Perm run.items := by
  unfold sorted? at h
  split at h
  · cases h
    exact .refl _
  · exact hsort.perm h

theorem Run.sorted?_sorts (hsort : IsSort order sort) (h : IsPreorderOn order run.items)
    (hsound : run.IsSound order) :
    ∃ result, run.sorted? sort = some result ∧ Sorts order run.items result := by
  unfold sorted?
  split
  · next hsorted => exact ⟨_, rfl, .refl _, hsound hsorted⟩
  · exact hsort.sorts h

/-- What makes one run of two neighbours: it rearranges their items, and there is a sound run of them
when the order is a total preorder and they are sound. -/
structure IsJoin (order : α → α → Ordering) (join : Run α → Run α → Option (Run α)) : Prop where
  perm : ∀ {left right run}, join left right = some run →
    run.items.Perm (left.items ++ right.items)
  sorts : ∀ {left right}, IsPreorderOn order (left.items ++ right.items) → left.IsSound order →
    right.IsSound order → ∃ run, join left right = some run ∧
      Rearranges order (left.items ++ right.items) run.items ∧ run.IsSound order

theorem isJoin_joinRuns? (hsort : IsSort order sort) (room : Nat) :
    IsJoin order (joinRuns? order sort room) where
  perm {left right run} h := by
    unfold joinRuns? at h
    split at h
    · obtain ⟨first, hfirst, h⟩ := Option.bind_eq_some_iff.1 h
      obtain ⟨second, hsecond, heq⟩ := Option.bind_eq_some_iff.1 h
      cases heq
      exact (mergeRuns_perm order first second).trans
        ((Run.sorted?_perm hsort hfirst).append (Run.sorted?_perm hsort hsecond))
    · cases h
      exact .refl _
  sorts {left right} h hl hr := by
    unfold joinRuns?
    split
    · obtain ⟨first, hfirst, hsorts⟩ := left.sorted?_sorts hsort
        (h.mono (List.subset_append_left _ _)) hl
      obtain ⟨second, hsecond, hsorts'⟩ := right.sorted?_sorts hsort
        (h.mono (List.subset_append_right _ _)) hr
      have hboth := hsorts.toRearranges.append hsorts'.toRearranges
      have hpre := h.of_perm hboth.perm
      have hmerge := sorts_mergeFront hpre hsorts.ascends hsorts'.ascends
      rw [← mergeRuns_eq hpre hsorts.ascends hsorts'.ascends] at hmerge
      refine ⟨⟨mergeRuns order first second, true⟩, ?_, hboth.trans hmerge.toRearranges,
        fun _ => hmerge.ascends⟩
      simp only [hfirst, hsecond, Option.bind_eq_bind, Option.bind_some, Option.pure_def]
    · exact ⟨_, rfl, .refl _, fun hfalse => by cases hfalse⟩

end Join

/-! ### Closing cuts -/

section Closing

/-- The items of the open runs, from the furthest on, and of the last run. -/
def contentOf (opened : List (Run α × Nat)) (run : Run α) : List α :=
  itemsOf (opened.map (·.1)).reverse ++ run.items

theorem contentOf_cons (left : Run α) (cut : Nat) (opened : List (Run α × Nat)) (run : Run α) :
    contentOf ((left, cut) :: opened) run =
      itemsOf (opened.map (·.1)).reverse ++ (left.items ++ run.items) := by
  simp [contentOf, itemsOf]

variable {join : Run α → Run α → Option (Run α)} {depth : Nat} {opened opened' : List (Run α × Nat)}
  {run run' : Run α}

theorem closeCuts?_perm (hjoin : IsJoin order join)
    (h : closeCuts? join depth opened run = some (opened', run')) :
    (contentOf opened' run').Perm (contentOf opened run) := by
  induction opened generalizing run with
  | nil =>
      cases h
      exact .refl _
  | cons first opened ih =>
      obtain ⟨left, cut⟩ := first
      rw [closeCuts?] at h
      split at h
      · obtain ⟨joined, hjoined, h⟩ := Option.bind_eq_some_iff.1 h
        rw [contentOf_cons]
        exact (ih h).trans ((hjoin.perm hjoined).append_left _)
      · cases h
        exact .refl _

/-- Every cut is at least as deep as none, so that all of them are closed in the end. -/
theorem eq_nil_of_closeCuts?_zero (h : closeCuts? join 0 opened run = some (opened', run')) :
    opened' = [] := by
  induction opened generalizing run with
  | nil =>
      cases h
      rfl
  | cons first opened ih =>
      obtain ⟨left, cut⟩ := first
      rw [closeCuts?, if_pos (Nat.zero_le cut)] at h
      obtain ⟨joined, -, h⟩ := Option.bind_eq_some_iff.1 h
      exact ih h

theorem closeCuts?_sorts (hjoin : IsJoin order join) (depth : Nat)
    (h : IsPreorderOn order (contentOf opened run)) (hopened : ∀ r ∈ opened, r.1.IsSound order)
    (hrun : run.IsSound order) : ∃ opened' run',
      closeCuts? join depth opened run = some (opened', run') ∧
        Rearranges order (contentOf opened run) (contentOf opened' run') ∧
        (∀ r ∈ opened', r.1.IsSound order) ∧ run'.IsSound order := by
  induction opened generalizing run with
  | nil => exact ⟨[], run, rfl, .refl _, hopened, hrun⟩
  | cons first opened ih =>
      obtain ⟨left, cut⟩ := first
      rw [List.forall_mem_cons] at hopened
      rw [closeCuts?]
      split
      · rw [contentOf_cons] at h ⊢
        obtain ⟨joined, hjoined, hrearranges, hsound⟩ :=
          hjoin.sorts (h.mono (List.subset_append_right _ _)) hopened.1 hrun
        have hfirst := (Rearranges.refl (itemsOf (opened.map (·.1)).reverse)).append hrearranges
        obtain ⟨opened', run', hrest, hrearranges', hsounds⟩ :=
          ih (h.of_perm hfirst.perm) hopened.2 hsound
        refine ⟨opened', run', ?_, hfirst.trans hrearranges', hsounds⟩
        simp only [hjoined, Option.bind_eq_bind, Option.bind_some, hrest]
      · exact ⟨_, run, rfl, .refl _, List.forall_mem_cons.2 hopened, hrun⟩

theorem mergeAll?_perm (hjoin : IsJoin order join) {length middle : Nat} {runs : List (Run α)}
    (h : mergeAll? join length opened middle run runs = some run') :
    run'.items.Perm (contentOf opened run ++ itemsOf runs) := by
  induction runs generalizing opened middle run with
  | nil =>
      obtain ⟨⟨opened', last⟩, hlast, rfl⟩ := Option.map_eq_some_iff.1 h
      have hperm := closeCuts?_perm hjoin hlast
      rw [eq_nil_of_closeCuts?_zero hlast] at hperm
      rw [itemsOf, List.flatMap_nil, List.append_nil]
      exact hperm
  | cons next runs ih =>
      obtain ⟨⟨opened', last⟩, hlast, h⟩ := Option.bind_eq_some_iff.1 h
      have hperm := ih h
      rw [contentOf_cons, ← List.append_assoc, ← contentOf, List.append_assoc] at hperm
      exact hperm.trans ((closeCuts?_perm hjoin hlast).append_right _)

theorem mergeAll?_sorts (hjoin : IsJoin order join) (length middle : Nat) {runs : List (Run α)}
    (h : IsPreorderOn order (contentOf opened run ++ itemsOf runs))
    (hopened : ∀ r ∈ opened, r.1.IsSound order) (hrun : run.IsSound order)
    (hruns : ∀ r ∈ runs, r.IsSound order) : ∃ whole,
      mergeAll? join length opened middle run runs = some whole ∧
        Rearranges order (contentOf opened run ++ itemsOf runs) whole.items ∧
        whole.IsSound order := by
  induction runs generalizing opened middle run with
  | nil =>
      rw [itemsOf, List.flatMap_nil, List.append_nil] at h ⊢
      obtain ⟨opened', whole, hwhole, hrearranges, -, hsound⟩ :=
        closeCuts?_sorts hjoin 0 h hopened hrun
      rw [eq_nil_of_closeCuts?_zero hwhole] at hrearranges
      exact ⟨whole, by rw [mergeAll?, hwhole, Option.map_some], hrearranges, hsound⟩
  | cons next runs ih =>
      rw [List.forall_mem_cons] at hruns
      let depth := cutDepth length (middle - run.items.length) middle (middle + next.items.length)
      obtain ⟨opened', last, hlast, hrearranges, hopened', hsound⟩ :=
        closeCuts?_sorts hjoin depth (h.mono (List.subset_append_left _ _)) hopened hrun
      have hfirst := hrearranges.append (.refl (itemsOf (next :: runs)))
      have hcontent : contentOf ((last, depth) :: opened') next ++ itemsOf runs =
          contentOf opened' last ++ itemsOf (next :: runs) := by
        rw [contentOf_cons, ← List.append_assoc, ← contentOf, List.append_assoc]
        rfl
      obtain ⟨whole, hwhole, hrest, hall⟩ := @ih ((last, depth) :: opened') next
        (middle + next.items.length) (by rw [hcontent]; exact h.of_perm hfirst.perm)
        (List.forall_mem_cons.2 ⟨hsound, hopened'⟩) hruns.1 hruns.2
      rw [hcontent] at hrest
      have hstep : mergeAll? join length opened middle run (next :: runs) =
          (closeCuts? join depth opened run).bind fun p =>
            mergeAll? join length ((p.2, depth) :: p.1) (middle + next.items.length) next runs := rfl
      exact ⟨whole, by rw [hstep, hlast, Option.bind_some, hwhole], hfirst.trans hrest, hall⟩

end Closing

/-! ### The whole sort -/

section Whole

variable {sort : List α → Option (List α)} {room : Nat} {eager : Bool} {items result : List α}

theorem roughRoot_pos {n : Nat} (h : 2 ≤ n) : 0 < roughRoot n := by
  have hlog : 1 ≤ n.log2 := (Nat.le_log2 (by omega)).2 h
  have hpow : twoTo 1 ≤ twoTo ((1 + n.log2) / 2) := Nat.pow_le_pow_right (by decide) (by omega)
  exact Nat.div_pos (Nat.le_add_right_of_le hpow) (by decide)

theorem enoughOf_pos {length : Nat} (h : 0 < length) : 0 < enoughOf length := by
  unfold enoughOf
  split
  · omega
  · exact roughRoot_pos (by omega)

/-- **The sort by runs rearranges**, if there is a result. -/
theorem sortByRuns?_perm (hsort : IsSort order sort)
    (h : sortByRuns? order sort room eager items = some result) : result.Perm items := by
  obtain ⟨runs, hruns, h⟩ := Option.bind_eq_some_iff.1 h
  have hperm := cutRuns?_perm hruns
  cases runs with
  | nil =>
      cases h
      exact .refl _
  | cons run runs =>
      obtain ⟨whole, hwhole, h⟩ := Option.bind_eq_some_iff.1 h
      have hmerged := mergeAll?_perm (isJoin_joinRuns? hsort room) hwhole
      exact (Run.sorted?_perm hsort h).trans (hmerged.trans hperm)

/-- **The sort by runs sorts** when the order is a total preorder. -/
theorem sortByRuns?_sorts (hsort : IsSort order sort) (room : Nat) (eager : Bool)
    (h : IsPreorderOn order items) :
    ∃ result, sortByRuns? order sort room eager items = some result ∧ Sorts order items result := by
  by_cases hitems : items = []
  · subst hitems
    exact ⟨[], rfl, .refl _, .nil⟩
  · obtain ⟨runs, hruns, hcut, hsounds⟩ := cutRuns?_sorts
      (enoughOf_pos (List.length_pos_iff.2 hitems)) eager (Nat.le_refl items.length) h
    unfold sortByRuns?
    simp only [hruns, Option.bind_eq_bind, Option.bind_some]
    cases runs with
    | nil => exact absurd hcut.perm.symm.eq_nil hitems
    | cons run runs =>
        rw [List.forall_mem_cons] at hsounds
        obtain ⟨whole, hwhole, hmerged, hsound⟩ := @mergeAll?_sorts _ _ _ [] run
          (isJoin_joinRuns? hsort room) items.length run.items.length runs (h.of_perm hcut.perm)
          (by simp) hsounds.1 hsounds.2
        have hall := hcut.trans hmerged
        obtain ⟨result, hresult, hsorts⟩ := whole.sorted?_sorts hsort (h.of_perm hall.perm) hsound
        refine ⟨result, ?_, hall.trans hsorts.toRearranges, hsorts.ascends⟩
        simp only [hwhole, Option.bind_some, hresult]

end Whole

end CardQuery
