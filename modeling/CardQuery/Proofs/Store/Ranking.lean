/-
**The order of the cards in memory.**

A store in memory sorts the cards by the value at a key: numbers as doubles, then texts by their lower
case, reversed in descending order, and cards without a value last.  As long as the key holds numbers and
texts only, this is a total preorder, and the cards of a page are in order.  A value of another kind is not
told apart from any text, and then two texts that differ are both equal to it and not to each other; the
sort may give up on such cards.

Main definitions:

* `Json.Precedes`, `SortKey.Precedes` — values and cards that come before others;
* `Json.IsRanked`, `SortKey.Ranks` — values and cards whose place the order determines.

Main results:

* `SortKey.memoryOrder_eq_lt_iff` — the order of the store is the one described;
* `SortKey.memoryOrder_isPreorderOn_iff` — **when the order is a total preorder**;
* `MemoryStore.fetch_sorted` — **the cards that a store answers with are sorted and stable**.
-/

import CardQuery.Proofs.Store.Fetch

set_option autoImplicit false

namespace CardQuery

/-! ### Values -/

theorem ne_gt_trans {α : Type} {order : α → α → Ordering} [Std.TransCmp order] {a b c : α}
    (hab : order a b ≠ .gt) (hbc : order b c ≠ .gt) : order a c ≠ .gt :=
  Ordering.isLE_iff_ne_gt.1 <|
    Std.TransCmp.isLE_trans (Ordering.isLE_iff_ne_gt.2 hab) (Ordering.isLE_iff_ne_gt.2 hbc)

/-- A value comes before another: numbers come in the order of their doubles and before all else, texts in
the order of their lower case. -/
inductive Json.Precedes : Json → Json → Prop where
  | numbers {m n : Json.Number} (h : m.toDouble.signedUnits < n.toDouble.signedUnits) :
      Precedes (.number m) (.number n)
  | number_first {m : Json.Number} {j : Json} (h : ∀ n, j ≠ .number n) : Precedes (.number m) j
  | texts {s t : String} (h : Unicode.loweredText s < Unicode.loweredText t) :
      Precedes (.text s) (.text t)

/-- The values that are told apart: numbers and texts. -/
inductive Json.IsRanked : Json → Prop where
  | number (n : Json.Number) : IsRanked (.number n)
  | text (s : String) : IsRanked (.text s)

namespace SortValue

variable {x y z : SortValue}

theorem ofJson_eq_other {j : Json} (h : ¬ j.IsRanked) : ofJson j = other := by
  cases j with
  | number n => exact absurd (.number n) h
  | text s => exact absurd (.text s) h
  | _ => rfl

theorem ofJson_eq_text {j : Json} {lowered : String} (h : ofJson j = text lowered) :
    ∃ s, j = .text s ∧ Unicode.loweredText s = lowered := by
  cases j with
  | text s => exact ⟨s, rfl, by injection h⟩
  | _ => contradiction

theorem order_text_eq_lt_iff (s t : String) : (text s).order (text t) = .lt ↔ s < t :=
  compareOfLessAndEq_eq_lt

/-- The order of the values of documents is the one described. -/
theorem order_ofJson_eq_lt_iff (i j : Json) : (ofJson i).order (ofJson j) = .lt ↔ i.Precedes j := by
  constructor
  · intro h
    cases i with
    | number m =>
        cases j with
        | number n => exact .numbers (Int.compare_eq_lt.1 h)
        | _ => exact .number_first fun _ => nofun
    | text s =>
        cases j with
        | text t => exact .texts ((order_text_eq_lt_iff _ _).1 h)
        | _ => simp [ofJson, order] at h
    | _ => cases j <;> simp [ofJson, order] at h
  · intro h
    cases h with
    | numbers h => exact Int.compare_eq_lt.2 h
    | number_first h =>
        cases j with
        | number n => exact absurd rfl (h n)
        | _ => rfl
    | texts h => exact (order_text_eq_lt_iff _ _).2 h

theorem order_swap (x y : SortValue) : y.order x = (x.order y).swap := by
  cases x with
  | number a =>
      cases y with
      | number b => exact (Std.OrientedCmp.eq_swap : compare b.signedUnits a.signedUnits = _)
      | _ => rfl
  | text s =>
      cases y with
      | text t => exact (Std.OrientedCmp.eq_swap : compare t s = _)
      | _ => rfl
  | other => cases y <;> rfl

/-- The order is transitive unless a value of another kind stands between two texts. -/
theorem order_trans (hxy : x.order y ≠ .gt) (hyz : y.order z ≠ .gt)
    (htexts : y = other → ∀ s t, x = text s → z = text t → s = t) : x.order z ≠ .gt := by
  cases x with
  | number a =>
      cases z with
      | number c =>
          cases y with
          | number b =>
              rw [order, Double.order] at hxy hyz ⊢
              exact ne_gt_trans hxy hyz
          | _ => exact absurd rfl hyz
      | _ => nofun
  | text s =>
      cases z with
      | number c =>
          cases y with
          | number b => exact absurd rfl hxy
          | _ => exact absurd rfl hyz
      | text u =>
          cases y with
          | number b => exact absurd rfl hxy
          | text t =>
              rw [order] at hxy hyz ⊢
              exact ne_gt_trans hxy hyz
          | other =>
              obtain rfl := htexts rfl s u rfl rfl
              have heq : (text s).order (text s) = .eq := Std.compare_self
              rw [heq]
              nofun
      | other => nofun
  | other =>
      cases z with
      | number c => cases y <;> first | exact absurd rfl hxy | exact absurd rfl hyz
      | _ => nofun

end SortValue

/-! ### Cards -/

namespace SortKey

variable {k : SortKey} {a b c : Json}

/-- A card comes before another: one with a value before those without, and otherwise as the values do,
the other way round in descending order. -/
inductive Precedes (k : SortKey) (a b : Json) : Prop where
  | ascending {i j : Json} (ha : a.stored? (Json.pathOf k.key) = some i)
      (hb : b.stored? (Json.pathOf k.key) = some j) (hk : k.descending = false) (h : i.Precedes j)
  | descending {i j : Json} (ha : a.stored? (Json.pathOf k.key) = some i)
      (hb : b.stored? (Json.pathOf k.key) = some j) (hk : k.descending = true) (h : j.Precedes i)
  | missing_last {i : Json} (ha : a.stored? (Json.pathOf k.key) = some i)
      (hb : b.stored? (Json.pathOf k.key) = none)

/-- The key holds a number or a text on the card, or nothing. -/
def Ranks (k : SortKey) (card : Json) : Prop :=
  ∀ j, card.stored? (Json.pathOf k.key) = some j → j.IsRanked

/-- **The order of the store is the one described.** -/
theorem memoryOrder_eq_lt_iff (k : SortKey) (a b : Json) :
    k.memoryOrder a b = .lt ↔ k.Precedes a b := by
  rw [memoryOrder]
  constructor
  · intro h
    cases ha : a.stored? (Json.pathOf k.key) with
    | none => cases hb : b.stored? (Json.pathOf k.key) <;> simp [ha, hb, sortOrder] at h
    | some i =>
        cases hb : b.stored? (Json.pathOf k.key) with
        | none => exact .missing_last ha hb
        | some j =>
            cases hk : k.descending with
            | false =>
                simp only [ha, hb, hk, Option.map_some, sortOrder, Bool.false_eq_true, if_false] at h
                exact .ascending ha hb hk ((SortValue.order_ofJson_eq_lt_iff i j).1 h)
            | true =>
                simp only [ha, hb, hk, Option.map_some, sortOrder, if_true] at h
                rw [← SortValue.order_swap] at h
                exact .descending ha hb hk ((SortValue.order_ofJson_eq_lt_iff j i).1 h)
  · intro h
    cases h with
    | ascending ha hb hk h =>
        simp only [ha, hb, hk, Option.map_some, sortOrder, Bool.false_eq_true, if_false]
        exact (SortValue.order_ofJson_eq_lt_iff _ _).2 h
    | descending ha hb hk h =>
        simp only [ha, hb, hk, Option.map_some, sortOrder, if_true]
        rw [← SortValue.order_swap]
        exact (SortValue.order_ofJson_eq_lt_iff _ _).2 h
    | missing_last ha hb => simp only [ha, hb, Option.map_some, Option.map_none, sortOrder]

theorem sortOrder_swap (descending : Bool) (x y : Option SortValue) :
    sortOrder descending y x = (sortOrder descending x y).swap := by
  cases x with
  | none => cases y <;> rfl
  | some x =>
      cases y with
      | none => rfl
      | some y => cases descending <;> simp [sortOrder, SortValue.order_swap x y]

/-- To compare two cards the other way round gives the opposite. -/
theorem memoryOrder_swap (k : SortKey) (a b : Json) : k.memoryOrder b a = (k.memoryOrder a b).swap :=
  sortOrder_swap k.descending _ _

theorem sortOrder_trans {descending : Bool} {x y z : Option SortValue}
    (hxy : sortOrder descending x y ≠ .gt) (hyz : sortOrder descending y z ≠ .gt)
    (htexts : y = some .other → ∀ s t, x = some (.text s) → z = some (.text t) → s = t) :
    sortOrder descending x z ≠ .gt := by
  cases z with
  | none => cases x <;> nofun
  | some z =>
      cases y with
      | none => exact absurd rfl hyz
      | some y =>
          cases x with
          | none => exact absurd rfl hxy
          | some x =>
              cases descending with
              | false =>
                  refine SortValue.order_trans hxy hyz ?_
                  rintro rfl s t rfl rfl
                  exact htexts rfl s t rfl rfl
              | true =>
                  simp only [sortOrder, if_true, ← SortValue.order_swap] at hxy hyz ⊢
                  refine SortValue.order_trans hyz hxy ?_
                  rintro rfl s t rfl rfl
                  exact (htexts rfl t s rfl rfl).symm

/-- The order of cards is transitive unless a value of another kind stands between two texts. -/
theorem memoryOrder_trans (hab : k.memoryOrder a b ≠ .gt) (hbc : k.memoryOrder b c ≠ .gt)
    (htexts : k.Ranks b ∨ ∀ s t, a.stored? (Json.pathOf k.key) = some (.text s) →
      c.stored? (Json.pathOf k.key) = some (.text t) → Unicode.loweredText s = Unicode.loweredText t) :
    k.memoryOrder a c ≠ .gt := by
  refine sortOrder_trans hab hbc fun hother lowered lowered' ha hc => ?_
  obtain ⟨j, hj, hother⟩ := Option.map_eq_some_iff.1 hother
  obtain ⟨i, hi, ha⟩ := Option.map_eq_some_iff.1 ha
  obtain ⟨l, hl, hc⟩ := Option.map_eq_some_iff.1 hc
  obtain ⟨s, rfl, rfl⟩ := SortValue.ofJson_eq_text ha
  obtain ⟨t, rfl, rfl⟩ := SortValue.ofJson_eq_text hc
  rcases htexts with hranks | htexts
  · cases hranks j hj <;> contradiction
  · exact htexts s t hi hl

theorem memoryOrder_isPreorderOn {cards : List Json} (h : ∀ card ∈ cards, k.Ranks card) :
    IsPreorderOn k.memoryOrder cards where
  swap a _ b _ := k.memoryOrder_swap a b
  trans _ _ b hb _ _ hab hbc := memoryOrder_trans hab hbc (.inl (h b hb))

/-- A value of another kind is not told apart from any text. -/
theorem memoryOrder_eq_eq_of_not_ranks {s : String}
    (hs : a.stored? (Json.pathOf k.key) = some (.text s)) (hb : ¬ k.Ranks b) :
    k.memoryOrder a b = .eq := by
  obtain ⟨j, hj, hranked⟩ : ∃ j, b.stored? (Json.pathOf k.key) = some j ∧ ¬ j.IsRanked := by
    simpa [Ranks] using hb
  have hvalues : (SortValue.ofJson (.text s)).order (SortValue.ofJson j) = .eq := by
    rw [SortValue.ofJson_eq_other hranked]
    rfl
  cases hk : k.descending <;>
    simp only [memoryOrder, hs, hj, hk, Option.map_some, sortOrder, hvalues, ite_self, Ordering.swap]

/-- Two texts that a value of another kind is equal to are equal as well, if the order is a preorder. -/
theorem loweredText_eq_of_isPreorderOn {cards : List Json} (h : IsPreorderOn k.memoryOrder cards)
    (hb : b ∈ cards) (hother : ¬ k.Ranks b) (ha : a ∈ cards) (hc : c ∈ cards) {s t : String}
    (hs : a.stored? (Json.pathOf k.key) = some (.text s))
    (ht : c.stored? (Json.pathOf k.key) = some (.text t)) :
    Unicode.loweredText s = Unicode.loweredText t := by
  have hab : k.memoryOrder a b = .eq := memoryOrder_eq_eq_of_not_ranks hs hother
  have hbc : k.memoryOrder b c = .eq := by
    rw [memoryOrder_swap, memoryOrder_eq_eq_of_not_ranks ht hother]
    rfl
  have hac : k.memoryOrder a c = .eq := h.trans_eq ha hb hc hab hbc
  have hcompare : compare (Unicode.loweredText s) (Unicode.loweredText t) = .eq := by
    cases hk : k.descending <;>
      simpa [memoryOrder, hs, ht, hk, sortOrder, SortValue.ofJson, SortValue.order] using hac
  exact Std.LawfulEqCmp.eq_of_compare hcompare

/-- **When the order that the store sorts by is a total preorder.**  To compare two cards the other way
round always gives the opposite.  But a value that is neither a number nor a text is not told apart from
any text, so the order is transitive just as long as there is no such value, or no two texts that differ. -/
theorem memoryOrder_isPreorderOn_iff (k : SortKey) (cards : List Json) :
    k.arrange? cards = stableSort? k.memoryOrder cards ∧
    (IsPreorderOn k.memoryOrder cards →
      k.arrange? cards = some (insertionSort k.memoryOrder cards)) ∧
    (∀ a b, k.memoryOrder b a = (k.memoryOrder a b).swap) ∧
    (IsPreorderOn k.memoryOrder cards ↔
      (∀ card ∈ cards, k.Ranks card) ∨
      ∀ a ∈ cards, ∀ c ∈ cards, ∀ s t, a.stored? (Json.pathOf k.key) = some (.text s) →
        c.stored? (Json.pathOf k.key) = some (.text t) →
        Unicode.loweredText s = Unicode.loweredText t) := by
  refine ⟨rfl, stableSort?_eq, k.memoryOrder_swap, ?_, ?_⟩
  · intro h
    by_cases hranks : ∀ card ∈ cards, k.Ranks card
    · exact .inl hranks
    · push Not at hranks
      obtain ⟨b, hb, hother⟩ := hranks
      exact .inr fun a ha c hc s t hs ht => loweredText_eq_of_isPreorderOn h hb hother ha hc hs ht
  · rintro (hranks | htexts)
    · exact memoryOrder_isPreorderOn hranks
    · exact
        { swap := fun a _ b _ => k.memoryOrder_swap a b
          trans := fun a ha b _ c hc hab hbc => memoryOrder_trans hab hbc (.inr (htexts a ha c hc)) }

/-- Between the texts `b` and `a` a Boolean is not told apart from either: the store leaves the three cards
as they are, though `a` comes before `b`. -/
theorem memoryOrder_isPreorderOn_iff_boolean_between :
    let k : SortKey := ⟨"name", false⟩
    let card (name : Json) := Json.object [("name", name)]
    let cards := [card (.text "b"), card (.bool true), card (.text "a")]
    ¬ IsPreorderOn k.memoryOrder cards ∧ k.Precedes (card (.text "a")) (card (.text "b")) ∧
      k.arrange? cards = some cards := by
  intro k card cards
  have hpath : Json.pathOf k.key = ["name"] := by decide +kernel
  have hstored (name : Json) (h : name ≠ .null) :
      (card name).stored? (Json.pathOf k.key) = some name := by
    rw [hpath]
    cases name <;> first | contradiction | rfl
  have hboolean : ¬ k.Ranks (card (.bool true)) := fun h => by
    have hranked := h _ (hstored (.bool true) nofun)
    contradiction
  have hlowered : Unicode.loweredText "a" < Unicode.loweredText "b" := by decide +kernel
  obtain ⟨harrange, -, hswap, hpreorder⟩ := memoryOrder_isPreorderOn_iff k cards
  refine ⟨?_, .ascending (hstored _ nofun) (hstored _ nofun) rfl (.texts hlowered), ?_⟩
  · rw [hpreorder]
    rintro (hranks | htexts)
    · exact hboolean (hranks _ (by simp [cards]))
    · have heq := htexts (card (.text "a")) (by simp [cards]) (card (.text "b")) (by simp [cards]) _ _
        (hstored _ nofun) (hstored _ nofun)
      rw [heq] at hlowered
      exact String.lt_irrefl _ hlowered
  · have htext (s : String) : k.memoryOrder (card (.text s)) (card (.bool true)) = .eq :=
      memoryOrder_eq_eq_of_not_ranks (hstored _ nofun) hboolean
    have hfirst : k.memoryOrder (card (.bool true)) (card (.text "b")) = .eq := by
      rw [hswap, htext]
      rfl
    rw [harrange, stableSort?_of_length_le k.memoryOrder (by decide : cards.length ≤ 20)]
    simp [cards, insertionSort, insertAll, insertDescending, htext, hfirst]

end SortKey

/-! ### Answers -/

/-- **The cards that a store answers with are sorted and stable.**  When a regular expression of the
predicate is malformed there is no answer.  Otherwise, if the key holds numbers and texts only, the pages
are those of one list: it has the cards that pass, none comes after one that it precedes, and cards of
which none precedes another stay in the order in which they were inserted. -/
theorem MemoryStore.fetch_sorted (s : MemoryStore) (id : String) (p : Predicate) {k : SortKey}
    (hranked : ∀ card ∈ s.cardsOf id, k.Ranks card) :
    (∀ pattern, p.test? = .error pattern → ∀ r,
      s.fetch id p r = .error (.failed (malformedRegex pattern))) ∧
    ∀ test, p.test? = .ok test →
      let hits := (s.cardsOf id).filter test
      ∃ sorted : List Json, sorted.Perm hits ∧
        sorted.Pairwise (fun a b => ¬ k.Precedes b a) ∧
        (∀ tied : Json → Bool,
          (∀ a ∈ hits, ∀ b ∈ hits, tied a = true → tied b = true → ¬ k.Precedes a b) →
          sorted.filter tied = hits.filter tied) ∧
        ∀ page pageSize, s.fetch id p ⟨page, pageSize, some k⟩ =
          .ok ⟨(sorted.drop ((page - 1) * pageSize)).take pageSize, hits.length⟩ := by
  refine ⟨fun pattern hp r => by rw [fetch, matching?, hp], fun test htest => ?_⟩
  intro hits
  have hpreorder : IsPreorderOn k.memoryOrder hits :=
    SortKey.memoryOrder_isPreorderOn fun card hcard => hranked card (List.mem_of_mem_filter hcard)
  have hsorts := sorts_insertionSort hpreorder
  refine ⟨insertionSort k.memoryOrder hits, hsorts.perm, ?_, ?_, ?_⟩
  · refine hsorts.ascends.imp fun {a b} hab => ?_
    rw [← k.memoryOrder_eq_lt_iff, k.memoryOrder_swap a b]
    intro hlt
    exact hab (Ordering.swap_eq_lt.1 hlt)
  · intro tied htied
    refine hsorts.ties tied fun a ha b hb hpa hpb => ?_
    rw [Ne, k.memoryOrder_eq_lt_iff]
    exact htied a ha b hb hpa hpb
  · intro page pageSize
    have hpre (k' : SortKey) (hk : k' ∈ some k) : IsPreorderOn k'.memoryOrder hits := by
      cases hk
      exact hpreorder
    rw [fetch_of_preorder htest hpre, ← hsorts.perm.length_eq]
    rfl

/-- In descending order: texts by their lower case, a number, and last the card without a value. -/
theorem MemoryStore.fetch_sorted_descending :
    let k : SortKey := ⟨"name", true⟩
    let card (name : Json) := Json.object [("name", name)]
    let cards := [.object [], card (.text "a"), card (.ofNat 2), card (.text "B"), card (.text "A")]
    let s := MemoryStore.empty.insertAll "magic" cards
    (∀ card ∈ s.cardsOf "magic", k.Ranks card) ∧
      (∃ sorted : List Json, sorted.Perm cards ∧ sorted.Pairwise (fun a b => ¬ k.Precedes b a) ∧
        ∀ page pageSize, s.fetch "magic" .everything ⟨page, pageSize, some k⟩ =
          .ok ⟨(sorted.drop ((page - 1) * pageSize)).take pageSize, 5⟩) ∧
      s.fetch "magic" .everything ⟨1, 10, some k⟩ =
        .ok ⟨[card (.text "B"), card (.text "a"), card (.text "A"), card (.ofNat 2), .object []], 5⟩ := by
  intro k card cards s
  have hpath : Json.pathOf k.key = ["name"] := by decide +kernel
  have hcards : s.cardsOf "magic" = cards := by simp [s]
  have hranked : ∀ card ∈ s.cardsOf "magic", k.Ranks card := by
    have hpresent {name : Json} (h : name.IsRanked) : k.Ranks (card name) := by
      intro j hj
      rw [hpath] at hj
      cases h <;> cases hj <;> constructor
    have hmissing : k.Ranks (.object []) := by
      intro j hj
      rw [hpath] at hj
      contradiction
    rw [hcards]
    simp [cards, hmissing, hpresent (.text _), hpresent (.number _), Json.ofNat]
  refine ⟨hranked, ?_, ?_⟩
  · obtain ⟨-, hsorted⟩ := MemoryStore.fetch_sorted s "magic" .everything hranked
    obtain ⟨sorted, hperm, hpairwise, -, hfetch⟩ := hsorted (fun _ => true) rfl
    rw [List.filter_true, hcards] at hperm hfetch
    exact ⟨sorted, hperm, hpairwise, hfetch⟩
  · have horder :
        k.memoryOrder (card (.text "a")) (.object []) = .lt ∧
        k.memoryOrder (card (.ofNat 2)) (.object []) = .lt ∧
        k.memoryOrder (card (.ofNat 2)) (card (.text "a")) = .gt ∧
        k.memoryOrder (card (.text "B")) (.object []) = .lt ∧
        k.memoryOrder (card (.text "B")) (card (.ofNat 2)) = .lt ∧
        k.memoryOrder (card (.text "B")) (card (.text "a")) = .lt ∧
        k.memoryOrder (card (.text "A")) (.object []) = .lt ∧
        k.memoryOrder (card (.text "A")) (card (.ofNat 2)) = .lt ∧
        k.memoryOrder (card (.text "A")) (card (.text "a")) = .eq := by
      decide +kernel
    have hsorted : insertionSort k.memoryOrder cards =
        [card (.text "B"), card (.text "a"), card (.text "A"), card (.ofNat 2), .object []] := by
      simp [cards, insertionSort, CardQuery.insertAll, insertDescending, horder]
    have htest : Predicate.everything.test? = .ok fun _ => true := rfl
    have harranged : arrangeBy? (some k) cards = some (insertionSort k.memoryOrder cards) :=
      stableSort?_of_length_le k.memoryOrder (by decide : cards.length ≤ 20)
    rw [fetch_of_test htest, List.filter_true, hcards, harranged, hsorted]
    rfl

end CardQuery
