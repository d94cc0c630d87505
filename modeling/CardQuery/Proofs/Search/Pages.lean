/-
**Pages of a search.**

A store in memory takes in single cards and lists of cards, and holds for every model what it has been
given, in that order.  The cards that a query wants are then one fixed list, whatever page is asked for,
and a search answers with a piece of it.  There is one exception.  With more than 20 cards the sort may give
up on an order that is no total preorder, and then no page of the search has an answer.

Main definitions:

* `Delivery`, `MemoryStore.receive`, `MemoryStore.receiveAll` — what a store takes in, at once and in all;
* `Delivery.cardsFor` — the cards of it that are meant for a model.

Main results:

* `MemoryStore.cardsOf_receiveAll` — **what a store holds** after all it has taken in;
* `pages_flatten` — the pages of a list, one after another, are its beginning;
* `SearchSettings.fitsNat64_offset` — counting the cards before a page does not overflow;
* `Engine.search_pages` — **every page of a search**, and when there is none.
-/

import CardQuery.Proofs.Names
import CardQuery.Proofs.Search.Conjunction
import CardQuery.Proofs.Store.Offset
import CardQuery.Search.Engine

set_option autoImplicit false

namespace CardQuery

/-! ### What a store takes in -/

/-- What a store takes in at once: a card, or the cards of a list. -/
inductive Delivery where
  | card (model : String) (card : Json)
  | cards (model : String) (cards : List Json)

/-- The cards that are meant for a model. -/
def Delivery.cardsFor (id : String) : Delivery → List Json
  | card model c => if model == id then [c] else []
  | cards model cs => if model == id then cs else []

namespace MemoryStore

/-- The store after it has taken in a card or a list of cards. -/
def receive (s : MemoryStore) : Delivery → MemoryStore
  | .card model c => s.insert model c
  | .cards model cs => s.insertAll model cs

/-- The store after all that it has taken in. -/
def receiveAll (s : MemoryStore) (history : List Delivery) : MemoryStore := history.foldl receive s

theorem cardsOf_receive (s : MemoryStore) (d : Delivery) (id : String) :
    (s.receive d).cardsOf id = s.cardsOf id ++ d.cardsFor id := by
  cases d with
  | card model c => exact s.cardsOf_insert model c id
  | cards model cs => exact s.cardsOf_insertAll model cs id

/-- **A store holds the cards of a model** behind each other in the order in which it was given them,
whatever came for other models in between. -/
theorem cardsOf_receiveAll (s : MemoryStore) (history : List Delivery) (id : String) :
    (s.receiveAll history).cardsOf id = s.cardsOf id ++ history.flatMap (Delivery.cardsFor id) := by
  induction history generalizing s with
  | nil => rw [receiveAll, List.foldl_nil, List.flatMap_nil, List.append_nil]
  | cons d history ih =>
      have hreceive : s.receiveAll (d :: history) = (s.receive d).receiveAll history := rfl
      rw [hreceive, ih, cardsOf_receive, List.flatMap_cons, List.append_assoc]

end MemoryStore

/-! ### Pages -/

/-- The pages of a list, one after another, are its beginning: none of its items is lost or repeated. -/
theorem pages_flatten {α : Type} (items : List α) (size n : Nat) :
    (List.range n).flatMap (fun i => (items.drop (i * size)).take size) = items.take (n * size) := by
  induction n with
  | zero => rw [List.range_zero, List.flatMap_nil, Nat.zero_mul, List.take_zero]
  | succ n ih =>
      rw [List.range_succ, List.flatMap_append, ih, List.flatMap_singleton, Nat.succ_mul, List.take_add]

/-- The size of the pages: the one that is asked for or else the usual one, and between one and the most
that the settings allow. -/
def SearchSettings.pageSizeOf (s : SearchSettings) (o : SearchOptions) : Nat :=
  min (max 1 (o.pageSize.getD s.defaultPageSize)) (max 1 s.maxPageSize)

theorem SearchSettings.pageSizeOf_bounds (s : SearchSettings) (o : SearchOptions) :
    1 ≤ s.pageSizeOf o ∧ s.pageSizeOf o ≤ max 1 s.maxPageSize := by
  rw [pageSizeOf]
  omega

/-- Counting the cards before a page of 32 bits stays within 64 bits. -/
theorem SearchSettings.fitsNat64_offset {s : SearchSettings} {o : SearchOptions}
    (sort : Option SortKey) (hmost : fitsNat32 s.maxPageSize = true)
    (hpage : ∀ page ∈ o.page, fitsNat32 page = true) :
    fitsNat64 (s.request o sort).offset = true := by
  have hsize : fitsNat32 (s.request o sort).pageSize = true := by
    have hrequest : (s.request o sort).pageSize = s.pageSizeOf o := rfl
    have hle := (s.pageSizeOf_bounds o).2
    rw [fitsNat32_iff] at hmost ⊢
    rw [hrequest]
    omega
  have hasked : fitsNat32 (s.request o sort).page = true := by
    simp only [request, fitsNat32_iff]
    cases hp : o.page with
    | none => simp
    | some page =>
        have hfits := fitsNat32_iff.1 (hpage page hp)
        simp only [Option.getD_some]
        omega
  have hlt := PageRequest.offset_lt hasked hsize
  rw [fitsNat64_iff]
  omega

theorem EmptyQuery.eq_noPredicates_of_predicate {policy : EmptyQuery} {filters : List Predicate}
    (h : policy.predicate filters = none) : policy = .noPredicates := by
  unfold predicate at h
  split at h
  · cases policy with
    | matchAll => contradiction
    | noPredicates => rfl
  · contradiction

namespace Engine

variable {e : Engine} {id : String} {m : Model}

theorem search_eq (hm : e.registry.get? id = some m) (store : Store) (query : String)
    (o : SearchOptions) :
    e.search store id query o =
      let plan := m.plan e.catalog e.settings.emptyQuery query
      match plan.predicate with
      | none => .ok ⟨plan, .empty⟩
      | some p =>
        match store.fetch id p (e.settings.request o plan.sort) with
        | .ok result => .ok ⟨plan, result⟩
        | .error (.failed error) => .error (.storeUnavailable error.causes)
        | .error .aborted => .error .aborted := by
  have hplan : e.plan id query = .ok (m.plan e.catalog e.settings.emptyQuery query) := by
    rw [plan, model, hm]
    rfl
  rw [search, hplan]
  rfl

/-- Without a predicate nothing is asked of the store, which takes the settings to say so. -/
theorem search_of_no_predicate (hm : e.registry.get? id = some m) {query : String}
    (hnone : (m.plan e.catalog e.settings.emptyQuery query).predicate = none) :
    e.settings.emptyQuery = .noPredicates ∧ ∀ store o,
      e.search store id query o = .ok ⟨m.plan e.catalog e.settings.emptyQuery query, ⟨[], 0⟩⟩ := by
  refine ⟨?_, fun store o => ?_⟩
  · have hpredicate := m.predicate_plan e.catalog e.settings.emptyQuery query
    exact EmptyQuery.eq_noPredicates_of_predicate (hpredicate.symm.trans hnone)
  · rw [e.search_eq hm]
    simp only [hnone]
    rfl

/-- What a store in memory gives is a page of the cards that pass the test, unless the sort gives up. -/
theorem fetch_request {p : Predicate} {test : Json → Bool} (htest : p.test? = .ok test)
    (cards : MemoryStore) (id : String) (o : SearchOptions) (sort : Option SortKey) :
    cards.store.fetch id p (e.settings.request o sort) =
      MemoryStore.pageOf (e.settings.request o sort) (arrangeBy? sort ((cards.cardsOf id).filter test)) :=
  MemoryStore.fetch_of_test htest cards id (e.settings.request o sort)

section Predicate

variable {query : String} {p : Predicate} {test : Json → Bool}
  (hm : e.registry.get? id = some m)
  (hp : (m.plan e.catalog e.settings.emptyQuery query).predicate = some p)
  (htest : p.test? = .ok test) (cards : MemoryStore)

include hm hp htest

/-- A page of a search among cards in memory is a page of those that pass the test, in order. -/
theorem search_page {hits : List Json}
    (hhits : arrangeBy? (m.plan e.catalog e.settings.emptyQuery query).sort
      ((cards.cardsOf id).filter test) = some hits) (o : SearchOptions) :
    let plan := m.plan e.catalog e.settings.emptyQuery query
    e.search cards.store id query o = .ok ⟨plan, .ofList (e.settings.request o plan.sort) hits⟩ := by
  rw [e.search_eq hm]
  simp only [hp, fetch_request htest, hhits, MemoryStore.pageOf]

/-- When the sort gives up, so does the search. -/
theorem search_aborted
    (hnone : arrangeBy? (m.plan e.catalog e.settings.emptyQuery query).sort
      ((cards.cardsOf id).filter test) = none) (o : SearchOptions) :
    e.search cards.store id query o = .error .aborted := by
  rw [e.search_eq hm]
  simp only [hp, fetch_request htest, hnone, MemoryStore.pageOf]

end Predicate

/-- Twenty-one cards with a Boolean behind every two texts: the sort gives up, and no page has an answer. -/
theorem search_pages_aborted :
    let order : Command :=
      ⟨"order", "order", [], [.has], [], none, false, [], .order [("name", "name")], none⟩
    let m : Model := ⟨"cards", [order], order⟩
    let e : Engine := ⟨⟨[m]⟩, default, ⟨.matchAll, 20, 100⟩⟩
    let card (name : Json) : Json := .object [("name", name)]
    let three := [card (.text "b"), card (.text "a"), card (.bool true)]
    let history : List Delivery := [.cards "cards" (List.replicate 7 three).flatten]
    ∀ o, e.search (MemoryStore.empty.receiveAll history).store "cards" "order:name" o =
      .error .aborted := by
  intro order m e card three history o
  have hm : e.registry.get? "cards" = some m := by
    have hid : (m.id == "cards") = true := rfl
    simp only [e, Registry.get?, List.find?_cons, hid]
  have hcontents : contents "order:name" =
      [.ok ⟨[], some "order", none, some .has, .text "name"⟩] := by decide +kernel
  have hget : m.get? "order" = some order := Model.get?_first (c := order) rfl
  have hresolve : m.resolve ⟨[], some "order", none, some .has, .text "name"⟩ =
      .ok ⟨⟨order, none, .text "name", .has, []⟩, none, []⟩ := by
    simp only [Model.resolve, Model.addressed, hget, bind, Except.bind]
    rfl
  have hmeanings : m.meanings (pieces "order:name") = [.sort ⟨"name", false⟩] := by
    have hkey : Binding.sortKey ⟨order, none, .text "name", .has, []⟩ [("name", "name")] =
        .ok ⟨"name", false⟩ := by
      decide +kernel
    rw [m.meanings_pieces, hcontents]
    simp only [List.filterMap_cons, List.filterMap_nil, Model.meaningOf?, Except.toOption,
      Option.bind_some, Model.meaning?, hresolve, Argument.meaning, hkey, order, Except.map]
  have hpredicate : (m.plan default .matchAll "order:name").predicate = some .everything := by
    rw [m.predicate_plan, hmeanings]
    rfl
  have hsort : (m.plan default .matchAll "order:name").sort = some ⟨"name", false⟩ := by
    rw [m.sort_plan, hmeanings]
    rfl
  refine search_aborted hm hpredicate rfl (MemoryStore.empty.receiveAll history) ?_ o
  rw [hsort]
  decide +kernel

/-- **Every page of a search** is a piece of one list, which holds the cards of the model that meet the
predicate.  There is one such list for all pages, or the search gives up whatever page is asked for. -/
theorem search_pages (hm : e.registry.get? id = some m) (query : String) (history : List Delivery) :
    let plan := m.plan e.catalog e.settings.emptyQuery query
    let store := (MemoryStore.empty.receiveAll history).store
    let inserted := history.flatMap (Delivery.cardsFor id)
    let size (o : SearchOptions) :=
      min (max 1 (o.pageSize.getD e.settings.defaultPageSize)) (max 1 e.settings.maxPageSize)
    -- the size of a page
    (∀ o, 1 ≤ size o ∧ size o ≤ max 1 e.settings.maxPageSize) ∧
    -- without a predicate there is nothing to be found, which takes the settings to say so
    (plan.predicate = none → e.settings.emptyQuery = .noPredicates ∧
      ∀ o, e.search store id query o = .ok ⟨plan, ⟨[], 0⟩⟩) ∧
    ∀ p test, plan.predicate = some p → p.test? = .ok test →
      (∀ hits, arrangeBy? plan.sort (inserted.filter test) = some hits →
        hits.Perm (inserted.filter test) ∧
        (plan.sort = none → hits = inserted.filter test) ∧
        -- one page
        (∀ o, e.search store id query o =
          .ok ⟨plan, ⟨(hits.drop ((max 1 (o.page.getD 1) - 1) * size o)).take (size o),
            hits.length⟩⟩) ∧
        -- the first pages of some size together
        ∀ (pageSize : Option Nat) (n : Nat) (pages : Nat → SearchResponse),
          (∀ i < n, e.search store id query ⟨some (i + 1), pageSize⟩ = .ok (pages i)) →
          (List.range n).flatMap (fun i => (pages i).result.rows) =
            hits.take (n * size ⟨none, pageSize⟩)) ∧
      -- no page
      (arrangeBy? plan.sort (inserted.filter test) = none →
        ∀ o, e.search store id query o = .error .aborted) ∧
      -- there are pages without a sort, of up to 20 cards, and in an order that is a total preorder
      (IsArrangeable plan.sort (inserted.filter test) →
        ∃ hits, arrangeBy? plan.sort (inserted.filter test) = some hits) ∧
      -- numbers of 32 bits
      (fitsNat32 e.settings.maxPageSize = true → ∀ o : SearchOptions,
        (∀ page ∈ o.page, fitsNat32 page = true) →
        fitsNat64 (e.settings.request o plan.sort).offset = true) := by
  intro plan store inserted size
  have hcards : (MemoryStore.empty.receiveAll history).cardsOf id = inserted := by
    rw [MemoryStore.cardsOf_receiveAll, MemoryStore.cardsOf_empty, List.nil_append]
  refine ⟨e.settings.pageSizeOf_bounds, fun hnone => ?_, fun p test hp htest =>
    ⟨fun hits hhits => ?_, fun hnone => ?_, exists_arrangeBy?, fun hmost o ho => ?_⟩⟩
  · obtain ⟨hempty, hsearch⟩ := e.search_of_no_predicate hm hnone
    exact ⟨hempty, hsearch store⟩
  · have hpage (o : SearchOptions) : e.search store id query o =
        .ok ⟨plan, ⟨(hits.drop ((max 1 (o.page.getD 1) - 1) * size o)).take (size o), hits.length⟩⟩ :=
      search_page hm hp htest (MemoryStore.empty.receiveAll history) (by rw [hcards]; exact hhits) o
    refine ⟨arrangeBy?_perm hhits, fun hnone => ?_, hpage, fun pageSize n pages hpages => ?_⟩
    · rw [hnone] at hhits
      exact (Option.some.inj hhits).symm
    · rw [← pages_flatten]
      refine List.flatMap_congr fun i hi => ?_
      have hsame := (hpages i (List.mem_range.1 hi)).symm.trans (hpage ⟨some (i + 1), pageSize⟩)
      rw [Except.ok.inj hsame]
      have hbefore : max 1 (i + 1) - 1 = i := by omega
      simp only [Option.getD_some, hbefore]
      rfl
  · exact search_aborted hm hp htest (MemoryStore.empty.receiveAll history) (by rw [hcards]; exact hnone)
  · exact SearchSettings.fitsNat64_offset plan.sort hmost ho

/-- The second page has what the first one has left, and the size that was asked for is cut down. -/
theorem search_pages_second :
    let name : Command := ⟨"name", "name", [], [.has], [], none, false, [], .text, none⟩
    let m : Model := ⟨"cards", [name], name⟩
    let e : Engine := ⟨⟨[m]⟩, default, ⟨.matchAll, 20, 2⟩⟩
    let card (s : String) : Json := .object [("name", .text s)]
    let history : List Delivery :=
      [.card "cards" (card "a"), .card "other" (card "x"), .cards "cards" [card "b", card "c"]]
    e.search (MemoryStore.empty.receiveAll history).store "cards" "" ⟨some 2, some 10⟩ =
      .ok ⟨m.plan default .matchAll "", ⟨[card "c"], 3⟩⟩ := by
  intro name m e card history
  have hm : e.registry.get? "cards" = some m := by
    have hid : (m.id == "cards") = true := rfl
    simp only [e, Registry.get?, List.find?_cons, hid]
  have hpieces : pieces "" = [] := by decide +kernel
  have hpredicate : (m.plan default .matchAll "").predicate = some .everything := by
    rw [m.predicate_plan, hpieces]
    rfl
  have hsort : (m.plan default .matchAll "").sort = none := by
    rw [m.sort_plan, hpieces]
    rfl
  obtain ⟨-, -, hpages⟩ := search_pages hm "" history
  obtain ⟨hhits, -⟩ := hpages .everything (fun _ => true) hpredicate rfl
  rw [hsort] at hhits
  obtain ⟨-, -, hpage, -⟩ := hhits [card "a", card "b", card "c"] rfl
  exact hpage ⟨some 2, some 10⟩

end Engine

end CardQuery
