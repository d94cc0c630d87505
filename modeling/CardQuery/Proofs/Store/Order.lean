/-
**The order of the results in both stores.**

Each store sorts the cards in an order of its own.  A store in memory puts missing values last in both
directions, takes all numbers for doubles, and lowers the case of texts.  A table puts missing values
before all others, so that they come last in descending order only, compares texts as they are, and reads
numbers from their decimals, some of which it reads as another double.  The order of a table is always a
total preorder, and so is that of a store in memory on cards for which all this makes no difference: these
come in the same order from both.

Main definitions:

* `SortKey.SameOrder` — both stores agree on whether a card comes before another;
* `Json.Number.IsExact`, `Json.IsSortable`, `SortKey.Suits` — values and cards for which they do.

Main results:

* `SortKey.tableOrder_isPreorderOn` — the order of a table is a total preorder;
* `SortKey.Suits.sameOrder` — **cards that suit a key are ordered alike**;
* `SortKey.not_sameOrder_missing` — in ascending order a missing value never is;
* `SortKey.stores_order_alike` — **both stores order alike the cards that they compare alike**, and no
  others.
-/

import CardQuery.Proofs.Number.Exact
import CardQuery.Proofs.Store.Ranking

set_option autoImplicit false

namespace CardQuery

open CommandDraft (isPlainKey)
open Sql

/-! ### Values -/

/-- A table reads the number as that double which it is taken for in memory. -/
def Json.Number.IsExact (n : Json.Number) : Prop :=
  (Value.ofNumber n).units? = some n.toDouble.signedUnits

theorem Json.Number.isExact_integer {i : Int} (h : i.natAbs ≤ 2 ^ 53) :
    (Json.Number.integer i).IsExact := by
  have hfits : fitsInt64 i = true := by
    rw [fitsInt64_iff, int64Bound]
    omega
  simp only [IsExact, Value.ofNumber, int64?, hfits, if_true, toDouble, Double.signedUnits_ofInt h]
  rfl

/-- A table reads `536.0232934` as the next greater double. -/
example : ¬ (Json.Number.double (Double.ofRatio false 5360232934 10000000).get!).IsExact := by
  rw [Json.Number.IsExact]
  decide +kernel

/-- Values that both stores order alike: numbers that are read alike, and texts in lower case. -/
inductive Json.IsSortable : Json → Prop where
  | number {n : Json.Number} (h : n.IsExact) : IsSortable (.number n)
  | text {s : String} (h : Unicode.loweredText s = s) : IsSortable (.text s)

namespace Sql.Value

theorem order_of_units {a b : Value} {m n : Int} (ha : a.units? = some m) (hb : b.units? = some n) :
    a.order b = compare m n := by
  unfold order
  split
  · contradiction
  · simp only [ha, hb]

theorem rank_of_units {a : Value} {m : Int} (ha : a.units? = some m) : a.rank = 1 := by
  cases a <;> first | rfl | contradiction

/-- Values of different classes are ordered by their classes. -/
theorem order_of_rank_ne {a b : Value} (h : a.rank ≠ b.rank) : a.order b = compare a.rank b.rank := by
  cases a <;> cases b <;> first | rfl | contradiction

theorem order_of_rank_lt {a b : Value} (h : a.rank < b.rank) : a.order b = .lt := by
  rw [order_of_rank_ne (Nat.ne_of_lt h)]
  exact Nat.compare_eq_lt.2 h

theorem order_of_rank_gt {a b : Value} (h : b.rank < a.rank) : a.order b = .gt := by
  rw [order_of_rank_ne (Nat.ne_of_gt h)]
  exact Nat.compare_eq_gt.2 h

/-- The text of a value; numbers have none. -/
def content : Value → String
  | text s => s
  | _ => ""

theorem content_of_units {a : Value} {m : Int} (ha : a.units? = some m) : a.content = "" := by
  cases a <;> first | rfl | contradiction

/-- Values are ordered by their classes, then by their numbers, then by their texts. -/
theorem order_eq_compareLex (a b : Value) :
    a.order b = compareLex (compareOn rank)
      (compareLex (compareOn fun v => v.units?.getD 0) (compareOn content)) a b := by
  cases ha : a.units? with
  | none => cases a <;> cases b <;> first | contradiction | rfl
  | some m =>
      cases hb : b.units? with
      | none => cases a <;> cases b <;> first | contradiction | rfl
      | some n =>
          simp only [order_of_units ha hb, compareLex, compareOn, rank_of_units ha, rank_of_units hb,
            ha, hb, Option.getD_some, content_of_units ha, content_of_units hb,
            Std.ReflCmp.compare_self, Ordering.then_eq, Ordering.eq_then]

/-- To compare two values the other way round gives the opposite. -/
theorem order_swap (a b : Value) : b.order a = (a.order b).swap := by
  rw [order_eq_compareLex, order_eq_compareLex]
  exact Std.OrientedCmp.eq_swap

theorem order_trans {a b c : Value} (hab : a.order b ≠ .gt) (hbc : b.order c ≠ .gt) :
    a.order c ≠ .gt := by
  rw [order_eq_compareLex] at hab hbc ⊢
  exact ne_gt_trans hab hbc

theorem rank_ofJson_pos {j : Json} (h : j ≠ .null) : 0 < (ofJson j).rank := by
  cases j with
  | null => contradiction
  | number n =>
      rw [ofJson, ofNumber]
      split <;> exact Nat.zero_lt_succ _
  | _ => exact Nat.zero_lt_succ _

end Sql.Value

theorem Json.IsSortable.order_eq {j j' : Json} (h : j.IsSortable) (h' : j'.IsSortable) :
    (SortValue.ofJson j).order (SortValue.ofJson j') = (Value.ofJson j).order (Value.ofJson j') := by
  have hrank {n : Json.Number} (hn : n.IsExact) (s : String) :
      (Value.ofJson (.number n)).rank < (Value.ofJson (.text s)).rank := by
    rw [Value.ofJson, Value.rank_of_units hn]
    exact Nat.one_lt_two
  cases h with
  | number hn =>
      cases h' with
      | number hn' => exact (Value.order_of_units hn hn').symm
      | text ht' => exact (Value.order_of_rank_lt (hrank hn _)).symm
  | text ht =>
      cases h' with
      | number hn' => exact (Value.order_of_rank_gt (hrank hn' _)).symm
      | text ht' =>
          simp only [SortValue.ofJson, SortValue.order, Value.ofJson, Value.order, ht, ht']

theorem Json.stored?_ne_null {card j : Json} {path : List String} (h : card.stored? path = some j) :
    j ≠ .null := by
  unfold stored? at h
  split at h
  · contradiction
  · next hfound =>
    rintro rfl
    exact hfound h

/-! ### Cards -/

namespace SortKey

variable {k : SortKey} {a b : Json}

/-- Both stores agree on whether the first card comes before the second. -/
def SameOrder (k : SortKey) (a b : Json) : Prop := k.memoryOrder a b = .lt ↔ k.tableOrder a b = .lt

/-- The key holds a value on the card that both stores order alike, or none if the order is descending. -/
structure Suits (k : SortKey) (card : Json) : Prop where
  present : ∀ j, card.stored? (Json.pathOf k.key) = some j → j.IsSortable
  missing : card.stored? (Json.pathOf k.key) = none → k.descending = true

theorem columnValue_missing {key : String} {card : Json}
    (h : card.stored? (Json.pathOf key) = none) : columnValue key card = .null := by
  rw [columnValue, h, Option.map_none, Option.getD_none]

theorem rank_columnValue_pos {key : String} {card j : Json}
    (h : card.stored? (Json.pathOf key) = some j) : 0 < (columnValue key card).rank := by
  rw [columnValue, h, Option.map_some, Option.getD_some]
  exact Value.rank_ofJson_pos (Json.stored?_ne_null h)

/-- In a table a missing value stands before all others. -/
theorem order_columnValue_missing {key : String} {j : Json}
    (ha : a.stored? (Json.pathOf key) = none) (hb : b.stored? (Json.pathOf key) = some j) :
    (columnValue key a).order (columnValue key b) = .lt ∧
      (columnValue key b).order (columnValue key a) = .gt := by
  have hrank : (columnValue key a).rank < (columnValue key b).rank := by
    rw [columnValue_missing ha]
    exact rank_columnValue_pos hb
  exact ⟨Value.order_of_rank_lt hrank, Value.order_of_rank_gt hrank⟩

theorem order_eq_of_suits (ha : k.Suits a) (hb : k.Suits b) : k.memoryOrder a b = k.tableOrder a b := by
  simp only [memoryOrder, tableOrder]
  cases hx : a.stored? (Json.pathOf k.key) with
  | none =>
      rw [ha.missing hx]
      cases hy : b.stored? (Json.pathOf k.key) with
      | none =>
          rw [columnValue_missing hx, columnValue_missing hy]
          rfl
      | some y =>
          rw [(order_columnValue_missing hx hy).1]
          rfl
  | some x =>
      cases hy : b.stored? (Json.pathOf k.key) with
      | none =>
          rw [hb.missing hy, (order_columnValue_missing hy hx).2]
          rfl
      | some y =>
          have horder := (ha.present x hx).order_eq (hb.present y hy)
          simp only [columnValue, hx, hy, Option.map_some, Option.getD_some, sortOrder, horder]

/-- **Cards that suit a key are ordered alike.** -/
theorem Suits.sameOrder (ha : k.Suits a) (hb : k.Suits b) : k.SameOrder a b := by
  rw [SameOrder, order_eq_of_suits ha hb]

/-- **In ascending order a missing value is never ordered alike**: it comes last in memory, and first in
a table. -/
theorem not_sameOrder_missing (hk : k.descending = false) {j : Json}
    (ha : a.stored? (Json.pathOf k.key) = none) (hb : b.stored? (Json.pathOf k.key) = some j) :
    ¬ k.SameOrder b a := by
  have hmemory : k.memoryOrder b a = .lt := by
    simp only [memoryOrder, ha, hb]
    rfl
  have htable : k.tableOrder b a = .gt := by
    simp only [tableOrder, hk, (order_columnValue_missing ha hb).2, if_neg Bool.false_ne_true]
  rw [SameOrder, hmemory, htable]
  decide

theorem sameOrder_self (k : SortKey) (a : Json) : k.SameOrder a a := by
  have hmemory : k.memoryOrder a a = .eq := by
    have hvalue (x : SortValue) : x.order x = .eq := by
      cases x <;> first | exact Std.compare_self | rfl
    simp only [memoryOrder]
    cases (a.stored? (Json.pathOf k.key)).map SortValue.ofJson with
    | none => rfl
    | some x => cases hk : k.descending <;> simp [sortOrder, hvalue]
  have htable : k.tableOrder a a = .eq := by
    have hvalue (x : Value) : x.order x = .eq := by
      cases x <;> exact Std.compare_self
    simp [tableOrder, hvalue]
  rw [SameOrder, hmemory, htable]

/-- The order of a table is a total preorder. -/
theorem tableOrder_isPreorderOn (k : SortKey) (cards : List Json) :
    IsPreorderOn k.tableOrder cards where
  swap a _ b _ := by
    simp only [tableOrder, Value.order_swap (columnValue k.key a)]
    split <;> rfl
  trans a _ b _ c _ hab hbc := by
    cases hk : k.descending with
    | false =>
        simp only [tableOrder, hk, Bool.false_eq_true, if_false] at hab hbc ⊢
        exact Value.order_trans hab hbc
    | true =>
        simp only [tableOrder, hk, if_true, ← Value.order_swap] at hab hbc ⊢
        exact Value.order_trans hbc hab

/-- On cards that both stores order alike the order in memory is a total preorder, too. -/
theorem memoryOrder_isPreorderOn_of_sameOrder {cards : List Json}
    (h : ∀ a ∈ cards, ∀ b ∈ cards, k.SameOrder a b) : IsPreorderOn k.memoryOrder cards :=
  (k.tableOrder_isPreorderOn cards).congr (fun a _ b _ => k.memoryOrder_swap a b) h

/-! ### Pages of all cards -/

section Everything

variable {t : TableStore} {s : MemoryStore} {r : PageRequest}

theorem fetch_everything_memory {id : String} {arranged : List Json}
    (h : arrangeBy? r.sort (s.cardsOf id) = some arranged) :
    s.fetch id .everything r = .ok (.ofList r arranged) := by
  have htest : Predicate.everything.test? = .ok fun _ => true := rfl
  rw [MemoryStore.fetch_of_test htest, List.filter_true, h, MemoryStore.pageOf]

/-- A table reads the cards of the page back from their texts. -/
theorem fetch_everything_table (h : Mirrors t s) (hsort : ∀ k ∈ r.sort, isPlainKey k.key = true)
    (hoffset : r.offset < 2 ^ 63) (id : String) :
    t.fetch id .everything r =
      let page := PageResult.ofList r (sorted tableOrder r.sort (s.cardsOf id))
      (page.rows.mapM Json.reread).map fun rows => ⟨rows, page.total⟩ := by
  have hprepare : canPrepare t.names.dataColumn Predicate.everything.toSql 3 = true := rfl
  rw [h.fetch_eq hprepare hsort fun card _ => Predicate.holds_toSql_everything card, List.filter_true,
    Sql.skipped_of_lt hoffset]
  simp only [PageResult.ofList, (sorted_perm _ _ _).length_eq]

/-- A page that holds all cards. -/
theorem rows_ofList_all (order : SortKey → Json → Json → Ordering) (k : SortKey) (cards : List Json) :
    (PageResult.ofList ⟨1, cards.length, some k⟩ (sorted order (some k) cards)).rows =
      insertionSort (order k) cards := by
  have hlength : (insertionSort (order k) cards).length ≤ cards.length :=
    Nat.le_of_eq (insertionSort_perm (order k) cards).length_eq
  simp [PageResult.ofList, PageRequest.offset, sorted, List.take_of_length_le hlength]

/-- When the only page of two cards is the same, they are ordered alike. -/
theorem sameOrder_of_sort_eq (hab : a ≠ b)
    (h : insertionSort k.tableOrder [a, b] = insertionSort k.memoryOrder [a, b]) :
    k.SameOrder b a := by
  rw [insertionSort_pair, insertionSort_pair] at h
  rw [SameOrder]
  constructor
  · intro hmemory
    rw [if_pos hmemory] at h
    by_contra htable
    rw [if_neg htable] at h
    exact hab (List.cons.inj h).1
  · intro htable
    rw [if_pos htable] at h
    by_contra hmemory
    rw [if_neg hmemory] at h
    exact hab (List.cons.inj h).1.symm

end Everything

/-- **Both stores order alike the cards that they compare alike**, and no others. -/
theorem stores_order_alike {k : SortKey} (hkey : isPlainKey k.key = true) {names : TableNames}
    {table : TableStore} (htable : TableStore.create names = .ok table) (id : String) :
    -- cards that are ordered alike come on the same pages, as the table reads them back
    (∀ entries r, r.sort = some k → r.offset < 2 ^ 63 →
      (∀ a ∈ (MemoryStore.empty.fill entries).cardsOf id,
        ∀ b ∈ (MemoryStore.empty.fill entries).cardsOf id, a ≠ b → k.SameOrder a b) →
      ∃ page, (MemoryStore.empty.fill entries).fetch id .everything r = .ok page ∧
        (table.fill entries).fetch id .everything r =
          (page.rows.mapM Json.reread).map fun rows => ⟨rows, page.total⟩) ∧
    -- two cards that can be read back come on the same pages only if they are ordered alike
    (∀ a b, a.reread = .ok a → b.reread = .ok b → a ≠ b →
      (∀ r, r.sort = some k → r.offset < 2 ^ 63 →
        (table.fill [(id, a), (id, b)]).fetch id .everything r =
          (MemoryStore.empty.fill [(id, a), (id, b)]).fetch id .everything r) →
      k.SameOrder b a) ∧
    -- numbers that are doubles and texts in lower case are ordered alike, and so are missing values in
    -- descending order
    (∀ a b, k.Suits a → k.Suits b → k.SameOrder a b) ∧
    -- in ascending order missing values are not
    (k.descending = false → ∀ a b, a.stored? (Json.pathOf k.key) = none →
      b.stored? (Json.pathOf k.key) ≠ none → ¬ k.SameOrder b a) := by
  obtain ⟨-, hmirrors⟩ := Mirrors.create htable
  have hsort {r : PageRequest} (hr : r.sort = some k) : ∀ k ∈ r.sort, isPlainKey k.key = true := by
    rw [hr]
    intro k' hk'
    cases hk'
    exact hkey
  refine ⟨?_, ?_, fun a b ha hb => ha.sameOrder hb, ?_⟩
  · intro entries r hr hoffset hdistinct
    let cards := (MemoryStore.empty.fill entries).cardsOf id
    have hsame : ∀ a ∈ cards, ∀ b ∈ cards, k.SameOrder a b := by
      intro a ha b hb
      by_cases hab : a = b
      · rw [hab]
        exact k.sameOrder_self b
      · exact hdistinct a ha b hb hab
    have harranged : arrangeBy? r.sort cards = some (insertionSort k.memoryOrder cards) := by
      rw [hr]
      exact stableSort?_eq (memoryOrder_isPreorderOn_of_sameOrder hsame)
    refine ⟨_, fetch_everything_memory harranged, ?_⟩
    have hsorted : insertionSort k.tableOrder cards = insertionSort k.memoryOrder cards :=
      (insertionSort_congr hsame).symm
    rw [fetch_everything_table (hmirrors.fill entries) (hsort hr) hoffset id]
    simp only [hr, sorted]
    rw [hsorted]
  · intro a b ha hb hab hfetch
    have hcards : (MemoryStore.empty.fill [(id, a), (id, b)]).cardsOf id = [a, b] := by
      simp [MemoryStore.cardsOf_fill]
    have hsmall : (⟨1, 2, some k⟩ : PageRequest).offset < 2 ^ 63 := by simp [PageRequest.offset]
    have hread : ∀ card ∈ insertionSort k.tableOrder [a, b], card.reread = .ok card := by
      intro card hcard
      rcases List.mem_pair.1 ((insertionSort_perm _ _).subset hcard) with rfl | rfl
      · exact ha
      · exact hb
    have hpage := hfetch ⟨1, 2, some k⟩ rfl hsmall
    have harranged : arrangeBy? (some k) ((MemoryStore.empty.fill [(id, a), (id, b)]).cardsOf id) =
        some (sorted memoryOrder (some k) [a, b]) := by
      have hfew : [a, b].length ≤ 20 := by simp
      rw [hcards]
      exact stableSort?_of_length_le k.memoryOrder hfew
    rw [fetch_everything_memory harranged, fetch_everything_table (hmirrors.fill _) (hsort rfl) hsmall,
      hcards] at hpage
    obtain ⟨rows, hrows, heq⟩ := map_eq_ok_iff.1 hpage
    have hmemory : rows = insertionSort k.memoryOrder [a, b] :=
      (congrArg PageResult.rows heq).trans (rows_ofList_all memoryOrder k [a, b])
    have htable : (insertionSort k.tableOrder [a, b]).mapM Json.reread = .ok rows := by
      rw [← hrows, ← rows_ofList_all tableOrder k [a, b]]
      rfl
    rw [mapM_eq_ok_map hread, List.map_id'] at htable
    exact sameOrder_of_sort_eq hab ((Except.ok.inj htable).trans hmemory)
  · intro hk a b ha hb
    obtain ⟨j, hj⟩ := Option.ne_none_iff_exists'.1 hb
    exact not_sameOrder_missing hk ha hj

/-- Two cards with numbers come in the same order from both stores, and a card without one does not. -/
theorem stores_order_alike_numbers :
    let k : SortKey := ⟨"cmc", false⟩
    let one := Json.object [("cmc", .ofNat 1)]
    let two := Json.object [("cmc", .ofNat 2)]
    let missing := Json.object []
    let memory := MemoryStore.empty.fill [("magic", two), ("magic", one)]
    let table := (⟨.standard, []⟩ : TableStore).fill [("magic", two), ("magic", one)]
    isPlainKey k.key = true ∧ TableStore.create .standard = .ok ⟨.standard, []⟩ ∧
      (∃ page, memory.fetch "magic" .everything ⟨1, 10, some k⟩ = .ok page ∧
        table.fetch "magic" .everything ⟨1, 10, some k⟩ =
          (page.rows.mapM Json.reread).map fun rows => ⟨rows, page.total⟩) ∧
      ¬ k.SameOrder one missing := by
  intro k one two missing memory table
  have hkey : isPlainKey k.key = true := by decide +kernel
  have hpath : Json.pathOf k.key = ["cmc"] := by decide +kernel
  have hsuits {n : Nat} (hn : n ≤ 2 ^ 53) : k.Suits (.object [("cmc", .ofNat n)]) := by
    have hstored : (Json.object [("cmc", .ofNat n)]).stored? (Json.pathOf k.key) = some (.ofNat n) := by
      rw [hpath]
      rfl
    constructor
    · intro j hj
      rw [hstored] at hj
      cases hj
      exact .number (Json.Number.isExact_integer (by simpa using hn))
    · rw [hstored]
      intro h
      contradiction
  have hmissing : missing.stored? (Json.pathOf k.key) = none := by
    rw [hpath]
    rfl
  have hone : one.stored? (Json.pathOf k.key) ≠ none := by
    rw [hpath]
    exact Option.some_ne_none _
  have hcreate : TableStore.create .standard = .ok ⟨.standard, []⟩ := rfl
  obtain ⟨hpages, -, hsame, hnot⟩ := stores_order_alike hkey hcreate "magic"
  refine ⟨hkey, hcreate, hpages _ ⟨1, 10, some k⟩ rfl ?_ ?_, hnot rfl missing one hmissing hone⟩
  · simp [PageRequest.offset]
  · have hcards : memory.cardsOf "magic" = [two, one] := by simp [memory, MemoryStore.cardsOf_fill]
    have hall : ∀ card ∈ [two, one], k.Suits card := by
      intro card hcard
      rcases List.mem_pair.1 hcard with rfl | rfl
      · exact hsuits (by decide)
      · exact hsuits (by decide)
    rw [hcards]
    exact fun a ha b hb _ => hsame a b (hall a ha) (hall b hb)

end SortKey

end CardQuery
