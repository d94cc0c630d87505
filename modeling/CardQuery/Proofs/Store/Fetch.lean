/-
**What the two stores answer.**

A store takes in cards one after another.  A table that has taken in the same cards as a store in memory
holds them in the same order, each with its text.  Both stores then answer with a page of the cards that
meet a predicate, in an order of their own, and the table has to read the cards of the page back from
their texts.  The store in memory always has its cards in order, or none, unless its order is no total
preorder on them.

Main definitions:

* `MemoryStore.fill`, `TableStore.fill` — stores after they have taken in some cards;
* `Mirrors` — the table holds the cards of the store in memory;
* `SortKey.tableOrder` — the order of cards in a table.

Main results:

* `Mirrors.fill` — **stores that are filled alike hold the same cards**;
* `arrangeBy?_perm`, `arrangeBy?_eq`, `exists_arrangeBy?` — **the cards in order**, and when there are any;
* `MemoryStore.fetch_of_test`, `Mirrors.fetch_eq` — **the answers of the two stores**;
* `Mirrors.total_of_fetch`, `Mirrors.exists_fetch` — the total of a table, and when there is an answer.
-/

import CardQuery.Proofs.Outcome
import CardQuery.Proofs.Predicate.Agreement
import CardQuery.Proofs.Sort.Stable
import CardQuery.Proofs.Sql.Statement
import CardQuery.Store.Memory
import CardQuery.Store.Table

set_option autoImplicit false

namespace CardQuery

open CommandDraft (isPlainKey)
open Sql

/-! ### Filling stores -/

/-- The store after it has taken in cards one after another, each for its model. -/
def MemoryStore.fill (s : MemoryStore) (entries : List (String × Json)) : MemoryStore :=
  entries.foldl (fun s e => s.insert e.1 e.2) s

/-- The table after it has taken in cards one after another, each for its model. -/
def TableStore.fill (t : TableStore) (entries : List (String × Json)) : TableStore :=
  entries.foldl (fun t e => t.insert e.1 e.2) t

/-- The table holds the cards of the store in memory, in the same order and each with its text. -/
structure Mirrors (t : TableStore) (s : MemoryStore) : Prop where
  cards : ∀ id, (t.rows.filter fun row => row.model == id).map (·.card) = s.cardsOf id
  text : ∀ row ∈ t.rows, row.text = row.card.compact

@[simp] theorem MemoryStore.cardsOf_insertAll (s : MemoryStore) (model : String) (cards : List Json)
    (id : String) : (s.insertAll model cards).cardsOf id =
      s.cardsOf id ++ if model == id then cards else [] := by
  rw [insertAll, cardsOf, KeyedList.find?_insert]
  by_cases hid : model = id
  · simp [hid]
  · simp [hid, cardsOf]

@[simp] theorem MemoryStore.cardsOf_insert (s : MemoryStore) (model : String) (card : Json)
    (id : String) : (s.insert model card).cardsOf id =
      s.cardsOf id ++ if model == id then [card] else [] :=
  s.cardsOf_insertAll model [card] id

@[simp] theorem MemoryStore.cardsOf_empty (id : String) : MemoryStore.empty.cardsOf id = [] := rfl

/-- A store that has been filled holds the cards of a model among the given ones behind those that it
held before. -/
theorem MemoryStore.cardsOf_fill (s : MemoryStore) (entries : List (String × Json)) (id : String) :
    (s.fill entries).cardsOf id =
      s.cardsOf id ++ (entries.filter fun e => e.1 == id).map (·.2) := by
  induction entries generalizing s with
  | nil => rw [fill, List.foldl_nil, List.filter_nil, List.map_nil, List.append_nil]
  | cons e entries ih =>
      have hfill : s.fill (e :: entries) = (s.insert e.1 e.2).fill entries := rfl
      rw [hfill, ih, cardsOf_insert, List.append_assoc, List.filter_cons]
      split <;> rfl

theorem TableStore.names_fill (t : TableStore) (entries : List (String × Json)) :
    (t.fill entries).names = t.names := by
  induction entries generalizing t with
  | nil => rfl
  | cons e entries ih => exact ih (t.insert e.1 e.2)

namespace Mirrors

variable {t : TableStore} {s : MemoryStore}

theorem create {names : TableNames} (h : TableStore.create names = .ok t) :
    t.names = names ∧ Mirrors t .empty := by
  obtain ⟨-, -, rfl⟩ := map_eq_ok_iff.1 h
  exact ⟨rfl, fun id => rfl, by simp⟩

/-- Both stores take in a card. -/
theorem insert (h : Mirrors t s) (model : String) (card : Json) :
    Mirrors (t.insert model card) (s.insert model card) where
  cards id := by
    rw [TableStore.insert, List.filter_append, List.map_append, h.cards, MemoryStore.cardsOf_insert]
    congr 1
    by_cases hid : model = id <;> simp [hid]
  text row hrow := by
    rcases List.mem_append.1 hrow with hrow | hrow
    · exact h.text row hrow
    · rw [List.mem_singleton.1 hrow]

/-- **Stores that are filled alike hold the same cards.** -/
theorem fill (h : Mirrors t s) (entries : List (String × Json)) :
    Mirrors (t.fill entries) (s.fill entries) := by
  induction entries generalizing t s with
  | nil => exact h
  | cons e entries ih => exact ih (h.insert e.1 e.2)

end Mirrors

/-! ### Orders of cards -/

/-- The value at a key in SQL. -/
def columnValue (key : String) (card : Json) : Value :=
  ((card.stored? (Json.pathOf key)).map Value.ofJson).getD .null

namespace SortKey

/-- The order of cards in a table. -/
def tableOrder (k : SortKey) (a b : Json) : Ordering :=
  let ordering := (columnValue k.key a).order (columnValue k.key b)
  if k.descending then ordering.swap else ordering

/-- Cards sorted in an order that a key may give; without one they are left as they are. -/
def sorted (order : SortKey → Json → Json → Ordering) (sort : Option SortKey) (cards : List Json) :
    List Json :=
  match sort with
  | none => cards
  | some k => insertionSort (order k) cards

theorem sorted_perm (order : SortKey → Json → Json → Ordering) (sort : Option SortKey)
    (cards : List Json) : (sorted order sort cards).Perm cards := by
  cases sort with
  | none => exact .refl _
  | some k => exact insertionSort_perm _ cards

end SortKey

section Arranging

variable {sort : Option SortKey} {cards arranged : List Json}

/-- The cards in order are the given ones. -/
theorem arrangeBy?_perm (h : arrangeBy? sort cards = some arranged) : arranged.Perm cards := by
  cases sort with
  | none =>
      cases h
      exact .refl _
  | some k => exact stableSort?_perm h

/-- **The cards in order** when the order is a total preorder. -/
theorem arrangeBy?_eq (h : ∀ k ∈ sort, IsPreorderOn k.memoryOrder cards) :
    arrangeBy? sort cards = some (SortKey.sorted SortKey.memoryOrder sort cards) := by
  cases sort with
  | none => rfl
  | some k => exact stableSort?_eq (h k rfl)

/-- The order that is asked for does not make the sort give up: there is none, there are at most 20
cards, or it is a total preorder on them. -/
def IsArrangeable (sort : Option SortKey) (cards : List Json) : Prop :=
  cards.length ≤ 20 ∨ ∀ k ∈ sort, IsPreorderOn k.memoryOrder cards

/-- There are cards in order unless there are many and the order is no total preorder on them. -/
theorem exists_arrangeBy? (h : IsArrangeable sort cards) :
    ∃ arranged, arrangeBy? sort cards = some arranged := by
  rcases h with hfew | hpreorder
  · cases sort with
    | none => exact ⟨cards, rfl⟩
    | some k => exact ⟨_, stableSort?_of_length_le k.memoryOrder hfew⟩
  · exact ⟨_, arrangeBy?_eq hpreorder⟩

end Arranging

theorem Sql.sortValue_eq {key : String} (hkey : isPlainKey key = true) (card : Json) :
    sortValue key card = .ok (columnValue key card) :=
  Content.eval_extract hkey card

namespace TableStore

theorem arrange_eq {k : SortKey} (hkey : isPlainKey k.key = true) (rows : List TableRow) :
    arrange k rows = .ok (insertionSort (fun a b => k.tableOrder a.card b.card) rows) := by
  have hkeyed : (rows.mapM fun row => return (← sortValue k.key row.card, row)) =
      (.ok (rows.map fun row => (columnValue k.key row.card, row)) : Except EvalError _) :=
    mapM_eq_ok_map fun row _ => by rw [sortValue_eq hkey]; rfl
  rw [arrange, hkeyed]
  refine congrArg Except.ok ?_
  rw [insertionSort_map, List.map_map]
  exact List.map_id _

theorem arrangeBy_eq {sort : Option SortKey} (hsort : ∀ k ∈ sort, isPlainKey k.key = true)
    (rows : List TableRow) :
    ∃ arranged, arrangeBy sort rows = .ok arranged ∧ arranged.Perm rows ∧
      arranged.map (·.card) = SortKey.sorted SortKey.tableOrder sort (rows.map (·.card)) := by
  cases sort with
  | none => exact ⟨rows, rfl, .refl _, rfl⟩
  | some k =>
      refine ⟨_, arrange_eq (hsort k rfl) rows, insertionSort_perm _ rows, ?_⟩
      rw [SortKey.sorted, insertionSort_map]

end TableStore

/-! ### Answers -/

/-- **The answer of a store in memory**: a page of the cards in order, unless the sort gives up. -/
theorem MemoryStore.fetch_of_test {p : Predicate} {test : Json → Bool} (htest : p.test? = .ok test)
    (s : MemoryStore) (id : String) (r : PageRequest) :
    s.fetch id p r = pageOf r (arrangeBy? r.sort ((s.cardsOf id).filter test)) := by
  simp only [fetch, matching?, htest]

/-- There is an answer unless the sort gives up. -/
theorem MemoryStore.exists_fetch {p : Predicate} {test : Json → Bool} (htest : p.test? = .ok test)
    {s : MemoryStore} {id : String} {r : PageRequest}
    (h : IsArrangeable r.sort ((s.cardsOf id).filter test)) : ∃ page, s.fetch id p r = .ok page := by
  obtain ⟨cards, hcards⟩ := exists_arrangeBy? h
  exact ⟨_, by rw [fetch_of_test htest, hcards, pageOf]⟩

/-- Every answer tells how many cards pass the test. -/
theorem MemoryStore.total_of_fetch {p : Predicate} {test : Json → Bool} (htest : p.test? = .ok test)
    {s : MemoryStore} {id : String} {r : PageRequest} {page : PageResult}
    (h : s.fetch id p r = .ok page) : page.total = ((s.cardsOf id).filter test).length := by
  rw [fetch_of_test htest] at h
  cases hcards : arrangeBy? r.sort ((s.cardsOf id).filter test) with
  | none =>
      rw [hcards] at h
      contradiction
  | some cards =>
      rw [hcards] at h
      cases h
      exact (arrangeBy?_perm hcards).length_eq

/-- The answer of a store in memory whose order is a total preorder. -/
theorem MemoryStore.fetch_of_preorder {p : Predicate} {test : Json → Bool} (htest : p.test? = .ok test)
    {s : MemoryStore} {id : String} {r : PageRequest}
    (h : ∀ k ∈ r.sort, IsPreorderOn k.memoryOrder ((s.cardsOf id).filter test)) :
    s.fetch id p r =
      .ok (.ofList r (SortKey.sorted SortKey.memoryOrder r.sort ((s.cardsOf id).filter test))) := by
  rw [fetch_of_test htest, arrangeBy?_eq h, pageOf]

/-- The card that a table reads where it has written one. -/
def Json.reread (card : Json) : Except FetchFailure Json :=
  TableStore.TableRow.read ⟨"", card, card.compact⟩

/-- Numbers below `2^63` are signed ones of 64 bits, and as many rows are skipped. -/
theorem Sql.skipped_of_lt {offset : Nat} (h : offset < 2 ^ 63) : skipped offset = offset :=
  if_pos (fitsInt64_of_lt (by rw [int64Bound]; omega))

/-- Others are negative numbers of 64 bits, and nothing is skipped. -/
theorem Sql.skipped_of_le {offset : Nat} (h : 2 ^ 63 ≤ offset) : skipped offset = 0 := by
  rw [skipped, if_neg]
  rw [fitsInt64_iff, int64Bound]
  omega

/-- A table has no answer when the statement that counts the cards cannot be prepared. -/
theorem TableStore.fetch_of_count_not_prepared {t : TableStore} {p : Predicate}
    (h : canPrepare t.names.dataColumn p.toSql 1 = false) (id : String) (r : PageRequest) :
    t.fetch id p r = .error countFailed := by
  simp only [fetch, h]
  rfl

/-- An answer of a table takes a statement that can be prepared. -/
theorem TableStore.canPrepare_of_fetch {t : TableStore} {id : String} {p : Predicate} {r : PageRequest}
    {answer : PageResult} (h : t.fetch id p r = .ok answer) :
    canPrepare t.names.dataColumn p.toSql 1 = true := by
  by_contra hfails
  rw [fetch_of_count_not_prepared (Bool.eq_false_iff.2 hfails)] at h
  contradiction

section Table

variable {t : TableStore} {s : MemoryStore} {id : String} {p : Predicate} {r : PageRequest}
  {test : Json → Bool}

-- A table that holds the cards of a store in memory: its statements can be prepared, and the condition
-- has a value on all of the cards.
variable (h : Mirrors t s) (hprepare : canPrepare t.names.dataColumn p.toSql 3 = true)
  (hsort : ∀ k ∈ r.sort, isPlainKey k.key = true)
  (htest : ∀ card ∈ s.cardsOf id, p.toSql.holds card = .ok (test card))

include h hprepare hsort htest

/-- **The answer of a table** that holds the cards of a store in memory. -/
theorem Mirrors.fetch_eq :
    t.fetch id p r =
      let hits := (s.cardsOf id).filter test
      let page := ((SortKey.sorted SortKey.tableOrder r.sort hits).drop (skipped r.offset)).take
        r.pageSize
      (page.mapM Json.reread).map fun rows => ⟨rows, hits.length⟩ := by
  let rows := (t.rows.filter fun row => row.model == id).filter fun row => test row.card
  have hhits : t.hits id p.toSql = .ok rows := by
    refine filterM_eq_ok_filter fun row hrow => htest row.card ?_
    rw [← h.cards id]
    exact List.mem_map_of_mem hrow
  have hcards : rows.map (·.card) = (s.cardsOf id).filter test := by
    rw [← h.cards id, List.filter_map]
    rfl
  obtain ⟨arranged, harrange, hperm, hsorted⟩ := TableStore.arrangeBy_eq hsort rows
  have hcontained : (r.sort.toList.map (·.key)).all isContained = true := by
    simp only [List.all_eq_true, List.forall_mem_map, Option.mem_toList]
    exact fun k hk => isContained_of_isPlainKey (hsort k hk)
  have hread : ((arranged.drop (skipped r.offset)).take r.pageSize).mapM TableStore.TableRow.read =
      (((arranged.map (·.card)).drop (skipped r.offset)).take r.pageSize).mapM Json.reread := by
    rw [← List.map_drop, ← List.map_take, List.mapM_map]
    refine mapM_congr fun row hrow => ?_
    have hmem : row ∈ arranged := List.mem_of_mem_drop (List.mem_of_mem_take hrow)
    have hrow : row ∈ t.rows := List.mem_of_mem_filter (List.mem_of_mem_filter (hperm.subset hmem))
    simp only [TableStore.TableRow.read, Function.comp_apply, Json.reread, h.text row hrow]
  have hlength : rows.length = ((s.cardsOf id).filter test).length := by
    rw [← hcards, List.length_map]
  rw [hsorted, hcards] at hread
  dsimp only
  rw [← hread, ← hlength]
  simp only [TableStore.fetch, canPrepare_mono (by decide : 1 ≤ 3) hprepare, hprepare, hhits,
    hcontained, Except.mapError, bind, Except.bind, harrange, Bool.and_self, if_true]
  rfl

theorem Mirrors.total_of_fetch {answer : PageResult} (hanswer : t.fetch id p r = .ok answer) :
    answer.total = ((s.cardsOf id).filter test).length := by
  rw [h.fetch_eq hprepare hsort htest] at hanswer
  obtain ⟨rows, -, rfl⟩ := map_eq_ok_iff.1 hanswer
  rfl

/-- The table has an answer when its cards can be read back. -/
theorem Mirrors.exists_fetch (hread : ∀ card ∈ s.cardsOf id, (Json.read? card.compact).isSome = true) :
    ∃ answer, t.fetch id p r = .ok answer := by
  let hits := (s.cardsOf id).filter test
  have hpage : ∀ card ∈ ((SortKey.sorted SortKey.tableOrder r.sort hits).drop
      (skipped r.offset)).take r.pageSize, ∃ card', card.reread = .ok card' := by
    intro card hcard
    have hmem := (SortKey.sorted_perm _ _ _).subset (List.mem_of_mem_drop (List.mem_of_mem_take hcard))
    obtain ⟨card', hcard'⟩ := Option.isSome_iff_exists.1 (hread card (List.mem_of_mem_filter hmem))
    exact ⟨card', by rw [Json.reread, TableStore.TableRow.read, hcard']⟩
  obtain ⟨rows, hrows⟩ := exists_mapM_eq_ok hpage
  exact ⟨_, (h.fetch_eq hprepare hsort htest).trans (map_eq_ok_iff.2 ⟨rows, hrows, rfl⟩)⟩

end Table

end CardQuery
