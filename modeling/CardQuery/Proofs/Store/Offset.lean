/-
**How many cards are skipped.**

The page and the size of a request are words of 32 bits, and the number of cards before the page is their
product in a word of 64 bits, which never overflows.  A store in memory skips that many cards.  A table
passes the word on as a signed one.  From `2^63` on this is negative, and a statement that is told to skip a
negative number of rows skips none, so that the table answers with its first page.

Main definitions:

* `PageRequest.wordOffset` — the number of cards before a page as a word;
* `PageRequest.boundOffset` — the number that the statement of a table is told.

Main results:

* `PageRequest.toNat_wordOffset` — **the product does not overflow**;
* `PageRequest.boundOffset_eq_iff` — what the statement is told is the same number just below `2^63`;
* `PageRequest.fetch_first_page` — beyond that a table answers with its first page;
* `PageRequest.stores_skip` — **what both stores skip**.
-/

import CardQuery.Proofs.Store.Fetch
import Mathlib.Algebra.Group.Int.Defs
import Mathlib.Algebra.Group.Nat.Defs

set_option autoImplicit false

namespace CardQuery

open CommandDraft (isPlainKey)
open Sql

namespace PageRequest

variable {r : PageRequest}

/-- The number of cards before the page in words: the factors have 32 bits, and the product 64. -/
def wordOffset (r : PageRequest) : UInt64 :=
  (UInt32.ofNat (r.page - 1)).toUInt64 * (UInt32.ofNat r.pageSize).toUInt64

/-- The number that the statement of a table is told to skip: the same word with a sign. -/
def boundOffset (r : PageRequest) : Int := r.wordOffset.toInt64.toInt

/-- Pages are counted from 1, and page 0 is the first one as well. -/
theorem offset_eq (r : PageRequest) : r.offset = (max r.page 1 - 1) * r.pageSize := by
  have hpage : r.page - 1 = max r.page 1 - 1 := by omega
  rw [offset, hpage]

section Words

variable (hpage : fitsNat32 r.page = true) (hsize : fitsNat32 r.pageSize = true)

include hpage hsize

theorem offset_lt : r.offset < 2 ^ 64 := by
  rw [fitsNat32_iff] at hpage hsize
  have hle : r.offset ≤ 4294967295 * 4294967295 := Nat.mul_le_mul (by omega) (by omega)
  omega

/-- **The product of page and size does not overflow.** -/
theorem toNat_wordOffset : r.wordOffset.toNat = r.offset := by
  have hlt := offset_lt hpage hsize
  rw [fitsNat32_iff] at hpage hsize
  have hbefore : (UInt32.ofNat (r.page - 1)).toNat = r.page - 1 :=
    UInt32.toNat_ofNat_of_lt' (by rw [UInt32.size]; omega)
  have hcount : (UInt32.ofNat r.pageSize).toNat = r.pageSize :=
    UInt32.toNat_ofNat_of_lt' (by rw [UInt32.size]; omega)
  rw [wordOffset, UInt64.toNat_mul, UInt32.toNat_toUInt64, UInt32.toNat_toUInt64, hbefore, hcount]
  exact Nat.mod_eq_of_lt hlt

/-- A word with a sign is negative from `2^63` on. -/
theorem boundOffset_eq :
    r.boundOffset = if r.offset < 2 ^ 63 then (r.offset : Int) else (r.offset : Int) - 2 ^ 64 := by
  have hword : r.wordOffset.toBitVec.toNat = r.offset := toNat_wordOffset hpage hsize
  rw [boundOffset, ← Int64.toInt_toBitVec, UInt64.toBitVec_toInt64, BitVec.toInt_eq_toNat_cond, hword]
  split <;> split <;> omega

/-- **What the statement is told** is the number of cards before the page just if it is below `2^63`. -/
theorem boundOffset_eq_iff : r.boundOffset = r.offset ↔ r.offset < 2 ^ 63 := by
  rw [boundOffset_eq hpage hsize]
  split <;> omega

/-- A statement skips what it is told, and nothing when this is negative. -/
theorem skipped_offset : skipped r.offset = r.boundOffset.toNat := by
  rw [boundOffset_eq hpage hsize]
  by_cases hbelow : r.offset < 2 ^ 63
  · rw [if_pos hbelow, skipped_of_lt hbelow, Int.toNat_natCast]
  · have hlt := offset_lt hpage hsize
    rw [if_neg hbelow, skipped_of_le (Nat.le_of_not_lt hbelow)]
    omega

end Words

/-- **From `2^63` on a table answers with its first page.** -/
theorem fetch_first_page (h : 2 ^ 63 ≤ r.offset) (t : TableStore) (id : String) (p : Predicate) :
    t.fetch id p r = t.fetch id p { r with page := 1 } := by
  have hfirst : skipped ({ r with page := 1 } : PageRequest).offset = 0 := by
    have hzero : ({ r with page := 1 } : PageRequest).offset = 0 := Nat.zero_mul _
    rw [hzero, skipped_of_lt (by decide)]
  simp only [TableStore.fetch, skipped_of_le h, hfirst]

/-- **What both stores skip.**  The number of cards before a page is exact, and a store in memory skips so
many of its hits, once they are in order.  The table skips the number that its statement is told, which is
the same one just below `2^63`; beyond that it answers with its first page. -/
theorem stores_skip (hpage : fitsNat32 r.page = true) (hsize : fitsNat32 r.pageSize = true) :
    r.offset = (max r.page 1 - 1) * r.pageSize ∧ r.wordOffset.toNat = r.offset ∧
      (r.boundOffset = r.offset ↔ r.offset < 2 ^ 63) ∧
      (2 ^ 63 ≤ r.offset → ∀ (t : TableStore) (id : String) (p : Predicate),
        t.fetch id p r = t.fetch id p { r with page := 1 }) ∧
      ∀ (t : TableStore) (s : MemoryStore) (id : String) (p : Predicate) (test : Json → Bool),
        Mirrors t s → canPrepare t.names.dataColumn p.toSql 3 = true →
        (∀ k ∈ r.sort, isPlainKey k.key = true) → p.test? = .ok test →
        (∀ card ∈ s.cardsOf id, p.toSql.holds card = .ok (test card)) →
        let hits := (s.cardsOf id).filter test
        let page (cards : List Json) (before : Nat) := (cards.drop before).take r.pageSize
        (∀ cards, arrangeBy? r.sort hits = some cards →
          s.fetch id p r = .ok ⟨page cards r.offset, hits.length⟩) ∧
        (IsArrangeable r.sort hits → ∃ cards, arrangeBy? r.sort hits = some cards) ∧
        (arrangeBy? r.sort hits = none → s.fetch id p r = .error .aborted) ∧
        t.fetch id p r = ((page (SortKey.sorted SortKey.tableOrder r.sort hits)
          r.boundOffset.toNat).mapM Json.reread).map fun rows => ⟨rows, hits.length⟩ := by
  refine ⟨r.offset_eq, toNat_wordOffset hpage hsize, boundOffset_eq_iff hpage hsize, fetch_first_page,
    fun t s id p test hmirrors hprepare hsort htest hagree => ?_⟩
  intro hits page
  refine ⟨fun cards hcards => ?_, exists_arrangeBy?, fun hnone => ?_, ?_⟩
  · rw [MemoryStore.fetch_of_test htest, hcards, MemoryStore.pageOf, PageResult.ofList,
      (arrangeBy?_perm hcards).length_eq]
  · rw [MemoryStore.fetch_of_test htest, hnone, MemoryStore.pageOf]
  · rw [hmirrors.fetch_eq hprepare hsort hagree, skipped_offset hpage hsize]

/-- The last page of the greatest size is beyond the only card in memory, and the first one in a table. -/
theorem stores_skip_last :
    let r : PageRequest := ⟨4294967295, 4294967295, none⟩
    let card := Json.object []
    fitsNat32 r.page = true ∧ fitsNat32 r.pageSize = true ∧ r.wordOffset.toNat = r.offset ∧
      r.boundOffset < 0 ∧
      (MemoryStore.empty.fill [("magic", card)]).fetch "magic" .everything r = .ok ⟨[], 1⟩ ∧
      ((⟨.standard, []⟩ : TableStore).fill [("magic", card)]).fetch "magic" .everything r =
        .ok ⟨[card], 1⟩ := by
  intro r card
  have hfits : fitsNat32 (4294967295 : Nat) = true := by decide
  obtain ⟨-, hword, -, -, hstores⟩ := stores_skip (r := r) hfits hfits
  have hcreate : TableStore.create .standard = .ok ⟨.standard, []⟩ := rfl
  obtain ⟨-, hmirrors⟩ := Mirrors.create hcreate
  have hcards : (MemoryStore.empty.fill [("magic", card)]).cardsOf "magic" = [card] := by
    simp [MemoryStore.cardsOf_fill]
  obtain ⟨hmemory, -, -, htable⟩ := hstores _ _ "magic" .everything (fun _ => true)
    (hmirrors.fill [("magic", card)]) rfl nofun rfl fun card' _ =>
      Predicate.holds_toSql_everything card'
  have hoffset : r.offset = 18446744060824649730 := by simp only [r, offset]
  have hnegative : r.boundOffset < 0 := by
    rw [boundOffset_eq (r := r) hfits hfits, hoffset]
    decide
  have hsorted (order : SortKey → Json → Json → Ordering) :
      SortKey.sorted order r.sort [card] = [card] := rfl
  have hbeyond : [card].drop r.offset = [] :=
    List.drop_eq_nil_of_le (by rw [hoffset, List.length_singleton]; omega)
  have hnone : r.boundOffset.toNat = 0 := Int.toNat_of_nonpos (Int.le_of_lt hnegative)
  have hall : [card].take r.pageSize = [card] :=
    List.take_of_length_le (by rw [List.length_singleton]; decide)
  have hread : [card].mapM Json.reread = .ok [card] := by cbv
  have hmemory := hmemory _ rfl
  simp only [List.filter_true, hcards, hsorted, hbeyond, hnone, List.drop_zero, hall, List.take_nil,
    hread] at hmemory htable
  exact ⟨hfits, hfits, hword, hnegative, hmemory, htable⟩

end PageRequest

end CardQuery
