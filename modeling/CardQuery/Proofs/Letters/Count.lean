/-
**Queries for a number of letters count letters.**

A number in a query asks how many letters a card has.  The condition lists all sets of letters whose size
stands in the relation of the operator to the number, and the size of a set is the number of ones among its
bits.

Main definitions:

* `numberOfSets` — how many sets of letters have a size that stands in a relation to a number.

Main results:

* `ncard_places` — the ones among the bits are the elements of the set;
* `length_filter_bitCount` — there are as many sets of a size as ways to choose their letters;
* `Alphabet.read_digits` — what digits ask for;
* `length_countedMasks` — the length of the list;
* `holds_countCondition` — **the condition of a number of letters** on a card that stores a whole number;
* `Argument.count_relates` — **what a token that names a number of letters asks for**.
-/

import CardQuery.Proofs.Comparison
import CardQuery.Proofs.Filtering
import CardQuery.Proofs.Letters
import CardQuery.Proofs.Unicode.Digit
import Mathlib.Algebra.BigOperators.Intervals
import Mathlib.Data.Nat.BitIndices
import Mathlib.Data.Nat.Choose.Basic
import Mathlib.Data.Set.Card

set_option autoImplicit false

namespace CardQuery

open Unicode (loweredText_of_digits trimmed)

/-! ### Sizes of sets -/

theorem bitCount_eq_length (n : Nat) : bitCount n = n.bitIndices.length := by
  induction n using bitCount.induct with
  | case1 => rw [bitCount, if_pos rfl, Nat.bitIndices_zero, List.length_nil]
  | case2 n hn ih =>
      rw [bitCount, if_neg hn, ih]
      obtain heven | hodd := Nat.mod_two_eq_zero_or_one n
      · have hdouble : n = 2 * (n / 2) := by omega
        rw [heven, Nat.zero_add, hdouble, Nat.bitIndices_two_mul, List.length_map, ← hdouble]
      · have hdouble : n = 2 * (n / 2) + 1 := by omega
        rw [hodd, hdouble, Nat.bitIndices_two_mul_add_one, List.length_cons, List.length_map, ← hdouble,
          Nat.add_comm]

theorem bitCount_zero : bitCount 0 = 0 := by rw [bitCount, if_pos rfl]

theorem bitCount_eq (n : Nat) : bitCount n = n % 2 + bitCount (n / 2) := by
  by_cases hn : n = 0
  · subst hn
    rw [Nat.zero_div, bitCount_zero]
  · rw [bitCount, if_neg hn]

/-- A further letter makes a set larger by one. -/
theorem bitCount_two_pow_add {n m : Nat} (h : m < 2 ^ n) : bitCount (2 ^ n + m) = bitCount m + 1 := by
  induction n generalizing m with
  | zero =>
      obtain rfl : m = 0 := by simpa using h
      rw [bitCount_eq (2 ^ 0 + 0), bitCount_zero]
      exact congrArg (1 + ·) bitCount_zero
  | succ n ih =>
      have hhalf : m / 2 < 2 ^ n := by omega
      have hmod : (2 ^ (n + 1) + m) % 2 = m % 2 := by omega
      have hdiv : (2 ^ (n + 1) + m) / 2 = 2 ^ n + m / 2 := by omega
      rw [bitCount_eq (2 ^ (n + 1) + m), hmod, hdiv, ih hhalf, bitCount_eq m, Nat.add_assoc]

/-- The ones among the bits of a number are the elements of its set. -/
theorem ncard_places (n : Nat) : (places n).ncard = bitCount n := by
  have hplaces : places n = (n.bitIndices.toFinset : Set Nat) := by
    ext i
    rw [mem_places, List.coe_toFinset, Set.mem_ofPred_eq, Nat.mem_bitIndices]
  rw [hplaces, Set.ncard_coe_finset, List.toFinset_card_of_nodup Nat.bitIndices_nodup, bitCount_eq_length]

/-- The sets of so many letters, by their sizes: as many as ways to choose the letters. -/
theorem length_filter_bitCount (n : Nat) (q : Nat → Bool) :
    ((List.range (2 ^ n)).filter fun mask => q (bitCount mask)).length =
      ∑ k ∈ Finset.range (n + 1), if q k then n.choose k else 0 := by
  induction n generalizing q with
  | zero => cases h : q 0 <;> simp [h, bitCount_zero]
  | succ n ih =>
      have hlarger : (List.range (2 ^ n)).filter (fun mask => q (bitCount (2 ^ n + mask))) =
          (List.range (2 ^ n)).filter fun mask => q (bitCount mask + 1) :=
        List.filter_congr fun mask hmask => by rw [bitCount_two_pow_add (List.mem_range.1 hmask)]
      -- a set is without the last letter, or with it and one larger
      have hsplit : ((List.range (2 ^ (n + 1))).filter fun mask => q (bitCount mask)).length =
          (∑ k ∈ Finset.range (n + 1), if q k then n.choose k else 0) +
            ∑ k ∈ Finset.range (n + 1), if q (k + 1) then n.choose k else 0 := by
        have hdouble : 2 ^ (n + 1) = 2 ^ n + 2 ^ n := by omega
        rw [hdouble, List.range_add, List.filter_append, List.length_append, List.filter_map,
          List.length_map, ← ih, ← ih fun k => q (k + 1), ← hlarger]
        rfl
      let ways (k : Nat) : Nat := if q k then n.choose k else 0
      have hpascal (k : Nat) : (if q (k + 1) then (n + 1).choose (k + 1) else 0) =
          (if q (k + 1) then n.choose k else 0) + ways (k + 1) := by
        simp only [ways]
        split
        · exact Nat.choose_succ_succ n k
        · rfl
      have hfirst : (if q 0 then (n + 1).choose 0 else 0) = ways 0 := by
        simp only [ways, Nat.choose_zero_right]
      have hlast : ways (n + 1) = 0 := by simp only [ways, Nat.choose_succ_self, ite_self]
      rw [hsplit, Finset.sum_range_succ' _ (n + 1), Finset.sum_congr rfl fun k _ => hpascal k,
        Finset.sum_add_distrib, hfirst, Nat.add_assoc, ← Finset.sum_range_succ' ways (n + 1),
        Finset.sum_range_succ ways (n + 1), hlast]
      exact Nat.add_comm _ _

/-- The number of sets of so many letters whose size stands in the relation to a number. -/
def numberOfSets (letters count : Nat) (op : Operator) : Nat :=
  ∑ k ∈ Finset.range (letters + 1), if op.Stands k count then letters.choose k else 0

/-! ### Values -/

/-- Digits that are neither a word nor letters ask for a number of letters. -/
theorem Alphabet.read_digits {a : Alphabet} (ha : a.hasDigits = false) {raw : String}
    (hword : trimmed raw ∉ a.words.keys) (hpos : (trimmed raw).toList ≠ [])
    (hdigits : ∀ c ∈ (trimmed raw).toList, c.isDigit = true)
    (hfits : fitsNat32 (decimalValue (trimmed raw).toList) = true) :
    a.read raw = .ok (.count (decimalValue (trimmed raw).toList)) := by
  have hall : (trimmed raw).toList.all Char.isDigit = true := List.all_eq_true.2 hdigits
  have hempty : (trimmed raw).toList.isEmpty = false := by rwa [List.isEmpty_eq_false_iff]
  rw [read]
  simp only [loweredText_of_digits hdigits, KeyedList.find?_eq_none hword, hall, hempty, ha, readCount, hfits]
  rfl

/-! ### Conditions -/

/-- The sets of letters whose size stands in the relation to a number, in ascending order. -/
def countedMasks (full count : Nat) (op : Operator) : List Nat :=
  (List.range (full + 1)).filter fun mask => op.comparison.holds (Ord.compare (bitCount mask) count)

theorem countCondition_eq (key : String) (full count : Nat) (op : Operator) :
    countCondition key full count op =
      .inList key ((countedMasks full count op).map fun (mask : Nat) => .integer mask) := rfl

theorem countedMasks_pairwise (full count : Nat) (op : Operator) :
    (countedMasks full count op).Pairwise (· < ·) := List.pairwise_lt_range.filter _

theorem length_countedMasks_le (full count : Nat) (op : Operator) :
    (countedMasks full count op).length ≤ full + 1 := by
  have hle : (countedMasks full count op).length ≤ (List.range (full + 1)).length := List.length_filter_le _ _
  rwa [List.length_range] at hle

theorem mem_countedMasks {full count mask : Nat} {op : Operator} :
    mask ∈ countedMasks full count op ↔ mask ≤ full ∧ op.Stands (places mask).ncard count := by
  have hcompares : (Ord.compare (bitCount mask) count).Compares (bitCount mask) count :=
    (compare_iff _ _).1 rfl
  rw [countedMasks, List.mem_filter, List.mem_range, Nat.lt_succ_iff, op.holds_comparison_iff hcompares,
    ncard_places]

/-- As many sets are listed as there are sets of such a size. -/
theorem length_countedMasks {full letters : Nat} (hfull : full + 1 = 2 ^ letters) (count : Nat)
    (op : Operator) : (countedMasks full count op).length = numberOfSets letters count op := by
  have hdecides (k : Nat) :
      op.comparison.holds (Ord.compare k count) = decide (op.Stands k count) := by
    rw [Bool.eq_iff_iff, decide_eq_true_eq]
    exact op.holds_comparison_iff ((compare_iff _ _).1 rfl)
  rw [countedMasks, hfull, length_filter_bitCount letters fun k =>
    op.comparison.holds (Ord.compare k count), numberOfSets]
  refine Finset.sum_congr rfl fun k _ => ?_
  rw [hdecides]
  exact if_congr decide_eq_true_iff rfl rfl

section Conditions

variable {card : Json} {key : String} {full : Nat}

/-- **The condition of a number of letters** on a card that stores a whole number. -/
theorem holds_countCondition {n : Json.Number} {s : Int} (hn : n.Denotes s)
    (hstored : card.stored? (Json.pathOf key) = some (.number n)) (hfull : full ≤ twoTo Double.precision)
    (count : Nat) (op : Operator) :
    (countCondition key full count op).holds card = true ↔
      0 ≤ s ∧ s ≤ full ∧ op.Stands (places s.toNat).ncard count := by
  have hlisted : (countCondition key full count op).holds card = true ↔
      ∃ mask ∈ countedMasks full count op, s = mask := by
    simp only [countCondition_eq, Predicate.holds_inList, hstored, Option.some.injEq, exists_eq_left',
      List.mem_map, exists_exists_and_eq_and]
    -- masks are small, so that comparing with a double is exact as well
    refine exists_congr fun mask => and_congr_right fun hmask => ?_
    have hle : mask ≤ full := (mem_countedMasks.1 hmask).1
    exact hn.meets_equal_iff (i := mask) (hle.trans hfull)
  rw [hlisted]
  constructor
  · rintro ⟨mask, hmask, rfl⟩
    obtain ⟨hle, hstands⟩ := mem_countedMasks.1 hmask
    exact ⟨Int.natCast_nonneg mask, Int.ofNat_le.2 hle, hstands⟩
  · rintro ⟨hpos, hle, hstands⟩
    lift s to Nat using hpos
    exact ⟨s, mem_countedMasks.2 ⟨Int.ofNat_le.1 hle, hstands⟩, rfl⟩

/-- A card that stores no number does not meet the condition of a number of letters. -/
theorem not_holds_countCondition (hcard : ∀ n, card.stored? (Json.pathOf key) ≠ some (.number n))
    (count : Nat) (op : Operator) : (countCondition key full count op).holds card = false := by
  rw [Bool.eq_false_iff, Ne, countCondition_eq, Predicate.holds_inList]
  rintro ⟨stored, hstored, value, hvalue, hmeets⟩
  obtain ⟨mask, -, rfl⟩ := List.mem_map.1 hvalue
  cases stored with
  | number n => exact hcard n hstored
  | _ => contradiction

end Conditions

/-! ### Tokens -/

/-- **What a token that names a number of letters asks for.**  Its condition is an ascending list of sets of
letters, and a card passes if it stores one of those, as a whole number in any form, that has as many letters
as the operator asks for. -/
theorem Argument.count_relates {d : CommandDraft} {c : Command} (hbuild : d.build = .ok c)
    {alphabet : Alphabet} (hkind : c.kind = .bitset alphabet) (halphabet : alphabet.hasDigits = false)
    {a : Argument} (hcommand : a.command = c) {raw : String} (hraw : a.operand = .text raw)
    (hword : trimmed raw ∉ alphabet.words.keys) (hpos : (trimmed raw).toList ≠ [])
    (hdigits : ∀ c ∈ (trimmed raw).toList, c.isDigit = true) {count : Nat}
    (hcount : decimalValue (trimmed raw).toList = count) (hfits : count < 2 ^ 32) :
    ∃ (masks : List Nat) (test : Json → Bool),
      a.FiltersBy (.inList a.key (masks.map fun (mask : Nat) => .integer mask)) test ∧
      masks.Pairwise (· < ·) ∧ masks.Nodup ∧ masks.length ≤ 2 ^ 16 ∧
      (∀ (card : Json) (n : Json.Number) (s : Int), card.stored? (Json.pathOf a.key) = some (.number n) →
        n.Denotes s →
        (test card = true ↔
          0 ≤ s ∧ s ≤ alphabet.fullMask ∧ a.operator.Stands (places s.toNat).ncard count)) ∧
      ∀ card : Json, (∀ n, card.stored? (Json.pathOf a.key) ≠ some (.number n)) → test card = false := by
  subst hcommand hcount
  have hletters : alphabet.letters.length ≤ 16 :=
    (CommandDraft.isSound_of_build hbuild).letters alphabet hkind
  have hfull : alphabet.fullMask + 1 ≤ 2 ^ 16 := by
    rw [Alphabet.fullMask_succ hletters]
    exact Nat.pow_le_pow_right (by decide) hletters
  have hread : alphabet.read (trimmed raw) = .ok (.count (decimalValue (trimmed raw).toList)) := by
    rw [Alphabet.read_trimmed]
    refine Alphabet.read_digits halphabet hword hpos hdigits ?_
    rw [fitsNat32_iff]
    omega
  let masks := countedMasks alphabet.fullMask (decimalValue (trimmed raw).toList) a.operator
  have hascending : masks.Pairwise (· < ·) := countedMasks_pairwise _ _ _
  refine ⟨masks, _, filtersBy_bitset hkind hraw ?_, hascending, hascending.imp Nat.ne_of_lt,
    (length_countedMasks_le _ _ _).trans hfull, fun card n s hstored hn => ?_, fun card hcard => ?_⟩
  · rw [Binding.bitsetCondition, hread]
    rfl
  · have hsmall : alphabet.fullMask ≤ twoTo Double.precision := by
      change alphabet.fullMask ≤ 2 ^ 53
      omega
    exact holds_countCondition hn hstored hsmall _ _
  · exact not_holds_countCondition hcard _ _

/-- A card that is red, black and white has at least two colors, a card that is only red has not, nor has one
without colors. -/
theorem Argument.count_relates_two_colors :
    let c : Command :=
      ⟨"color", "color", [], Operator.all, [.negation], none, false, [], .bitset (.ofText "wubrg"), none⟩
    let a : Argument := ⟨⟨c, none, .text " 02", .atLeast, []⟩, none, []⟩
    let card (colors : Int) := Json.object [("color", .number (.integer colors))]
    (CommandDraft.bitset "color" "wubrg").build = .ok c ∧
      ∃ p test, a.FiltersBy p test ∧
        test (card 13) = true ∧ test (card 8) = false ∧ test (card (-13)) = false ∧
        test (.object []) = false := by
  intro c a card
  have hbuild : (CommandDraft.bitset "color" "wubrg").build = .ok c := rfl
  have hpath : Json.pathOf a.key = ["color"] := by decide +kernel
  have hfull : (Alphabet.ofText "wubrg").fullMask = 31 := by decide +kernel
  have hvalue : trimmed " 02" = "02" := by decide +kernel
  have hcount : decimalValue (trimmed " 02").toList = 2 := by rw [hvalue]; decide
  have hstored (colors : Int) :
      (card colors).stored? (Json.pathOf a.key) = some (.number (.integer colors)) := by
    rw [hpath]
    rfl
  obtain ⟨masks, test, hfilters, -, -, -, hnumbers, hothers⟩ :=
    count_relates (a := a) hbuild rfl (by decide +kernel) rfl rfl
      (by rw [hvalue]; decide) (by rw [hvalue]; decide)
      (by rw [hvalue]; exact List.all_eq_true.1 (by decide)) hcount (by decide)
  have hdecides (colors : Nat) (hfits : fitsInt64 colors = true) :
      test (card colors) = true ↔ colors ≤ 31 ∧ 2 ≤ bitCount colors := by
    rw [hnumbers _ _ _ (hstored colors) (.integer (.inl hfits)), hfull, Int.toNat_natCast, ncard_places]
    simp [a, Operator.Stands]
  refine ⟨hbuild, _, test, hfilters, ?_, ?_, ?_, ?_⟩
  · exact (hdecides 13 (by decide)).2 (by decide +kernel)
  · rw [Bool.eq_false_iff, Ne]
    exact fun h => absurd ((hdecides 8 (by decide)).1 h) (by decide +kernel)
  · rw [Bool.eq_false_iff, Ne, hnumbers _ _ _ (hstored (-13)) (.integer (.inl (by decide)))]
    exact fun h => absurd h.1 (by decide)
  · have hnone : (Json.object []).stored? (Json.pathOf a.key) = none := by
      rw [hpath]
      rfl
    exact hothers _ fun n => hnone ▸ (Option.some_ne_none _).symm

end CardQuery
