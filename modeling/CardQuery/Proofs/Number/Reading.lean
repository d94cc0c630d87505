/-
**Numbers are read in any case.**

The letters in a number are those of an exponent and of the words for infinity and for what is no number.
A reader takes either case of them, and all other characters that it looks at are no letters, so that the
case of the letters A to Z does not matter to any reader of numbers.

Main results:

* `readInt64?_map` — whole numbers;
* `Double.read?_map` — **decimals and words for special values**;
* `HalfNumber.read?_congr` — the numbers of halves.
-/

import CardQuery.Command.HalfNumber
import CardQuery.Proofs.Unicode.Ascii

set_option autoImplicit false

namespace CardQuery

open Unicode

/-! ### Digits and signs -/

/-- Digits are no letters. -/
theorem asciiLowered_of_isDigit {c : Char} (h : c.isDigit = true) : asciiLowered c = c := by
  refine if_neg fun hc => ?_
  have hlow : 65 ≤ c.toNat := hc.1
  have hhigh : c.toNat ≤ 57 := of_decide_eq_true (Bool.and_eq_true_iff.1 h).2
  omega

theorem map_digits {s : List Char} (h : ∀ c ∈ s, c.isDigit = true) : s.map asciiLowered = s := by
  have hfixed : ∀ c ∈ s, asciiLowered c = id c := fun c hc => asciiLowered_of_isDigit (h c hc)
  rw [List.map_congr_left hfixed, List.map_id]

theorem dropWhile_digits_map (s : List Char) :
    (s.map asciiLowered).dropWhile Char.isDigit = (s.dropWhile Char.isDigit).map asciiLowered := by
  have hdigit : Char.isDigit ∘ asciiLowered = Char.isDigit := funext isDigit_asciiLowered
  rw [List.dropWhile_map, hdigit]

theorem takeWhile_digits_map (s : List Char) :
    (s.map asciiLowered).takeWhile Char.isDigit = s.takeWhile Char.isDigit := by
  have hdigit : Char.isDigit ∘ asciiLowered = Char.isDigit := funext isDigit_asciiLowered
  rw [List.takeWhile_map, hdigit]
  exact map_digits fun c hc => List.mem_takeWhile_imp hc

theorem all_digits_map (s : List Char) :
    (s.map asciiLowered).all Char.isDigit = s.all Char.isDigit := by
  have hdigit : Char.isDigit ∘ asciiLowered = Char.isDigit := funext isDigit_asciiLowered
  rw [List.all_map, hdigit]

theorem splitSign_cons (c : Char) (rest : List Char) :
    splitSign (c :: rest) =
      if c = '-' then (true, rest) else if c = '+' then (false, rest) else (false, c :: rest) := by
  unfold splitSign
  split <;> simp_all

/-- A sign is no letter. -/
theorem splitSign_map (s : List Char) :
    splitSign (s.map asciiLowered) = ((splitSign s).1, (splitSign s).2.map asciiLowered) := by
  cases s with
  | nil => rfl
  | cons c rest =>
      have hminus : asciiLowered c = '-' ↔ c = '-' := asciiLowered_eq_iff (by decide)
      have hplus : asciiLowered c = '+' ↔ c = '+' := asciiLowered_eq_iff (by decide)
      rw [List.map_cons, splitSign_cons, splitSign_cons]
      by_cases hc : c = '-'
      · rw [if_pos (hminus.2 hc), if_pos hc]
      · by_cases hc' : c = '+'
        · rw [if_neg (hminus.not.2 hc), if_neg hc, if_pos (hplus.2 hc'), if_pos hc']
        · rw [if_neg (hminus.not.2 hc), if_neg hc, if_neg (hplus.not.2 hc'), if_neg hc']
          rfl

/-! ### Whole numbers -/

/-- A whole number is read in any case. -/
theorem readInt64?_map (s : List Char) : readInt64? (s.map asciiLowered) = readInt64? s := by
  simp only [readInt64?, splitSign_map, all_digits_map, List.isEmpty_map]
  split
  · rfl
  · next hdigits =>
    simp only [Bool.or_eq_true, Bool.not_eq_true', not_or, Bool.not_eq_false, List.all_eq_true] at hdigits
    rw [map_digits hdigits.2]

/-! ### Decimals -/

namespace Double

theorem readExponent?_map (s : List Char) :
    readExponent? (s.map asciiLowered) = readExponent? s := by
  cases s with
  | nil => rfl
  | cons c rest =>
      have he : decide (asciiLowered c = 'e' ∨ asciiLowered c = 'E') = decide (c = 'e' ∨ c = 'E') :=
        eq_of_ignoresCase (g := fun c => decide (c = 'e' ∨ c = 'E')) (by decide +kernel) c
      rw [decide_eq_decide] at he
      simp only [List.map_cons, readExponent?, splitSign_map, all_digits_map, List.isEmpty_map]
      by_cases hc : c = 'e' ∨ c = 'E'
      · rw [if_pos hc, if_pos (he.2 hc)]
        split
        · rfl
        · next hdigits =>
          simp only [Bool.or_eq_true, Bool.not_eq_true', not_or, Bool.not_eq_false, List.all_eq_true]
            at hdigits
          rw [map_digits hdigits.2]
      · rw [if_neg hc, if_neg (he.not.2 hc)]

/-- The digits behind a point, and what comes after them; without a point there are none. -/
def splitFraction : List Char → List Char × List Char
  | '.' :: rest => (rest.takeWhile Char.isDigit, rest.dropWhile Char.isDigit)
  | rest => ([], rest)

theorem splitFraction_cons (c : Char) (rest : List Char) :
    splitFraction (c :: rest) =
      if c = '.' then (rest.takeWhile Char.isDigit, rest.dropWhile Char.isDigit)
      else ([], c :: rest) := by
  unfold splitFraction
  split <;> simp_all

theorem splitFraction_map (s : List Char) :
    splitFraction (s.map asciiLowered) =
      ((splitFraction s).1, (splitFraction s).2.map asciiLowered) := by
  cases s with
  | nil => rfl
  | cons c rest =>
      have hpoint : asciiLowered c = '.' ↔ c = '.' := asciiLowered_eq_iff (by decide)
      rw [List.map_cons, splitFraction_cons, splitFraction_cons]
      by_cases hc : c = '.'
      · rw [if_pos (hpoint.2 hc), if_pos hc, takeWhile_digits_map, dropWhile_digits_map]
      · rw [if_neg (hpoint.not.2 hc), if_neg hc]
        rfl

/-- A decimal has the digits before and behind its point, and an exponent. -/
theorem readDecimal?_eq (negative : Bool) (s : List Char) :
    readDecimal? negative s =
      let whole := s.takeWhile Char.isDigit
      let (fraction, rest) := splitFraction (s.dropWhile Char.isDigit)
      if whole.isEmpty && fraction.isEmpty then none
      else (readExponent? rest).map fun exponent =>
        ofDecimal negative (decimalValue (whole ++ fraction)) (exponent - fraction.length) := rfl

theorem readDecimal?_map (negative : Bool) (s : List Char) :
    readDecimal? negative (s.map asciiLowered) = readDecimal? negative s := by
  simp only [readDecimal?_eq, takeWhile_digits_map, dropWhile_digits_map, splitFraction_map,
    readExponent?_map]

/-- **A decimal, or a word for a special value, is read in any case.** -/
theorem read?_map (s : List Char) : read? (s.map asciiLowered) = read? s := by
  have hlower : Char.toLower ∘ asciiLowered = Char.toLower := funext toLower_asciiLowered
  simp only [read?, splitSign_map, List.map_map, hlower, readDecimal?_map]

end Double

/-! ### Halves -/

theorem afterPlus_cons (c : Char) (rest : List Char) :
    afterPlus (c :: rest) = if c = '+' then rest else c :: rest := by
  unfold afterPlus
  split <;> simp_all

theorem afterPlus_map (s : List Char) :
    afterPlus (s.map asciiLowered) = (afterPlus s).map asciiLowered := by
  cases s with
  | nil => rfl
  | cons c rest =>
      have hplus : asciiLowered c = '+' ↔ c = '+' := asciiLowered_eq_iff (by decide)
      rw [List.map_cons, afterPlus_cons, afterPlus_cons]
      by_cases hc : c = '+'
      · rw [if_pos (hplus.2 hc), if_pos hc]
      · rw [if_neg (hplus.not.2 hc), if_neg hc, List.map_cons]

/-- Numbers of halves are read in any case. -/
theorem HalfNumber.read?_congr {s t : String} (h : SameLetters s t) : read? s = read? t := by
  have hinfinity : s = infinityLabel ↔ t = infinityLabel :=
    h.eq_label_iff (c := '∞') (by decide) (by decide)
  have hread : Double.read? (afterPlus s.toList) = Double.read? (afterPlus t.toList) :=
    h.congr (g := fun u => Double.read? (afterPlus u)) fun u => by
      rw [afterPlus_map, Double.read?_map]
  rw [read?, read?, hread]
  by_cases hs : s = infinityLabel
  · rw [if_pos hs, if_pos (hinfinity.1 hs)]
  · rw [if_neg hs, if_neg (hinfinity.not.1 hs)]

end CardQuery
