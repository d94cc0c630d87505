/-
**Texts of digits.**

There are ten digits, and none of them is changed by lower case, is white space or opens anything else
than a number.

Main definitions:

* `digits` — the digits from 0 to 9.

Main results:

* `mem_digits` — there are no others;
* `loweredText_of_digits` — **a text of digits is in lower case**.
-/

import CardQuery.Proofs.Unicode.Blank
import CardQuery.Proofs.Unicode.Lower

set_option autoImplicit false

namespace CardQuery.Unicode

/-- The digits from 0 to 9. -/
def digits : List Char := (List.range 10).map fun i => Char.ofNat (48 + i)

theorem mem_digits {c : Char} (h : c.isDigit = true) : c ∈ digits := by
  obtain ⟨hlow, hhigh⟩ := Bool.and_eq_true_iff.1 h
  have hlow : 48 ≤ c.toNat := of_decide_eq_true hlow
  have hhigh : c.toNat ≤ 57 := of_decide_eq_true hhigh
  refine List.mem_map.2 ⟨c.toNat - 48, List.mem_range.2 (by omega), ?_⟩
  rw [Nat.add_sub_cancel' hlow, Char.ofNat_toNat]

/-- What the tables say of the digits. -/
structure DigitFacts : Prop where
  lowerCase : digits.all (fun c => lowerChar c == c && c != 'Σ' && c != 'İ') = true
  smallLetter : digits.all (fun c => c.toLower == c) = true
  letter : digits.all (fun c => !c.isAlpha) = true
  blank : digits.all (fun c => !isBlank c) = true

theorem digitFacts : DigitFacts := by constructor <;> decide +kernel

theorem toLower_of_isDigit {c : Char} (h : c.isDigit = true) : c.toLower = c :=
  eq_of_beq (List.all_eq_true.1 (DigitFacts.smallLetter digitFacts) c (mem_digits h))

theorem not_isAlpha_of_isDigit {c : Char} (h : c.isDigit = true) : c.isAlpha = false := by
  have hletter := List.all_eq_true.1 (DigitFacts.letter digitFacts) c (mem_digits h)
  rwa [Bool.not_eq_true'] at hletter

theorem not_isBlank_of_isDigit {c : Char} (h : c.isDigit = true) : isBlank c = false := by
  have hblank := List.all_eq_true.1 (DigitFacts.blank digitFacts) c (mem_digits h)
  rwa [Bool.not_eq_true'] at hblank

/-- **A text of digits is in lower case.** -/
theorem loweredText_of_digits {s : String} (h : ∀ c ∈ s.toList, c.isDigit = true) :
    loweredText s = s := by
  have hfacts : ∀ c ∈ s.toList, lowerChar c = c ∧ c ≠ 'Σ' ∧ c ≠ 'İ' := by
    intro c hc
    have hc := List.all_eq_true.1 (DigitFacts.lowerCase digitFacts) c (mem_digits (h c hc))
    simpa [and_assoc] using hc
  have hfixed : s.toList.map lowerChar = s.toList := by
    have hid : ∀ c ∈ s.toList, lowerChar c = id c := fun c hc => (hfacts c hc).1
    rw [List.map_congr_left hid, List.map_id]
  rw [loweredText, lowered_of_plain fun c hc => (hfacts c hc).2, hfixed, String.ofList_toList]

end CardQuery.Unicode
