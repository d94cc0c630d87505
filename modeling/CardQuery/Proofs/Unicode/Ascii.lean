/-
**Texts that differ in the case of the letters A to Z only.**

What is read off a text often does not depend on the case of these letters: the text in lower case, where
its blanks and its digits are, and whether a word is that of a list.  It is enough to look at the capitals,
of which there are few, since all other characters stay as they are.

Main definitions:

* `SameLetters` — texts that differ in the case of the letters A to Z only;
* `capitals`, `ignoresCase` — the letters A to Z, and functions that do not tell them from their small
  letters.

Main results:

* `eq_of_ignoresCase` — **what ignores the case of the capitals** ignores that of all characters;
* `asciiLowered_eq_iff` — a character that is no letter comes from itself only;
* `lowered_map_asciiLowered` — lower case does not depend on the case of these letters;
* `SameLetters.loweredText_eq`, `SameLetters.trimmed` — **texts with the same letters** have the same lower
  case, and have the same letters without white space.
-/

import CardQuery.Proofs.Unicode.Blank
import CardQuery.Unicode.Case

set_option autoImplicit false

namespace CardQuery.Unicode

/-! ### Characters -/

/-- The letters A to Z. -/
def capitals : List Char := (List.range 26).map fun i => Char.ofNat (65 + i)

theorem mem_capitals {c : Char} (h : 'A' ≤ c ∧ c ≤ 'Z') : c ∈ capitals := by
  have hlow : 65 ≤ c.toNat := h.1
  have hhigh : c.toNat ≤ 90 := h.2
  refine List.mem_map.2 ⟨c.toNat - 65, List.mem_range.2 (by omega), ?_⟩
  rw [Nat.add_sub_cancel' hlow, Char.ofNat_toNat]

/-- The function has the same value for every capital and its small letter. -/
def ignoresCase {β : Type} [BEq β] (g : Char → β) : Bool :=
  capitals.all fun c => g (asciiLowered c) == g c

/-- **What ignores the case of the capitals** ignores that of all characters, since the others stay as they
are. -/
theorem eq_of_ignoresCase {β : Type} [BEq β] [LawfulBEq β] {g : Char → β} (h : ignoresCase g = true)
    (c : Char) : g (asciiLowered c) = g c := by
  by_cases hc : 'A' ≤ c ∧ c ≤ 'Z'
  · exact eq_of_beq (List.all_eq_true.1 h c (mem_capitals hc))
  · rw [asciiLowered, if_neg hc]

/-- What the tables say of the capitals: they are letters, and have most properties in common with their
small letters. -/
structure CapitalFacts : Prop where
  areLetters : capitals.all Char.isAlpha = true
  stay : ignoresCase asciiLowered = true
  lowerCase : ignoresCase lowerChar = true
  smallLetter : ignoresCase Char.toLower = true
  cased : ignoresCase cased.has = true
  ignorable : ignoresCase caseIgnorable.has = true
  blank : ignoresCase isBlank = true
  digit : ignoresCase Char.isDigit = true
  letter : ignoresCase Char.isAlpha = true

theorem capitalFacts : CapitalFacts := by constructor <;> decide +kernel

theorem asciiLowered_asciiLowered (c : Char) : asciiLowered (asciiLowered c) = asciiLowered c :=
  eq_of_ignoresCase (CapitalFacts.stay capitalFacts) c

theorem lowerChar_asciiLowered (c : Char) : lowerChar (asciiLowered c) = lowerChar c :=
  eq_of_ignoresCase (CapitalFacts.lowerCase capitalFacts) c

theorem toLower_asciiLowered (c : Char) : (asciiLowered c).toLower = c.toLower :=
  eq_of_ignoresCase (CapitalFacts.smallLetter capitalFacts) c

theorem cased_asciiLowered (c : Char) : cased.has (asciiLowered c) = cased.has c :=
  eq_of_ignoresCase (CapitalFacts.cased capitalFacts) c

theorem caseIgnorable_asciiLowered (c : Char) :
    caseIgnorable.has (asciiLowered c) = caseIgnorable.has c :=
  eq_of_ignoresCase (CapitalFacts.ignorable capitalFacts) c

theorem isBlank_asciiLowered (c : Char) : isBlank (asciiLowered c) = isBlank c :=
  eq_of_ignoresCase (CapitalFacts.blank capitalFacts) c

theorem isDigit_asciiLowered (c : Char) : (asciiLowered c).isDigit = c.isDigit :=
  eq_of_ignoresCase (CapitalFacts.digit capitalFacts) c

theorem isAlpha_asciiLowered (c : Char) : (asciiLowered c).isAlpha = c.isAlpha :=
  eq_of_ignoresCase (CapitalFacts.letter capitalFacts) c

/-- A character that is no letter stays as it is. -/
theorem asciiLowered_of_not_isAlpha {c : Char} (h : c.isAlpha = false) : asciiLowered c = c := by
  refine if_neg fun hc => ?_
  rw [List.all_eq_true.1 (CapitalFacts.areLetters capitalFacts) c (mem_capitals hc)] at h
  contradiction

/-- A character that is no letter comes from itself only. -/
theorem asciiLowered_eq_iff {c d : Char} (hd : d.isAlpha = false) : asciiLowered c = d ↔ c = d := by
  constructor
  · rintro rfl
    rw [isAlpha_asciiLowered] at hd
    exact (asciiLowered_of_not_isAlpha hd).symm
  · rintro rfl
    exact asciiLowered_of_not_isAlpha hd

/-! ### Lower case -/

theorem casedAhead_map (s : List Char) : casedAhead (s.map asciiLowered) = casedAhead s := by
  have hignorable : caseIgnorable.has ∘ asciiLowered = caseIgnorable.has :=
    funext caseIgnorable_asciiLowered
  rw [casedAhead, casedAhead, List.dropWhile_map, hignorable]
  cases s.dropWhile caseIgnorable.has with
  | nil => rfl
  | cons c _ => exact cased_asciiLowered c

theorem lowerInContext_map (before : List Char) (c : Char) (after : List Char) :
    lowerInContext (before.map asciiLowered) (asciiLowered c) (after.map asciiLowered) =
      lowerInContext before c after := by
  have hsigma : asciiLowered c = 'Σ' ↔ c = 'Σ' := asciiLowered_eq_iff (by decide)
  have hdotted : asciiLowered c = 'İ' ↔ c = 'İ' := asciiLowered_eq_iff (by decide)
  by_cases hc : c = 'Σ'
  · subst hc
    rw [hsigma.2 rfl]
    rw [lowerInContext, lowerInContext, if_pos rfl, if_pos rfl, endsWord, endsWord, casedAhead_map,
      casedAhead_map]
  · by_cases hc' : c = 'İ'
    · subst hc'
      rw [hdotted.2 rfl]
      rfl
    · rw [lowerInContext, lowerInContext, if_neg (hsigma.not.2 hc), if_neg (hdotted.not.2 hc'),
        if_neg hc, if_neg hc', lowerChar_asciiLowered]

theorem loweredAfter_map (before s : List Char) :
    loweredAfter (before.map asciiLowered) (s.map asciiLowered) = loweredAfter before s := by
  induction s generalizing before with
  | nil => rfl
  | cons c s ih =>
      rw [List.map_cons, loweredAfter, loweredAfter, lowerInContext_map, ← List.map_cons, ih]

/-- **Lower case does not depend on the case of the letters A to Z.** -/
theorem lowered_map_asciiLowered (s : List Char) : lowered (s.map asciiLowered) = lowered s :=
  loweredAfter_map [] s

/-! ### Texts -/

/-- The texts differ in the case of the letters A to Z only. -/
def SameLetters (s t : String) : Prop := s.toList.map asciiLowered = t.toList.map asciiLowered

instance (s t : String) : Decidable (SameLetters s t) :=
  inferInstanceAs (Decidable (s.toList.map asciiLowered = t.toList.map asciiLowered))

theorem equalUpToAsciiCase_iff {s t : String} : equalUpToAsciiCase s t = true ↔ SameLetters s t :=
  beq_iff_eq

namespace SameLetters

variable {s t : String}

theorem symm (h : SameLetters s t) : SameLetters t s := Eq.symm h

theorem trans {u : String} (h : SameLetters s t) (h' : SameLetters t u) : SameLetters s u := Eq.trans h h'

/-- What does not depend on the case of the letters A to Z is the same for both texts. -/
theorem congr {β : Type} (h : SameLetters s t) {g : List Char → β}
    (hg : ∀ u, g (u.map asciiLowered) = g u) : g s.toList = g t.toList := by
  rw [← hg s.toList, ← hg t.toList, h]

/-- Texts with the same letters have the same lower case. -/
theorem lowered_eq (h : SameLetters s t) : lowered s.toList = lowered t.toList :=
  h.congr lowered_map_asciiLowered

theorem loweredText_eq (h : SameLetters s t) : loweredText s = loweredText t :=
  congrArg String.ofList h.lowered_eq

/-- Texts with the same letters have the same ones without white space at their ends. -/
theorem trimmed (h : SameLetters s t) : SameLetters (trimmed s) (trimmed t) := by
  simp only [SameLetters, Unicode.trimmed, String.toList_ofList]
  rw [← trimBlanks_map isBlank_asciiLowered, ← trimBlanks_map isBlank_asciiLowered, h]

/-- Both texts are equal to the same texts up to the case of the letters A to Z. -/
theorem equalUpToAsciiCase_eq (h : SameLetters s t) (word : String) :
    equalUpToAsciiCase word s = equalUpToAsciiCase word t := by
  rw [Bool.eq_iff_iff, equalUpToAsciiCase_iff, equalUpToAsciiCase_iff]
  exact ⟨fun hs => hs.trans h, fun ht => ht.trans h.symm⟩

theorem isEmpty_eq (h : SameLetters s t) : s.isEmpty = t.isEmpty := by
  have hnil : s.toList = [] ↔ t.toList = [] := by
    rw [← List.map_eq_nil_iff (f := asciiLowered), h, List.map_eq_nil_iff]
  rw [Bool.eq_iff_iff, String.isEmpty_iff, String.isEmpty_iff]
  simpa using hnil

/-- A text without letters is the same as every text with its letters. -/
theorem eq_of_no_letters (h : SameLetters s t) (hs : ∀ c ∈ s.toList, c.isAlpha = false) : s = t := by
  have hfixed {u : String} (hu : ∀ c ∈ u.toList, c.isAlpha = false) :
      u.toList.map asciiLowered = u.toList := by
    have hid : ∀ c ∈ u.toList, asciiLowered c = id c := fun c hc => asciiLowered_of_not_isAlpha (hu c hc)
    rw [List.map_congr_left hid, List.map_id]
  have hsame : s.toList = t.toList.map asciiLowered := (hfixed hs).symm.trans h
  have ht : ∀ c ∈ t.toList, c.isAlpha = false := by
    intro c hc
    rw [← isAlpha_asciiLowered]
    exact hs _ (hsame ▸ List.mem_map_of_mem hc)
  rw [← String.toList_inj, hsame, hfixed ht]

theorem eq_label_iff (h : SameLetters s t) {label : String} {c : Char} (hlabel : label.toList = [c])
    (hc : c.isAlpha = false) : s = label ↔ t = label := by
  have hletters : ∀ d ∈ label.toList, d.isAlpha = false := by
    rw [hlabel, List.forall_mem_singleton]
    exact hc
  constructor
  · rintro rfl
    exact (h.eq_of_no_letters hletters).symm
  · rintro rfl
    exact (h.symm.eq_of_no_letters hletters).symm

end SameLetters

end CardQuery.Unicode
