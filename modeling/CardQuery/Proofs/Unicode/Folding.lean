/-
**Tables of case mappings.**

The tables are walked from the front, and their runs are in ascending order, so that a character is mapped
by any run that covers it.  No character that one is mapped to is mapped on.  These facts are read off the
tables once; from them follows that folding and lower case change nothing the second time, that lower case
does not change the folding of a character, and that the orbit of a character holds the characters that
are folded like it.

Main definitions:

* `CaseRun.codes`, `CaseRun.image` — the code points that a run maps, and what they are mapped to;
* `ordered`, `bitsOf` — ascending runs, and sets of code points as numbers;
* `CaseTable` — what is checked of a table of case mappings;
* `reversedRuns` — the runs to lower case that folding has the other way round.

Main results:

* `CaseTable.mapByRuns_eq` — **a character is mapped by the run that covers it**;
* `mem_orbit_iff` — the orbit of a character;
* `folded_folded`, `lowerChar_lowerChar`, `folded_lowerChar` — **folding and lower case**.
-/

import CardQuery.Unicode.Case
import Mathlib.Data.List.Basic

set_option autoImplicit false

namespace CardQuery.Unicode

theorem toNat_ofNat {code : Nat} (h : code.isValidChar) : (Char.ofNat code).toNat = code := by
  rw [Char.ofNat, dif_pos h]
  rfl

/-! ### Runs -/

namespace CaseRun

/-- The code points that a run maps. -/
def codes (r : CaseRun) : List Nat :=
  (List.range ((r.last - r.first) / r.step + 1)).map fun k => r.first + k * r.step

/-- What a code point of a run is mapped to. -/
def image (r : CaseRun) (code : Nat) : Nat := ((code : Int) + r.shift).toNat

/-- A range of code points of characters. -/
def areCharacters (low high : Int) : Bool :=
  0 ≤ low && (high < 0xD800 || (0xDFFF < low && high < 0x110000))

/-- A run maps characters to characters. -/
def isValid (r : CaseRun) : Bool :=
  areCharacters r.first r.last && areCharacters (r.first + r.shift) (r.last + r.shift)

variable {r : CaseRun} {code : Nat}

theorem bounds_of_covers (h : r.covers code = true) : r.first ≤ code ∧ code ≤ r.last := by
  simp only [covers, Bool.and_eq_true, decide_eq_true_eq] at h
  exact h.1

theorem mem_codes_of_covers (h : r.covers code = true) : code ∈ r.codes := by
  obtain ⟨hfirst, hlast⟩ := bounds_of_covers h
  simp only [covers, Bool.and_eq_true, beq_iff_eq] at h
  have hstep : (code - r.first) / r.step * r.step = code - r.first :=
    Nat.div_mul_cancel (Nat.dvd_of_mod_eq_zero h.2)
  have hrounds : (code - r.first) / r.step ≤ (r.last - r.first) / r.step :=
    Nat.div_le_div_right (by omega)
  refine List.mem_map.2 ⟨(code - r.first) / r.step, List.mem_range.2 (by omega), ?_⟩
  omega

theorem isValidChar_of_areCharacters {low high : Int} {code : Nat} (h : areCharacters low high = true)
    (hlow : low ≤ code) (hhigh : (code : Int) ≤ high) : code.isValidChar := by
  simp only [areCharacters, Bool.and_eq_true, Bool.or_eq_true, decide_eq_true_eq] at h
  rw [Nat.isValidChar]
  omega

theorem isValidChar_of_covers (hr : r.isValid = true) (h : r.covers code = true) :
    code.isValidChar := by
  obtain ⟨hfirst, hlast⟩ := bounds_of_covers h
  rw [isValid, Bool.and_eq_true] at hr
  exact isValidChar_of_areCharacters hr.1 (by omega) (by omega)

theorem image_eq (hr : r.isValid = true) (hfirst : r.first ≤ code) :
    (r.image code : Int) = code + r.shift := by
  simp only [isValid, areCharacters, Bool.and_eq_true, decide_eq_true_eq] at hr
  rw [image]
  omega

theorem isValidChar_image (hr : r.isValid = true) (h : r.covers code = true) :
    (r.image code).isValidChar := by
  obtain ⟨hfirst, hlast⟩ := bounds_of_covers h
  have himage := image_eq hr hfirst
  rw [isValid, Bool.and_eq_true] at hr
  exact isValidChar_of_areCharacters hr.2 (by omega) (by omega)

/-- The run that maps everything back. -/
def reversed (r : CaseRun) : CaseRun :=
  ⟨r.image r.first, r.image r.last, r.step, -r.shift⟩

theorem covers_reversed (hr : r.isValid = true) (h : r.covers code = true) :
    r.reversed.covers (r.image code) = true ∧ r.reversed.image (r.image code) = code := by
  obtain ⟨hfirst, hlast⟩ := bounds_of_covers h
  have himage := image_eq hr hfirst
  have himageFirst := image_eq hr (Nat.le_refl r.first)
  have himageLast := image_eq hr (Nat.le_trans hfirst hlast)
  have hdistance : r.image code - r.image r.first = code - r.first := by omega
  constructor
  · have hle : r.image r.first ≤ r.image code ∧ r.image code ≤ r.image r.last := by omega
    simp only [covers, Bool.and_eq_true, decide_eq_true_eq] at h
    simp only [covers, reversed, hdistance, hle, h.2, decide_true, Bool.and_self]
  · rw [image, reversed]
    simp only
    omega

/-- A run leads to a code point from where it says. -/
theorem source?_eq_some_iff (hr : r.isValid = true) {source : Nat} :
    r.source? code = some source ↔ r.covers source = true ∧ r.image source = code := by
  change (if 0 ≤ (code : Int) - r.shift ∧ r.covers ((code : Int) - r.shift).toNat = true then
    some ((code : Int) - r.shift).toNat else none) = some source ↔ _
  constructor
  · intro h
    split at h
    · next hcovers =>
      have hsource := Option.some.inj h
      rw [hsource] at hcovers
      have himage := image_eq hr (bounds_of_covers hcovers.2).1
      exact ⟨hcovers.2, by omega⟩
    · cases h
  · rintro ⟨hcovers, rfl⟩
    have himage := image_eq hr (bounds_of_covers hcovers).1
    have hsource : ((r.image source : Int) - r.shift).toNat = source := by omega
    rw [hsource, if_pos ⟨by omega, hcovers⟩]

end CaseRun

/-! ### Tables -/

/-- The runs begin in ascending order, and those that overlap shift alike; before them come runs from
`first` on, which reach to `reach` and end with one that adds `shift`. -/
def ordered (first reach : Nat) (shift : Int) : List CaseRun → Bool
  | [] => true
  | r :: rest =>
    first ≤ r.first && (reach < r.first || r.shift == shift) &&
      ordered r.first (max reach r.last) r.shift rest

theorem of_ordered {first reach : Nat} {shift : Int} {runs : List CaseRun}
    (h : ordered first reach shift runs = true) {r : CaseRun} (hr : r ∈ runs) :
    first ≤ r.first ∧ (reach < r.first ∨ r.shift = shift) := by
  induction runs generalizing first reach shift with
  | nil => contradiction
  | cons q rest ih =>
      simp only [ordered, Bool.and_eq_true, Bool.or_eq_true, decide_eq_true_eq, beq_iff_eq] at h
      obtain ⟨⟨hfirst, hq⟩, hrest⟩ := h
      rcases List.mem_cons.1 hr with rfl | hr
      · exact ⟨hfirst, hq⟩
      · obtain ⟨hle, hreach⟩ := ih hrest hr
        omega

/-- A character is mapped by any of the ascending runs that covers it. -/
theorem mapByRuns_of_covers {first reach : Nat} {shift : Int} {runs : List CaseRun}
    (h : ordered first reach shift runs = true) {r : CaseRun} (hr : r ∈ runs) {code : Nat}
    (hcode : r.covers code = true) : mapByRuns code runs = r.image code := by
  have hbounds := r.bounds_of_covers hcode
  induction runs generalizing first reach shift with
  | nil => contradiction
  | cons q rest ih =>
      simp only [ordered, Bool.and_eq_true] at h
      rw [mapByRuns]
      rcases List.mem_cons.1 hr with rfl | hr
      · rw [if_neg (by omega), if_pos hcode]
        rfl
      · obtain ⟨hle, hreach⟩ := of_ordered h.2 hr
        rw [if_neg (by omega)]
        split
        · next hq =>
          -- an earlier run that covers it too adds the same
          have hlast := (q.bounds_of_covers hq).2
          have hshift : r.shift = q.shift := by omega
          rw [← hshift]
          rfl
        · exact ih h.2 hr

theorem mapByRuns_of_not_covers {runs : List CaseRun} {code : Nat}
    (h : ∀ r ∈ runs, r.covers code = false) : mapByRuns code runs = code := by
  induction runs with
  | nil => rfl
  | cons r rest ih =>
      rw [List.forall_mem_cons] at h
      rw [mapByRuns, h.1, ih h.2]
      simp

/-- A set of code points as a number whose bits they are. -/
def bitsOf : List Nat → Nat
  | [] => 0
  | code :: rest => bitsOf rest ||| 1 <<< code

theorem testBit_bitsOf {codes : List Nat} {code : Nat} (h : code ∈ codes) :
    (bitsOf codes).testBit code = true := by
  induction codes with
  | nil => contradiction
  | cons other rest ih =>
      rw [bitsOf, Nat.testBit_or, Bool.or_eq_true]
      rcases List.mem_cons.1 h with rfl | h
      · exact .inr (by simp [Nat.testBit_shiftLeft])
      · exact .inl (ih h)

/-- The code points that come with the runs of a table. -/
def gatheredBits (codes : CaseRun → List Nat) (runs : List CaseRun) : Nat :=
  runs.foldr (fun r bits => bits ||| bitsOf (codes r)) 0

theorem testBit_gatheredBits {codes : CaseRun → List Nat} {runs : List CaseRun} {r : CaseRun}
    (hr : r ∈ runs) {code : Nat} (h : code ∈ codes r) :
    (gatheredBits codes runs).testBit code = true := by
  induction runs with
  | nil => contradiction
  | cons q rest ih =>
      rw [gatheredBits, List.foldr_cons, Nat.testBit_or, Bool.or_eq_true]
      rcases List.mem_cons.1 hr with rfl | hr
      · exact .inr (testBit_bitsOf h)
      · exact .inl (ih hr)

/-- What is checked of a table of case mappings: its runs ascend and map characters to characters, none of
which is mapped on. -/
structure CaseTable (runs : List CaseRun) : Prop where
  ordered : ordered 0 0 0 runs = true
  valid : runs.all CaseRun.isValid = true
  apart : gatheredBits CaseRun.codes runs &&&
    gatheredBits (fun r => r.codes.map r.image) runs = 0

/-- The runs to lower case that lead away from the representative. -/
def reversedRuns : List CaseRun := [⟨0x13A0, 0x13EF, 1, 38864⟩, ⟨0x13F0, 0x13F5, 1, 8⟩]

/-- What the tables hold: both are as they should be, and all runs to lower case are runs of folding, but
for a few that are runs of folding the other way round. -/
theorem case_tables :
    CaseTable foldingRuns ∧ CaseTable lowercaseRuns ∧
      (lowercaseRuns.filter fun r => !reversedRuns.contains r).isSublist foldingRuns = true ∧
      ∀ r ∈ reversedRuns, r.reversed ∈ foldingRuns :=
  ⟨⟨by decide +kernel, by decide +kernel, by decide +kernel⟩,
    ⟨by decide +kernel, by decide +kernel, by decide +kernel⟩, by decide +kernel, by decide +kernel⟩

theorem caseTable_folding : CaseTable foldingRuns := case_tables.1

theorem caseTable_lowercase : CaseTable lowercaseRuns := case_tables.2.1

namespace CaseTable

variable {runs : List CaseRun} {r : CaseRun} {code : Nat}

theorem isValid (h : CaseTable runs) (hr : r ∈ runs) : r.isValid = true :=
  List.all_eq_true.1 h.valid r hr

/-- **A character is mapped by the run that covers it**, or else stays as it is. -/
theorem mapByRuns_eq (h : CaseTable runs) (code : Nat) :
    (∃ r ∈ runs, r.covers code = true ∧ mapByRuns code runs = r.image code) ∨
      ((∀ r ∈ runs, r.covers code = false) ∧ mapByRuns code runs = code) := by
  by_cases hcovers : ∃ r ∈ runs, r.covers code = true
  · obtain ⟨r, hr, hcode⟩ := hcovers
    exact .inl ⟨r, hr, hcode, mapByRuns_of_covers h.ordered hr hcode⟩
  · have hnone : ∀ r ∈ runs, r.covers code = false := by simpa using hcovers
    exact .inr ⟨hnone, mapByRuns_of_not_covers hnone⟩

/-- What a code point is mapped to is not mapped on. -/
theorem mapByRuns_image (h : CaseTable runs) (hr : r ∈ runs) (hcode : r.covers code = true) :
    mapByRuns (r.image code) runs = r.image code := by
  refine mapByRuns_of_not_covers fun q hq => ?_
  cases hcovers : q.covers (r.image code) with
  | false => rfl
  | true =>
      have hdomain := testBit_gatheredBits hq (CaseRun.mem_codes_of_covers hcovers)
      have himage : (gatheredBits (fun r => r.codes.map r.image) runs).testBit (r.image code) = true :=
        testBit_gatheredBits hr (List.mem_map_of_mem (CaseRun.mem_codes_of_covers hcode))
      have hboth := congrArg (fun n => n.testBit (r.image code)) h.apart
      simp only [Nat.testBit_and, hdomain, himage, Bool.and_self, Nat.zero_testBit] at hboth
      contradiction

theorem mapByRuns_mapByRuns (h : CaseTable runs) (code : Nat) :
    mapByRuns (mapByRuns code runs) runs = mapByRuns code runs := by
  rcases h.mapByRuns_eq code with ⟨r, hr, hcode, heq⟩ | ⟨-, heq⟩
  · rw [heq, h.mapByRuns_image hr hcode]
  · rw [heq, heq]

theorem toNat_mapped (h : CaseTable runs) (c : Char) :
    (Char.ofNat (mapByRuns c.toNat runs)).toNat = mapByRuns c.toNat runs := by
  have hvalid : (mapByRuns c.toNat runs).isValidChar := by
    rcases h.mapByRuns_eq c.toNat with ⟨r, hr, hcode, heq⟩ | ⟨-, heq⟩
    · rw [heq]
      exact CaseRun.isValidChar_image (h.isValid hr) hcode
    · rw [heq]
      exact c.valid
  exact toNat_ofNat hvalid

end CaseTable

/-! ### Characters -/

theorem toNat_folded (c : Char) : (folded c).toNat = mapByRuns c.toNat foldingRuns :=
  caseTable_folding.toNat_mapped c

theorem toNat_lowerChar (c : Char) : (lowerChar c).toNat = mapByRuns c.toNat lowercaseRuns :=
  caseTable_lowercase.toNat_mapped c

/-- **Folding** changes nothing the second time. -/
theorem folded_folded (c : Char) : folded (folded c) = folded c := by
  refine congrArg Char.ofNat ?_
  rw [toNat_folded, caseTable_folding.mapByRuns_mapByRuns]

/-- **Lower case** changes nothing the second time. -/
theorem lowerChar_lowerChar (c : Char) : lowerChar (lowerChar c) = lowerChar c := by
  refine congrArg Char.ofNat ?_
  rw [toNat_lowerChar, caseTable_lowercase.mapByRuns_mapByRuns]

/-- The orbit of a character holds the characters that are folded like it. -/
theorem mem_orbit_iff {c d : Char} : d ∈ orbit c ↔ folded d = folded c := by
  have hrep : Char.ofNat (folded c).toNat = folded c := Char.ofNat_toNat _
  rw [orbit]
  simp only [List.mem_cons, List.mem_map, List.mem_filterMap, hrep]
  constructor
  · rintro (rfl | ⟨source, ⟨r, hr, hsource⟩, rfl⟩)
    · exact folded_folded c
    · have hvalid := caseTable_folding.isValid hr
      obtain ⟨hcovers, himage⟩ := (CaseRun.source?_eq_some_iff hvalid).1 hsource
      have htoNat := toNat_ofNat (CaseRun.isValidChar_of_covers hvalid hcovers)
      rw [folded, htoNat, mapByRuns_of_covers caseTable_folding.ordered hr hcovers, himage, hrep]
  · intro h
    rcases caseTable_folding.mapByRuns_eq d.toNat with ⟨r, hr, hcovers, heq⟩ | ⟨-, heq⟩
    · refine .inr ⟨d.toNat, ⟨r, hr, ?_⟩, Char.ofNat_toNat d⟩
      rw [CaseRun.source?_eq_some_iff (caseTable_folding.isValid hr)]
      exact ⟨hcovers, by rw [← heq, ← toNat_folded, h]⟩
    · left
      rw [← h, folded, heq, Char.ofNat_toNat]

/-! ### Lower case and folding -/

/-- A run to lower case is a run of folding, or its reverse is one. -/
theorem mem_foldingRuns_of_mem_lowercaseRuns {r : CaseRun} (hr : r ∈ lowercaseRuns) :
    r ∈ foldingRuns ∨ r.reversed ∈ foldingRuns := by
  obtain ⟨-, -, hsublist, hreversed⟩ := case_tables
  by_cases hmem : r ∈ reversedRuns
  · exact .inr (hreversed r hmem)
  · refine .inl ((List.isSublist_iff_sublist.1 hsublist).subset (List.mem_filter.2 ⟨hr, ?_⟩))
    simpa using hmem

theorem folded_lowerCode (code : Nat) :
    mapByRuns (mapByRuns code lowercaseRuns) foldingRuns = mapByRuns code foldingRuns := by
  rcases caseTable_lowercase.mapByRuns_eq code with ⟨r, hr, hcode, heq⟩ | ⟨-, heq⟩
  · rw [heq]
    rcases mem_foldingRuns_of_mem_lowercaseRuns hr with hfolding | hback
    · rw [caseTable_folding.mapByRuns_image hfolding hcode,
        mapByRuns_of_covers caseTable_folding.ordered hfolding hcode]
    · -- the lower case is folded back to the character
      have hvalid := caseTable_lowercase.isValid hr
      obtain ⟨hcovers, himage⟩ := CaseRun.covers_reversed hvalid hcode
      have hfolded := mapByRuns_of_covers caseTable_folding.ordered hback hcovers
      rw [himage] at hfolded
      rw [hfolded, ← hfolded, caseTable_folding.mapByRuns_mapByRuns]
  · rw [heq]

/-- **Lower case** does not change the folding of a character. -/
theorem folded_lowerChar (c : Char) : folded (lowerChar c) = folded c := by
  refine congrArg Char.ofNat ?_
  rw [toNat_lowerChar, folded_lowerCode]

end CardQuery.Unicode
