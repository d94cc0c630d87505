/-
**A value as the only element of a list.**

The condition is meant to hold of a list that is not empty and holds nothing but the value, in any case of
its letters, and holds it once unless repeated elements count once.  In memory the elements are first taken
for the texts that they show.  Null, lists and objects show none, so that they are passed over: the condition
holds of a list just if its other elements alone are as they should be.

Main definitions:

* `Json.Shows`, `Json.isPlain` — the text that a value shows, and the values that show one;
* `Predicate.IsSole` — a list that holds nothing but a value.

Main results:

* `Predicate.soleTest_list` — **the elements without a text are passed over**;
* `Predicate.soleElement_list` — **what is asked of a stored list**, and when it is what is meant.
-/

import CardQuery.Proofs.Predicate.Test

set_option autoImplicit false

namespace CardQuery

open Unicode (lowered)

/-! ### Texts of elements -/

namespace Json

/-- A text shows itself, a number its digits, and a truth value its name. -/
inductive Shows : Json → String → Prop where
  | text (s : String) : Shows (.text s) s
  | number (n : Json.Number) : Shows (.number n) n.text
  | bool (b : Bool) : Shows (.bool b) (if b then "true" else "false")

/-- Texts, numbers and truth values. -/
def isPlain : Json → Bool
  | .text _ => true
  | .number _ => true
  | .bool _ => true
  | _ => false

variable {j : Json} {s : String} {items : List Json}

theorem textForm?_eq_some_iff : j.textForm? = some s ↔ j.Shows s := by
  constructor
  · intro h
    cases j with
    | text | number | bool =>
        obtain ⟨⟩ := h
        constructor
    | _ => contradiction
  · rintro ⟨⟩ <;> rfl

theorem isSome_textForm? (j : Json) : j.textForm?.isSome = j.isPlain := by
  cases j <;> rfl

theorem isPlain_of_shows (h : j.Shows s) : j.isPlain = true := by
  cases h <;> rfl

theorem exists_shows (h : j.isPlain = true) : ∃ s, j.Shows s := by
  rw [← isSome_textForm?] at h
  obtain ⟨s, hs⟩ := Option.isSome_iff_exists.1 h
  exact ⟨s, textForm?_eq_some_iff.1 hs⟩

theorem Shows.unique {t : String} (h : j.Shows s) (h' : j.Shows t) : s = t :=
  Option.some.inj ((textForm?_eq_some_iff.2 h).symm.trans (textForm?_eq_some_iff.2 h'))

theorem mem_texts_list : s ∈ (list items).texts ↔ ∃ item ∈ items, item.Shows s := by
  simp only [texts, List.mem_filterMap, textForm?_eq_some_iff]

/-- A list has as many texts as elements that show one. -/
theorem length_texts_list (items : List Json) :
    (list items).texts.length = (items.filter isPlain).length := by
  rw [texts, List.length_filterMap_eq_countP, List.countP_eq_length_filter]
  simp only [isSome_textForm?]

end Json

/-! ### The only element -/

namespace Predicate

variable {value : String} {distinct : Bool} {items : List Json}

/-- The list holds nothing but the value, and holds it once unless repeated elements count once. -/
structure IsSole (value : String) (distinct : Bool) (items : List Json) : Prop where
  nonempty : items ≠ []
  each : ∀ item ∈ items, ∃ s, item.Shows s ∧ lowered s.toList = lowered value.toList
  single : distinct = false → items.length = 1

/-- A list that holds nothing but a value has no elements without a text. -/
theorem IsSole.all_isPlain (h : IsSole value distinct items) : items.all Json.isPlain = true := by
  rw [List.all_eq_true]
  intro item hitem
  obtain ⟨s, hshows, -⟩ := h.each item hitem
  exact Json.isPlain_of_shows hshows

/-- **The elements without a text are passed over.** -/
theorem soleTest_list (value : String) (distinct : Bool) (items : List Json) :
    soleTest value distinct (Json.list items).texts = true ↔
      IsSole value distinct (items.filter Json.isPlain) := by
  have heach : (Json.list items).texts.all (equalsText value) = true ↔
      ∀ item ∈ items.filter Json.isPlain,
        ∃ s, item.Shows s ∧ lowered s.toList = lowered value.toList := by
    simp only [List.all_eq_true, Json.mem_texts_list, equalsText, beq_iff_eq, List.mem_filter]
    constructor
    · rintro h item ⟨hitem, hplain⟩
      obtain ⟨s, hshows⟩ := Json.exists_shows hplain
      exact ⟨s, hshows, h s ⟨item, hitem, hshows⟩⟩
    · rintro h s ⟨item, hitem, hshows⟩
      obtain ⟨t, ht, heq⟩ := h item ⟨hitem, Json.isPlain_of_shows hshows⟩
      rwa [hshows.unique ht]
  have hlength := Json.length_texts_list items
  rw [soleTest, Bool.and_eq_true, heach]
  cases distinct with
  | true =>
      have hsome : (!(Json.list items).texts.isEmpty) = true ↔ items.filter Json.isPlain ≠ [] := by
        rw [Bool.not_eq_true', ← Bool.not_eq_true, List.isEmpty_iff_length_eq_zero, hlength,
          List.length_eq_zero_iff]
      rw [if_pos rfl, hsome]
      exact ⟨fun h => ⟨h.1, h.2, nofun⟩, fun h => ⟨h.nonempty, h.each⟩⟩
  | false =>
      rw [if_neg Bool.false_ne_true, hlength, beq_iff_eq]
      constructor
      · rintro ⟨hone, heach⟩
        exact ⟨List.ne_nil_of_length_pos (by omega), heach, fun _ => hone⟩
      · exact fun h => ⟨h.single rfl, h.each⟩

/-- A list without elements that are passed over passes just if it is as it is meant to be. -/
theorem isSole_iff :
    IsSole value distinct items ↔
      IsSole value distinct (items.filter Json.isPlain) ∧ items.all Json.isPlain = true := by
  have hfilter (h : items.all Json.isPlain = true) : items.filter Json.isPlain = items :=
    List.filter_eq_self.2 (List.all_eq_true.1 h)
  constructor
  · intro h
    rw [hfilter h.all_isPlain]
    exact ⟨h, h.all_isPlain⟩
  · rintro ⟨h, hplain⟩
    rwa [hfilter hplain] at h

/-- **What is asked of a stored list.**  Its elements that show a text are looked at on their own, and the
list holds nothing but the value just if it passes and all its elements show a text. -/
theorem soleElement_list (key value : String) (distinct : Bool) :
    ∃ test, (soleElement key value distinct).test? = .ok test ∧
      ∀ (card : Json) (items : List Json), card.stored? (Json.pathOf key) = some (.list items) →
        (test card = true ↔ IsSole value distinct (items.filter Json.isPlain)) ∧
          (IsSole value distinct items ↔ test card = true ∧ items.all Json.isPlain = true) := by
  refine ⟨_, rfl, fun card items hstored => ?_⟩
  have htest : soleTest value distinct (card.textsAt (Json.pathOf key)) = true ↔
      IsSole value distinct (items.filter Json.isPlain) := by
    rw [Json.textsAt, hstored]
    exact soleTest_list value distinct items
  exact ⟨htest, isSole_iff.trans (and_congr_left' htest.symm)⟩

/-- A list with the value and null passes, though it does not hold the value alone; a list with the value in
two cases passes as well, and does. -/
theorem soleElement_list_null :
    let card (items : List Json) := Json.object [("runes", .list items)]
    ∃ test, (soleElement "runes" "Blood" true).test? = .ok test ∧
      test (card [.text "blood", .null]) = true ∧ ¬IsSole "Blood" true [.text "blood", .null] ∧
      test (card [.text "blood", .text "BLOOD"]) = true ∧
      IsSole "Blood" true [.text "blood", .text "BLOOD"] := by
  intro card
  have hpath : Json.pathOf "runes" = ["runes"] := by decide +kernel
  have hstored (items : List Json) :
      (card items).stored? (Json.pathOf "runes") = some (.list items) := by
    rw [hpath]
    rfl
  have hblood : lowered "blood".toList = lowered "Blood".toList := by decide +kernel
  have hcapital : lowered "BLOOD".toList = lowered "Blood".toList := by decide +kernel
  obtain ⟨test, htest, hlists⟩ := soleElement_list "runes" "Blood" true
  have hone : IsSole "Blood" true [.text "blood"] :=
    ⟨by simp, by simpa using ⟨_, .text _, hblood⟩, nofun⟩
  have htwo : IsSole "Blood" true [.text "blood", .text "BLOOD"] :=
    ⟨by simp, by simpa using ⟨⟨_, .text _, hblood⟩, ⟨_, .text _, hcapital⟩⟩, nofun⟩
  refine ⟨test, htest, (hlists _ _ (hstored _)).1.2 hone, ?_, ((hlists _ _ (hstored _)).2.1 htwo).1, htwo⟩
  exact fun h => Bool.false_ne_true h.all_isPlain

end Predicate

end CardQuery
