/-
**White space at the ends of a text.**

A text without white space at its ends has neither a first nor a last character that is blank, so taking
it away a second time changes nothing.  A map of characters that makes no character blank or visible may
come before or after.

Main results:

* `trimmed_trimmed` — **what has been trimmed stays as it is**;
* `trimBlanks_map` — a map that keeps blanks blank, and others not.
-/

import CardQuery.Unicode.Blank
import Mathlib.Data.List.DropRight

set_option autoImplicit false

namespace CardQuery.Unicode

/-- The blanks at the end are taken away last. -/
theorem trimBlanks_eq (s : List Char) : trimBlanks s = (s.dropWhile isBlank).rdropWhile isBlank := rfl

theorem trimBlanks_trimBlanks (s : List Char) : trimBlanks (trimBlanks s) = trimBlanks s := by
  have hfirst : (trimBlanks s).dropWhile isBlank = trimBlanks s := by
    rw [List.dropWhile_eq_self_iff]
    intro hpos
    have hfront : trimBlanks s <+: s.dropWhile isBlank := List.rdropWhile_prefix isBlank _
    have hdropped : 0 < (s.dropWhile isBlank).length := Nat.lt_of_lt_of_le hpos hfront.length_le
    rw [hfront.getElem hpos]
    exact List.dropWhile_eq_self_iff.1 (List.dropWhile_idempotent isBlank s) hdropped
  rw [trimBlanks_eq (trimBlanks s), hfirst, trimBlanks_eq s]
  exact List.rdropWhile_idempotent isBlank _

/-- **What has been trimmed stays as it is.** -/
@[simp] theorem trimmed_trimmed (s : String) : trimmed (trimmed s) = trimmed s := by
  rw [trimmed, trimmed, String.toList_ofList, trimBlanks_trimBlanks]

/-- A text without blanks stays as it is. -/
theorem trimmed_of_no_blanks {s : String} (h : ∀ c ∈ s.toList, isBlank c = false) : trimmed s = s := by
  have hfirst : s.toList.dropWhile isBlank = s.toList := by
    rw [List.dropWhile_eq_self_iff]
    intro hpos
    rw [h _ (List.getElem_mem hpos)]
    exact Bool.false_ne_true
  have hlast : s.toList.rdropWhile isBlank = s.toList := by
    rw [List.rdropWhile_eq_self_iff]
    intro hpos
    rw [h _ (List.getLast_mem hpos)]
    exact Bool.false_ne_true
  rw [trimmed, trimBlanks_eq, hfirst, hlast, String.ofList_toList]

/-- A map that keeps blanks blank, and others not, may come before or after. -/
theorem trimBlanks_map {f : Char → Char} (hf : ∀ c, isBlank (f c) = isBlank c) (s : List Char) :
    trimBlanks (s.map f) = (trimBlanks s).map f := by
  have hcomp : isBlank ∘ f = isBlank := funext hf
  simp only [trimBlanks, List.dropWhile_map, ← List.map_reverse, hcomp]

end CardQuery.Unicode
