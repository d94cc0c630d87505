/-
**Predicates that imply others.**

A predicate implies another if every card that passes the test of the one passes the test of the other.  This
includes that there is a test of the other at all: a regular expression for whole texts is written around one
that is searched for, and what is wrong with the latter is wrong with the former.

Main definitions:

* `Predicate.Implies` — every card that passes the one test passes the other.

Main results:

* `Predicate.Implies.disjunction` — alternatives of which each implies another;
* `Predicate.textEquals_implies_contains`, `Predicate.soleElement_implies_hasElement`,
  `Predicate.soleElement_implies_distinct` — **conditions on texts from the strictest to the weakest**;
* `Predicate.wholeText_implies_regex` — **what describes the whole text is found in it**.
-/

import CardQuery.Proofs.Outcome
import CardQuery.Proofs.Predicate.Text
import CardQuery.Proofs.Regex.Search
import CardQuery.Proofs.Regex.Whole

set_option autoImplicit false

namespace CardQuery.Predicate

/-- Every card that passes the test of the first predicate passes that of the second, which there is if there
is one of the first. -/
def Implies (p q : Predicate) : Prop :=
  ∀ test, p.test? = .ok test → ∃ test', q.test? = .ok test' ∧ ∀ card, test card = true → test' card = true

namespace Implies

variable {p q r : Predicate}

theorem refl (p : Predicate) : p.Implies p := fun test htest => ⟨test, htest, fun _ h => h⟩

theorem trans (hpq : p.Implies q) (hqr : q.Implies r) : p.Implies r := by
  intro test htest
  obtain ⟨test', htest', hcards⟩ := hpq test htest
  obtain ⟨test'', htest'', hcards'⟩ := hqr test' htest'
  exact ⟨test'', htest'', fun card h => hcards' card (hcards card h)⟩

/-- What a predicate without regular expressions means decides whether it is implied. -/
theorem of_holds (hq : q.patterns = []) (h : ∀ card, p.holds card = true → q.holds card = true) :
    p.Implies q := by
  intro test htest
  obtain ⟨-, rfl⟩ := test?_eq_ok_iff.1 htest
  refine ⟨q.holds, test?_eq_ok_iff.2 ⟨?_, rfl⟩, h⟩
  rw [hq]
  exact fun pattern hpattern => absurd hpattern List.not_mem_nil

/-- Without malformed regular expressions in it, what a predicate implies is met where it is met. -/
theorem holds (h : p.Implies q) (hp : ∀ pattern ∈ p.patterns, IsMalformed pattern = false) :
    (∀ pattern ∈ q.patterns, IsMalformed pattern = false) ∧
      ∀ card, p.holds card = true → q.holds card = true := by
  obtain ⟨test, htest, hcards⟩ := h p.holds (test?_eq_ok_iff.2 ⟨hp, rfl⟩)
  obtain ⟨hq, rfl⟩ := test?_eq_ok_iff.1 htest
  exact ⟨hq, hcards⟩

/-- Alternatives imply others if each of them implies one. -/
theorem disjunction {ps qs : List Predicate} (h : List.Forall₂ Implies ps qs) :
    (Predicate.disjunction ps).Implies (Predicate.disjunction qs) := by
  intro test htest
  obtain ⟨hps, rfl⟩ := test?_eq_ok_iff.1 htest
  rw [patterns_disjunction, List.forall_mem_flatMap] at hps
  refine ⟨_, test?_eq_ok_iff.2 ⟨?_, rfl⟩, fun card hcard => ?_⟩
  · rw [patterns_disjunction, List.forall_mem_flatMap]
    intro q hq
    obtain ⟨p, hp, hpq⟩ := exists_rel_of_mem h hq
    exact (hpq.holds (hps p hp)).1
  · rw [holds_disjunction, List.any_eq_true] at hcard ⊢
    obtain ⟨p, hp, hmeets⟩ := hcard
    have himplied : ∃ q ∈ qs, p.Implies q := exists_rel_of_mem h.flip hp
    obtain ⟨q, hq, hpq⟩ := himplied
    exact ⟨q, hq, (hpq.holds (hps p hp)).2 card hmeets⟩

end Implies

variable {key : String}

/-! ### Texts -/

/-- A weaker test of texts is passed wherever the stronger one is. -/
theorem textTest_mono {passes passes' : String → Bool} (h : ∀ s, passes s = true → passes' s = true)
    {card : Json} (hcard : textTest key passes card = true) : textTest key passes' card = true := by
  obtain ⟨s, hs, hpasses⟩ := List.any_eq_true.1 hcard
  exact List.any_eq_true.2 ⟨s, hs, h s hpasses⟩

/-- A text contains what it is. -/
theorem textEquals_implies_contains (key value : String) :
    (textEquals key value).Implies (contains key value) := by
  refine .of_holds rfl fun card hcard => textTest_mono (fun s hs => ?_) hcard
  rw [equalsText, beq_iff_eq] at hs
  rw [containsNeedle, TextCondition.containsText_iff, hs]

/-- An element that is there once is also the only one where equal ones count once. -/
theorem soleElement_implies_distinct (key value : String) (distinct : Bool) :
    (soleElement key value distinct).Implies (soleElement key value true) := by
  refine .of_holds rfl fun card hcard => ?_
  simp only [holds, soleTest, Bool.and_eq_true] at hcard ⊢
  refine ⟨?_, hcard.2⟩
  cases distinct with
  | false =>
      cases htexts : card.textsAt (Json.pathOf key) with
      | nil =>
          rw [htexts] at hcard
          exact absurd hcard.1 (by decide)
      | cons s rest => rfl
  | true => exact hcard.1

/-- The only element of a list is one of its elements. -/
theorem soleElement_implies_hasElement (key value : String) (distinct : Bool) :
    (soleElement key value distinct).Implies (hasElement key value) := by
  refine (soleElement_implies_distinct key value distinct).trans (.of_holds rfl fun card hcard => ?_)
  simp only [holds, soleTest, if_true, Bool.and_eq_true, List.all_eq_true] at hcard
  obtain ⟨hsome, hall⟩ := hcard
  have hne : card.textsAt (Json.pathOf key) ≠ [] := by simpa using hsome
  obtain ⟨s, hs⟩ := List.exists_mem_of_ne_nil _ hne
  exact List.any_eq_true.2 ⟨s, hs, hall s hs⟩

/-! ### Regular expressions -/

/-- **What describes the whole text is found in it.** -/
theorem wholeText_implies_regex (key : String) {source : String} (hvalid : Regex.isValid source = true) :
    (regex key (wholeText source)).Implies (regex key source) := by
  intro test htest
  rw [test?] at htest
  cases hwhole : Regex.parse? true (wholeText source) with
  | none =>
      rw [hwhole] at htest
      contradiction
  | some whole =>
      rw [hwhole] at htest
      cases htest
      obtain ⟨pattern, hparse⟩ := Regex.exists_parse?_of_isValid true hvalid
      obtain ⟨-, -, rfl⟩ := (Regex.parse?_wholeText hparse whole).1 hwhole
      refine ⟨_, by rw [test?, hparse], fun card hcard => textTest_mono (fun s hs => ?_) hcard⟩
      rw [Regex.occursIn_whole] at hs
      exact (Regex.occursIn_iff _ pattern).2 ⟨0, s.toList.length, Nat.zero_le _, hs⟩

end CardQuery.Predicate
