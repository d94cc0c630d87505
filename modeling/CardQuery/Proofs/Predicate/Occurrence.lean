/-
**Texts that hold a needle.**

A text in which a needle occurs as it is written holds it in any case as well.  SQL finds it there, as it
folds character by character.  In memory both are compared in lower case, and this finds the needle as long
as none of its sigmas has another form where it occurs than it has at the rim of the needle.

Main definitions:

* `Json.HoldsText` — a value is a text, or a list with the text among its elements.

Main results:

* `Predicate.holds_contains` — **in memory** the needle is looked for in lower case;
* `Predicate.contains_occurrence` — **a needle is found where it occurs** exactly when none of its sigmas is
  loose.
-/

import CardQuery.Proofs.Predicate.Text
import CardQuery.Proofs.Unicode.Sigma

set_option autoImplicit false

namespace CardQuery

open Sql
open Unicode (folded hasLooseSigma lowered loweredBetween)

/-- The value is the text, or a list that has it among its elements. -/
inductive Json.HoldsText : Json → String → Prop where
  | single (s : String) : HoldsText (.text s) s
  | element {items : List Json} {s : String} (h : .text s ∈ items) : HoldsText (.list items) s

theorem Json.HoldsText.mem_texts {stored : Json} {s : String} (h : stored.HoldsText s) :
    s ∈ stored.texts := by
  cases h with
  | single => exact List.mem_singleton_self s
  | element h => exact List.mem_filterMap.2 ⟨_, h, rfl⟩

namespace Predicate

variable {key needle : String} {card stored : Json}

/-- **In memory** a needle is looked for in the lower case of the texts at the key. -/
theorem holds_contains (hstored : card.stored? (Json.pathOf key) = some stored) :
    (contains key needle).holds card = true ↔
      ∃ s ∈ stored.texts, lowered needle.toList <:+: lowered s.toList := by
  simp only [holds, textTest, Json.textsAt, hstored, List.any_eq_true, containsNeedle,
    TextCondition.containsText_iff]

/-- In SQL a needle is found in every text in which it occurs. -/
theorem toSql_contains_occurrence {a b : String}
    (hpart : partAt key card = .ok (some (.text (a ++ needle ++ b)))) :
    (contains key needle).toSql.holds card = .ok true := by
  obtain ⟨found, hholds, hiff⟩ := TextCondition.toSql_holds_iff hpart (.single .contains _)
  have hfolded : TextCondition.contains.Holds (List.map folded) needle [a ++ needle ++ b] := by
    refine ⟨_, List.mem_singleton_self _, ?_⟩
    simp only [String.toList_append, List.map_append]
    exact ⟨_, _, rfl⟩
  rwa [hiff.2 hfolded] at hholds

/-- **A needle is found where it occurs.**  In memory it is, as long as its sigmas have the form there that
they have in the needle; that is in all places exactly when none of them is loose.  In SQL it always is. -/
theorem contains_occurrence (key needle : String) :
    ∃ test, (contains key needle).test? = .ok test ∧
      (∀ card stored (a b : String), card.stored? (Json.pathOf key) = some stored →
        stored.HoldsText (a ++ needle ++ b) →
        loweredBetween a.toList.reverse needle.toList b.toList = lowered needle.toList →
        test card = true) ∧
      ((∀ card stored (a b : String), card.stored? (Json.pathOf key) = some stored →
          stored.HoldsText (a ++ needle ++ b) → test card = true) ↔
        hasLooseSigma [] needle.toList = false) ∧
      ∀ card (a b : String), partAt key card = .ok (some (.text (a ++ needle ++ b))) →
        (contains key needle).toSql.holds card = .ok true := by
  refine ⟨_, TextCondition.test?_eq .contains key needle, ?_, ⟨?_, ?_⟩, ?_⟩
  · intro card stored a b hstored hholds hsame
    refine (holds_contains hstored).2 ⟨_, hholds.mem_texts, ?_⟩
    obtain ⟨b', hlowered⟩ := Unicode.lowered_append_append a.toList needle.toList b.toList
    rw [String.toList_append, String.toList_append, hlowered, hsame]
    exact ⟨_, _, rfl⟩
  · intro hfound
    rw [← Unicode.infix_lowered_iff]
    intro a b
    -- a card that holds the surrounded needle and nothing else
    let s := String.ofList a ++ needle ++ String.ofList b
    let card := TextCondition.nested (Json.pathOf key) (.text s)
    have hstored : card.stored? (Json.pathOf key) = some (.text s) := by
      rw [Json.stored?, TextCondition.at?_nested]
    obtain ⟨t, ht, hwithin⟩ := (holds_contains hstored).1 (hfound card _ _ _ hstored (.single s))
    obtain rfl := List.mem_singleton.1 ht
    simpa [s] using hwithin
  · intro hloose card stored a b hstored hholds
    refine (holds_contains hstored).2 ⟨_, hholds.mem_texts, ?_⟩
    rw [String.toList_append, String.toList_append]
    exact Unicode.infix_lowered_iff.2 hloose _ _
  · intro card a b hpart
    exact toSql_contains_occurrence hpart

/-- The sigma at the end of the needle is final at the end of a word and not inside of one, so that the needle
is found in the one text and not in the other. -/
theorem contains_occurrence_final_sigma :
    let card (s : String) := Json.object [("name", .text s)]
    ∃ test, (contains "name" "ΟΔΥΣ").test? = .ok test ∧
      test (card ("Ο " ++ "ΟΔΥΣ" ++ ".")) = true ∧
      (¬∀ card stored (a b : String), card.stored? (Json.pathOf "name") = some stored →
        stored.HoldsText (a ++ "ΟΔΥΣ" ++ b) → test card = true) ∧
      (contains "name" "ΟΔΥΣ").toSql.holds (card ("" ++ "ΟΔΥΣ" ++ "ΣΕΥΣ")) = .ok true := by
  intro card
  have hpath : Json.pathOf "name" = ["name"] := by decide +kernel
  have hstored (s : String) : (card s).stored? (Json.pathOf "name") = some (.text s) := by
    rw [hpath]
    rfl
  have hform : loweredBetween "Ο ".toList.reverse "ΟΔΥΣ".toList ".".toList = lowered "ΟΔΥΣ".toList := by
    decide +kernel
  have hloose : hasLooseSigma [] "ΟΔΥΣ".toList = true := by decide +kernel
  obtain ⟨test, htest, hfound, hall, hsql⟩ := contains_occurrence "name" "ΟΔΥΣ"
  refine ⟨test, htest, hfound _ _ _ _ (hstored _) (.single _) hform, fun h => ?_, hsql _ _ _ rfl⟩
  have hnone := hall.1 h
  rw [hloose] at hnone
  contradiction

end Predicate

end CardQuery
