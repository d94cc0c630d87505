/-
**Regular expressions that are the whole text.**

A regular expression behind an equals sign is put into a group between the two anchors, and what comes of
it is searched for like any other.  Alternatives, anchors and flags of the regular expression end with the
group, and of several ways to describe pieces of a text one that describes all of it is enough.  So the
token is met by the texts that the regular expression itself, with case ignored, describes from beginning
to end.

Main results:

* `Predicate.exists_test?_regex` — texts that meet a regular expression;
* `Argument.regex_equals_whole` — **equality with a regular expression is about whole texts**.
-/

import CardQuery.Proofs.Filtering
import CardQuery.Proofs.Names
import CardQuery.Proofs.Regex.Search
import CardQuery.Proofs.Regex.Whole

set_option autoImplicit false

namespace CardQuery

open Regex (Spans)

/-- A condition with a pattern can be tested, and a text at the key meets it if the pattern is found in
the text. -/
theorem Predicate.exists_test?_regex (key : String) {source : String} {p : Regex.Pattern}
    (hparse : Regex.parse? true source = some p) :
    ∃ test, (Predicate.regex key source).test? = .ok test ∧
      ∀ {card : Json} {s : String}, card.stored? (Json.pathOf key) = some (.text s) →
        (test card = true ↔ p.occursIn s.toList = true) := by
  refine ⟨_, by rw [Predicate.test?, hparse], fun {card s} hstored => ?_⟩
  have htexts : card.textsAt (Json.pathOf key) = [s] := by
    rw [Json.textsAt, hstored]
    rfl
  simp [Predicate.textTest, htexts]

namespace Argument

/-- **Equality with a regular expression is about whole texts.**

A token with an equals sign asks a command for texts for a regular expression that can be put between
anchors.  The regular expression writes a pattern with case ignored, the condition can be tested, and a
stored text meets it exactly when the pattern describes the text from beginning to end.  Without the mark
of a negation, it is this condition that the token filters by. -/
theorem regex_equals_whole {m : Model} {t : Token} {a : Argument} {source : String}
    (ha : m.resolve t = .ok a) (hkind : a.command.kind = .text) (hop : a.operator = .equals)
    (hsource : a.operand = .regex source) (hwhole : Regex.isValid (wholeText source) = true) :
    ∃ p test pattern, a.meaning = .ok (.filter (if a.isNegated then p.negate else p)) ∧
      p.test? = .ok test ∧ Regex.parse? true source = some pattern ∧
      ∀ card s, card.stored? (Json.pathOf a.key) = some (.text s) →
        (test card = true ↔ Spans s.toList pattern 0 s.toList.length) := by
  obtain ⟨pattern, hparse, hread⟩ :=
    Regex.exists_parse?_wholeText true (Model.isValid_of_resolve ha hsource) hwhole
  have hmeaning : a.meaning =
      .ok (.filter (if a.isNegated then (Predicate.regex a.key (wholeText source)).negate
        else .regex a.key (wholeText source))) := by
    have horder : ¬a.command.IsOrder := Command.not_isOrder_of_kind hkind fun keys h => by cases h
    have hcondition : a.condition = .ok (.regex a.key (wholeText source)) := by
      simp only [condition, Binding.condition, Binding.textCondition, hkind, hsource, hop]
    rw [meaning_of_not_isOrder horder, hcondition]
    rfl
  obtain ⟨test, htest, hcards⟩ := Predicate.exists_test?_regex a.key hread
  refine ⟨_, test, pattern, hmeaning, htest, hparse, fun card s hstored => ?_⟩
  rw [hcards hstored, Regex.occursIn_whole]

/-- Both alternatives are for whole texts, and case is ignored. -/
theorem regex_equals_whole_alternatives :
    let name : Command := ⟨"name", "name", [], [.has, .equals], [], none, true, [], .text, none⟩
    let m : Model := ⟨"cards", [name], name⟩
    let t : Token := ⟨[], some "name", none, some .equals, .regex "fire|ice"⟩
    let card (s : String) : Json := .object [("name", .text s)]
    Regex.isValid (wholeText "fire|ice") = true ∧
      ∃ a p test, m.resolve t = .ok a ∧ a.meaning = .ok (.filter p) ∧ p.test? = .ok test ∧
        test (card "Ice") = true ∧ test (card "Icefall") = false := by
  intro name m t card
  have hwhole : Regex.isValid (wholeText "fire|ice") = true := by decide +kernel
  have hget : m.get? "name" = some name := Model.get?_first (c := name) rfl
  let a : Argument := ⟨⟨name, none, .regex "fire|ice", .equals, []⟩, none, []⟩
  have hresolve : m.resolve t = .ok a := by
    simp only [t, Model.resolve, Model.addressed, hget, bind, Except.bind]
    rfl
  have hpath : Json.pathOf a.key = ["name"] := by decide +kernel
  have hstored (s : String) : (card s).stored? (Json.pathOf a.key) = some (.text s) := by
    rw [hpath]
    rfl
  obtain ⟨p, test, pattern, hmeaning, htest, hparse, hcards⟩ :=
    regex_equals_whole hresolve rfl rfl rfl hwhole
  have hfound (s : String) : test (card s) =
      (Regex.parse? true (wholeText "fire|ice")).any fun whole => whole.occursIn s.toList := by
    obtain ⟨pattern', hparse', hread⟩ := Regex.exists_parse?_wholeText true
      (Model.isValid_of_resolve hresolve rfl) hwhole
    rw [hparse] at hparse'
    cases hparse'
    rw [Bool.eq_iff_iff, hcards _ _ (hstored s), ← Regex.occursIn_whole, hread, Option.any_some]
  refine ⟨hwhole, a, p, test, hresolve, hmeaning, htest, ?_, ?_⟩
  · rw [hfound]
    decide +kernel
  · rw [hfound]
    decide +kernel

end Argument

end CardQuery
