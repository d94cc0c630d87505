/-
**Splitting a value takes the shortest texts first.**

A value fills a template when it is the template with every placeholder replaced by a text that is not empty
and holds no line end.  Among all ways to do this the reader of values finds the one with the shortest first
text, among those the one with the shortest second text, and so on: it is the least by the lengths of the
texts, compared like words.

Main definitions:

* `Template.FillsPlaces`, `Template.Fills` — texts at the placeholders make up the value;
* `Template.ComesBefore` — the order of texts by their lengths, the first ones first;
* `Template.IsShortest` — texts make up the value, and no others that do so come before them.

Main results:

* `Template.shortest_eq_some`, `Template.shortest_eq_none` — the first text that can be continued;
* `Template.IsShortest.unique` — there is one shortest split at most;
* `Template.splitPlaces?_eq_some`, `Template.splitPlaces?_eq_none` — **the reader finds the shortest split** if
  there is any.
-/

import CardQuery.Command.Template
import Mathlib.Data.List.Lex

set_option autoImplicit false

namespace CardQuery.Template

/-! ### Values that fill a template -/

/-- The value is made up of a text for each placeholder, not empty and without line end, and the literal text
behind it. -/
inductive FillsPlaces : List (String × List Char) → List (List Char) → List Char → Prop where
  | nil : FillsPlaces [] [] []
  | cons {name : String} {literal text rest : List Char} {places : List (String × List Char)}
      {texts : List (List Char)} (hpos : text ≠ []) (hline : '\n' ∉ text)
      (h : FillsPlaces places texts rest) :
      FillsPlaces ((name, literal) :: places) (text :: texts) (text ++ (literal ++ rest))

/-- The value is the template with the texts at its placeholders. -/
def Fills (opening : List Char) (places : List (String × List Char)) (texts : List (List Char))
    (value : List Char) : Prop :=
  ∃ rest, value = opening ++ rest ∧ FillsPlaces places texts rest

/-- The first text is shorter, or it is as long and the second one is shorter, and so on. -/
def ComesBefore (texts texts' : List (List Char)) : Prop :=
  List.Lex (· < ·) (texts.map List.length) (texts'.map List.length)

theorem comesBefore_cons_iff {text text' : List Char} {texts texts' : List (List Char)} :
    ComesBefore (text :: texts) (text' :: texts') ↔
      text.length < text'.length ∨ text.length = text'.length ∧ ComesBefore texts texts' := by
  rw [ComesBefore, List.map_cons, List.map_cons, List.cons_lex_cons_iff, ComesBefore]

/-- The value is the template with the texts at its placeholders, and no other texts that do so come before
them. -/
structure IsShortest (opening : List Char) (places : List (String × List Char)) (texts : List (List Char))
    (value : List Char) : Prop where
  fills : Fills opening places texts value
  shortest : ∀ texts', Fills opening places texts' value → ¬ComesBefore texts' texts

theorem FillsPlaces.length_eq {places : List (String × List Char)} {texts : List (List Char)}
    {value : List Char} (h : FillsPlaces places texts value) : texts.length = places.length := by
  induction h with
  | nil => rfl
  | cons hpos hline h ih => rw [List.length_cons, List.length_cons, ih]

/-- Texts of the same lengths that make up one value are the same. -/
theorem FillsPlaces.eq_of_lengths_eq {places : List (String × List Char)} {texts texts' : List (List Char)}
    {value : List Char} (h : FillsPlaces places texts value) (h' : FillsPlaces places texts' value)
    (hlengths : texts.map List.length = texts'.map List.length) : texts = texts' := by
  induction h generalizing texts' with
  | nil =>
      cases h'
      rfl
  | @cons name literal text rest places texts hpos hline h ih =>
      generalize hvalue : text ++ (literal ++ rest) = value at h'
      cases h' with
      | @cons _ _ text' rest' _ texts' hpos' hline' h' =>
          rw [List.map_cons, List.map_cons, List.cons.injEq] at hlengths
          obtain ⟨rfl, hrest⟩ := List.append_inj hvalue hlengths.1
          obtain rfl := List.append_cancel_left hrest
          rw [ih h' hlengths.2]

/-- There is one shortest split at most. -/
theorem IsShortest.unique {opening value : List Char} {places : List (String × List Char)}
    {texts texts' : List (List Char)} (h : IsShortest opening places texts value)
    (h' : IsShortest opening places texts' value) : texts = texts' := by
  have hlengths : texts.map List.length = texts'.map List.length :=
    (List.Lex.trichotomous (· < ·)).trichotomous _ _ (h'.shortest texts h.fills) (h.shortest texts' h'.fills)
  obtain ⟨rest, rfl, hfills⟩ := h.fills
  obtain ⟨rest', hrest, hfills'⟩ := h'.fills
  obtain rfl := List.append_cancel_left hrest
  exact hfills.eq_of_lengths_eq hfills' hlengths

/-! ### The shortest text -/

theorem afterLiteral?_eq_some_iff {literal s rest : List Char} :
    afterLiteral? literal s = some rest ↔ s = literal ++ rest := by
  induction literal generalizing s with
  | nil => rw [afterLiteral?, Option.some.injEq, List.nil_append]
  | cons c literal ih =>
      cases s with
      | nil => simp [afterLiteral?]
      | cons d s =>
          rw [afterLiteral?, List.cons_append, List.cons.injEq]
          by_cases hc : c = d
          · rw [if_pos hc, ih, eq_comm (a := d), and_iff_right hc]
          · rw [if_neg hc]
            exact iff_of_false (Option.some_ne_none _ ∘ Eq.symm) fun h => hc h.1.symm

section Shortest

variable {α : Type} {continued : List Char → Option α} {s : List Char}

/-- The first text that can be continued; after no shorter one the rest can be. -/
theorem shortest_eq_some {text : List Char} {a : α} (h : shortest continued s = some (text, a)) :
    ∃ rest, s = text ++ rest ∧ text ≠ [] ∧ '\n' ∉ text ∧ continued rest = some a ∧
      ∀ text' rest', s = text' ++ rest' → text' ≠ [] → text'.length < text.length →
        continued rest' = none := by
  induction s generalizing text with
  | nil => contradiction
  | cons c s ih =>
      rw [shortest] at h
      split at h
      · contradiction
      · next hline =>
        split at h
        · next hnow =>
          cases h
          refine ⟨s, rfl, List.cons_ne_nil _ _, ?_, hnow, fun text' rest' _ hpos hlt => ?_⟩
          · rw [List.mem_singleton]
            exact Ne.symm hline
          · have hlength := List.length_pos_of_ne_nil hpos
            rw [List.length_singleton] at hlt
            omega
        · next hlater =>
          obtain ⟨⟨text, a⟩, hfound, heq⟩ := Option.map_eq_some_iff.1 h
          cases heq
          obtain ⟨rest, rfl, hpos, hline', hcontinued, hshorter⟩ := ih hfound
          refine ⟨rest, rfl, List.cons_ne_nil _ _, ?_, hcontinued, fun text' rest' hs hpos' hlt => ?_⟩
          · rw [List.mem_cons, not_or]
            exact ⟨Ne.symm hline, hline'⟩
          · obtain ⟨d, tail, rfl⟩ := List.exists_cons_of_ne_nil hpos'
            obtain ⟨rfl, htail⟩ := List.cons.inj hs
            cases tail with
            | nil =>
                obtain rfl : text ++ rest = rest' := htail
                exact hlater
            | cons e tail => exact hshorter _ _ htail (List.cons_ne_nil _ _) (Nat.lt_of_succ_lt_succ hlt)

/-- After no text can the rest be continued. -/
theorem shortest_eq_none (h : shortest continued s = none) {text rest : List Char} (hs : s = text ++ rest)
    (hpos : text ≠ []) (hline : '\n' ∉ text) : continued rest = none := by
  induction text generalizing s with
  | nil => contradiction
  | cons c text ih =>
      rw [List.mem_cons, not_or] at hline
      rw [hs, List.cons_append, shortest, if_neg (Ne.symm hline.1)] at h
      split at h
      · contradiction
      · next hnow =>
        have hlater := Option.map_eq_none_iff.1 h
        cases text with
        | nil => exact hnow
        | cons d text => exact ih hlater rfl (List.cons_ne_nil _ _) hline.2

end Shortest

/-! ### The shortest split -/

section Split

variable {places : List (String × List Char)} {literal s : List Char}

/-- What is continued behind a placeholder: the literal text, and then the other placeholders. -/
def splitAfter? (literal : List Char) (places : List (String × List Char)) (s : List Char) :
    Option (List (String × List Char)) :=
  (afterLiteral? literal s).bind (splitPlaces? places)

theorem splitAfter?_eq_some_iff {found : List (String × List Char)} :
    splitAfter? literal places s = some found ↔
      ∃ rest, s = literal ++ rest ∧ splitPlaces? places rest = some found := by
  rw [splitAfter?, Option.bind_eq_some_iff]
  simp only [afterLiteral?_eq_some_iff]

theorem splitAfter?_eq_none_iff :
    splitAfter? literal places s = none ↔ ∀ rest, s = literal ++ rest → splitPlaces? places rest = none := by
  rw [splitAfter?, Option.bind_eq_none_iff]
  simp only [afterLiteral?_eq_some_iff]

theorem splitPlaces?_cons (name : String) (literal s : List Char) (places : List (String × List Char)) :
    splitPlaces? ((name, literal) :: places) s =
      (shortest (splitAfter? literal places) s).map fun r => (name, r.1) :: r.2 := rfl

/-- **A value that is not split fills no template.** -/
theorem splitPlaces?_eq_none (h : splitPlaces? places s = none) (texts : List (List Char)) :
    ¬FillsPlaces places texts s := by
  intro hfills
  induction hfills with
  | nil => contradiction
  | cons hpos hline hfills ih =>
      rw [splitPlaces?_cons, Option.map_eq_none_iff] at h
      have hafter := shortest_eq_none h rfl hpos hline
      exact ih (splitAfter?_eq_none_iff.1 hafter _ rfl)

/-- **A value is split into the shortest texts.** -/
theorem splitPlaces?_eq_some {found : List (String × List Char)} (h : splitPlaces? places s = some found) :
    ∃ texts, found = (places.map (·.1)).zip texts ∧ FillsPlaces places texts s ∧
      ∀ texts', FillsPlaces places texts' s → ¬ComesBefore texts' texts := by
  induction places generalizing s found with
  | nil =>
      rw [splitPlaces?] at h
      split at h
      · next hempty =>
        cases h
        obtain rfl := List.isEmpty_iff.1 hempty
        refine ⟨[], rfl, .nil, fun texts' hfills => ?_⟩
        cases hfills
        exact nofun
      · contradiction
  | cons place places ih =>
      obtain ⟨name, literal⟩ := place
      rw [splitPlaces?_cons] at h
      obtain ⟨⟨text, found⟩, hshortest, rfl⟩ := Option.map_eq_some_iff.1 h
      obtain ⟨rest, rfl, hpos, hline, hafter, hshorter⟩ := shortest_eq_some hshortest
      obtain ⟨rest, rfl, hsplit⟩ := splitAfter?_eq_some_iff.1 hafter
      obtain ⟨texts, rfl, hfills, hleast⟩ := ih hsplit
      refine ⟨text :: texts, rfl, .cons hpos hline hfills, fun texts' hfills' => ?_⟩
      generalize hvalue : text ++ (literal ++ rest) = value at hfills'
      cases hfills' with
      | @cons _ _ text' rest' _ texts' hpos' hline' hfills' =>
          intro hbefore
          rw [comesBefore_cons_iff] at hbefore
          obtain hlt | ⟨heq, hbefore⟩ := hbefore
          · -- behind a shorter first text the other placeholders cannot be filled
            have hnone := splitAfter?_eq_none_iff.1 (hshorter _ _ hvalue hpos' hlt) _ rfl
            exact splitPlaces?_eq_none hnone texts' hfills'
          · -- a first text of the same length is the same, and so is the rest of the value
            obtain ⟨rfl, hrest⟩ := List.append_inj hvalue heq.symm
            obtain rfl := List.append_cancel_left hrest
            exact hleast texts' hfills' hbefore

end Split

end CardQuery.Template
