/-
**Paths of plain keys.**

A plain key has parts of letters, digits and underscores between its dots.  No part is taken for
anything but the name of a field, so the path of a plain key leads through a document just as the parts
of the key do one after another.

Main results:

* `Sql.isContained_of_isPlainKey` — a plain key keeps to the quotes that it stands in;
* `Sql.partAt_of_isPlainKey` — **what the path of a plain key leads to**.
-/

import CardQuery.Command.Draft
import CardQuery.Sql.Evaluation
import CardQuery.Store.Table
import Mathlib.Data.List.Basic

set_option autoImplicit false

namespace CardQuery

open CommandDraft (isPlainKey)

/-! ### Parts of keys -/

/-- A letter, a digit or an underscore. -/
def isPlainChar (c : Char) : Bool := c.isAlphanum || c == '_'

/-- The parts of a text with a dot before each of them. -/
def dotted (parts : List (List Char)) : List Char := parts.flatMap ('.' :: ·)

theorem dotted_splitDots (s : List Char) : dotted (Json.splitDots s) = '.' :: s := by
  induction s with
  | nil => rfl
  | cons c s ih =>
      rw [Json.splitDots]
      split
      · next hc =>
        rw [dotted, List.flatMap_cons, ← dotted, ih, hc]
        rfl
      · split
        · next hparts =>
          rw [hparts] at ih
          contradiction
        · next part parts hparts =>
          rw [hparts] at ih
          simp only [dotted, List.flatMap_cons, List.cons_append, List.cons.injEq, true_and] at ih ⊢
          exact ih

/-- The parts of a plain key. -/
structure PlainPart (part : List Char) : Prop where
  ne_nil : part ≠ []
  plain : ∀ c ∈ part, isPlainChar c = true

theorem plainPart_of_isPlainKey {key : String} (h : isPlainKey key = true) :
    ∀ part ∈ Json.splitDots key.toList, PlainPart part := by
  intro part hpart
  have hplain := List.all_eq_true.1 h part hpart
  simp only [Bool.and_eq_true, Bool.not_eq_true', List.isEmpty_eq_false_iff] at hplain
  exact ⟨hplain.1, List.all_eq_true.1 hplain.2⟩

theorem ne_of_isPlainChar {c d : Char} (hc : isPlainChar c = true) (hd : isPlainChar d = false) :
    c ≠ d := by
  rintro rfl
  rw [hc] at hd
  contradiction

theorem mem_of_isPlainKey {key : String} (h : isPlainKey key = true) {c : Char}
    (hc : c ∈ key.toList) : c = '.' ∨ isPlainChar c = true := by
  have hmem : c ∈ dotted (Json.splitDots key.toList) := by
    rw [dotted_splitDots]
    exact List.mem_cons_of_mem _ hc
  obtain ⟨part, hpart, hc⟩ := List.mem_flatMap.1 hmem
  rcases List.mem_cons.1 hc with rfl | hc
  · exact .inl rfl
  · exact .inr ((plainPart_of_isPlainKey h part hpart).plain c hc)

namespace Sql

theorem literalText?_eq_self {s : List Char} (h : ∀ c ∈ s, c ≠ '\x27') : literalText? s = some s := by
  induction s with
  | nil => rfl
  | cons c s ih =>
      rw [List.forall_mem_cons] at h
      simp [literalText?, h.1, ih h.2]

theorem literalText?_of_isPlainKey {key : String} (h : isPlainKey key = true) :
    literalText? key.toList = some key.toList := by
  refine literalText?_eq_self fun c hc => ?_
  rcases mem_of_isPlainKey h hc with rfl | hc
  · decide
  · exact ne_of_isPlainChar hc (by decide)

/-- **A plain key keeps to the quotes that it stands in.** -/
theorem isContained_of_isPlainKey {key : String} (h : isPlainKey key = true) :
    isContained key = true := by
  rw [isContained, literalText?_of_isPlainKey h, Option.isSome_some]

/-! ### Following a path -/

/-- The first part of a path is taken whole. -/
theorem pathKey?_append {part : List Char} (h : PlainPart part) (parts : List (List Char)) :
    pathKey? (part ++ dotted parts) = some (part, dotted parts) := by
  have hbare : bareKey? (part ++ dotted parts) = some (part, dotted parts) := by
    have hpart : ∀ c ∈ part, (c != '.' && c != '[') = true := by
      intro c hc
      have hplain := h.plain c hc
      simp [ne_of_isPlainChar hplain (d := '.') (by decide),
        ne_of_isPlainChar hplain (d := '[') (by decide)]
    have htake : (part ++ dotted parts).takeWhile (fun c => c != '.' && c != '[') = part := by
      rw [List.takeWhile_append_of_pos hpart]
      cases parts with
      | nil => simp [dotted]
      | cons => simp [dotted]
    simp [bareKey?, htake, h.ne_nil]
  obtain ⟨c, rest, rfl⟩ := List.exists_cons_of_ne_nil h.ne_nil
  have hquote : c ≠ '"' := ne_of_isPlainChar (h.plain c List.mem_cons_self) (by decide)
  rw [← hbare, List.cons_append, pathKey?]
  exact fun _ hc => hquote (List.cons.inj hc).1

/-- Plain parts lead to where their names lead one after another. -/
theorem follow_dotted {parts : List (List Char)} (h : ∀ part ∈ parts, PlainPart part) {fuel : Nat}
    (hfuel : (dotted parts).length < fuel) (j : Json) :
    follow fuel (dotted parts) j = .ok (j.at? (parts.map String.ofList)) := by
  induction parts generalizing fuel j with
  | nil =>
      obtain ⟨fuel, rfl⟩ := Nat.exists_eq_add_one_of_ne_zero (Nat.ne_of_gt (Nat.zero_lt_of_lt hfuel))
      rfl
  | cons part parts ih =>
      rw [List.forall_mem_cons] at h
      have hdotted : dotted (part :: parts) = '.' :: (part ++ dotted parts) := rfl
      rw [hdotted] at hfuel ⊢
      simp only [List.length_cons, List.length_append] at hfuel
      obtain ⟨fuel, rfl⟩ := Nat.exists_eq_add_one_of_ne_zero (Nat.ne_of_gt (Nat.zero_lt_of_lt hfuel))
      rw [follow, pathKey?_append h.1, List.map_cons, Json.at?]
      simp only
      cases j.field? (String.ofList part) with
      | none => rfl
      | some part' => exact ih h.2 (by omega) part'

/-- **What the path of a plain key leads to** is the value at the key. -/
theorem partAt_of_isPlainKey {key : String} (h : isPlainKey key = true) (card : Json) :
    partAt key card = .ok (card.at? (Json.pathOf key)) := by
  rw [partAt, literalText?_of_isPlainKey h, Option.getD_some, ← dotted_splitDots, Json.pathOf]
  exact follow_dotted (plainPart_of_isPlainKey h) (Nat.lt_succ_self _) card

theorem Row.part_of_isPlainKey {key : String} (h : isPlainKey key = true) (row : Row) :
    row.part key = .ok (row.document.at? (Json.pathOf key)) := by
  rw [Row.part, partAt_of_isPlainKey h]

end Sql

end CardQuery
