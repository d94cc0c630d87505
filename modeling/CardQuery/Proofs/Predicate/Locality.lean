/-
**What a predicate reads of a card.**

A predicate looks at a card only through the values at the keys that it names.  Two cards that have the same
values there, or are without a value at the same places, are met alike, whatever else they hold.

Main definitions:

* `Json.Same` — documents that differ in nothing but the order of their fields;
* `Json.SameAt` — cards with the same value at a key, or both without one.

Main results:

* `Json.SameAt.textsAt_eq`, `Json.SameAt.bitsAt?_eq` — what is read at a key is read alike;
* `Predicate.holds_of_sameAt` — **a predicate reads no keys but its own**.
-/

import CardQuery.Proofs.Predicate.Structure

set_option autoImplicit false

namespace CardQuery

/-! ### Values -/

namespace Json

/-- Documents with the same texts, numbers and truth values in the same places.  The order of fields does
not count; the two zeros do, as each has a text of its own. -/
inductive Same : Json → Json → Prop
  | refl (j : Json) : Same j j
  | list {items items' : List Json} : List.Forall₂ Same items items' → Same (list items) (list items')
  | object {fields fields' : KeyedList Json} :
      (∀ name, Option.Rel Same (fields.find? name) (fields'.find? name)) →
      Same (object fields) (object fields')

variable {j j' : Json}

theorem Same.textForm?_eq (h : Same j j') : j.textForm? = j'.textForm? := by
  cases h <;> rfl

/-- The texts of a list are those of its items. -/
theorem Same.texts_eq (h : Same j j') : j.texts = j'.texts := by
  cases h with
  | refl => rfl
  | list hitems =>
      rw [texts, texts]
      induction hitems with
      | nil => rfl
      | cons hitem _ ih => rw [List.filterMap_cons, List.filterMap_cons, hitem.textForm?_eq, ih]
  | object => rfl

theorem Same.meets_eq (h : Same j j') (comparison : Comparison) (value : Scalar) :
    value.meets j comparison = value.meets j' comparison := by
  cases h with
  | refl => rfl
  | list => cases value <;> rfl
  | object => cases value <;> rfl

/-! ### Cards -/

/-- The cards have the same value at the key, or both have none; null counts as none. -/
def SameAt (key : String) (card card' : Json) : Prop :=
  Option.Rel Same (card.stored? (pathOf key)) (card'.stored? (pathOf key))

variable {key : String} {card card' : Json}

/-- Cards with equal values have the same value. -/
theorem sameAt_of_eq (h : card.stored? (pathOf key) = card'.stored? (pathOf key)) :
    SameAt key card card' := by
  rw [SameAt, h]
  cases card'.stored? (pathOf key) with
  | none => exact .none
  | some j => exact .some (.refl j)

namespace SameAt

theorem stored (h : SameAt key card card') :
    (card.stored? (pathOf key) = none ∧ card'.stored? (pathOf key) = none) ∨
      ∃ j j', card.stored? (pathOf key) = some j ∧ card'.stored? (pathOf key) = some j' ∧
        Same j j' := by
  unfold SameAt at h
  generalize card.stored? (pathOf key) = found at h ⊢
  generalize card'.stored? (pathOf key) = found' at h ⊢
  cases h with
  | none => exact .inl ⟨rfl, rfl⟩
  | some hsame => exact .inr ⟨_, _, rfl, rfl, hsame⟩

theorem textsAt_eq (h : SameAt key card card') :
    card.textsAt (pathOf key) = card'.textsAt (pathOf key) := by
  rw [textsAt, textsAt]
  rcases h.stored with ⟨hnone, hnone'⟩ | ⟨j, j', hsome, hsome', hsame⟩
  · rw [hnone, hnone']
  · rw [hsome, hsome']
    exact hsame.texts_eq

theorem bitsAt?_eq (h : SameAt key card card') :
    card.bitsAt? (pathOf key) = card'.bitsAt? (pathOf key) := by
  rw [bitsAt?, bitsAt?]
  rcases h.stored with ⟨hnone, hnone'⟩ | ⟨j, j', hsome, hsome', hsame⟩
  · rw [hnone, hnone']
  · rw [hsome, hsome']
    cases hsame <;> rfl

end SameAt

end Json

/-! ### Tests -/

namespace Predicate

open Json (Same SameAt)

variable {key : String} {card card' : Json}

theorem textTest_eq (h : SameAt key card card') (passes : String → Bool) :
    textTest key passes card = textTest key passes card' := by
  simp only [textTest, h.textsAt_eq]

theorem bitsTest_eq (h : SameAt key card card') (passes : Nat → Bool) :
    bitsTest key passes card = bitsTest key passes card' := by
  simp only [bitsTest, h.bitsAt?_eq]

theorem storedTest_eq (h : SameAt key card card') {passes : Json → Bool}
    (hpasses : ∀ j j', Same j j' → passes j = passes j') :
    storedTest key passes card = storedTest key passes card' := by
  rcases h.stored with ⟨hnone, hnone'⟩ | ⟨j, j', hsome, hsome', hsame⟩
  · simp only [storedTest, hnone, hnone']
  · simp only [storedTest, hsome, hsome', hpasses j j' hsame]

/-- A leaf reads the value at its key. -/
theorem holds_leaf_of_sameAt {p : Predicate} (hp : p.isLeaf = true)
    (h : ∀ key ∈ p.keys, SameAt key card card') : p.holds card = p.holds card' := by
  cases p with
  | everything => rfl
  | contains key needle => exact textTest_eq (h key List.mem_cons_self) _
  | regex key pattern => exact textTest_eq (h key List.mem_cons_self) _
  | textEquals key value => exact textTest_eq (h key List.mem_cons_self) _
  | compare key comparison value =>
      exact storedTest_eq (h key List.mem_cons_self) fun _ _ hsame => hsame.meets_eq comparison value
  | inList key values =>
      refine storedTest_eq (h key List.mem_cons_self) fun _ _ hsame => ?_
      simp only [hsame.meets_eq]
  | present key => exact storedTest_eq (h key List.mem_cons_self) fun _ _ _ => rfl
  | hasElement key value => exact textTest_eq (h key List.mem_cons_self) _
  | soleElement key value distinct =>
      have htexts := (h key List.mem_cons_self).textsAt_eq
      simp only [holds, htexts]
  | bitsAllSet key mask => exact bitsTest_eq (h key List.mem_cons_self) _
  | bitsAllClear key mask => exact bitsTest_eq (h key List.mem_cons_self) _
  | not | allOf | anyOf => contradiction

/-- **A predicate reads no keys but its own.** -/
theorem holds_of_sameAt {p : Predicate} (h : ∀ key ∈ p.keys, SameAt key card card') :
    p.holds card = p.holds card' := by
  induction p using Predicate.induction with
  | leaf p hp => exact holds_leaf_of_sameAt hp h
  | neg p ih => rw [holds_not, holds_not, ih h]
  | all ps ih =>
      rw [keys, keysAll_eq, List.forall_mem_flatMap] at h
      rw [holds_allOf, holds_allOf, Bool.eq_iff_iff, List.all_eq_true, List.all_eq_true]
      exact forall₂_congr fun p hp => by rw [ih p hp (h p hp)]
  | any ps ih =>
      rw [keys, keysAll_eq, List.forall_mem_flatMap] at h
      rw [holds_anyOf, holds_anyOf, Bool.eq_iff_iff, List.any_eq_true, List.any_eq_true]
      exact exists_congr fun p => and_congr_right fun hp => by rw [ih p hp (h p hp)]

end Predicate

end CardQuery
