/-
**Readings that correspond.**

A reader of patterns takes a value from the front of a text or fails.  Two readers correspond when
whatever the first can read the second reads too, with a related result.  Readers that are put together
in the same way from corresponding ones correspond.

Main definitions:

* `Transfers` — what can be read in the first way can be read in the second;
* `Both` — pairs that are related in both components.
-/

import Mathlib.Data.Option.Basic

set_option autoImplicit false

namespace CardQuery.Regex

/-- Pairs that are related in both components. -/
def Both {α β : Type} (R : α → α → Prop) (S : β → β → Prop) (a b : α × β) : Prop :=
  R a.1 b.1 ∧ S a.2 b.2

/-- What can be read in the first way can be read in the second, with a related result. -/
def Transfers {α : Type} (R : α → α → Prop) (x x' : Option α) : Prop :=
  ∀ a, x = some a → ∃ a', R a a' ∧ x' = some a'

namespace Transfers

variable {α β : Type} {R : α → α → Prop} {S : β → β → Prop} {x x' y y' : Option α}

theorem none : Transfers R none x := fun _ h => nomatch h

theorem some {a a' : α} (h : R a a') : Transfers R (some a) (some a') := by
  intro b hb
  cases hb
  exact ⟨a', h, rfl⟩

/-- A value that has been read, and the rest of the text. -/
theorem leaves {s s' : α} (b : β) (h : R s s') :
    Transfers (Both Eq R) (Option.some (b, s)) (Option.some (b, s')) := some ⟨rfl, h⟩

theorem ite {p : Prop} [Decidable p] (hx : Transfers R x x') (hy : Transfers R y y') :
    Transfers R (if p then x else y) (if p then x' else y') := by
  split
  · exact hx
  · exact hy

theorem bind {k k' : α → Option β} (hx : Transfers R x x')
    (hk : ∀ a a', R a a' → Transfers S (k a) (k' a')) : Transfers S (x >>= k) (x' >>= k') := by
  intro b hb
  obtain ⟨a, ha, hb⟩ := Option.bind_eq_some_iff.1 hb
  obtain ⟨a', hr, ha'⟩ := hx a ha
  obtain ⟨b', hs, hb'⟩ := hk a a' hr b hb
  exact ⟨b', hs, Option.bind_eq_some_iff.2 ⟨a', ha', hb'⟩⟩

/-- A value that does not depend on the text decides about both readings. -/
theorem bind_value (o : Option α) {k k' : α → Option β} (hk : ∀ a, Transfers S (k a) (k' a)) :
    Transfers S (o >>= k) (o >>= k') := by
  cases o with
  | none => exact none
  | some a => exact hk a

theorem guarded {p p' : Prop} [Decidable p] [Decidable p'] (hp : p → p')
    {k k' : Unit → Option α} (hk : Transfers R (k ()) (k' ())) :
    Transfers R (guard p >>= k) (guard p' >>= k') := by
  by_cases h : p
  · have hguard : (guard p : Option Unit) = Option.some () := if_pos h
    have hguard' : (guard p' : Option Unit) = Option.some () := if_pos (hp h)
    rw [hguard, hguard']
    exact hk
  · have hguard : (guard p : Option Unit) = Option.none := if_neg h
    rw [hguard]
    exact none

theorem map {g g' : α → β} (hx : Transfers R x x') (hg : ∀ a a', R a a' → S (g a) (g' a')) :
    Transfers S (x.map g) (x'.map g') := by
  intro b hb
  obtain ⟨a, ha, rfl⟩ := Option.map_eq_some_iff.1 hb
  obtain ⟨a', hr, rfl⟩ := hx a ha
  exact ⟨g' a', hg a a' hr, rfl⟩

theorem map_value (o : Option α) {g g' : α → β} (hg : ∀ a, S (g a) (g' a)) :
    Transfers S (o.map g) (o.map g') := by
  cases o with
  | none => exact none
  | some a => exact some (hg a)

end Transfers

end CardQuery.Regex
