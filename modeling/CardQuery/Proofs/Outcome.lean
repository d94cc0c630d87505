/-
**Computations that may fail.**

Main definitions:

* `Matched` — computations that both fail, or both succeed with related results.

Main results:

* `bind_eq_ok_iff`, `map_eq_ok_iff`, `mapM_eq_ok_iff` — when computations that are put together succeed;
* `bind_eq_error_iff`, `map_eq_error_iff`, `mapM_eq_error_iff` — and which of them fails otherwise;
* `mapM_eq_ok_map`, `filterM_eq_ok_filter` — lists whose members all succeed;
* `Matched.bind`, `Matched.map`, `Matched.mapM` — what is put together from matched computations is matched.
-/

import Mathlib.Data.List.Forall2

set_option autoImplicit false

namespace CardQuery

variable {ε α β : Type}

theorem bind_eq_ok_iff {x : Except ε α} {f : α → Except ε β} {b : β} :
    x >>= f = .ok b ↔ ∃ a, x = .ok a ∧ f a = .ok b := by
  cases x with
  | error e =>
      constructor
      · intro h
        contradiction
      · rintro ⟨a, ha, -⟩
        contradiction
  | ok a =>
      constructor
      · intro h
        exact ⟨a, rfl, h⟩
      · rintro ⟨a', ha', h⟩
        cases ha'
        exact h

theorem map_eq_ok_iff {x : Except ε α} {f : α → β} {b : β} :
    x.map f = .ok b ↔ ∃ a, x = .ok a ∧ f a = b := by
  cases x with
  | error e => simp [Except.map]
  | ok a => simp [Except.map]

theorem bind_eq_error_iff {x : Except ε α} {f : α → Except ε β} {e : ε} :
    x >>= f = .error e ↔ x = .error e ∨ ∃ a, x = .ok a ∧ f a = .error e := by
  cases x with
  | error e' => simp [bind, Except.bind]
  | ok a => simp [bind, Except.bind]

theorem map_eq_error_iff {x : Except ε α} {f : α → β} {e : ε} :
    x.map f = .error e ↔ x = .error e := by
  cases x with
  | error e' => simp [Except.map]
  | ok a => simp [Except.map]

/-- All of a list succeed, each with its own result. -/
theorem mapM_eq_ok_iff {f : α → Except ε β} {as : List α} {bs : List β} :
    as.mapM f = .ok bs ↔ List.Forall₂ (fun a b => f a = .ok b) as bs := by
  induction as generalizing bs with
  | nil =>
      rw [List.mapM_nil]
      constructor
      · intro h
        cases h
        exact .nil
      · intro h
        cases h
        rfl
  | cons a as ih =>
      rw [List.mapM_cons]
      simp only [bind_eq_ok_iff, ih]
      constructor
      · rintro ⟨b, hb, bs', hbs, heq⟩
        cases heq
        exact .cons hb hbs
      · intro h
        cases h with
        | cons hb hbs => exact ⟨_, hb, _, hbs, rfl⟩

theorem exists_mapM_eq_ok {f : α → Except ε β} {as : List α} (h : ∀ a ∈ as, ∃ b, f a = .ok b) :
    ∃ bs, as.mapM f = .ok bs := by
  induction as with
  | nil => exact ⟨[], rfl⟩
  | cons a as ih =>
      obtain ⟨b, hb⟩ := h a List.mem_cons_self
      obtain ⟨bs, hbs⟩ := ih fun a ha => h a (List.mem_cons_of_mem _ ha)
      exact ⟨b :: bs, mapM_eq_ok_iff.2 (.cons hb (mapM_eq_ok_iff.1 hbs))⟩

theorem exists_rel_of_mem {R : α → β → Prop} {as : List α} {bs : List β} (h : List.Forall₂ R as bs)
    {b : β} (hb : b ∈ bs) : ∃ a ∈ as, R a b := by
  induction h with
  | nil => contradiction
  | cons ha _ ih =>
      rcases List.mem_cons.1 hb with rfl | hb
      · exact ⟨_, List.mem_cons_self, ha⟩
      · obtain ⟨a, hmem, ha⟩ := ih hb
        exact ⟨a, List.mem_cons_of_mem _ hmem, ha⟩

/-- Lists that are related through something between their members have a list between them. -/
theorem exists_list_between {γ : Type} {R : α → β → Prop} {S : β → γ → Prop} {as : List α} {cs : List γ}
    (h : List.Forall₂ (fun a c => ∃ b, R a b ∧ S b c) as cs) :
    ∃ bs, List.Forall₂ R as bs ∧ List.Forall₂ S bs cs := by
  induction h with
  | nil => exact ⟨[], .nil, .nil⟩
  | cons hac _ ih =>
      obtain ⟨b, hab, hbc⟩ := hac
      obtain ⟨bs, hR, hS⟩ := ih
      exact ⟨b :: bs, .cons hab hR, .cons hbc hS⟩

theorem exists_of_mem_mapM {f : α → Except ε β} {as : List α} {bs : List β} (h : as.mapM f = .ok bs)
    {b : β} (hb : b ∈ bs) : ∃ a ∈ as, f a = .ok b :=
  exists_rel_of_mem (mapM_eq_ok_iff.1 h) hb

/-- The first of a list that fails decides how all of them fail. -/
theorem mapM_eq_error_iff {f : α → Except ε β} {as : List α} {e : ε} :
    as.mapM f = .error e ↔ ∃ before a after, as = before ++ a :: after ∧
      (∀ a' ∈ before, ∃ b, f a' = .ok b) ∧ f a = .error e := by
  induction as with
  | nil =>
      constructor
      · intro h
        cases h
      · rintro ⟨before, a, after, hsplit, -⟩
        simp at hsplit
  | cons first rest ih =>
      rw [List.mapM_cons, bind_eq_error_iff]
      have hrest (b : β) : ((do return b :: (← rest.mapM f)) : Except ε (List β)) = .error e ↔
          rest.mapM f = .error e := by
        rw [bind_eq_error_iff]
        simp [pure, Except.pure]
      simp only [hrest, ih]
      constructor
      · rintro (hfirst | ⟨b, hfirst, before, a, after, rfl, hbefore, ha⟩)
        · exact ⟨[], first, rest, rfl, by simp, hfirst⟩
        · exact ⟨first :: before, a, after, rfl, List.forall_mem_cons.2 ⟨⟨b, hfirst⟩, hbefore⟩, ha⟩
      · rintro ⟨before, a, after, hsplit, hbefore, ha⟩
        cases before with
        | nil =>
            obtain ⟨rfl, -⟩ := List.cons.inj hsplit
            exact .inl ha
        | cons a' before =>
            obtain ⟨rfl, rfl⟩ := List.cons.inj hsplit
            obtain ⟨⟨b, hfirst⟩, hbefore⟩ := List.forall_mem_cons.1 hbefore
            exact .inr ⟨b, hfirst, before, a, after, rfl, hbefore, ha⟩

theorem exists_of_mapM_error {f : α → Except ε β} {as : List α} {e : ε} (h : as.mapM f = .error e) :
    ∃ a ∈ as, f a = .error e := by
  obtain ⟨before, a, after, rfl, -, ha⟩ := mapM_eq_error_iff.1 h
  exact ⟨a, List.mem_append_right _ List.mem_cons_self, ha⟩

/-- Some of a list fail exactly when all of them together do. -/
theorem exists_mapM_eq_error_iff {f : α → Except ε β} {as : List α} :
    (∃ e, as.mapM f = .error e) ↔ ∃ a ∈ as, ∃ e, f a = .error e := by
  constructor
  · rintro ⟨e, h⟩
    obtain ⟨a, hmem, ha⟩ := exists_of_mapM_error h
    exact ⟨a, hmem, e, ha⟩
  · rintro ⟨a, hmem, e, ha⟩
    cases h : as.mapM f with
    | error e' => exact ⟨e', rfl⟩
    | ok bs =>
        obtain ⟨b, -, hb⟩ := exists_rel_of_mem (mapM_eq_ok_iff.1 h).flip hmem
        rw [ha] at hb
        contradiction

theorem mapM_congr {f g : α → Except ε β} {as : List α} (h : ∀ a ∈ as, f a = g a) :
    as.mapM f = as.mapM g := by
  induction as with
  | nil => rfl
  | cons a as ih =>
      rw [List.forall_mem_cons] at h
      rw [List.mapM_cons, List.mapM_cons, h.1, ih h.2]

theorem mapM_congr_of_forall₂ {γ : Type} {f : α → Except ε γ} {g : β → Except ε γ} {as : List α}
    {bs : List β} (h : List.Forall₂ (fun a b => f a = g b) as bs) : as.mapM f = bs.mapM g := by
  induction h with
  | nil => rfl
  | cons hab _ ih => rw [List.mapM_cons, List.mapM_cons, hab, ih]

theorem mapM_map_eq {γ : Type} (f : α → Except ε β) (g : β → γ) (as : List α) :
    as.mapM (fun a => (f a).map g) = (as.mapM f).map (List.map g) := by
  induction as with
  | nil => rfl
  | cons a as ih =>
      rw [List.mapM_cons, List.mapM_cons, ih]
      cases f a with
      | error e => rfl
      | ok b => cases as.mapM f <;> rfl

theorem mapM_eq_ok_map {f : α → Except ε β} {g : α → β} {as : List α} (h : ∀ a ∈ as, f a = .ok (g a)) :
    as.mapM f = .ok (as.map g) := by
  rw [mapM_eq_ok_iff, List.forall₂_map_right_iff, List.forall₂_same]
  exact h

theorem filterM_eq_ok_filter {f : α → Except ε Bool} {g : α → Bool} {as : List α}
    (h : ∀ a ∈ as, f a = .ok (g a)) : as.filterM f = .ok (as.filter g) := by
  have haux (acc : List α) : as.filterAuxM f acc = .ok ((as.filter g).reverse ++ acc) := by
    induction as generalizing acc with
    | nil => rfl
    | cons a as ih =>
        rw [List.forall_mem_cons] at h
        rw [List.filterAuxM, h.1]
        refine (ih h.2 _).trans ?_
        cases hg : g a <;> simp [hg]
  rw [List.filterM, haux, List.append_nil]
  exact congrArg Except.ok (List.reverse_reverse _)

/-! ### Two computations -/

/-- Both computations fail, or both succeed with related results. -/
inductive Matched (R : α → α → Prop) : Except ε α → Except ε α → Prop where
  | ok {a a' : α} (h : R a a') : Matched R (.ok a) (.ok a')
  | error (e e' : ε) : Matched R (.error e) (.error e')

namespace Matched

variable {R : α → α → Prop} {S : β → β → Prop} {x x' : Except ε α}

theorem refl (hR : ∀ a, R a a) (x : Except ε α) : Matched R x x := by
  cases x with
  | error e => exact .error e e
  | ok a => exact .ok (hR a)

/-- The results are related in another way because of the computations that give them. -/
theorem imp {R' : α → α → Prop} (h : Matched R x x')
    (hR : ∀ a a', x = .ok a → x' = .ok a' → R a a' → R' a a') : Matched R' x x' := by
  cases h with
  | ok h => exact .ok (hR _ _ rfl rfl h)
  | error e e' => exact .error e e'

/-- What comes next is matched for all results that are related. -/
theorem bind {f f' : α → Except ε β} (h : Matched R x x')
    (hf : ∀ a a', x = .ok a → R a a' → Matched S (f a) (f' a')) : Matched S (x >>= f) (x' >>= f') := by
  cases h with
  | ok h => exact hf _ _ rfl h
  | error e e' => exact .error e e'

theorem of_toOption_eq (h : x.toOption = x'.toOption) : Matched Eq x x' := by
  cases x with
  | error e =>
      cases x' with
      | error e' => exact .error e e'
      | ok a' => contradiction
  | ok a =>
      cases x' with
      | error e' => contradiction
      | ok a' => exact .ok (Option.some.inj h)

theorem toOption_eq (h : Matched Eq x x') : x.toOption = x'.toOption := by
  cases h with
  | ok h => rw [h]
  | error e e' => rfl

theorem map {f f' : α → β} (h : Matched R x x') (hf : ∀ a a', R a a' → S (f a) (f' a')) :
    Matched S (x.map f) (x'.map f') := by
  cases h with
  | ok h => exact .ok (hf _ _ h)
  | error e e' => exact .error e e'

/-- Two computations on each member of a list. -/
theorem mapM {f f' : α → Except ε β} {as : List α} (h : ∀ a ∈ as, Matched S (f a) (f' a)) :
    Matched (List.Forall₂ S) (as.mapM f) (as.mapM f') := by
  induction as with
  | nil => exact .ok .nil
  | cons a as ih =>
      rw [List.forall_mem_cons] at h
      rw [List.mapM_cons, List.mapM_cons]
      refine h.1.bind fun b b' _ hb => ?_
      exact (ih h.2).bind fun bs bs' _ hbs => .ok (.cons hb hbs)

end Matched

end CardQuery
