/-
**Searching is spanning.**

The search follows all places of a text at once: a set of places is carried to the set of the places where
the pieces end that begin in it.  A repetition is followed round by round; it is enough to follow as many
rounds as the text has places, because a round that stays where it is can be left out.

Main definitions:

* `Rounds` — places that are led to each other in a number of rounds;
* `Carries` — a function on sets of places follows a relation between places.

Main results:

* `Rounds.shorten` — rounds that stay where they are can be left out;
* `spans_repeated_iff` — **a repetition in rounds**;
* `carries_onText` — the places that a pattern is followed to;
* `occursIn_iff` — **the search finds a piece exactly when the pattern describes one**;
* `occursIn_whole` — between anchors it finds whole texts only.
-/

import CardQuery.Regex.Matching
import Mathlib.Algebra.Group.Nat.Defs
import Mathlib.Data.List.Basic

set_option autoImplicit false

namespace CardQuery.Regex

/-! ### Rounds -/

/-- The first place is led to the second in a number of rounds. -/
def Rounds (R : Nat → Nat → Prop) : Nat → Nat → Nat → Prop
  | 0, i, k => i = k
  | n + 1, i, k => ∃ j, R i j ∧ Rounds R n j k

namespace Rounds

variable {R : Nat → Nat → Prop} {m n i j k : Nat}

theorem add_iff : Rounds R (m + n) i k ↔ ∃ j, Rounds R m i j ∧ Rounds R n j k := by
  induction m generalizing i with
  | zero => simp [Rounds]
  | succ m ih =>
      rw [Nat.add_right_comm]
      simp only [Rounds, ih]
      constructor
      · rintro ⟨j, hj, l, hl, hk⟩
        exact ⟨l, ⟨j, hj, hl⟩, hk⟩
      · rintro ⟨l, ⟨j, hj, hl⟩, hk⟩
        exact ⟨j, hj, l, hl, hk⟩

/-- Rounds that stay where they are can be left out, and every other one leads on. -/
theorem shorten (hle : ∀ i j, R i j → i ≤ j) (h : Rounds R n i k) :
    ∃ m, m ≤ n ∧ i + m ≤ k ∧ Rounds R m i k := by
  induction n generalizing i with
  | zero => exact ⟨0, Nat.le_refl 0, Nat.le_of_eq h, h⟩
  | succ n ih =>
      obtain ⟨j, hj, hrest⟩ := h
      obtain ⟨m, hm, hmk, hrounds⟩ := ih hrest
      rcases Nat.eq_or_lt_of_le (hle i j hj) with rfl | hlt
      · exact ⟨m, by omega, hmk, hrounds⟩
      · exact ⟨m + 1, by omega, by omega, j, hj, hrounds⟩

end Rounds

/-! ### Pieces of a text -/

section Spans

variable {t : List Char} {p : Pattern} {i j k : Nat}

theorem Spans.le (h : Spans t p i j) : i ≤ j := by
  induction h with
  | seq _ _ first second => exact Nat.le_trans first second
  | round _ _ _ first rest => exact Nat.le_trans first rest
  | one => exact Nat.le_succ _
  | left _ ih => exact ih
  | right _ ih => exact ih
  | _ => exact Nat.le_refl _

theorem Spans.le_length (h : Spans t p i j) (hi : i ≤ t.length) : j ≤ t.length := by
  induction h with
  | one there _ => exact (List.getElem?_eq_some_iff.1 there).1
  | seq _ _ first second => exact second (first hi)
  | round _ _ _ first rest => exact rest (first hi)
  | left _ ih => exact ih hi
  | right _ ih => exact ih hi
  | _ => exact hi

theorem spans_empty_iff : Spans t .empty i j ↔ i = j := by
  constructor
  · intro h
    cases h
    rfl
  · rintro rfl
    exact .empty i

theorem spans_one_iff {s : CharSet} :
    Spans t (.one s) i j ↔ j = i + 1 ∧ ∃ c, t[i]? = some c ∧ s.has c = true := by
  constructor
  · intro h
    cases h with
    | one there member => exact ⟨rfl, _, there, member⟩
  · rintro ⟨rfl, c, there, member⟩
    exact .one there member

theorem spans_anchor_iff {a : Anchor} :
    Spans t (.anchor a) i j ↔ i = j ∧ a.holds (charBefore? t i) t[i]? = true := by
  constructor
  · intro h
    cases h with
    | anchor holds => exact ⟨rfl, holds⟩
  · rintro ⟨rfl, holds⟩
    exact .anchor holds

/-- Only at its beginning is there no character before a place of a text. -/
theorem charBefore?_eq_none_iff (hi : i ≤ t.length) : charBefore? t i = none ↔ i = 0 := by
  cases i with
  | zero => simp [charBefore?]
  | succ i =>
      rw [charBefore?, if_neg (Nat.succ_ne_zero i), List.getElem?_eq_none_iff]
      simp only [Nat.add_sub_cancel, Nat.succ_ne_zero, iff_false, Nat.not_le]
      exact hi

theorem spans_seq_iff {q : Pattern} :
    Spans t (.seq p q) i k ↔ ∃ j, Spans t p i j ∧ Spans t q j k := by
  constructor
  · intro h
    cases h with
    | seq first second => exact ⟨_, first, second⟩
  · rintro ⟨j, first, second⟩
    exact .seq first second

theorem spans_choice_iff {q : Pattern} :
    Spans t (.choice p q) i j ↔ Spans t p i j ∨ Spans t q i j := by
  constructor
  · intro h
    cases h with
    | left taken => exact .inl taken
    | right taken => exact .inr taken
  · rintro (taken | taken)
    · exact .left taken
    · exact .right taken

theorem rounds_of_spans {least : Nat} {most : Option Nat} (h : Spans t (.repeated p least most) i k) :
    ∃ n, least ≤ n ∧ (∀ m, most = some m → n ≤ m) ∧ Rounds (Spans t p) n i k := by
  generalize hq : Pattern.repeated p least most = q at h
  induction h generalizing least most with
  | done =>
      cases hq
      exact ⟨0, Nat.le_refl 0, fun m _ => Nat.zero_le m, rfl⟩
  | round allowed first rest _ ih =>
      cases hq
      obtain ⟨n, hleast, hmost, hrounds⟩ := ih rfl
      refine ⟨n + 1, by omega, fun m hm => ?_, _, first, hrounds⟩
      subst hm
      have hpos : m ≠ 0 := fun h => allowed (congrArg some h)
      have hle := hmost (m - 1) rfl
      omega
  | _ => cases hq

theorem spans_of_rounds {n least : Nat} {most : Option Nat} (hleast : least ≤ n)
    (hmost : ∀ m, most = some m → n ≤ m) (h : Rounds (Spans t p) n i k) :
    Spans t (.repeated p least most) i k := by
  induction n generalizing least most i with
  | zero =>
      obtain rfl : i = k := h
      obtain rfl := Nat.le_zero.1 hleast
      exact .done
  | succ n ih =>
      obtain ⟨j, first, hrounds⟩ := h
      refine .round (fun hzero => ?_) first (ih (by omega) (fun m hm => ?_) hrounds)
      · have hle := hmost 0 hzero
        omega
      · cases most with
        | none => cases hm
        | some bound =>
            cases hm
            have hle := hmost bound rfl
            exact Nat.le_sub_one_of_lt hle

/-- **A repetition** consists of a number of rounds within its bounds. -/
theorem spans_repeated_iff {least : Nat} {most : Option Nat} :
    Spans t (.repeated p least most) i k ↔
      ∃ n, least ≤ n ∧ (∀ m, most = some m → n ≤ m) ∧ Rounds (Spans t p) n i k :=
  ⟨rounds_of_spans, fun ⟨_, hleast, hmost, hrounds⟩ => spans_of_rounds hleast hmost hrounds⟩

end Spans

/-! ### Sets of places -/

/-- All places of a set are at most the last place of a text. -/
def Within (last places : Nat) : Prop := ∀ i, places.testBit i = true → i ≤ last

/-- The function on sets of places follows the relation: it leads to the places to which a place of the
set is related. -/
structure Carries (last : Nat) (f : Nat → Nat) (R : Nat → Nat → Prop) : Prop where
  within : ∀ places, Within last places → Within last (f places)
  reached : ∀ places, Within last places →
    ∀ j, (f places).testBit j = true ↔ ∃ i, places.testBit i = true ∧ R i j

namespace Carries

variable {last : Nat} {f g : Nat → Nat} {R S : Nat → Nat → Prop} {places : Nat}

theorem congr (h : Carries last f R) (hiff : ∀ i j, i ≤ last → (R i j ↔ S i j)) : Carries last f S where
  within := h.within
  reached places hplaces j := by
    rw [h.reached places hplaces]
    exact exists_congr fun i => and_congr_right fun hi => hiff i j (hplaces i hi)

theorem stay : Carries last (fun places => places) (fun i j => i = j) where
  within _ h := h
  reached _ _ j := by simp

theorem seq (hf : Carries last f R) (hg : Carries last g S) :
    Carries last (fun places => g (f places)) (fun i k => ∃ j, R i j ∧ S j k) where
  within places h := hg.within _ (hf.within _ h)
  reached places h k := by
    rw [hg.reached _ (hf.within _ h)]
    simp only [hf.reached _ h]
    constructor
    · rintro ⟨j, ⟨i, hi, hij⟩, hjk⟩
      exact ⟨i, hi, j, hij, hjk⟩
    · rintro ⟨i, hi, j, hij, hjk⟩
      exact ⟨j, ⟨i, hi, hij⟩, hjk⟩

theorem choice (hf : Carries last f R) (hg : Carries last g S) :
    Carries last (fun places => f places ||| g places) (fun i j => R i j ∨ S i j) where
  within places h j hj := by
    rw [Nat.testBit_or, Bool.or_eq_true] at hj
    rcases hj with hj | hj
    · exact hf.within _ h j hj
    · exact hg.within _ h j hj
  reached places h j := by
    rw [Nat.testBit_or, Bool.or_eq_true, hf.reached _ h, hg.reached _ h]
    simp only [and_or_left, exists_or]

/-- In a set that is led into itself, all rounds stay. -/
theorem mem_of_rounds (h : Carries last f R) (hplaces : Within last places)
    (hclosed : ∀ j, (f places).testBit j = true → places.testBit j = true) {n i k : Nat}
    (hi : places.testBit i = true) (hrounds : Rounds R n i k) : places.testBit k = true := by
  induction n generalizing i with
  | zero =>
      obtain rfl : i = k := hrounds
      exact hi
  | succ n ih =>
      obtain ⟨j, hij, hrest⟩ := hrounds
      exact ih (hclosed j ((h.reached _ hplaces j).2 ⟨i, hi, hij⟩)) hrest

/-- A set that is led to itself has been reached in any number of rounds. -/
theorem exists_rounds (h : Carries last f R) (hplaces : Within last places) (hfixed : f places = places)
    (n : Nat) {k : Nat} (hk : places.testBit k = true) :
    ∃ i, places.testBit i = true ∧ Rounds R n i k := by
  induction n with
  | zero => exact ⟨k, hk, rfl⟩
  | succ n ih =>
      obtain ⟨j, hj, hrounds⟩ := ih
      rw [← hfixed, h.reached _ hplaces] at hj
      obtain ⟨i, hi, hij⟩ := hj
      exact ⟨i, hi, j, hij, hrounds⟩

theorem iterate (h : Carries last f R) (n : Nat) : Carries last (Regex.iterate f n) (Rounds R n) := by
  have hboth (places : Nat) (hplaces : Within last places) :
      Within last (Regex.iterate f n places) ∧ ∀ k, (Regex.iterate f n places).testBit k = true ↔
        ∃ i, places.testBit i = true ∧ Rounds R n i k := by
    induction n generalizing places with
    | zero => exact ⟨hplaces, fun k => by simp [Regex.iterate, Rounds]⟩
    | succ n ih =>
        rw [Regex.iterate]
        split
        · next hfixed =>
          -- nothing changes any more, however many rounds are left
          refine ⟨hplaces, fun k => ⟨h.exists_rounds hplaces hfixed (n + 1), ?_⟩⟩
          rintro ⟨i, hi, hrounds⟩
          exact h.mem_of_rounds hplaces (fun j hj => by rwa [hfixed] at hj) hi hrounds
        · obtain ⟨hwithin, hreached⟩ := ih (f places) (h.within _ hplaces)
          refine ⟨hwithin, fun k => ?_⟩
          simp only [hreached, h.reached _ hplaces, Rounds]
          constructor
          · rintro ⟨j, ⟨i, hi, hij⟩, hrounds⟩
            exact ⟨i, hi, j, hij, hrounds⟩
          · rintro ⟨i, hi, j, hij, hrounds⟩
            exact ⟨j, ⟨i, hi, hij⟩, hrounds⟩
  exact ⟨fun places hplaces => (hboth places hplaces).1, fun places hplaces => (hboth places hplaces).2⟩

theorem spread (h : Carries last f R) (n : Nat) :
    Carries last (Regex.spread f n) (fun i k => ∃ m, m ≤ n ∧ Rounds R m i k) := by
  have hboth (places : Nat) (hplaces : Within last places) :
      Within last (Regex.spread f n places) ∧ ∀ k, (Regex.spread f n places).testBit k = true ↔
        ∃ i, places.testBit i = true ∧ ∃ m, m ≤ n ∧ Rounds R m i k := by
    induction n generalizing places with
    | zero => exact ⟨hplaces, fun k => by simp [Regex.spread, Rounds]⟩
    | succ n ih =>
        rw [Regex.spread]
        split
        · next hfixed =>
          -- no new places are reached, so that none ever will be
          refine ⟨hplaces, fun k => ⟨fun hk => ⟨k, hk, 0, Nat.zero_le _, rfl⟩, ?_⟩⟩
          rintro ⟨i, hi, m, -, hrounds⟩
          refine h.mem_of_rounds hplaces (fun j hj => ?_) hi hrounds
          rw [← hfixed, Nat.testBit_or, hj, Bool.or_true]
        · have hnext := (stay.choice h).within places hplaces
          obtain ⟨hwithin, hreached⟩ := ih _ hnext
          refine ⟨hwithin, fun k => ?_⟩
          rw [hreached]
          constructor
          · rintro ⟨j, hj, m, hm, hrounds⟩
            rw [Nat.testBit_or, Bool.or_eq_true, h.reached _ hplaces] at hj
            rcases hj with hj | ⟨i, hi, hij⟩
            · exact ⟨j, hj, m, by omega, hrounds⟩
            · exact ⟨i, hi, m + 1, by omega, j, hij, hrounds⟩
          · rintro ⟨i, hi, m, hm, hrounds⟩
            cases m with
            | zero =>
                obtain rfl : i = k := hrounds
                exact ⟨i, by rw [Nat.testBit_or, hi, Bool.true_or], 0, Nat.zero_le _, rfl⟩
            | succ m =>
                obtain ⟨j, hij, hrest⟩ := hrounds
                refine ⟨j, ?_, m, by omega, hrest⟩
                rw [Nat.testBit_or, Bool.or_eq_true, h.reached _ hplaces]
                exact .inr ⟨i, hi, hij⟩
  exact ⟨fun places hplaces => (hboth places hplaces).1, fun places hplaces => (hboth places hplaces).2⟩

end Carries

/-! ### Patterns on a text -/

theorem testBit_placesOf (answers : List Bool) (i : Nat) :
    (placesOf answers).testBit i = (answers[i]?).getD false := by
  induction answers generalizing i with
  | nil => simp [placesOf]
  | cons b rest ih =>
      cases i with
      | zero => cases b <;> simp [placesOf, Nat.testBit_zero]
      | succ i =>
          have hhalf : (2 * placesOf rest + if b then 1 else 0) / 2 = placesOf rest := by
            split <;> omega
          rw [placesOf, Nat.testBit_succ, hhalf, ih, List.getElem?_cons_succ]

theorem getElem?_anchorAnswers (a : Anchor) (before : Option Char) (t : List Char) (i : Nat) :
    (anchorAnswers a before t)[i]? =
      if i ≤ t.length then some (a.holds (if i = 0 then before else t[i - 1]?) t[i]?) else none := by
  induction t generalizing before i with
  | nil =>
      cases i with
      | zero => rfl
      | succ i => simp [anchorAnswers]
  | cons c t ih =>
      cases i with
      | zero => simp [anchorAnswers]
      | succ i =>
          rw [anchorAnswers, List.getElem?_cons_succ, ih]
          cases i with
          | zero => simp
          | succ i => simp

section Text

variable (t : List Char)

theorem carries_take (s : CharSet) :
    Carries t.length (fun places => (places &&& placesOf (charAnswers s t)) <<< 1)
      (Spans t (.one s)) := by
  have hreached (places j : Nat) :
      ((places &&& placesOf (charAnswers s t)) <<< 1).testBit j = true ↔
        ∃ i, places.testBit i = true ∧ Spans t (.one s) i j := by
    rw [Nat.testBit_shiftLeft, Nat.testBit_and, testBit_placesOf, charAnswers, List.getElem?_map]
    simp only [Bool.and_eq_true, decide_eq_true_eq, spans_one_iff]
    constructor
    · rintro ⟨hj, hplace, hhas⟩
      cases hc : t[j - 1]? with
      | none => simp [hc] at hhas
      | some c =>
          simp only [hc, Option.map_some, Option.getD_some] at hhas
          exact ⟨j - 1, hplace, by omega, c, hc, hhas⟩
    · rintro ⟨i, hi, rfl, c, hc, hhas⟩
      rw [Nat.add_sub_cancel, hc]
      exact ⟨by omega, hi, hhas⟩
  refine ⟨fun places hplaces j hj => ?_, fun places _ => hreached places⟩
  obtain ⟨i, hi, hspan⟩ := (hreached places j).1 hj
  exact hspan.le_length (hplaces i hi)

theorem carries_check (a : Anchor) :
    Carries t.length (fun places => places &&& placesOf (anchorAnswers a none t))
      (Spans t (.anchor a)) := by
  have hreached (places : Nat) (hplaces : Within t.length places) (j : Nat) :
      (places &&& placesOf (anchorAnswers a none t)).testBit j = true ↔
        ∃ i, places.testBit i = true ∧ Spans t (.anchor a) i j := by
    rw [Nat.testBit_and, testBit_placesOf, getElem?_anchorAnswers]
    simp only [Bool.and_eq_true, spans_anchor_iff]
    constructor
    · rintro ⟨hj, hholds⟩
      rw [if_pos (hplaces j hj)] at hholds
      exact ⟨j, hj, rfl, hholds⟩
    · rintro ⟨i, hi, rfl, hholds⟩
      rw [if_pos (hplaces i hi)]
      exact ⟨hi, hholds⟩
  refine ⟨fun places hplaces j hj => ?_, hreached⟩
  rw [Nat.testBit_and, Bool.and_eq_true] at hj
  exact hplaces j hj.1

/-- As many rounds as a text has places are as good as any number. -/
theorem spans_repeated_limited {p : Pattern} {least i k : Nat} {most : Option Nat} (hi : i ≤ t.length) :
    Spans t (.repeated p least most) i k ↔
      ∃ n, least ≤ n ∧ n ≤ most.getD (least + t.length + 1) ∧ Rounds (Spans t p) n i k := by
  rw [spans_repeated_iff]
  cases most with
  | some bound => simp
  | none =>
      constructor
      · rintro ⟨n, hleast, -, hrounds⟩
        obtain ⟨further, rfl⟩ := Nat.exists_eq_add_of_le hleast
        obtain ⟨j, hfirst, hrest⟩ := Rounds.add_iff.1 hrounds
        obtain ⟨m, -, hmk, hshort⟩ := hrest.shorten fun _ _ h => h.le
        have hspan : Spans t (.repeated p 0 none) i k := spans_of_rounds (Nat.zero_le _) nofun hrounds
        have hk := hspan.le_length hi
        refine ⟨least + m, Nat.le_add_right _ _, ?_, Rounds.add_iff.2 ⟨j, hfirst, hshort⟩⟩
        simp only [Option.getD_none]
        omega
      · rintro ⟨n, hleast, -, hrounds⟩
        exact ⟨n, hleast, nofun, hrounds⟩

theorem carries_repeated {p : Pattern} (h : Carries t.length (p.onText t).run (Spans t p)) (least : Nat)
    (most : Option Nat) :
    Carries t.length ((Pattern.repeated p least most).onText t).run
      (Spans t (.repeated p least most)) := by
  have hrun (places : Nat) : ((Pattern.repeated p least most).onText t).run places =
      if most.getD (least + t.length + 1) < least then 0
      else spread (p.onText t).run (most.getD (least + t.length + 1) - least)
        (iterate (p.onText t).run least places) := rfl
  by_cases hmost : most.getD (least + t.length + 1) < least
  · constructor
    · intro places _ j hj
      simp [hrun, hmost] at hj
    · intro places hplaces j
      rw [hrun, if_pos hmost]
      simp only [Nat.zero_testBit, Bool.false_eq_true, false_iff, not_exists, not_and]
      intro i hi hspan
      obtain ⟨n, hleast, hn, -⟩ := (spans_repeated_limited t (hplaces i hi)).1 hspan
      omega
  · have hrounds := ((h.iterate least).seq (h.spread (most.getD (least + t.length + 1) - least))).congr
      (S := Spans t (.repeated p least most)) fun i k hi => by
        rw [spans_repeated_limited t hi]
        constructor
        · rintro ⟨j, hfirst, m, hm, hrest⟩
          exact ⟨least + m, by omega, by omega, Rounds.add_iff.2 ⟨j, hfirst, hrest⟩⟩
        · rintro ⟨n, hleast, hn, hall⟩
          obtain ⟨m, rfl⟩ := Nat.exists_eq_add_of_le hleast
          obtain ⟨j, hfirst, hrest⟩ := Rounds.add_iff.1 hall
          exact ⟨j, hfirst, m, by omega, hrest⟩
    have heq : ((Pattern.repeated p least most).onText t).run = fun places =>
        spread (p.onText t).run (most.getD (least + t.length + 1) - least)
          (iterate (p.onText t).run least places) := by
      funext places
      rw [hrun, if_neg hmost]
    rw [heq]
    exact hrounds

/-- **The places that a pattern is followed to** are those to which it spans. -/
theorem carries_onText (p : Pattern) : Carries t.length (p.onText t).run (Spans t p) := by
  induction p with
  | empty => exact Carries.stay.congr fun i j _ => spans_empty_iff.symm
  | one s => exact carries_take t s
  | anchor a => exact carries_check t a
  | seq p q hp hq => exact (hp.seq hq).congr fun i k _ => spans_seq_iff.symm
  | choice p q hp hq => exact (hp.choice hq).congr fun i j _ => spans_choice_iff.symm
  | repeated p least most hp => exact carries_repeated t hp least most

theorem testBit_allPlaces (last i : Nat) :
    (twoTo (last + 1) - 1).testBit i = decide (i ≤ last) := by
  have htwo : twoTo (last + 1) = 2 ^ (last + 1) := rfl
  rw [htwo, Nat.testBit_two_pow_sub_one]
  exact decide_eq_decide.2 Nat.lt_succ_iff

/-- **The search finds a piece exactly when the pattern describes one.** -/
theorem occursIn_iff (p : Pattern) : p.occursIn t = true ↔ Occurs p t := by
  have hall : Within t.length (twoTo (t.length + 1) - 1) := by
    intro i hi
    rw [testBit_allPlaces, decide_eq_true_eq] at hi
    exact hi
  rw [Pattern.occursIn, bne_iff_ne, Occurs]
  constructor
  · intro hne
    obtain ⟨j, hj⟩ := Nat.exists_testBit_of_ne_zero hne
    obtain ⟨i, hi, hspan⟩ := ((carries_onText t p).reached _ hall j).1 hj
    exact ⟨i, j, hall i hi, hspan⟩
  · rintro ⟨i, j, hi, hspan⟩ hzero
    have hj := ((carries_onText t p).reached _ hall j).2
      ⟨i, by rw [testBit_allPlaces, decide_eq_true_eq]; exact hi, hspan⟩
    rw [hzero, Nat.zero_testBit] at hj
    contradiction

/-- **Between the two anchors a pattern is found only as the whole text.** -/
theorem occursIn_whole (p : Pattern) :
    (Pattern.seq (.anchor .textStart) (.seq p (.anchor .textEnd))).occursIn t = true ↔
      Spans t p 0 t.length := by
  rw [occursIn_iff, Occurs]
  simp only [spans_seq_iff, spans_anchor_iff, Anchor.holds, Option.isNone_iff_eq_none,
    List.getElem?_eq_none_iff]
  constructor
  · rintro ⟨i, j, hi, l, ⟨rfl, hbefore⟩, k, hspan, rfl, hafter⟩
    rw [charBefore?_eq_none_iff hi] at hbefore
    subst hbefore
    rwa [Nat.le_antisymm hafter (hspan.le_length hi)]
  · intro hspan
    exact ⟨0, t.length, Nat.zero_le _, 0, ⟨rfl, rfl⟩, t.length, hspan, rfl, Nat.le_refl _⟩

end Text

end CardQuery.Regex
