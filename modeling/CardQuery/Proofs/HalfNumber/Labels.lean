/-
**The labels of a ladder are complete, in order and read back.**

The ladder goes up in halves from one bound to the other.  No label comes twice, the numbers beside the labels do
not decrease, and infinity is the last of them.  The labels are the plain decimals of the numbers between the
bounds, a second form with a plus sign for the positive whole ones, two more forms of zero, and the sign of
infinity; and each of them is read back as the number beside it.  All this takes that there is a ladder: of the
bounds whose doubles are machine words, one least bound has none, since the magnitude of its double is no word.

Main definitions:

* `HasLabel` — the labels that the numbers between two bounds are supposed to have.

Main results:

* `pairwise_stepsBetween` — **the ladder goes up, and no label comes twice**;
* `mem_labels_iff` — the labels of a ladder;
* `ladder_faithful` — **what a ladder holds, in which order, and what is read from it**.
-/

import CardQuery.Proofs.HalfNumber.Ladder
import Mathlib.Data.List.Nodup

set_option autoImplicit false

namespace CardQuery

namespace HalfNumber

variable {count : Int} {label : String}

/-! ### The labels of a number -/

/-- Two numbers have no label in common. -/
theorem eq_of_mem_labelsOf {count' : Int} (h : label ∈ labelsOf (plainText count) count)
    (h' : label ∈ labelsOf (plainText count') count') : count = count' :=
  halves.inj ((displays_labelsOf h).unique (displays_labelsOf h'))

theorem plus_ne (s : String) : s ≠ "+" ++ s := by
  intro h
  have hlength := congrArg String.length h
  have hplus : "+".length = 1 := rfl
  rw [String.length_append, hplus] at hlength
  omega

theorem nodup_labelsOf (count : Int) : (labelsOf (plainText count) count).Nodup := by
  rw [labelsOf]
  split
  · next hzero =>
    subst hzero
    decide +kernel
  · split
    · exact List.nodup_cons.2 ⟨fun h => plus_ne _ (List.mem_singleton.1 h), List.nodup_singleton _⟩
    · exact List.nodup_singleton _

theorem plainText_whole (whole : Nat) : plainText (2 * whole) = Nat.repr whole := by
  have hsign : ¬(2 * (whole : Int) < 0) := by omega
  have heven : 2 * (whole : Int) % 2 = 0 := by omega
  have hhalf : (2 * (whole : Int)).natAbs / 2 = whole := by omega
  rw [plainText, if_neg hsign, if_pos heven, hhalf, String.empty_append, String.append_empty]

/-- The labels of a number: its plain decimal, the same behind a plus sign if it is whole and positive, and zero
with either sign. -/
theorem mem_labelsOf :
    label ∈ labelsOf (plainText count) count ↔ label = plainText count ∨
      (∃ whole : Nat, 0 < whole ∧ count = 2 * whole ∧ label = "+" ++ Nat.repr whole) ∨
      count = 0 ∧ (label = "+0" ∨ label = "-0") := by
  rw [labelsOf]
  split
  · next hzero =>
    have hnone : ¬∃ whole : Nat, 0 < whole ∧ count = 2 * whole ∧ label = "+" ++ Nat.repr whole := by
      rintro ⟨whole, hpos, hcount, -⟩
      omega
    simp only [List.mem_cons, List.not_mem_nil, or_false, hzero, true_and]
    rw [hzero] at hnone
    simp only [hnone, false_or]
  · next hzero =>
    split
    · next hpos =>
      obtain ⟨whole, rfl⟩ : ∃ whole : Nat, count = 2 * whole := ⟨count.toNat / 2, by omega⟩
      rw [List.mem_pair, plainText_whole]
      refine or_congr_right ⟨fun h => .inl ⟨whole, by omega, rfl, h⟩, ?_⟩
      rintro (⟨whole', -, hwhole, rfl⟩ | ⟨habsurd, -⟩)
      · rw [show whole' = whole by omega]
      · exact absurd habsurd hzero
    · next hnot =>
      rw [List.mem_singleton]
      refine ⟨.inl, ?_⟩
      rintro (h | ⟨whole, hpos, hcount, -⟩ | ⟨habsurd, -⟩)
      · exact h
      · exact absurd ⟨by omega, by omega⟩ hnot
      · exact absurd habsurd hzero

end HalfNumber

open HalfNumber

/-! ### The order of the steps -/

theorem pairwise_halvesFrom (low : Int) (length : Nat) : (halvesFrom low length).Pairwise (· < ·) := by
  induction length generalizing low with
  | zero => exact .nil
  | succ length ih =>
      refine .cons (fun count hcount => ?_) (ih (low + 1))
      have := ((mem_halvesFrom _ _).1 hcount).1
      omega

/-- The labels that the numbers between two bounds are supposed to have. -/
inductive HasLabel (least most : Int) : String → Prop where
  /-- The plain decimal of a whole or half number. -/
  | plain {count : Int} (hleast : 2 * least ≤ count) (hmost : count ≤ 2 * most) :
      HasLabel least most (plainText count)
  /-- A positive whole number behind a plus sign. -/
  | plus {whole : Nat} (hpos : 0 < whole) (hleast : least ≤ whole) (hmost : whole ≤ most) :
      HasLabel least most ("+" ++ Nat.repr whole)
  /-- Zero behind either sign. -/
  | zero {sign : String} (hsign : sign = "+" ∨ sign = "-") (hleast : least ≤ 0) (hmost : 0 ≤ most) :
      HasLabel least most (sign ++ "0")
  /-- The sign of infinity. -/
  | infinity : HasLabel least most infinityLabel

section Ladder

variable {least most : Int} {step : Step} {label : String}

/-- **The ladder goes up, and no label comes twice.** -/
theorem pairwise_stepsBetween (least most : Int) :
    (stepsBetween least most).Pairwise fun step later =>
      step.label ≠ later.label ∧ step.value.measure ≤ later.value.measure := by
  rw [stepsBetween, List.pairwise_append, List.pairwise_flatMap]
  refine ⟨⟨fun count _ => ?_, ?_⟩, List.pairwise_singleton _ _, ?_⟩
  · rw [stepsOf, List.pairwise_map]
    exact (nodup_labelsOf count).imp fun hne => ⟨hne, le_rfl⟩
  · refine (pairwise_halvesFrom _ _).imp fun {count count'} hlt => ?_
    simp only [stepsOf, List.forall_mem_map]
    intro label hlabel label' hlabel'
    refine ⟨?_, WithTop.coe_le_coe.2 hlt.le⟩
    rintro rfl
    exact hlt.ne (eq_of_mem_labelsOf hlabel hlabel')
  · simp only [List.forall_mem_flatMap, stepsOf, List.forall_mem_map, List.mem_singleton, forall_eq]
    intro count _ label hlabel
    refine ⟨?_, le_top⟩
    rintro rfl
    cases (displays_labelsOf hlabel).unique .infinity

/-- Infinity is the last step, and no other. -/
theorem infinity_last (least most : Int) : ∃ steps, stepsBetween least most = steps ++ [⟨infinityLabel, .infinity⟩] ∧
    ∀ step ∈ steps, step.value ≠ .infinity := by
  refine ⟨_, rfl, ?_⟩
  simp only [List.forall_mem_flatMap, stepsOf, List.forall_mem_map]
  intro count _ label _ h
  contradiction

theorem mem_labels : label ∈ (stepsBetween least most).map (·.label) ↔
    (∃ count, 2 * least ≤ count ∧ count ≤ 2 * most ∧ label ∈ labelsOf (plainText count) count) ∨
      label = infinityLabel := by
  simp only [stepsBetween, List.map_append, List.mem_append, List.map_flatMap, stepsOf, List.map_map,
    List.mem_flatMap, mem_halvesFrom, List.map_singleton, List.mem_singleton]
  refine or_congr_left (exists_congr fun count => ?_)
  have hlabels : (labelsOf (plainText count) count).map (Step.label ∘ fun label => ⟨label, .halves count⟩) =
      labelsOf (plainText count) count := List.map_id _
  rw [hlabels, ← and_assoc]
  refine and_congr_left fun _ => ?_
  omega

/-- **The labels of a ladder** are those that it is supposed to have. -/
theorem mem_labels_iff : label ∈ (stepsBetween least most).map (·.label) ↔ HasLabel least most label := by
  rw [mem_labels]
  constructor
  · rintro (⟨count, hlow, hhigh, hlabel⟩ | rfl)
    · rcases mem_labelsOf.1 hlabel with rfl | ⟨whole, hpos, rfl, rfl⟩ | ⟨rfl, rfl | rfl⟩
      · exact .plain hlow hhigh
      · exact .plus hpos (by omega) (by omega)
      · exact .zero (.inl rfl) (by omega) (by omega)
      · exact .zero (.inr rfl) (by omega) (by omega)
    · exact .infinity
  · intro hlabel
    cases hlabel with
    | @plain count hlow hhigh => exact .inl ⟨count, hlow, hhigh, mem_labelsOf.2 (.inl rfl)⟩
    | @plus whole hpos hlow hhigh =>
        exact .inl ⟨2 * whole, by omega, by omega, mem_labelsOf.2 (.inr (.inl ⟨whole, hpos, rfl, rfl⟩))⟩
    | @zero sign hsign hlow hhigh =>
        have hzero : sign ++ "0" = "+0" ∨ sign ++ "0" = "-0" := by
          rcases hsign with rfl | rfl
          · exact .inl rfl
          · exact .inr rfl
        exact .inl ⟨0, by omega, by omega, mem_labelsOf.2 (.inr (.inr ⟨rfl, hzero⟩))⟩
    | infinity => exact .inr rfl

end Ladder

/-- **What a ladder holds, in which order, and what is read from it.**  Bounds whose doubles are words, the least
not above the most, have such a ladder unless the double of the least is the least word. -/
theorem ladder_faithful {least most : Int} (hlow : -int32Bound ≤ 2 * least) (hhigh : 2 * most < int32Bound)
    (hle : least ≤ most) :
    (2 * least = -int32Bound → ladder? least most = none) ∧
      (2 * least ≠ -int32Bound → ∃ steps, ladder? least most = some steps ∧
        (steps.map (·.label)).Nodup ∧
        (steps.map (·.value.measure)).Pairwise (· ≤ ·) ∧
        (∃ before, steps = before ++ [⟨infinityLabel, .infinity⟩] ∧ ∀ step ∈ before, step.value ≠ .infinity) ∧
        (∀ step ∈ steps, read? step.label = some step.value) ∧
        ∀ label, label ∈ steps.map (·.label) ↔ HasLabel least most label) := by
  have hnone := ladder?_eq_none_iff hlow (by omega) (by omega) hhigh
  refine ⟨fun hlowest => hnone.2 ⟨hlowest, hle⟩, fun hlowest => ?_⟩
  obtain ⟨steps, hsteps⟩ := Option.ne_none_iff_exists'.1 fun h => hlowest (hnone.1 h).1
  obtain ⟨-, rfl⟩ := ladder?_eq_some_iff.1 hsteps
  have hpairs := pairwise_stepsBetween least most
  refine ⟨_, hsteps, ?_, ?_, infinity_last least most, ?_, fun label => mem_labels_iff⟩
  · exact List.pairwise_map.2 (hpairs.imp And.left)
  · exact List.pairwise_map.2 (hpairs.imp And.right)
  · exact fun step hstep => HalfRange.read?_of_mem_ladder (r := ⟨least, most, _, [], hsteps⟩) hstep

/-- The half below zero has a label, and no half has one with a plus sign.  The lowest bounds have no ladder. -/
theorem ladder_faithful_around_zero :
    (-int32Bound ≤ 2 * -1 ∧ 2 * 1 < int32Bound ∧ 2 * -1 ≠ -int32Bound ∧
      ∃ steps, ladder? (-1) 1 = some steps ∧
        steps.map (·.label) = ["-1", "-0.5", "0", "+0", "-0", "0.5", "1", "+1", "∞"] ∧
        HasLabel (-1) 1 "-0.5" ∧ ¬HasLabel (-1) 1 "+0.5" ∧ ∀ step ∈ steps, read? step.label = some step.value) ∧
      -int32Bound ≤ 2 * -1073741824 ∧ 2 * -1073741824 = -int32Bound ∧ ladder? (-1073741824) (-1073741824) = none := by
  have hlowest : 2 * (-1) ≠ -int32Bound := by decide
  have hlow : -int32Bound ≤ 2 * (-1) := by decide
  have hhigh : 2 * 1 < int32Bound := by decide
  obtain ⟨-, hladder⟩ := ladder_faithful hlow hhigh (by decide)
  obtain ⟨steps, hsteps, -, -, -, hread, hlabel⟩ := hladder hlowest
  have hlabels : steps.map (·.label) = ["-1", "-0.5", "0", "+0", "-0", "0.5", "1", "+1", "∞"] := by
    have heq : (ladder? (-1) 1).map (fun steps => steps.map (·.label)) =
        some ["-1", "-0.5", "0", "+0", "-0", "0.5", "1", "+1", "∞"] := by decide +kernel
    rw [hsteps] at heq
    exact Option.some.inj heq
  refine ⟨⟨hlow, hhigh, hlowest, steps, hsteps, hlabels, ?_, ?_, hread⟩, by decide, by decide,
    (ladder_faithful (by decide) (by decide) (by decide)).1 (by decide)⟩
  · rw [← hlabel, hlabels]
    decide
  · rw [← hlabel, hlabels]
    decide

end CardQuery
