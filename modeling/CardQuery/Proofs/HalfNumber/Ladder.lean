/-
**The ladder lists the labels of the numbers between its bounds.**

Each label displays the number that stands beside it, and every whole or half number between the bounds has
its labels.  There is a ladder if the doubled bounds are machine words and the least word is not between them:
that one has no magnitude among the words.

Main definitions:

* `CountsHalves` — the bounds that have a ladder;
* `HalfNumber.measure` — the number itself, or a top element;
* `HalfNumber.plainText` — the plain decimal of a number;
* `stepsOf` — the labels of a number, each with the number beside it.

Main results:

* `HalfNumber.order_compares` — numbers of halves are ordered by what they measure;
* `ladder?_eq_some_iff`, `ladder?_eq_none_iff` — **which bounds have a ladder**, and what it is;
* `HalfNumber.displays_labelsOf` — the labels of a number display it;
* `HalfRange.mem_ladder` — the steps of a ladder;
* `HalfRange.displays_of_mem_ladder`, `HalfRange.read?_of_mem_ladder` — **every label displays the number that
  stands beside it**, and is read back as that number.
-/

import CardQuery.Proofs.HalfNumber.Notation
import Mathlib.Data.Int.ConditionallyCompleteOrder
import Mathlib.Order.Compare
import Mathlib.Order.ConditionallyCompleteLattice.Basic
import Mathlib.Order.WithBot

set_option autoImplicit false

namespace CardQuery

/-- The bounds that have a ladder: their doubles are machine words, and the least word is not between these. -/
structure CountsHalves (least most : Int) : Prop where
  least_ge : -int32Bound ≤ 2 * least
  least_lt : 2 * least < int32Bound
  most_ge : -int32Bound ≤ 2 * most
  most_lt : 2 * most < int32Bound
  lowest : 2 * least = -int32Bound → most < least

namespace HalfNumber

/-! ### Order -/

/-- The number of halves, or an element above all. -/
def measure : HalfNumber → WithTop Int
  | halves count => count
  | infinity => ⊤

/-- Numbers of halves are ordered by what they measure. -/
theorem order_compares (a b : HalfNumber) : (a.order b).Compares a.measure b.measure := by
  cases a with
  | halves m =>
      cases b with
      | halves n =>
          have hcompares : (compare m n).Compares m n := (compare_iff m n).1 rfl
          exact WithTop.coe_strictMono.compares.2 hcompares
      | infinity => exact WithTop.coe_lt_top m
  | infinity =>
      cases b with
      | halves n => exact WithTop.coe_lt_top n
      | infinity => rfl

/-! ### Labels -/

/-- What is behind the digits of the whole part. -/
def fractionOf (count : Int) : List Char := if count % 2 = 0 then [] else ['.', '5']

theorem isFraction_fractionOf (count : Int) : IsFraction (fractionOf count) (count.natAbs % 2) := by
  rw [fractionOf]
  split
  · next heven =>
    have hhalf : count.natAbs % 2 = 0 := by omega
    rw [hhalf]
    exact .none
  · next hodd =>
    have hhalf : count.natAbs % 2 = 1 := by omega
    rw [hhalf]
    exact .half

/-- The digits of a magnitude display a number with its sign. -/
theorem displays_signed {sign : List Char} {negative : Bool} (hsign : IsSign sign negative) (count : Int)
    (hcount : signed negative count.natAbs = count) :
    Displays (String.ofList (sign ++ (Nat.toDigits 10 (count.natAbs / 2) ++ fractionOf count)))
      (halves count) := by
  have hdigits : ∀ c ∈ Nat.toDigits 10 (count.natAbs / 2), c.isDigit = true := fun c hc =>
    Nat.isDigit_of_mem_toDigits (by decide) (by decide) hc
  have hdisplays := Displays.decimal hsign Nat.toDigits_ne_nil hdigits (isFraction_fractionOf count)
  rwa [decimalValue_toDigits, Nat.div_add_mod, hcount] at hdisplays

/-- The plain decimal of a number of halves: a minus sign if it is negative, the whole part of its magnitude, and
`.5` if a half is left over. -/
def plainText (count : Int) : String :=
  (if count < 0 then "-" else "") ++ Nat.repr (count.natAbs / 2) ++ (if count % 2 = 0 then "" else ".5")

theorem plainText_eq (count : Int) :
    plainText count = String.ofList ((if count < 0 then ['-'] else []) ++
      (Nat.toDigits 10 (count.natAbs / 2) ++ fractionOf count)) := by
  rw [plainText, fractionOf, ← String.toList_inj]
  simp only [String.toList_append, Nat.toList_repr, String.toList_ofList, apply_ite String.toList,
    List.append_assoc]
  rfl

/-- A plain decimal displays its number. -/
theorem displays_plainText (count : Int) : Displays (plainText count) (halves count) := by
  rw [plainText_eq]
  split
  · next hneg =>
    have hcount : signed true count.natAbs = count := by
      rw [signed, if_pos rfl]
      omega
    exact displays_signed .minus count hcount
  · next hpos => exact displays_signed .none count (Int.natAbs_of_nonneg (Int.not_lt.1 hpos))

/-- A plain decimal without a sign may take a plus sign. -/
theorem displays_plus {count : Int} (hpos : 0 ≤ count) : Displays ("+" ++ plainText count) (halves count) := by
  have hplus := displays_signed .plus count (Int.natAbs_of_nonneg hpos)
  rw [plainText_eq, if_neg (Int.not_lt.2 hpos), List.nil_append]
  rwa [String.ofList_append] at hplus

/-- The magnitude of a number is a word if the number is one above the least. -/
theorem decimal?_eq_some {count : Int} (hlow : -int32Bound < count) (hhigh : count < int32Bound) :
    decimal? count = some (plainText count) := by
  have hmagnitude : magnitude? count = some count.natAbs := by
    rw [int32Bound] at hlow hhigh
    refine int32?_of_fits ?_ ?_ <;> rw [int32Bound] <;> omega
  rw [decimal?, hmagnitude]
  rfl

theorem decimal?_lowest : decimal? (-int32Bound) = none := rfl

/-- **The labels of a number display it.** -/
theorem displays_labelsOf {count : Int} {label : String} (h : label ∈ labelsOf (plainText count) count) :
    Displays label (halves count) := by
  rw [labelsOf] at h
  split at h
  · next hzero =>
    subst hzero
    simp only [List.mem_cons, List.not_mem_nil, or_false] at h
    obtain rfl | rfl | rfl := h
    · exact displays_plainText 0
    · exact displays_plus le_rfl
    · exact displays_signed .minus 0 rfl
  · split at h
    · next hpos =>
      obtain rfl | rfl := List.mem_pair.1 h
      · exact displays_plainText count
      · exact displays_plus hpos.1.le
    · rw [List.mem_singleton] at h
      exact h ▸ displays_plainText count

end HalfNumber

/-! ### Steps -/

theorem mem_halvesFrom {count : Int} (low : Int) (length : Nat) :
    count ∈ halvesFrom low length ↔ low ≤ count ∧ count < low + length := by
  induction length generalizing low with
  | zero =>
      simp only [halvesFrom, List.not_mem_nil, false_iff]
      omega
  | succ length ih =>
      rw [halvesFrom, List.mem_cons, ih (low + 1)]
      omega

/-- The labels of a number, each with the number beside it. -/
def stepsOf (count : Int) : List Step :=
  (labelsOf (HalfNumber.plainText count) count).map fun label => ⟨label, .halves count⟩

/-- Labels of all numbers between two bounds, from the least one up, and that of infinity. -/
def stepsBetween (least most : Int) : List Step :=
  (halvesFrom (2 * least) (2 * most + 1 - 2 * least).toNat).flatMap stepsOf ++
    [⟨HalfNumber.infinityLabel, .infinity⟩]

theorem steps?_eq_some {count : Int} (hlow : -int32Bound < count) (hhigh : count < int32Bound) :
    steps? count = some (stepsOf count) := by
  rw [steps?, HalfNumber.decimal?_eq_some hlow hhigh]
  rfl

/-- All numbers of a list have labels if the least word is none of them. -/
theorem mapM_steps? {counts : List Int} (h : ∀ count ∈ counts, -int32Bound < count ∧ count < int32Bound) :
    counts.mapM steps? = some (counts.map stepsOf) := by
  induction counts with
  | nil => rfl
  | cons count counts ih =>
      rw [List.forall_mem_cons] at h
      rw [List.mapM_cons, steps?_eq_some h.1.1 h.1.2, ih h.2]
      rfl

/-- A list with the least word in it has no labels. -/
theorem mapM_steps?_lowest {counts : List Int} (h : -int32Bound ∈ counts) : counts.mapM steps? = none := by
  induction counts with
  | nil => contradiction
  | cons count counts ih =>
      rw [List.mapM_cons]
      rcases List.mem_cons.1 h with rfl | h
      · rw [steps?, HalfNumber.decimal?_lowest]
        rfl
      · rw [ih h]
        cases steps? count <;> rfl

theorem CountsHalves.word_of_between {least most : Int} (h : CountsHalves least most) {count : Int}
    (hlow : 2 * least ≤ count) (hhigh : count ≤ 2 * most) : -int32Bound < count ∧ count < int32Bound := by
  obtain ⟨hleast, -, -, hmost, hlowest⟩ := h
  rw [int32Bound] at *
  omega

theorem ladder?_eq_some {least most : Int} (h : CountsHalves least most) :
    ladder? least most = some (stepsBetween least most) := by
  have hword : ∀ count ∈ halvesFrom (2 * least) (2 * most + 1 - 2 * least).toNat,
      -int32Bound < count ∧ count < int32Bound := by
    intro count hcount
    rw [mem_halvesFrom] at hcount
    exact h.word_of_between hcount.1 (by omega)
  rw [ladder?, int32?_of_fits h.least_ge h.least_lt, int32?_of_fits h.most_ge h.most_lt]
  simp only [Option.bind_eq_bind, Option.bind_some, mapM_steps? hword]
  rw [stepsBetween, List.flatMap_def]
  rfl

theorem countsHalves_of_ladder? {least most : Int} {steps : List Step} (h : ladder? least most = some steps) :
    CountsHalves least most := by
  simp only [ladder?, Option.bind_eq_bind, Option.bind_eq_some_iff, int32?_eq_some_iff] at h
  obtain ⟨_, ⟨⟨hleast, hleast'⟩, rfl⟩, _, ⟨⟨hmost, hmost'⟩, rfl⟩, steps', hsteps, -⟩ := h
  refine ⟨hleast, hleast', hmost, hmost', fun hlowest => Int.not_le.1 fun hle => ?_⟩
  have hmem : -int32Bound ∈ halvesFrom (2 * least) (2 * most + 1 - 2 * least).toNat := by
    rw [mem_halvesFrom]
    omega
  rw [mapM_steps?_lowest hmem] at hsteps
  contradiction

/-- **Bounds have a ladder** when the numbers between them have labels. -/
theorem ladder?_eq_some_iff {least most : Int} {steps : List Step} :
    ladder? least most = some steps ↔ CountsHalves least most ∧ steps = stepsBetween least most := by
  constructor
  · intro h
    have hcounts := countsHalves_of_ladder? h
    rw [ladder?_eq_some hcounts] at h
    exact ⟨hcounts, (Option.some.inj h).symm⟩
  · rintro ⟨hcounts, rfl⟩
    exact ladder?_eq_some hcounts

/-- Of the bounds whose doubles are words, those that lead through the least word have no ladder. -/
theorem ladder?_eq_none_iff {least most : Int} (hleast : -int32Bound ≤ 2 * least) (hleast' : 2 * least < int32Bound)
    (hmost : -int32Bound ≤ 2 * most) (hmost' : 2 * most < int32Bound) :
    ladder? least most = none ↔ 2 * least = -int32Bound ∧ least ≤ most := by
  rw [Option.eq_none_iff_forall_ne_some]
  simp only [Ne, ladder?_eq_some_iff, not_and']
  constructor
  · intro h
    by_contra hnot
    exact h _ rfl ⟨hleast, hleast', hmost, hmost', fun hlowest => Int.not_le.1 fun hle => hnot ⟨hlowest, hle⟩⟩
  · rintro ⟨hlowest, hle⟩ _ _ hcounts
    exact absurd hle (Int.not_le.2 (hcounts.lowest hlowest))

namespace HalfRange

variable {r : HalfRange} {step : Step}

/-- The bounds of a range have a ladder. -/
theorem counts (r : HalfRange) : CountsHalves r.least r.most := countsHalves_of_ladder? r.ladder_eq

/-- The ladder goes up in halves, and ends with infinity. -/
theorem ladder_eq_steps (r : HalfRange) : r.ladder = stepsBetween r.least r.most :=
  (ladder?_eq_some_iff.1 r.ladder_eq).2

theorem between?_eq_some_iff {least most : Int} {sentinels : List String} :
    between? least most sentinels = some r ↔ r.least = least ∧ r.most = most ∧ r.sentinels = sentinels := by
  constructor
  · intro h
    unfold between? at h
    split at h
    · cases h
      exact ⟨rfl, rfl, rfl⟩
    · contradiction
  · rintro ⟨rfl, rfl, rfl⟩
    unfold between?
    split
    · next ladder h =>
      obtain rfl : r.ladder = ladder := Option.some.inj (r.ladder_eq.symm.trans h)
      rfl
    · next h =>
      rw [r.ladder_eq] at h
      contradiction

/-- Bounds without a ladder have no range. -/
theorem between?_eq_none_iff {least most : Int} {sentinels : List String} :
    between? least most sentinels = none ↔ ladder? least most = none := by
  unfold between?
  split
  · next h => exact iff_of_false (Option.some_ne_none _) (Option.ne_none_iff_exists'.2 ⟨_, h⟩)
  · next h => exact iff_of_true rfl h

/-- The steps of a ladder. -/
theorem mem_ladder : step ∈ r.ladder ↔
    (∃ count, 2 * r.least ≤ count ∧ count ≤ 2 * r.most ∧
        step.label ∈ labelsOf (HalfNumber.plainText count) count ∧ step.value = .halves count) ∨
      step = ⟨HalfNumber.infinityLabel, .infinity⟩ := by
  rw [ladder_eq_steps]
  simp only [stepsBetween, List.mem_append, List.mem_singleton, List.mem_flatMap, stepsOf, List.mem_map,
    mem_halvesFrom]
  refine or_congr_left (exists_congr fun count => ?_)
  constructor
  · rintro ⟨hbounds, label, hlabel, rfl⟩
    exact ⟨hbounds.1, by omega, hlabel, rfl⟩
  · rintro ⟨hlow, hhigh, hlabel, hvalue⟩
    exact ⟨⟨hlow, by omega⟩, step.label, hlabel, hvalue ▸ rfl⟩

/-- The numbers of a ladder are words, and not the least one. -/
theorem value_of_mem_ladder (h : step ∈ r.ladder) {count : Int} (hvalue : step.value = .halves count) :
    -int32Bound < count ∧ count < int32Bound := by
  obtain ⟨n, hlow, hhigh, -, hn⟩ | rfl := mem_ladder.1 h
  · obtain rfl : n = count := HalfNumber.halves.inj (hn.symm.trans hvalue)
    exact r.counts.word_of_between hlow hhigh
  · contradiction

/-- **Every label displays the number that stands beside it.** -/
theorem displays_of_mem_ladder (h : step ∈ r.ladder) : HalfNumber.Displays step.label step.value := by
  obtain ⟨count, -, -, hlabel, hvalue⟩ | rfl := mem_ladder.1 h
  · rw [hvalue]
    exact HalfNumber.displays_labelsOf hlabel
  · exact .infinity

/-- **A label is read back as the number that stands beside it.** -/
theorem read?_of_mem_ladder (h : step ∈ r.ladder) : HalfNumber.read? step.label = some step.value := by
  refine (displays_of_mem_ladder h).read?_eq fun count hcount => ?_
  obtain ⟨hlow, hhigh⟩ := value_of_mem_ladder h hcount
  rw [int32Bound] at hlow hhigh
  change count.natAbs ≤ 9007199254740992
  omega

end HalfRange

end CardQuery
