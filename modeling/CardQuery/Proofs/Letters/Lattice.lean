/-
**Comparisons of sets of letters fit together.**

Inclusion of sets is strict inclusion or equality, and equality is inclusion both ways.  The conditions on a
set of letters are like this on every card, with one exception: a number that is written as a double equals
the letters that it denotes, and yet is no set of bits, so that no inclusion holds of it.

Main definitions:

* `Operator.IsLattice` — comparisons that fit together.

Main results:

* `Operator.relates_isLattice` — relations of sets fit together;
* `isLattice_maskCondition` — **the conditions of a mask fit together** on every card but that one;
* `Argument.letters_lattice` — so do the tokens that name the same letters.
-/

import CardQuery.Proofs.Filtering
import CardQuery.Proofs.Letters

set_option autoImplicit false

namespace CardQuery

open Unicode (trimmed)

/-- Comparisons with one value that fit together: an inclusion is the strict one or equality, and equality
is inclusion both ways. -/
structure Operator.IsLattice (holds : Operator → Prop) : Prop where
  atLeast_iff : holds .atLeast ↔ holds .greater ∨ holds .equals
  atMost_iff : holds .atMost ↔ holds .less ∨ holds .equals
  equals_iff : holds .equals ↔ holds .atLeast ∧ holds .atMost

namespace Operator

theorem IsLattice.congr {holds holds' : Operator → Prop} (h : ∀ op, holds op ↔ holds' op) :
    IsLattice holds ↔ IsLattice holds' := by
  have heq : holds = holds' := funext fun op => propext (h op)
  rw [heq]

/-- Relations of sets fit together. -/
theorem relates_isLattice (named stored : Nat) : IsLattice fun op => op.Relates named stored where
  atLeast_iff := by
    constructor
    · intro h
      by_cases heq : stored = named
      · exact .inr heq
      · exact .inl ⟨h, fun hplaces => heq (places_injective hplaces).symm⟩
    · rintro (h | rfl)
      · exact h.1
      · exact subset_rfl
  atMost_iff := by
    constructor
    · intro h
      by_cases heq : stored = named
      · exact .inr heq
      · exact .inl ⟨h, fun hplaces => heq (places_injective hplaces)⟩
    · rintro (h | rfl)
      · exact h.1
      · exact subset_rfl
  equals_iff := by
    constructor
    · rintro rfl
      exact ⟨subset_rfl, subset_rfl⟩
    · rintro ⟨hnamed, hstored⟩
      exact places_injective (subset_antisymm hstored hnamed)

/-- Where no inclusion holds, the comparisons fit together just if equality fails as well. -/
theorem isLattice_iff_not_equals {holds : Operator → Prop} (hgreater : ¬holds .greater)
    (hless : ¬holds .less) (hatLeast : ¬holds .atLeast) (hatMost : ¬holds .atMost) :
    IsLattice holds ↔ ¬holds .equals := by
  constructor
  · intro h hequals
    exact hatLeast (h.equals_iff.1 hequals).1
  · intro hequals
    constructor <;> simp only [hgreater, hless, hatLeast, hatMost, hequals, or_self, and_self]

end Operator

open Operator (IsLattice)

section Conditions

variable {card : Json} {key : String} {mask bits : Nat}

/-- Equality is decided by the number, however it is written. -/
theorem holds_exactly_number {n : Json.Number} {s : Int} (hn : n.Denotes s)
    (hstored : card.stored? (Json.pathOf key) = some (.number n)) (hmask : mask ≤ twoTo Double.precision) :
    (exactly key mask).holds card = true ↔ s = mask := by
  rw [← hn.meets_equal_iff (i := mask) hmask]
  simp only [exactly, Predicate.holds, Predicate.storedTest, hstored]

/-- Where the card stores no set of bits, the conditions of a mask fit together just if its letters are
not the stored ones. -/
theorem isLattice_maskCondition_of_no_bits (hcard : card.bitsAt? (Json.pathOf key) = none) (full : Nat) :
    (IsLattice fun op => (maskCondition key full mask op).holds card = true) ↔
      ¬(exactly key mask).holds card = true := by
  have hinclusion (op : Operator) (hop : ¬(op = .equals ∨ op = .has ∧ mask = 0)) :
      ¬(maskCondition key full mask op).holds card = true := by
    rw [holds_maskCondition_of_no_bits hcard]
    exact fun h => hop h.1
  exact Operator.isLattice_iff_not_equals (hinclusion .greater (by simp))
    (hinclusion .less (by simp)) (hinclusion .atLeast (by simp)) (hinclusion .atMost (by simp))

/-- **The conditions of a mask fit together** on a card unless it stores the letters of the mask as a
double. -/
theorem isLattice_maskCondition (hbits : bits ≤ Alphabet.mostLetters) (hmask : mask < 2 ^ bits)
    (hcard : ∀ n, card.stored? (Json.pathOf key) = some (.number n) → ∃ s : Nat, s < 2 ^ bits ∧ n.Denotes s) :
    (IsLattice fun op => (maskCondition key (2 ^ bits - 1) mask op).holds card = true) ↔
      ∀ x, card.stored? (Json.pathOf key) = some (.number (.double x)) →
        ¬(Json.Number.double x).Denotes mask := by
  have hpow : 2 ^ bits ≤ 2 ^ 16 := Nat.pow_le_pow_right (by decide) hbits
  by_cases hnumber : ∃ n, card.stored? (Json.pathOf key) = some (.number n)
  · obtain ⟨n, hstored⟩ := hnumber
    obtain ⟨s, hs, hn⟩ := hcard n hstored
    cases n with
    | integer i =>
        have hlattice : IsLattice fun op =>
            (maskCondition key (2 ^ bits - 1) mask op).holds card = true := by
          obtain ⟨⟩ := hn
          have hfits : fitsInt64 (s : Int) = true := fitsInt64_of_lt (by rw [int64Bound]; omega)
          rw [IsLattice.congr fun op => holds_maskCondition hstored hfits hs op mask]
          exact Operator.relates_isLattice mask s
        refine iff_of_true hlattice fun x hx => ?_
        rw [hstored] at hx
        cases hx
    | double x =>
        -- a double is compared, but it is no set of bits
        have hnone : card.bitsAt? (Json.pathOf key) = none := by
          simp only [Json.bitsAt?, hstored, Json.Number.nat64?]
        have hmask : mask ≤ twoTo Double.precision := by
          change mask ≤ 2 ^ 53
          omega
        have hexactly : (exactly key mask).holds card = true ↔ (Json.Number.double x).Denotes mask := by
          rw [holds_exactly_number hn hstored hmask]
          exact hn.eq_iff
        rw [isLattice_maskCondition_of_no_bits hnone, hexactly, hstored]
        constructor
        · rintro hnot _ ⟨⟩
          exact hnot
        · exact fun h => h x rfl
  · have hstored : ∀ n, card.stored? (Json.pathOf key) ≠ some (.number n) := not_exists.1 hnumber
    have hfalse (op : Operator) : ¬(maskCondition key (2 ^ bits - 1) mask op).holds card = true := by
      rw [not_holds_maskCondition hstored]
      exact Bool.false_ne_true
    refine iff_of_true ?_ fun x hx => absurd hx (hstored _)
    exact (Operator.isLattice_iff_not_equals (hfalse _) (hfalse _) (hfalse _) (hfalse _)).2 (hfalse _)

end Conditions

/-! ### Tokens -/

/-- **The tokens that name the same letters fit together** on a card whose number, if it stores one, denotes
a set of letters of the alphabet, unless it denotes the named letters and is written as a double. -/
theorem Argument.letters_lattice {d : CommandDraft} {c : Command} (hbuild : d.build = .ok c)
    {alphabet : Alphabet} (hkind : c.kind = .bitset alphabet) {a : Argument} (hcommand : a.command = c)
    {raw : String} {named : Nat} (hread : alphabet.read raw = .ok (.mask named)) :
    ∃ test : Operator → Json → Bool, (∀ op, ∃ p, (a.asking op raw).FiltersBy p (test op)) ∧
      ∀ card : Json,
        (∀ n, card.stored? (Json.pathOf a.key) = some (.number n) →
          ∃ s : Nat, s ≤ alphabet.fullMask ∧ n.Denotes s) →
        ((IsLattice fun op => test op card = true) ↔
          ∀ x, card.stored? (Json.pathOf a.key) = some (.number (.double x)) →
            ¬(Json.Number.double x).Denotes named) := by
  subst hcommand
  have hletters : alphabet.letters.length ≤ Alphabet.mostLetters :=
    (CommandDraft.isSound_of_build hbuild).letters alphabet hkind
  refine ⟨fun op => (maskCondition a.key alphabet.fullMask named op).holds, fun op => ?_, fun card hcard => ?_⟩
  · refine ⟨_, filtersBy_bitset hkind rfl ?_⟩
    rw [Binding.bitsetCondition, Alphabet.read_trimmed, hread]
    rfl
  · rw [Alphabet.fullMask_eq hletters]
    refine isLattice_maskCondition hletters (Alphabet.mask_lt_of_read hread) fun n hn => ?_
    obtain ⟨s, hs, hdenotes⟩ := hcard n hn
    have hlt : s < 2 ^ alphabet.letters.length := by
      rw [← Alphabet.fullMask_succ hletters]
      exact Nat.lt_succ_of_le hs
    exact ⟨s, hlt, hdenotes⟩

/-- White is compared consistently on a card that stores the integer one, but not on a card that stores
the double. -/
theorem Argument.letters_lattice_white :
    let c : Command :=
      ⟨"color", "color", [], Operator.all, [.negation], none, false, [], .bitset (.ofText "wubrg"), none⟩
    let a : Argument := ⟨⟨c, none, .text "w", .has, []⟩, none, []⟩
    let card (n : Json.Number) := Json.object [("color", .number n)]
    let one := Double.ofInt 1
    (CommandDraft.bitset "color" "wubrg").build = .ok c ∧
      (Alphabet.ofText "wubrg").read "w" = .ok (.mask 1) ∧
      (Json.Number.integer 1).Denotes 1 ∧ (Json.Number.double one).Denotes 1 ∧
      ∃ test : Operator → Json → Bool, (∀ op, ∃ p, (a.asking op "w").FiltersBy p (test op)) ∧
        (IsLattice fun op => test op (card (.integer 1)) = true) ∧
        ¬(IsLattice fun op => test op (card (.double one)) = true) := by
  intro c a card one
  have hbuild : (CommandDraft.bitset "color" "wubrg").build = .ok c := rfl
  have hread : (Alphabet.ofText "wubrg").read "w" = .ok (.mask 1) := by decide +kernel
  have hpath : Json.pathOf a.key = ["color"] := by decide +kernel
  have hfull : 1 ≤ (Alphabet.ofText "wubrg").fullMask := by decide +kernel
  have hinteger : (Json.Number.integer 1).Denotes 1 := .integer (.inl (by decide))
  have hdouble : (Json.Number.double one).Denotes 1 := .double (Double.signedUnits_ofInt (by decide +kernel))
  have hstored (n : Json.Number) : (card n).stored? (Json.pathOf a.key) = some (.number n) := by
    rw [hpath]
    rfl
  obtain ⟨test, hfilters, hlattice⟩ := letters_lattice (a := a) hbuild rfl rfl hread
  refine ⟨hbuild, hread, hinteger, hdouble, test, hfilters, ?_, ?_⟩
  · refine (hlattice _ fun n hn => ?_).2 fun x hx => ?_
    · rw [hstored] at hn
      cases hn
      exact ⟨1, hfull, hinteger⟩
    · rw [hstored] at hx
      cases hx
  · rw [hlattice _ fun n hn => ?_]
    · exact fun h => h one (hstored _) hdouble
    · rw [hstored] at hn
      cases hn
      exact ⟨1, hfull, hdouble⟩

end CardQuery
