/-
**Queries for letters are relations of sets.**

A number stands for the set of the places of its ones, so that the bits of a mask are the letters that a
value names, and those of a stored number are the letters of the card.  Every operator of a bitset command
asks for a relation between these two sets.

Main definitions:

* `places` — the set that a number stands for;
* `Operator.Relates` — the relation that an operator asks for.

Main results:

* `places_subset_iff`, `places_subset_iff_clear` — inclusion by the bits of a mask and of its complement;
* `holds_maskCondition` — **the condition of a mask** on a card that stores a set of letters;
* `Argument.letters_relate` — **what a token that names letters asks for**.
-/

import CardQuery.Proofs.Meaning
import CardQuery.Proofs.Number.Whole
import CardQuery.Proofs.Search.Contents
import CardQuery.Proofs.Search.Patterns
import CardQuery.Proofs.Unicode.Blank
import Mathlib.Data.Set.Basic

set_option autoImplicit false

namespace CardQuery

open Unicode (trimmed trimmed_trimmed)

/-! ### Numbers as sets -/

/-- The places of the ones of a number. -/
def places (bits : Nat) : Set Nat := {i | bits.testBit i = true}

theorem mem_places {i bits : Nat} : i ∈ places bits ↔ bits.testBit i = true := Iff.rfl

theorem places_injective : Function.Injective places := fun _ _ h =>
  Nat.eq_of_testBit_eq fun i => Bool.eq_iff_iff.2 (Set.ext_iff.1 h i)

/-- A set is included when all of its bits are set. -/
theorem places_subset_iff (mask bits : Nat) : places mask ⊆ places bits ↔ bits &&& mask = mask := by
  constructor
  · intro h
    refine Nat.eq_of_testBit_eq fun i => ?_
    rw [Nat.testBit_and]
    cases hmask : mask.testBit i with
    | false => rw [Bool.and_false]
    | true => rw [mem_places.1 (h hmask), Bool.and_true]
  · intro h i hi
    rw [mem_places, ← h, Nat.testBit_and, Bool.and_eq_true] at hi
    exact hi.1

/-- A set is included when no bit of the complement is set, which is taken among all letters. -/
theorem places_subset_iff_clear {n bits : Nat} (hbits : bits < 2 ^ n) (mask : Nat) :
    places bits ⊆ places mask ↔
      bits &&& ((2 ^ n - 1) ^^^ ((2 ^ n - 1) &&& mask)) = 0 := by
  constructor
  · intro h
    refine Nat.eq_of_testBit_eq fun i => ?_
    cases hi : bits.testBit i with
    | false => simp [hi]
    | true =>
        have hmask : mask.testBit i = true := h hi
        simp [hi, hmask]
  · intro h i hi
    have hbit : bits.testBit i = true := hi
    have hlt : i < n := lt_of_testBit hbits hbit
    have hclear := congrArg (fun bits => bits.testBit i) h
    simpa [hbit, hlt, mem_places] using hclear

/-- The relation between the letters that are named and those that are stored. -/
def Operator.Relates (op : Operator) (named stored : Nat) : Prop :=
  match op with
  | equals => stored = named
  -- to have no letters is to have none
  | has => if named = 0 then stored = 0 else places named ⊆ places stored
  | atLeast => places named ⊆ places stored
  | greater => places named ⊆ places stored ∧ places named ≠ places stored
  | atMost => places stored ⊆ places named
  | less => places stored ⊆ places named ∧ places stored ≠ places named

/-! ### Conditions -/

section Conditions

variable {card : Json} {key : String} {stored : Nat}

theorem holds_exactly (hstored : card.stored? (Json.pathOf key) = some (.ofNat stored))
    (hfits : fitsInt64 stored = true) (mask : Nat) :
    (exactly key mask).holds card = true ↔ stored = mask := by
  have hint : (Json.Number.integer stored).int64? = some (stored : Int) := by
    rw [Json.Number.int64?, if_pos hfits]
  rw [← Int.natCast_inj, ← Json.Number.meets_equal_of_int64 hint]
  simp only [exactly, Predicate.holds, Predicate.storedTest, hstored, Json.ofNat]

theorem holds_supersetOf (hstored : card.stored? (Json.pathOf key) = some (.ofNat stored))
    (hfits : fitsInt64 stored = true) (mask : Nat) :
    (supersetOf key mask).holds card = true ↔ places mask ⊆ places stored := by
  rw [supersetOf, Predicate.holds, Content.bitsTest_some hfits hstored, beq_iff_eq,
    places_subset_iff]

theorem holds_subsetOf (hstored : card.stored? (Json.pathOf key) = some (.ofNat stored))
    (hfits : fitsInt64 stored = true) {n : Nat} (hn : stored < 2 ^ n) (mask : Nat) :
    (subsetOf key (2 ^ n - 1) mask).holds card = true ↔ places stored ⊆ places mask := by
  rw [subsetOf, Predicate.holds, Content.bitsTest_some hfits hstored, beq_iff_eq,
    places_subset_iff_clear hn]

/-- **The condition of a mask** on a card that stores a set of letters. -/
theorem holds_maskCondition (hstored : card.stored? (Json.pathOf key) = some (.ofNat stored))
    (hfits : fitsInt64 stored = true) {n : Nat} (hn : stored < 2 ^ n) (op : Operator) (mask : Nat) :
    (maskCondition key (2 ^ n - 1) mask op).holds card = true ↔ op.Relates mask stored := by
  have hexactly := holds_exactly hstored hfits
  have hsuperset := holds_supersetOf hstored hfits mask
  have hsubset := holds_subsetOf hstored hfits hn mask
  have hstrict {p : Predicate} :
      (Predicate.conjunction [p, (exactly key mask).negate]).holds card = true ↔
        p.holds card = true ∧ stored ≠ mask := by
    simp [← hexactly mask]
  cases op with
  | equals => exact hexactly mask
  | has =>
      rw [maskCondition, Operator.Relates]
      split
      · exact hexactly 0
      · exact hsuperset
  | atLeast => exact hsuperset
  | greater =>
      rw [maskCondition, Operator.Relates, hstrict, hsuperset, places_injective.ne_iff, ne_comm]
  | atMost => exact hsubset
  | less =>
      rw [maskCondition, Operator.Relates, hstrict, hsubset, places_injective.ne_iff]

/-- On a card that stores no set of bits only equality may hold. -/
theorem holds_maskCondition_of_no_bits (hcard : card.bitsAt? (Json.pathOf key) = none)
    (full mask : Nat) (op : Operator) :
    (maskCondition key full mask op).holds card = true ↔
      (op = .equals ∨ op = .has ∧ mask = 0) ∧ (exactly key mask).holds card = true := by
  have hbits (passes : Nat → Bool) : Predicate.bitsTest key passes card = false := by
    simp only [Predicate.bitsTest, hcard]
  have hsuperset : (supersetOf key mask).holds card = false := by
    rw [supersetOf, Predicate.holds, hbits]
  have hsubset : (subsetOf key full mask).holds card = false := by
    rw [subsetOf, Predicate.holds, hbits]
  cases op with
  | equals => simp [maskCondition]
  | has =>
      rw [maskCondition]
      split
      · next hmask => simp [hmask]
      · next hmask => simp [hmask, hsuperset]
  | atLeast => simp [maskCondition, hsuperset]
  | greater => simp [maskCondition, hsuperset]
  | atMost => simp [maskCondition, hsubset]
  | less => simp [maskCondition, hsubset]

/-- A card that stores no number does not meet the condition of a mask. -/
theorem not_holds_maskCondition (hcard : ∀ n, card.stored? (Json.pathOf key) ≠ some (.number n))
    (full mask : Nat) (op : Operator) : (maskCondition key full mask op).holds card = false := by
  have hbits : card.bitsAt? (Json.pathOf key) = none := by
    unfold Json.bitsAt?
    split
    · next n hn => exact absurd hn (hcard n)
    · rfl
  have hexactly : (exactly key mask).holds card = false := by
    cases hj : card.stored? (Json.pathOf key) with
    | none => simp only [exactly, Predicate.holds, Predicate.storedTest, hj]
    | some j =>
        cases j with
        | number n => exact absurd hj (hcard n)
        | _ =>
            simp only [exactly, Predicate.holds, Predicate.storedTest, hj, Scalar.meets, Scalar.order?]
  rw [Bool.eq_false_iff, Ne, holds_maskCondition_of_no_bits hbits, hexactly]
  simp

end Conditions

/-! ### Tokens -/

/-- **What a token that names letters asks for.**  It has a test, which for a card that stores letters of
the alphabet tells whether the named and the stored letters are in the relation of the operator, and which
no card meets that stores no number. -/
theorem Argument.letters_relate {d : CommandDraft} {c : Command} (hbuild : d.build = .ok c)
    {alphabet : Alphabet} (hkind : c.kind = .bitset alphabet) {a : Argument} (hcommand : a.command = c)
    {raw : String} (hraw : a.operand = .text raw) {named : Nat}
    (hread : alphabet.read raw = .ok (.mask named)) :
    ∃ p test, a.meaning = .ok (.filter (if a.isNegated then p.negate else p)) ∧
      p.test? = .ok test ∧
      (∀ (card : Json) (stored : Nat), card.stored? (Json.pathOf a.key) = some (.ofNat stored) →
        stored ≤ alphabet.fullMask → (test card = true ↔ a.operator.Relates named stored)) ∧
      ∀ card : Json, (∀ n, card.stored? (Json.pathOf a.key) ≠ some (.number n)) →
        test card = false := by
  subst hcommand
  have hletters : alphabet.letters.length ≤ 16 :=
    (CommandDraft.isSound_of_build hbuild).letters alphabet hkind
  let p := maskCondition a.key alphabet.fullMask named a.operator
  have hcondition : a.condition = .ok p := by
    have hread : alphabet.read (trimmed raw) = .ok (.mask named) := by
      rw [Alphabet.read, trimmed_trimmed]
      exact hread
    rw [condition_of_simple (by rw [hkind]; rfl), Binding.condition, hkind]
    simp only [Binding.literal, hraw]
    change a.bitsetCondition alphabet (trimmed raw) = .ok p
    rw [Binding.bitsetCondition, hread]
  have hmeaning : a.meaning = .ok (.filter (if a.isNegated then p.negate else p)) := by
    have horder : ¬ a.command.IsOrder := by
      rintro ⟨keys, hkeys⟩
      rw [hkind] at hkeys
      contradiction
    rw [meaning_of_not_isOrder horder, hcondition]
    rfl
  have htest : p.test? = .ok p.holds :=
    Predicate.test?_eq_ok_iff.2 ⟨by simp [p, Binding.patterns_maskCondition], rfl⟩
  refine ⟨p, p.holds, hmeaning, htest, fun card stored hstored hle => ?_, fun card hcard => ?_⟩
  · have hfull : alphabet.fullMask = 2 ^ alphabet.letters.length - 1 := Alphabet.fullMask_eq hletters
    have hlt : stored < 2 ^ alphabet.letters.length := by
      have hpos := Nat.two_pow_pos alphabet.letters.length
      omega
    have hbound : 2 ^ alphabet.letters.length ≤ 2 ^ 16 := Nat.pow_le_pow_right (by decide) hletters
    have hfits : fitsInt64 stored = true := fitsInt64_of_lt (by rw [int64Bound]; omega)
    rw [← holds_maskCondition hstored hfits hlt, ← hfull]
  · exact not_holds_maskCondition hcard _ _ _

/-- A card that is only white has less colors than white and blue, a card that is both has not, nor has one
without colors. -/
theorem Argument.letters_relate_white_and_blue :
    let c : Command :=
      ⟨"color", "color", [], Operator.all, [.negation], none, false, [], .bitset (.ofText "wubrg"), none⟩
    let a : Argument := ⟨⟨c, none, .text " UW", .less, []⟩, none, []⟩
    let card (colors : Nat) := Json.object [("color", .ofNat colors)]
    (CommandDraft.bitset "color" "wubrg").build = .ok c ∧
      (Alphabet.ofText "wubrg").read " UW" = .ok (.mask 3) ∧
      ∃ p test, a.meaning = .ok (.filter p) ∧ p.test? = .ok test ∧
        test (card 1) = true ∧ test (card 3) = false ∧ test (.object []) = false := by
  intro c a card
  have hbuild : (CommandDraft.bitset "color" "wubrg").build = .ok c := rfl
  have hread : (Alphabet.ofText "wubrg").read " UW" = .ok (.mask 3) := by decide +kernel
  have hpath : Json.pathOf a.key = ["color"] := by decide +kernel
  have hfull : 3 ≤ (Alphabet.ofText "wubrg").fullMask := by decide +kernel
  have hstored (colors : Nat) : (card colors).stored? (Json.pathOf a.key) = some (.ofNat colors) := by
    rw [hpath]
    rfl
  obtain ⟨p, test, hmeaning, htest, hletters, hnumber⟩ :=
    letters_relate (a := a) hbuild rfl rfl rfl hread
  refine ⟨hbuild, hread, p, test, hmeaning, htest, ?_, ?_, ?_⟩
  · rw [hletters _ 1 (hstored 1) (by omega)]
    exact ⟨(places_subset_iff 1 3).2 (by decide), places_injective.ne (by decide)⟩
  · rw [Bool.eq_false_iff, Ne, hletters _ 3 (hstored 3) hfull]
    exact fun h => h.2 rfl
  · refine hnumber _ fun n => ?_
    rw [hpath]
    nofun

end CardQuery
