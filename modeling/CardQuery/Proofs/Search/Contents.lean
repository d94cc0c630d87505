/-
**What the conditions of tokens ask for.**

Numbers, sets of letters and labels are read from values of queries, and the conditions that they make
ask for the same sort of content everywhere: whole numbers where a number was read, masks of the alphabet
where letters were, and labels of the ladder.

Main definitions:

* `Binding.content?` — what the key of a binding is supposed to hold;
* `Argument.readings` — the bindings that are read for a token;
* `Content.AllAsked` — every leaf of a predicate asks for something that the key can hold.

Main results:

* `Alphabet.mask_lt_of_read` — masks have no more bits than the alphabet has letters;
* `Binding.allAsked_condition` — **the condition of a binding** asks for the content of its key;
* `Argument.oneAsks_meaning` — every leaf of what a token means belongs to one of its bindings.
-/

import CardQuery.Proofs.Meaning
import CardQuery.Proofs.Model
import CardQuery.Proofs.Predicate.Agreement

set_option autoImplicit false

namespace CardQuery

/-- What the key of a binding is supposed to hold, as far as its command says so: number commands with
a whole number of 64 bits, bitset commands and half-number commands. -/
def Binding.content? (b : Binding) : Option Content :=
  match b.command.kind, b.operand with
  | .number _, .text s =>
    if (readInt64? (Unicode.trimmed s).toList).isSome then some .number else none
  | .bitset _, _ => some .letters
  | .halfNumber _, _ => some .label
  | _, _ => none

/-- Every leaf asks for something that the key can hold. -/
def Content.AllAsked (c : Content) (key : String) (p : Predicate) : Prop :=
  ∀ q ∈ p.leaves, c.Asks key q

namespace Content

open Predicate

variable {c : Content} {key : String}

theorem AllAsked.leaf {p : Predicate} (h : c.Asks key p) : c.AllAsked key p := by
  intro q hq
  have hp : p.leaves = [p] := by cases h <;> rfl
  rw [hp, List.mem_singleton] at hq
  rwa [hq]

theorem AllAsked.negate {p : Predicate} (h : c.AllAsked key p) : c.AllAsked key p.negate := by
  rwa [AllAsked, leaves_negate]

theorem AllAsked.conjunction {ps : List Predicate} (h : ∀ p ∈ ps, c.AllAsked key p) :
    c.AllAsked key (Predicate.conjunction ps) := by
  rw [AllAsked, leaves_conjunction, List.forall_mem_flatMap]
  exact h

/-- The conjunction of two predicates. -/
theorem AllAsked.both {p p' : Predicate} (h : c.AllAsked key p) (h' : c.AllAsked key p') :
    c.AllAsked key (Predicate.conjunction [p, p']) := by
  refine .conjunction fun q hq => ?_
  rcases List.mem_pair.1 hq with rfl | rfl
  · exact h
  · exact h'

end Content

/-! ### Sets of letters -/

/-- Among so many letters no bit stands for a further one. -/
theorem lt_of_testBit {n bits i : Nat} (hbits : bits < 2 ^ n) (h : bits.testBit i = true) : i < n := by
  have hpow : 2 ^ i < 2 ^ n := Nat.lt_of_le_of_lt (Nat.ge_two_pow_of_testBit h) hbits
  exact (Nat.pow_lt_pow_iff_right (by decide : 1 < 2)).1 hpow

/-- A mask has a bit for each letter of the alphabet at most. -/
theorem Alphabet.mask_lt {a : Alphabet} {s : List Char} {mask : Nat} (h : a.mask s = .ok mask) :
    mask < 2 ^ a.letters.length := by
  induction s generalizing mask with
  | nil =>
      cases h
      exact Nat.two_pow_pos _
  | cons c s ih =>
      rw [Alphabet.mask] at h
      split at h
      · contradiction
      · next i hi =>
        obtain ⟨bits, hbits, rfl⟩ := map_eq_ok_iff.1 h
        have hlt : i < a.letters.length := (List.findIdx?_eq_some_iff_getElem.1 hi).1
        exact Nat.or_lt_two_pow (Nat.pow_lt_pow_right (by decide) hlt) (ih hbits)

/-- The set of all letters has a bit for each of them. -/
theorem Alphabet.fullMask_eq {a : Alphabet} (ha : a.letters.length ≤ mostLetters) :
    a.fullMask = 2 ^ a.letters.length - 1 := by
  rw [mostLetters] at ha
  rw [fullMask, Nat.min_eq_left (by omega)]
  rfl

theorem Alphabet.fullMask_succ {a : Alphabet} (ha : a.letters.length ≤ mostLetters) :
    a.fullMask + 1 = 2 ^ a.letters.length := by
  rw [fullMask_eq ha]
  exact Nat.sub_add_cancel (Nat.two_pow_pos _)

theorem Alphabet.fullMask_lt (a : Alphabet) : a.fullMask < 2 ^ 64 := by
  have hle : 2 ^ min a.letters.length 64 ≤ 2 ^ 64 :=
    Nat.pow_le_pow_right (by decide) (Nat.min_le_right _ _)
  have hpos : 0 < twoTo (min a.letters.length 64) := twoTo_pos _
  have heq : twoTo (min a.letters.length 64) = 2 ^ min a.letters.length 64 := rfl
  rw [fullMask]
  omega

theorem Alphabet.mask_lt_of_read {a : Alphabet} {raw : String} {mask : Nat}
    (h : a.read raw = .ok (.mask mask)) : mask < 2 ^ a.letters.length := by
  unfold read at h
  simp only at h
  split at h
  · obtain ⟨bits, hbits, heq⟩ := map_eq_ok_iff.1 h
    cases heq
    exact mask_lt hbits
  · split at h
    · contradiction
    · split at h
      · unfold readCount at h
        split at h <;> cases h
      · obtain ⟨bits, hbits, heq⟩ := map_eq_ok_iff.1 h
        cases heq
        exact mask_lt hbits

namespace Content

variable {key : String}

theorem allAsked_subsetOf {full mask : Nat} (hfull : full < 2 ^ 64) :
    letters.AllAsked key (subsetOf key full mask) := by
  have hand : full &&& mask < 2 ^ 64 := Nat.lt_of_le_of_lt Nat.and_le_left hfull
  exact .leaf (.allClear (Nat.xor_lt_two_pow hfull hand))

theorem allAsked_maskCondition {full mask : Nat} (hfull : full < 2 ^ 64) (hmask : mask < 2 ^ 64)
    (op : Operator) : letters.AllAsked key (maskCondition key full mask op) := by
  have hexactly (m : Nat) : letters.AllAsked key (exactly key m) := .leaf (.exactly m)
  have hsuperset : letters.AllAsked key (supersetOf key mask) := .leaf (.allSet hmask)
  cases op with
  | has =>
      rw [maskCondition]
      split
      · exact hexactly 0
      · exact hsuperset
  | equals => exact hexactly mask
  | less => exact (allAsked_subsetOf hfull).both (hexactly mask).negate
  | atMost => exact allAsked_subsetOf hfull
  | greater => exact hsuperset.both (hexactly mask).negate
  | atLeast => exact hsuperset

theorem allAsked_countCondition (full count : Nat) (op : Operator) :
    letters.AllAsked key (countCondition key full count op) := by
  let masks := (List.range (full + 1)).filter fun mask =>
    op.comparison.holds (Ord.compare (bitCount mask) count)
  have hmasks : letters.Asks key (.inList key ((masks.map Int.ofNat).map .integer)) := .masks _
  rw [List.map_map] at hmasks
  exact .leaf hmasks

theorem allAsked_bitsetCondition {b : Binding} {alphabet : Alphabet} {raw : String} {p : Predicate}
    (ha : alphabet.letters.length ≤ Alphabet.mostLetters)
    (h : b.bitsetCondition alphabet raw = .ok p) : letters.AllAsked b.key p := by
  unfold Binding.bitsetCondition at h
  split at h
  · contradiction
  · next mask hmask =>
    cases h
    have hmost : alphabet.letters.length ≤ 64 := Nat.le_trans ha (by decide)
    have hlt : mask < 2 ^ 64 :=
      Nat.lt_of_lt_of_le (Alphabet.mask_lt_of_read hmask) (Nat.pow_le_pow_right (by decide) hmost)
    exact allAsked_maskCondition alphabet.fullMask_lt hlt b.operator
  · cases h
    exact allAsked_countCondition _ _ _

/-! ### Numbers and labels -/

theorem allAsked_numberCondition {b : Binding} {allowReal : Bool} {raw : String} {p : Predicate}
    (hraw : (readInt64? raw.toList).isSome = true) (h : b.numberCondition allowReal raw = .ok p) :
    number.AllAsked b.key p := by
  obtain ⟨i, hi⟩ := Option.isSome_iff_exists.1 hraw
  simp only [Binding.numberCondition, readScalar?, hi] at h
  cases h
  exact .leaf (.compare _ i)

theorem allAsked_oneOf (texts : List String) : label.AllAsked key (oneOf key texts) :=
  .leaf (.labels texts)

theorem allAsked_halfNumberCondition {b : Binding} {range : HalfRange} {raw : String} {p : Predicate}
    (h : b.halfNumberCondition range raw = .ok p) : label.AllAsked b.key p := by
  obtain ⟨labels, rfl⟩ | rfl := Binding.halfNumberCondition_cases h
  · exact allAsked_oneOf labels
  · exact (AllAsked.leaf .present).both (allAsked_oneOf _).negate

end Content

/-! ### Tokens -/

theorem Binding.literal_eq_ok {b : Binding} {raw : String} (h : b.literal = .ok raw) :
    ∃ s, b.operand = .text s ∧ raw = Unicode.trimmed s := by
  unfold literal at h
  split at h
  · next s hs =>
    cases h
    exact ⟨s, hs, rfl⟩
  · contradiction

/-- **The condition of a binding** asks for the content of its key. -/
theorem Binding.allAsked_condition {b : Binding} (hb : b.IsSound) {c : Content}
    (hc : b.content? = some c) {p : Predicate} (h : b.condition = .ok p) : c.AllAsked b.key p := by
  unfold content? at hc
  unfold condition at h
  split at hc
  · next allowReal s hkind hs =>
    rw [hkind] at h
    obtain ⟨raw, hraw, h⟩ := bind_eq_ok_iff.1 h
    obtain ⟨s', hs', rfl⟩ := literal_eq_ok hraw
    rw [hs] at hs'
    cases hs'
    split at hc
    · next hread =>
      cases hc
      exact Content.allAsked_numberCondition hread h
    · cases hc
  · next _ alphabet hkind =>
    rw [hkind] at h
    obtain ⟨raw, -, h⟩ := bind_eq_ok_iff.1 h
    cases hc
    exact Content.allAsked_bitsetCondition (hb.command.letters alphabet hkind) h
  · next _ range hkind =>
    rw [hkind] at h
    obtain ⟨raw, -, h⟩ := bind_eq_ok_iff.1 h
    cases hc
    exact Content.allAsked_halfNumberCondition h
  · cases hc

/-- The bindings that are read for a token: those of its parts if its value is composite, or its own. -/
def Argument.readings (a : Argument) : List Binding :=
  match a.command.kind with
  | .composite _ => a.parts
  | _ => [a.toBinding]

/-- The condition of a token is made from those of the bindings that are read for it. -/
theorem Argument.condition_eq (a : Argument) :
    (a.readings = a.parts ∧
        a.condition = (a.parts.mapM Binding.condition).map Predicate.conjunction) ∨
      (a.readings = [a.toBinding] ∧ a.condition = a.toBinding.condition) := by
  unfold readings condition
  cases a.command.kind with
  | composite templates => exact .inl ⟨rfl, rfl⟩
  | _ => exact .inr ⟨rfl, rfl⟩

/-- A leaf that belongs to one of some bindings and asks for the content of its key. -/
def Binding.OneAsks (bs : List Binding) (q : Predicate) : Prop :=
  ∃ b ∈ bs, b.IsSound ∧ ∃ c, b.content? = some c ∧ c.Asks b.key q

/-- **Every leaf of what a token means** belongs to one of the bindings that are read for it, and asks for
the content of its key. -/
theorem Argument.oneAsks_meaning {m : Model} (hm : m.Built) {t : Token} {a : Argument}
    (ha : m.resolve t = .ok a) (hcontent : ∀ b ∈ a.readings, b.content?.isSome = true) {p : Predicate}
    (hp : a.meaning = .ok (.filter p)) : ∀ q ∈ p.leaves, Binding.OneAsks a.readings q := by
  obtain ⟨hwhole, hparts⟩ := hm.binding_isSound ha
  have hbinding {b : Binding} (hb : b.IsSound) (hmem : b ∈ a.readings) {p : Predicate}
      (hp : b.condition = .ok p) : ∀ q ∈ p.leaves, Binding.OneAsks a.readings q := by
    obtain ⟨c, hc⟩ := Option.isSome_iff_exists.1 (hcontent b hmem)
    intro q hq
    exact ⟨b, hmem, hb, c, hc, b.allAsked_condition hb hc hp q hq⟩
  have hcondition {p : Predicate} (hp : a.condition = .ok p) :
      ∀ q ∈ p.leaves, Binding.OneAsks a.readings q := by
    rcases a.condition_eq with ⟨hreadings, heq⟩ | ⟨hreadings, heq⟩
    · rw [heq] at hp
      obtain ⟨ps, hps, rfl⟩ := map_eq_ok_iff.1 hp
      rw [Predicate.leaves_conjunction, List.forall_mem_flatMap]
      intro p hp
      obtain ⟨b, hb, hcond⟩ := exists_of_mem_mapM hps hp
      exact hbinding (hparts b hb) (hreadings ▸ hb) hcond
    · rw [heq] at hp
      exact hbinding hwhole (hreadings ▸ List.mem_singleton_self _) hp
  unfold meaning at hp
  split at hp
  · obtain ⟨key, -, hkey⟩ := map_eq_ok_iff.1 hp
    cases hkey
  · obtain ⟨p', hp', heq⟩ := map_eq_ok_iff.1 hp
    cases heq
    split
    · rw [Predicate.leaves_negate]
      exact hcondition hp'
    · exact hcondition hp'

end CardQuery
