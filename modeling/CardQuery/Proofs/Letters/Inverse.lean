/-
**Masks and letters are inverse.**

The number of a set is made by looking up characters in an alphabet, where the case of A to Z does not count
and a character may come twice; the letters of a number are read off its bits.  In an alphabet whose letters
differ these are inverse: a number comes back from its letters, and the letters of the number of a text are
those that occur in the text, once each and in alphabetical order.

Main definitions:

* `Unicode.OccursIn` — a character occurs in a text, in either case;
* `Alphabet.IsDistinct` — the letters of an alphabet differ in more than case.

Main results:

* `Alphabet.place?_eq_some_iff` — where a character has its place;
* `Alphabet.mask_eq_error_iff`, `Alphabet.exists_mask_iff` — which texts have no number, and which have one;
* `Alphabet.testBit_mask`, `Alphabet.toList_lettersOf` — the bits of that number, and the letters of a number;
* `Alphabet.mask_lettersOf`, `Alphabet.lettersOf_mask` — from a number to its letters and back, and from a text to
  its number and back;
* `Alphabet.masks_letters_inverse` — **masks and letters are inverse**.
-/

import CardQuery.Proofs.Search.Contents
import Mathlib.Data.List.Nodup

set_option autoImplicit false

namespace CardQuery

open Unicode (asciiLowered)

/-- The character occurs in the text when the case of A to Z does not count. -/
def Unicode.OccursIn (c : Char) (s : List Char) : Prop := asciiLowered c ∈ s.map asciiLowered

instance (c : Char) (s : List Char) : Decidable (Unicode.OccursIn c s) :=
  inferInstanceAs (Decidable (asciiLowered c ∈ s.map asciiLowered))

theorem Unicode.occursIn_iff {c : Char} {s : List Char} :
    OccursIn c s ↔ ∃ d ∈ s, asciiLowered d = asciiLowered c := List.mem_map

open Unicode (OccursIn occursIn_iff)

namespace Alphabet

/-- No letter comes twice, not even in the other case. -/
def IsDistinct (a : Alphabet) : Prop := (a.letters.map asciiLowered).Nodup

instance (a : Alphabet) : Decidable a.IsDistinct :=
  inferInstanceAs (Decidable (a.letters.map asciiLowered).Nodup)

variable {a : Alphabet} {c d letter : Char} {s : List Char} {bits i : Nat}

/-! ### Places -/

theorem place?_congr (h : asciiLowered c = asciiLowered d) : a.place? c = a.place? d := by
  simp only [place?, h]

/-- A character has no place if it is no letter. -/
theorem place?_eq_none_iff : a.place? c = none ↔ ¬OccursIn c a.letters := by
  rw [place?, List.findIdx?_eq_none_iff, occursIn_iff]
  simp only [beq_eq_false_iff_ne, not_exists, not_and, ne_eq]

/-- The place of a letter is where it stands, since no letter before it is the same. -/
theorem place?_eq_some_iff (ha : a.IsDistinct) :
    a.place? c = some i ↔ ∃ letter, a.letters[i]? = some letter ∧ asciiLowered letter = asciiLowered c := by
  rw [place?, List.findIdx?_eq_some_iff_getElem]
  constructor
  · rintro ⟨hi, hsame, -⟩
    exact ⟨a.letters[i], List.getElem?_eq_getElem hi, eq_of_beq hsame⟩
  · rintro ⟨letter, hletter, hsame⟩
    obtain ⟨hi, rfl⟩ := List.getElem?_eq_some_iff.1 hletter
    refine ⟨hi, beq_iff_eq.2 hsame, fun j hj heq => ?_⟩
    have hlowered : (a.letters.map asciiLowered)[j]? = (a.letters.map asciiLowered)[i]? := by
      rw [List.getElem?_map, List.getElem?_map, List.getElem?_eq_getElem (Nat.lt_trans hj hi),
        List.getElem?_eq_getElem hi, Option.map_some, Option.map_some, eq_of_beq heq, hsame]
    have hlt : i < (a.letters.map asciiLowered).length := by rwa [List.length_map]
    exact List.nodup_iff_getElem?_ne_getElem?.1 ha j i hj hlt hlowered

theorem place?_letter (ha : a.IsDistinct) (hletter : a.letters[i]? = some letter) :
    a.place? letter = some i :=
  (place?_eq_some_iff ha).2 ⟨letter, hletter, rfl⟩

/-! ### The number of a text -/

/-- A text has no number if it has another character, and the first such character is reported. -/
theorem mask_eq_error_iff {e : Reason} :
    a.mask s = .error e ↔
      ∃ c, s.find? (fun c => !decide (OccursIn c a.letters)) = some c ∧ e = .notALetter c a.letters := by
  induction s with
  | nil => simp [mask]
  | cons c s ih =>
      rw [mask]
      cases hc : a.place? c with
      | none =>
          rw [List.find?_cons_of_pos (by simpa using place?_eq_none_iff.1 hc)]
          simp [eq_comm]
      | some i =>
          have hoccurs : OccursIn c a.letters := by
            by_contra hnot
            rw [place?_eq_none_iff.2 hnot] at hc
            contradiction
          rw [List.find?_cons_of_neg (by simpa using hoccurs), ← ih]
          exact map_eq_error_iff

/-- A text has a number if all of its characters are letters. -/
theorem exists_mask_iff : (∃ bits, a.mask s = .ok bits) ↔ ∀ c ∈ s, OccursIn c a.letters := by
  constructor
  · rintro ⟨bits, hbits⟩ c hc
    by_contra hnot
    cases hfirst : s.find? (fun c => !decide (OccursIn c a.letters)) with
    | none => exact List.find?_eq_none.1 hfirst c hc (by simpa using hnot)
    | some first =>
        rw [mask_eq_error_iff.2 ⟨first, hfirst, rfl⟩] at hbits
        contradiction
  · intro h
    cases hmask : a.mask s with
    | ok bits => exact ⟨bits, rfl⟩
    | error e =>
        obtain ⟨c, hc, -⟩ := mask_eq_error_iff.1 hmask
        have hnot : ¬OccursIn c a.letters := by simpa using List.find?_some hc
        exact absurd (h c (List.mem_of_find?_eq_some hc)) hnot

/-- The bits are the places of the characters. -/
theorem testBit_mask_iff_place? (h : a.mask s = .ok bits) (i : Nat) :
    bits.testBit i = true ↔ ∃ c ∈ s, a.place? c = some i := by
  induction s generalizing bits with
  | nil =>
      cases h
      simp
  | cons c s ih =>
      rw [mask] at h
      cases hc : a.place? c with
      | none =>
          rw [hc] at h
          contradiction
      | some j =>
          rw [hc] at h
          obtain ⟨rest, hrest, rfl⟩ := map_eq_ok_iff.1 h
          have hplace : (twoTo j).testBit i = true ↔ j = i := by
            rw [← decide_eq_true_iff (p := j = i), ← Nat.testBit_two_pow]
            rfl
          rw [Nat.testBit_or, Bool.or_eq_true, ih hrest, hplace, List.exists_mem_cons_iff, hc,
            Option.some_inj]

/-- The bits are the letters that occur in the text. -/
theorem testBit_mask (ha : a.IsDistinct) (h : a.mask s = .ok bits) (i : Nat) :
    bits.testBit i = true ↔ ∃ letter, a.letters[i]? = some letter ∧ OccursIn letter s := by
  rw [testBit_mask_iff_place? h]
  constructor
  · rintro ⟨c, hc, hplace⟩
    obtain ⟨letter, hletter, hsame⟩ := (place?_eq_some_iff ha).1 hplace
    exact ⟨letter, hletter, occursIn_iff.2 ⟨c, hc, hsame.symm⟩⟩
  · rintro ⟨letter, hletter, hoccurs⟩
    obtain ⟨c, hc, hsame⟩ := occursIn_iff.1 hoccurs
    exact ⟨c, hc, (place?_eq_some_iff ha).2 ⟨letter, hletter, hsame.symm⟩⟩

/-! ### The letters of a number -/

/-- Letters are chosen by a property if the bits at their places are. -/
theorem lettersFrom_eq_filter {letters : List Char} {p : Char → Bool}
    (h : ∀ k letter, letters[k]? = some letter → bits.testBit (i + k) = p letter) :
    lettersFrom bits i letters = letters.filter p := by
  induction letters generalizing i with
  | nil => rfl
  | cons c letters ih =>
      have hhead : bits.testBit i = p c := h 0 c rfl
      have htail : lettersFrom bits (i + 1) letters = letters.filter p := by
        refine ih fun k letter hletter => ?_
        rw [Nat.add_assoc, Nat.add_comm 1 k]
        exact h (k + 1) letter hletter
      rw [lettersFrom, hhead, htail, List.filter_cons]

theorem toList_lettersOf_eq_filter {p : Char → Bool}
    (h : ∀ i letter, a.letters[i]? = some letter → bits.testBit i = p letter) :
    (a.lettersOf bits).toList = a.letters.filter p := by
  rw [lettersOf, String.toList_ofList]
  refine lettersFrom_eq_filter fun k letter hletter => ?_
  rw [Nat.zero_add]
  exact h k letter hletter

/-- The letters of a number are those whose places are among its bits. -/
theorem toList_lettersOf (ha : a.IsDistinct) (bits : Nat) :
    (a.lettersOf bits).toList = a.letters.filter fun c => (a.place? c).any bits.testBit := by
  refine toList_lettersOf_eq_filter fun i letter hletter => ?_
  rw [place?_letter ha hletter, Option.any_some]

/-- A letter is one of a number's if the bit at its place is set. -/
theorem occursIn_lettersOf (ha : a.IsDistinct) (hletter : a.letters[i]? = some letter) :
    OccursIn letter (a.lettersOf bits).toList ↔ bits.testBit i = true := by
  rw [toList_lettersOf ha, occursIn_iff]
  constructor
  · rintro ⟨c, hc, hsame⟩
    have hplace := (List.mem_filter.1 hc).2
    rwa [place?_congr hsame, place?_letter ha hletter, Option.any_some] at hplace
  · intro hbit
    refine ⟨letter, List.mem_filter.2 ⟨List.mem_of_getElem? hletter, ?_⟩, rfl⟩
    rwa [place?_letter ha hletter, Option.any_some]

/-! ### There and back -/

/-- A number comes back from its letters. -/
theorem mask_lettersOf (ha : a.IsDistinct) (hbits : bits < 2 ^ a.letters.length) :
    a.mask (a.lettersOf bits).toList = .ok bits := by
  have hletters : ∀ c ∈ (a.lettersOf bits).toList, OccursIn c a.letters := by
    intro c hc
    rw [toList_lettersOf ha] at hc
    exact occursIn_iff.2 ⟨c, List.mem_of_mem_filter hc, rfl⟩
  obtain ⟨mask, hmask⟩ := exists_mask_iff.2 hletters
  have heq : mask = bits := by
    refine Nat.eq_of_testBit_eq fun i => Bool.eq_iff_iff.2 ?_
    rw [testBit_mask ha hmask]
    constructor
    · rintro ⟨letter, hletter, hoccurs⟩
      exact (occursIn_lettersOf ha hletter).1 hoccurs
    · intro hbit
      have hletter := List.getElem?_eq_getElem (lt_of_testBit hbits hbit)
      exact ⟨_, hletter, (occursIn_lettersOf ha hletter).2 hbit⟩
  rw [hmask, heq]

/-- The letters of the number of a text are those that occur in it. -/
theorem lettersOf_mask (ha : a.IsDistinct) (h : a.mask s = .ok bits) :
    (a.lettersOf bits).toList = a.letters.filter fun letter => OccursIn letter s := by
  refine toList_lettersOf_eq_filter fun i letter hletter => Bool.eq_iff_iff.2 ?_
  rw [testBit_mask ha h, hletter, decide_eq_true_iff]
  simp only [Option.some.injEq, exists_eq_left']

/-- **Masks and letters are inverse.**  Every set of letters has the number of its letters.  A text has a number
just if all of its characters are letters, and then the letters of the number are those that occur in the text,
once each and in alphabetical order, and its bits are their places. -/
theorem masks_letters_inverse (hsize : a.letters.length ≤ mostLetters) (ha : a.IsDistinct) :
    (∀ bits ≤ a.fullMask, a.mask (a.lettersOf bits).toList = .ok bits) ∧
      ∀ s : String,
        ((∃ bits, a.mask s.toList = .ok bits) ↔ ∀ c ∈ s.toList, OccursIn c a.letters) ∧
        ∀ bits, a.mask s.toList = .ok bits →
          (a.lettersOf bits).toList = a.letters.filter (fun letter => OccursIn letter s.toList) ∧
          (a.lettersOf bits).toList.Nodup ∧
          ∀ i, bits.testBit i = true ↔
            ∃ letter, a.letters[i]? = some letter ∧ OccursIn letter s.toList := by
  constructor
  · intro bits hbits
    refine mask_lettersOf ha ?_
    rw [← fullMask_succ hsize]
    exact Nat.lt_succ_of_le hbits
  · intro s
    refine ⟨exists_mask_iff, fun bits hbits => ?_⟩
    have hletters := lettersOf_mask ha hbits
    have honce : (a.lettersOf bits).toList.Nodup := by
      rw [hletters]
      exact (List.Nodup.of_map _ ha).filter _
    exact ⟨hletters, honce, testBit_mask ha hbits⟩

/-- Green and red, written in any order, in either case and more than once, are the bits 4 and 3; X is no letter. -/
theorem masks_letters_inverse_red_and_green :
    let a := Alphabet.ofText "WUBRG"
    a.letters.length ≤ mostLetters ∧ a.IsDistinct ∧ 24 ≤ a.fullMask ∧
      a.mask (a.lettersOf 24).toList = .ok 24 ∧
      a.mask "gRrG".toList = .ok 24 ∧ (a.lettersOf 24).toList = ['R', 'G'] ∧
      ¬∃ bits, a.mask "WX".toList = .ok bits := by
  intro a
  have hsize : a.letters.length ≤ mostLetters := by decide +kernel
  have hdistinct : a.IsDistinct := by decide +kernel
  have hfull : 24 ≤ a.fullMask := by decide +kernel
  have hmask : a.mask "gRrG".toList = .ok 24 := rfl
  obtain ⟨hmasks, htexts⟩ := masks_letters_inverse hsize hdistinct
  refine ⟨hsize, hdistinct, hfull, hmasks 24 hfull, hmask, ?_, ?_⟩
  · rw [((htexts "gRrG").2 24 hmask).1]
    decide +kernel
  · rw [(htexts "WX").1]
    intro hletters
    exact absurd (hletters 'X' (by decide +kernel)) (by decide +kernel)

end Alphabet

end CardQuery
