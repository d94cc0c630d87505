/-
**How whole and half numbers are written.**

A label displays a number by an optional sign, the digits of the whole part and `.5` where a half is left
over; infinity has a sign of its own.  A text displays one number at most.  The reader of queries goes through
the doubles, and these are exact here, so that it reads every label as the number that it displays.

Main definitions:

* `HalfNumber.Displays` — a text displays a number.

Main results:

* `HalfNumber.Displays.unique` — a text displays one number at most;
* `Double.ofDecimal_halves` — decimals of halves are doubles;
* `HalfNumber.Displays.read?_eq` — **what a text displays is read from it**.
-/

import CardQuery.Proofs.Number.Exact
import CardQuery.Proofs.Number.Reading
import CardQuery.Proofs.Unicode.Digit

set_option autoImplicit false

namespace CardQuery

open Unicode

/-! ### Notation -/

/-- The number with a magnitude that is negative or not. -/
def signed (negative : Bool) (n : Nat) : Int := if negative then -(n : Int) else n

theorem natAbs_signed (negative : Bool) (n : Nat) : (signed negative n).natAbs = n := by
  cases negative with
  | false => exact Int.natAbs_natCast n
  | true => exact (Int.natAbs_neg n).trans (Int.natAbs_natCast n)

namespace HalfNumber

/-- A sign before the digits, and whether the number is negative then. -/
inductive IsSign : List Char → Bool → Prop where
  | none : IsSign [] false
  | plus : IsSign ['+'] false
  | minus : IsSign ['-'] true

/-- What is behind the digits of the whole part, and the number of halves left over. -/
inductive IsFraction : List Char → Nat → Prop where
  | none : IsFraction [] 0
  | half : IsFraction ['.', '5'] 1

/-- The text displays the number: the sign of infinity, or a decimal of halves. -/
inductive Displays : String → HalfNumber → Prop where
  | infinity : Displays infinityLabel infinity
  | decimal {sign digits fraction : List Char} {negative : Bool} {half : Nat} (hsign : IsSign sign negative)
      (hpos : digits ≠ []) (hdigits : ∀ c ∈ digits, c.isDigit = true) (hfraction : IsFraction fraction half) :
      Displays (String.ofList (sign ++ (digits ++ fraction)))
        (halves (signed negative (2 * decimalValue digits + half)))

section Parts

variable {sign digits fraction : List Char} {negative : Bool} {half : Nat}

/-- A sign is taken off what begins with a digit. -/
theorem IsSign.splitSign_append (h : IsSign sign negative) {c : Char} {rest : List Char}
    (hc : c.isDigit = true) : splitSign (sign ++ c :: rest) = (negative, c :: rest) := by
  cases h with
  | none =>
      have hminus : c ≠ '-' := by
        rintro rfl
        contradiction
      have hplus : c ≠ '+' := by
        rintro rfl
        contradiction
      rw [List.nil_append, splitSign_cons, if_neg hminus, if_neg hplus]
  | plus => rfl
  | minus => rfl

/-- The plus sign may be taken off before. -/
theorem IsSign.splitSign_afterPlus (h : IsSign sign negative) {c : Char} {rest : List Char}
    (hc : c.isDigit = true) : splitSign (afterPlus (sign ++ c :: rest)) = (negative, c :: rest) := by
  cases h with
  | none =>
      have hplus : c ≠ '+' := by
        rintro rfl
        contradiction
      rw [List.nil_append, afterPlus_cons, if_neg hplus]
      exact IsSign.none.splitSign_append hc
  | plus => exact IsSign.none.splitSign_append hc
  | minus => rfl

theorem IsFraction.takeWhile_append (h : IsFraction fraction half) (hdigits : ∀ c ∈ digits, c.isDigit = true) :
    (digits ++ fraction).takeWhile Char.isDigit = digits := by
  rw [List.takeWhile_append_of_pos hdigits]
  cases h <;> exact List.append_nil _

theorem IsFraction.dropWhile_append (h : IsFraction fraction half) (hdigits : ∀ c ∈ digits, c.isDigit = true) :
    (digits ++ fraction).dropWhile Char.isDigit = fraction := by
  rw [List.dropWhile_append_of_pos hdigits]
  cases h <;> rfl

/-- A decimal begins with a digit once the sign is taken off. -/
theorem exists_digit (hpos : digits ≠ []) (hdigits : ∀ c ∈ digits, c.isDigit = true) (fraction : List Char) :
    ∃ c rest, digits ++ fraction = c :: rest ∧ c.isDigit = true := by
  obtain ⟨c, rest, rfl⟩ := List.exists_cons_of_ne_nil hpos
  exact ⟨c, rest ++ fraction, rfl, hdigits c List.mem_cons_self⟩

theorem IsSign.splitSign_eq (h : IsSign sign negative) (hpos : digits ≠ [])
    (hdigits : ∀ c ∈ digits, c.isDigit = true) :
    splitSign (sign ++ (digits ++ fraction)) = (negative, digits ++ fraction) := by
  obtain ⟨c, rest, heq, hc⟩ := exists_digit hpos hdigits fraction
  rw [heq]
  exact h.splitSign_append hc

/-- A decimal has digits, which other labels have not. -/
theorem decimal_ne (hpos : digits ≠ []) (hdigits : ∀ c ∈ digits, c.isDigit = true) {label : String}
    (hlabel : label.toList.any Char.isDigit = false) : String.ofList (sign ++ (digits ++ fraction)) ≠ label := by
  rintro rfl
  obtain ⟨c, rest, rfl⟩ := List.exists_cons_of_ne_nil hpos
  have hmem : c ∈ (String.ofList (sign ++ (c :: rest ++ fraction))).toList := by
    rw [String.toList_ofList]
    simp
  exact List.any_eq_false.1 hlabel c hmem (hdigits c List.mem_cons_self)

theorem decimal_ne_infinityLabel (hpos : digits ≠ []) (hdigits : ∀ c ∈ digits, c.isDigit = true) :
    String.ofList (sign ++ (digits ++ fraction)) ≠ infinityLabel :=
  decimal_ne hpos hdigits (by decide)

end Parts

/-- **A text displays one number at most.** -/
theorem Displays.unique {s : String} {v v' : HalfNumber} (h : Displays s v) (h' : Displays s v') :
    v = v' := by
  generalize hs : s = t at h'
  cases h with
  | infinity =>
      cases h' with
      | infinity => rfl
      | decimal hsign hpos hdigits hfraction => exact absurd hs.symm (decimal_ne_infinityLabel hpos hdigits)
  | decimal hsign hpos hdigits hfraction =>
      cases h' with
      | infinity => exact absurd hs (decimal_ne_infinityLabel hpos hdigits)
      | decimal hsign' hpos' hdigits' hfraction' =>
          -- the sign, the digits and what is behind them can each be read off the text
          have hsplit := congrArg splitSign (String.ofList_injective hs)
          rw [hsign.splitSign_eq hpos hdigits, hsign'.splitSign_eq hpos' hdigits', Prod.mk.injEq] at hsplit
          obtain ⟨rfl, hrest⟩ := hsplit
          have hwhole := congrArg (List.takeWhile Char.isDigit) hrest
          have hleft := congrArg (List.dropWhile Char.isDigit) hrest
          rw [hfraction.takeWhile_append hdigits, hfraction'.takeWhile_append hdigits'] at hwhole
          rw [hfraction.dropWhile_append hdigits, hfraction'.dropWhile_append hdigits'] at hleft
          subst hwhole hleft
          cases hfraction <;> cases hfraction' <;> rfl

/-- The characters of a label are neither blanks nor letters. -/
theorem Displays.plain {s : String} {v : HalfNumber} (h : Displays s v) :
    ∀ c ∈ s.toList, isBlank c = false ∧ c.isAlpha = false := by
  have hplain {t : List Char} (ht : t.all (fun c => !isBlank c && !c.isAlpha) = true) :
      ∀ c ∈ t, isBlank c = false ∧ c.isAlpha = false := by
    intro c hc
    have hc := List.all_eq_true.1 ht c hc
    rwa [Bool.and_eq_true, Bool.not_eq_true', Bool.not_eq_true'] at hc
  cases h with
  | infinity => exact hplain (by decide +kernel)
  | decimal hsign hpos hdigits hfraction =>
      intro c hc
      rw [String.toList_ofList, List.mem_append, List.mem_append] at hc
      obtain hc | hc | hc := hc
      · exact hplain (by cases hsign <;> decide +kernel) c hc
      · exact ⟨not_isBlank_of_isDigit (hdigits c hc), not_isAlpha_of_isDigit (hdigits c hc)⟩
      · exact hplain (by cases hfraction <;> decide +kernel) c hc

theorem Displays.trimmed_eq {s : String} {v : HalfNumber} (h : Displays s v) : trimmed s = s :=
  trimmed_of_no_blanks fun c hc => (h.plain c hc).1

end HalfNumber

/-! ### Reading -/

/-- The digits of a number have its value. -/
theorem decimalValue_toDigits (n : Nat) : decimalValue (Nat.toDigits 10 n) = n := by
  have hvalue := Nat.ofDigitChars_toDigits (b := 10) (n := n) (by decide) (by decide)
  rw [Nat.ofDigitChars_eq_foldl] at hvalue
  simpa only [decimalValue, Nat.mul_comm] using hvalue

theorem decimalValue_append (s t : List Char) :
    decimalValue (s ++ t) = t.foldl (fun n c => n * 10 + (c.toNat - '0'.toNat)) (decimalValue s) :=
  List.foldl_append

namespace Double

/-- There are as many halves in the units of one as in one. -/
theorem unitsPerOne_eq : unitsPerOne = twoTo (unitBits - 1) * 2 := twoTo_succ (unitBits - 1)

theorem decimalLength_le {n places : Nat} (hplaces : 0 < places) (h : n < tenTo places) :
    decimalLength n ≤ places :=
  (Nat.length_toDigits_le_iff (by decide) hplaces).2 h

/-- **Decimals of halves are doubles.** -/
theorem ofDecimal_halves {digits count : Nat} (places : Nat) (hplaces : places ≤ 1)
    (heq : 2 * digits = tenTo places * count) (hcount : count ≤ twoTo precision) (negative : Bool) :
    ofDecimal negative digits (0 - places) = .finite ⟨negative, count * twoTo (unitBits - 1)⟩ := by
  have hten : tenTo places ≤ 10 := Nat.pow_le_pow_right (by decide) hplaces
  by_cases hzero : digits = 0
  · subst hzero
    have hcount : count = 0 := by
      have hpos := tenTo_pos places
      rw [Nat.mul_zero, eq_comm, Nat.mul_eq_zero] at heq
      omega
    rw [ofDecimal, if_pos rfl, hcount, Nat.zero_mul]
  · -- the exponent is far from the bounds where the size alone decides
    have hsize : decimalLength digits ≤ 17 := by
      refine decimalLength_le (by decide) ?_
      have hle : tenTo places * count ≤ 10 * 9007199254740992 := Nat.mul_le_mul hten hcount
      change digits < 100000000000000000
      omega
    have hround : roundToGrid (digits * tenTo 0 * unitsPerOne) (tenTo places) =
        count * twoTo (unitBits - 1) := by
      refine roundToGrid_of_dvd (tenTo_pos places) ?_ (twoTo_spareBits_dvd_scaled hcount _)
      have hone : tenTo 0 = 1 := rfl
      calc
        digits * tenTo 0 * unitsPerOne = 2 * digits * twoTo (unitBits - 1) := by
          rw [hone, Nat.mul_one, unitsPerOne_eq, Nat.mul_comm (twoTo _) 2, ← Nat.mul_assoc,
            Nat.mul_comm digits]
        _ = tenTo places * (count * twoTo (unitBits - 1)) := by rw [heq, Nat.mul_assoc]
    have hlimit : count * twoTo (unitBits - 1) < limit :=
      Nat.lt_trans (scaled_lt hcount _) (twoTo_lt_twoTo (by decide))
    have hnum : (0 - (places : Int)).toNat = 0 := by omega
    have hden : (-(0 - (places : Int))).toNat = places := by omega
    have hhigh : ¬0 - (places : Int) + decimalLength digits > 400 := by omega
    have hlow : ¬0 - (places : Int) + decimalLength digits < -400 := by omega
    rw [ofDecimal, if_neg hzero]
    simp only [if_neg hhigh, if_neg hlow, hnum, hden, ofRatio_of_grid hround hlimit]

/-- What begins with a digit behind its sign is no word. -/
theorem read?_of_digit {s rest : List Char} {negative : Bool} {c : Char}
    (h : splitSign s = (negative, c :: rest)) (hc : c.isDigit = true) :
    read? s = readDecimal? negative (c :: rest) := by
  have hword (word : String) (d : Char) (hd : word.toList.head? = some d) (hd' : d.isDigit = false) :
      String.ofList ((c :: rest).map Char.toLower) ≠ word := by
    rintro rfl
    rw [String.toList_ofList, List.map_cons, List.head?_cons, toLower_of_isDigit hc, Option.some.injEq] at hd
    rw [← hd, hc] at hd'
    contradiction
  have hinf := hword "inf" 'i' rfl rfl
  have hinfinity := hword "infinity" 'i' rfl rfl
  have hnan := hword "nan" 'n' rfl rfl
  simp only [read?, h, hinf, hinfinity, hnan, or_self, if_false]

theorem halves?_eq (negative : Bool) (count : Nat) :
    halves? ⟨negative, count * twoTo (unitBits - 1)⟩ = some (signed negative count) := by
  have hpos := twoTo_pos (unitBits - 1)
  simp only [halves?, Nat.mul_mod_left, Nat.mul_div_cancel _ hpos, if_pos]
  rfl

end Double

namespace HalfNumber

/-- What is behind the digits of a decimal adds its halves. -/
theorem IsFraction.readDecimal?_eq {digits fraction : List Char} {half : Nat} (hfraction : IsFraction fraction half)
    (hpos : digits ≠ []) (hdigits : ∀ c ∈ digits, c.isDigit = true)
    (hsmall : 2 * decimalValue digits + half ≤ twoTo Double.precision) (negative : Bool) :
    Double.readDecimal? negative (digits ++ fraction) =
      some (.finite ⟨negative, (2 * decimalValue digits + half) * twoTo (Double.unitBits - 1)⟩) := by
  have hnonempty : digits.isEmpty = false := by rwa [List.isEmpty_eq_false_iff]
  rw [Double.readDecimal?_eq, hfraction.takeWhile_append hdigits, hfraction.dropWhile_append hdigits]
  cases hfraction with
  | none =>
      have hexact := Double.ofDecimal_halves 0 (by decide) (Nat.one_mul _).symm hsmall negative
      simp only [hnonempty, Bool.false_and, Double.splitFraction, Double.readExponent?, List.append_nil]
      exact congrArg some hexact
  | half =>
      have hvalue : 2 * decimalValue (digits ++ ['5']) = tenTo 1 * (2 * decimalValue digits + 1) := by
        rw [decimalValue_append]
        change 2 * (decimalValue digits * 10 + 5) = 10 * (2 * decimalValue digits + 1)
        omega
      have hexact := Double.ofDecimal_halves 1 (by decide) hvalue hsmall negative
      simp only [hnonempty, Bool.false_and]
      exact congrArg some hexact

/-- **What a text displays is read from it**, unless it is too large for a double. -/
theorem Displays.read?_eq {s : String} {v : HalfNumber} (h : Displays s v)
    (hsmall : ∀ count, v = halves count → count.natAbs ≤ twoTo Double.precision) : read? s = some v := by
  cases h with
  | infinity => rfl
  | @decimal sign digits fraction negative half hsign hpos hdigits hfraction =>
      have hcount : 2 * decimalValue digits + half ≤ twoTo Double.precision := by
        have habs := hsmall _ rfl
        rwa [natAbs_signed] at habs
      have hlabel : String.ofList (sign ++ (digits ++ fraction)) ≠ infinityLabel :=
        decimal_ne_infinityLabel hpos hdigits
      have hrange : (2 * decimalValue digits + half) * twoTo (Double.unitBits - 1) <
          twoTo (1023 + Double.unitBits) := Double.scaled_lt hcount _
      obtain ⟨c, rest, heq, hc⟩ := exists_digit hpos hdigits fraction
      have hread : Double.read? (afterPlus (sign ++ (digits ++ fraction))) =
          some (.finite ⟨negative, (2 * decimalValue digits + half) * twoTo (Double.unitBits - 1)⟩) := by
        rw [heq, Double.read?_of_digit (hsign.splitSign_afterPlus hc) hc, ← heq]
        exact hfraction.readDecimal?_eq hpos hdigits hcount negative
      rw [read?, if_neg hlabel, String.toList_ofList, hread]
      simp only [hrange, if_true, Double.halves?_eq, Option.map_some]

end HalfNumber

end CardQuery
