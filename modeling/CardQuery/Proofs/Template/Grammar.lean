/-
**The grammar of templates.**

A placeholder is a name in doubled braces, with blanks around it.  A template is its text cut at the
placeholders from the left: the literal texts are those in which no placeholder begins.  A text can be cut in
one way only, and the reader of templates finds it.

Main definitions:

* `Template.IsPlace` — the text is a placeholder for a name;
* `Template.Parts` — the literal texts and the placeholders of a text.

Main results:

* `Template.scanPlace_eq_some_iff` — **the reader finds the placeholder** at the head of a text;
* `Template.scanParts_eq_iff` — **the reader cuts a text at its placeholders**, so that there is one way to
  do it.
-/

import CardQuery.Command.Template
import CardQuery.Proofs.Unicode.Blank

set_option autoImplicit false

namespace CardQuery.Template

open Unicode (isBlank)

/-! ### Names -/

/-- The characters up to `z`, among which are all that stand in names. -/
def lowChars : List Char := (List.range 123).map Char.ofNat

theorem mem_lowChars {c : Char} (h : isNameChar c = true) : c ∈ lowChars := by
  have hlow : c.toNat < 123 := by
    rw [isNameChar, Bool.or_eq_true, beq_iff_eq] at h
    obtain halphanum | rfl := h
    · obtain halpha | hdigit := Bool.or_eq_true_iff.1 halphanum
      · obtain hupper | hlower := Bool.or_eq_true_iff.1 halpha
        · have hle : c.toNat ≤ 90 := (of_decide_eq_true hupper).2
          omega
        · have hle : c.toNat ≤ 122 := of_decide_eq_true (Bool.and_eq_true_iff.1 hlower).2
          omega
      · have hle : c.toNat ≤ 57 := of_decide_eq_true (Bool.and_eq_true_iff.1 hdigit).2
        omega
    · decide
  exact List.mem_map.2 ⟨c.toNat, List.mem_range.2 hlow, Char.ofNat_toNat c⟩

/-- What the table of white space says of them. -/
theorem lowChars_fact : lowChars.all (fun c => !(isNameChar c && isBlank c)) = true := by decide +kernel

/-- No blank stands in a name. -/
theorem not_isNameChar_of_isBlank {c : Char} (h : isBlank c = true) : isNameChar c = false := by
  cases hname : isNameChar c with
  | false => rfl
  | true =>
      have hfact := List.all_eq_true.1 lowChars_fact c (mem_lowChars hname)
      rw [hname, h] at hfact
      contradiction

theorem isNameChar_of_isNameStart {c : Char} (h : isNameStart c = true) : isNameChar c = true := by
  rw [isNameStart, Bool.or_eq_true] at h
  rw [isNameChar, Char.isAlphanum, Bool.or_eq_true, Bool.or_eq_true]
  exact h.imp_left .inl

/-- The text is a name: letters, digits and underscores, and no digit first. -/
inductive IsName : List Char → Prop where
  | mk {c : Char} {rest : List Char} (hc : isNameStart c = true) (hrest : ∀ d ∈ rest, isNameChar d = true) :
      IsName (c :: rest)

theorem IsName.all {name : List Char} (h : IsName name) : ∀ d ∈ name, isNameChar d = true := by
  cases h with
  | mk hc hrest => exact List.forall_mem_cons.2 ⟨isNameChar_of_isNameStart hc, hrest⟩

/-! ### Placeholders -/

/-- The text is a placeholder for the name: the name in doubled braces, with blanks around it. -/
inductive IsPlace : String → List Char → Prop where
  | mk {before name after : List Char} (hbefore : ∀ c ∈ before, isBlank c = true) (hname : IsName name)
      (hafter : ∀ c ∈ after, isBlank c = true) :
      IsPlace (String.ofList name)
        ('\x7b' :: '\x7b' :: (before ++ (name ++ (after ++ ['\x7d', '\x7d']))))

/-- A name ends before blanks and closing braces. -/
theorem takeWhile_dropWhile_name {name after : List Char} (hname : IsName name)
    (hafter : ∀ c ∈ after, isBlank c = true) (rest : List Char) :
    (name ++ (after ++ '\x7d' :: rest)).takeWhile isNameChar = name ∧
      (name ++ (after ++ '\x7d' :: rest)).dropWhile isNameChar = after ++ '\x7d' :: rest := by
  rw [List.takeWhile_append_of_pos hname.all, List.dropWhile_append_of_pos hname.all]
  cases after with
  | nil => exact ⟨List.append_nil _, rfl⟩
  | cons c after =>
      have hc : ¬isNameChar c = true := by
        rw [not_isNameChar_of_isBlank (hafter c List.mem_cons_self)]
        exact Bool.false_ne_true
      rw [List.cons_append, List.takeWhile_cons_of_neg hc, List.dropWhile_cons_of_neg hc]
      exact ⟨List.append_nil _, rfl⟩

theorem IsPlace.scanPlace_eq {name : String} {place : List Char} (h : IsPlace name place) (rest : List Char) :
    scanPlace (place ++ rest) = some (name, rest) := by
  cases h with
  | @mk before name after hbefore hname hafter =>
      obtain ⟨htake, hdrop⟩ := takeWhile_dropWhile_name hname hafter ('\x7d' :: rest)
      cases hname with
      | @mk c tail hc htail =>
          have hblank : ¬isBlank c = true := by
            intro hblank
            have hchar := isNameChar_of_isNameStart hc
            rw [not_isNameChar_of_isBlank hblank] at hchar
            contradiction
          have hinside : (before ++ (c :: tail ++ (after ++ '\x7d' :: '\x7d' :: rest))).dropWhile isBlank =
              c :: (tail ++ (after ++ '\x7d' :: '\x7d' :: rest)) := by
            rw [List.dropWhile_append_of_pos hbefore, List.cons_append, List.dropWhile_cons_of_neg hblank]
          have htext : '\x7b' :: '\x7b' :: (before ++ (c :: tail ++ (after ++ ['\x7d', '\x7d']))) ++ rest =
              '\x7b' :: '\x7b' :: (before ++ (c :: tail ++ (after ++ '\x7d' :: '\x7d' :: rest))) := by
            simp only [List.cons_append, List.append_assoc, List.nil_append]
          have hclose : (after ++ '\x7d' :: '\x7d' :: rest).dropWhile isBlank = '\x7d' :: '\x7d' :: rest := by
            rw [List.dropWhile_append_of_pos hafter]
            rfl
          rw [List.cons_append] at htake hdrop
          rw [htext, scanPlace]
          simp only [hinside, hc, htake, hdrop, hclose]
          rfl

/-- What stands inside of opening braces, when the reader has found the closing ones. -/
theorem exists_blanks {inside tail rest : List Char} {c : Char} (hinside : inside.dropWhile isBlank = c :: tail)
    (hclose : ((c :: tail).dropWhile isNameChar).dropWhile isBlank = '\x7d' :: '\x7d' :: rest) :
    ∃ before after, (∀ d ∈ before, isBlank d = true) ∧ (∀ d ∈ after, isBlank d = true) ∧
      inside = before ++ ((c :: tail).takeWhile isNameChar ++ (after ++ '\x7d' :: '\x7d' :: rest)) := by
  refine ⟨inside.takeWhile isBlank, ((c :: tail).dropWhile isNameChar).takeWhile isBlank,
    fun d hd => List.mem_takeWhile_imp hd, fun d hd => List.mem_takeWhile_imp hd, ?_⟩
  rw [← hclose, List.takeWhile_append_dropWhile, List.takeWhile_append_dropWhile, ← hinside,
    List.takeWhile_append_dropWhile]

theorem exists_isPlace {s rest : List Char} {name : String} (h : scanPlace s = some (name, rest)) :
    ∃ place, IsPlace name place ∧ s = place ++ rest := by
  unfold scanPlace at h
  split at h
  · next inside =>
    simp only at h
    split at h
    · contradiction
    · next c tail hinside =>
      split at h
      · contradiction
      · next hstart =>
        split at h
        · next rest' hclose =>
          cases h
          rw [hinside] at hclose ⊢
          have hstart : isNameStart c = true := by simpa using hstart
          have hname : IsName ((c :: tail).takeWhile isNameChar) := by
            rw [List.takeWhile_cons_of_pos (isNameChar_of_isNameStart hstart)]
            exact .mk hstart fun d hd => List.mem_takeWhile_imp hd
          obtain ⟨before, after, hbefore, hafter, rfl⟩ := exists_blanks hinside hclose
          refine ⟨_, .mk hbefore hname hafter, ?_⟩
          simp only [List.cons_append, List.append_assoc, List.nil_append]
        · contradiction
  · contradiction

/-- **The reader finds the placeholder** at the head of a text. -/
theorem scanPlace_eq_some_iff {s rest : List Char} {name : String} :
    scanPlace s = some (name, rest) ↔ ∃ place, IsPlace name place ∧ s = place ++ rest := by
  constructor
  · exact exists_isPlace
  · rintro ⟨place, hplace, rfl⟩
    exact hplace.scanPlace_eq rest

/-- Where the reader finds none there is no placeholder. -/
theorem scanPlace_eq_none_iff {s : List Char} :
    scanPlace s = none ↔ ∀ name place rest, IsPlace name place → s ≠ place ++ rest := by
  rw [Option.eq_none_iff_forall_ne_some]
  constructor
  · intro h name place rest hplace hs
    exact h _ (scanPlace_eq_some_iff.2 ⟨place, hplace, hs⟩)
  · rintro h ⟨name, rest⟩ hscan
    obtain ⟨place, hplace, hs⟩ := scanPlace_eq_some_iff.1 hscan
    exact h name place rest hplace hs

/-! ### Parts -/

/-- The text is cut at its placeholders: the literal text before the first of them, and each of them with
the literal text behind it.  No placeholder begins in a literal text. -/
inductive Parts : List Char → List Char → List (String × List Char) → Prop where
  | nil : Parts [] [] []
  | literal {c : Char} {s opening : List Char} {places : List (String × List Char)}
      (hnone : ∀ name place rest, IsPlace name place → c :: s ≠ place ++ rest) (h : Parts s opening places) :
      Parts (c :: s) (c :: opening) places
  | place {name : String} {place rest literal : List Char} {places : List (String × List Char)}
      (hplace : IsPlace name place) (h : Parts rest literal places) :
      Parts (place ++ rest) [] ((name, literal) :: places)

theorem IsPlace.ne_nil {name : String} {place : List Char} (h : IsPlace name place) : place ≠ [] := by
  cases h
  exact List.cons_ne_nil _ _

/-- The reader cuts a text at its placeholders. -/
theorem parts_scanParts {fuel : Nat} {s : List Char} (hfuel : s.length < fuel) :
    Parts s (scanParts fuel s).1 (scanParts fuel s).2 := by
  induction fuel generalizing s with
  | zero => exact absurd hfuel (Nat.not_lt_zero _)
  | succ fuel ih =>
      cases s with
      | nil => exact .nil
      | cons c s =>
          rw [scanParts]
          cases hscan : scanPlace (c :: s) with
          | none =>
              exact .literal (scanPlace_eq_none_iff.1 hscan) (ih (Nat.lt_of_succ_lt_succ hfuel))
          | some found =>
              obtain ⟨name, rest⟩ := found
              obtain ⟨place, hplace, heq⟩ := scanPlace_eq_some_iff.1 hscan
              have hlength : rest.length < fuel := by
                have hpos := List.length_pos_of_ne_nil hplace.ne_nil
                rw [heq, List.length_append] at hfuel
                omega
              rw [heq]
              exact .place hplace (ih hlength)

/-- There is no other way to cut it. -/
theorem Parts.scanParts_eq {s opening : List Char} {places : List (String × List Char)}
    (h : Parts s opening places) {fuel : Nat} (hfuel : s.length < fuel) :
    scanParts fuel s = (opening, places) := by
  induction h generalizing fuel with
  | nil =>
      obtain ⟨fuel, rfl⟩ := Nat.exists_eq_add_one.2 hfuel
      rfl
  | literal hnone h ih =>
      obtain ⟨fuel, rfl⟩ := Nat.exists_eq_add_one.2 (Nat.zero_lt_of_lt hfuel)
      rw [scanParts, scanPlace_eq_none_iff.2 hnone]
      simp only [ih (Nat.lt_of_succ_lt_succ hfuel)]
  | @place name place rest literal places hplace h ih =>
      obtain ⟨fuel, rfl⟩ := Nat.exists_eq_add_one.2 (Nat.zero_lt_of_lt hfuel)
      obtain ⟨c, tail, rfl⟩ := List.exists_cons_of_ne_nil hplace.ne_nil
      have hscan := hplace.scanPlace_eq rest
      have hlength : rest.length < fuel := by
        rw [List.length_append, List.length_cons] at hfuel
        omega
      rw [List.cons_append] at hscan ⊢
      rw [scanParts, hscan]
      simp only [ih hlength]

/-- **The reader cuts a text at its placeholders**, and there is no other way to do it. -/
theorem scanParts_eq_iff {fuel : Nat} {s opening : List Char} {places : List (String × List Char)}
    (hfuel : s.length < fuel) : scanParts fuel s = (opening, places) ↔ Parts s opening places := by
  constructor
  · intro h
    have hparts := parts_scanParts hfuel
    rwa [h] at hparts
  · exact fun h => h.scanParts_eq hfuel

theorem Parts.unique {s opening opening' : List Char} {places places' : List (String × List Char)}
    (h : Parts s opening places) (h' : Parts s opening' places') : opening = opening' ∧ places = places' := by
  have hscan := h.scanParts_eq (Nat.lt_succ_self _)
  rw [h'.scanParts_eq (Nat.lt_succ_self _)] at hscan
  cases hscan
  exact ⟨rfl, rfl⟩

end CardQuery.Template
