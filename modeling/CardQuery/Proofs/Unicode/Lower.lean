/-
**Lower case of texts.**

Lower case differs from folding in three ways.  A capital sigma takes another form at the end of a word;
the dotted capital I becomes two characters, of which none is folded like it; and characters that are
folded alike may stay apart in lower case.  Away from the first two, lower case maps character by
character, and nowhere does it change what a text is folded to, but for the dotted capital I.

Main definitions:

* `isSteady` — a character that is found by lower case wherever it is found by folding.

Main results:

* `exists_loweredAfter_append` — lower case of a piece behind others;
* `map_folded_lowered` — **lower case does not change what a text is folded to**;
* `lowered_lowered` — nor does it change anything the second time;
* `infix_lowered_of_steady` — **steady texts** are found by lower case wherever they are found by folding;
* `exists_text_unlike` — **other texts** are folded like one in which lower case does not find them.
-/

import CardQuery.Proofs.Unicode.Folding

set_option autoImplicit false

namespace CardQuery.Unicode

/-! ### Single characters -/

/-- What the tables say of the characters that lower case treats on their own. -/
theorem special_characters :
    orbit 'İ' = ['İ'] ∧ orbit 'Σ' = ['σ', 'Σ', 'ς'] ∧
      lowerChar 'Σ' = 'σ' ∧ lowerChar 'σ' = 'σ' ∧ lowerChar 'ς' = 'ς' ∧
      lowerChar 'i' = 'i' ∧ lowerChar '\u0307' = '\u0307' := by decide +kernel

/-- The dotted capital I is folded like no other character. -/
theorem eq_dotted_of_folded {c : Char} (h : folded c = folded 'İ') : c = 'İ' := by
  have hmem := mem_orbit_iff.2 h
  rw [special_characters.1, List.mem_singleton] at hmem
  exact hmem

/-- Three characters are folded like a sigma. -/
theorem folded_eq_sigma_iff {c : Char} : folded c = folded 'Σ' ↔ c = 'σ' ∨ c = 'Σ' ∨ c = 'ς' := by
  rw [← mem_orbit_iff, special_characters.2.1]
  simp

/-- The lower case of a character in its context, when it is one character. -/
def lowerOne (before : List Char) (c : Char) (after : List Char) : Char :=
  if c = 'Σ' then (if endsWord before after then 'ς' else 'σ') else lowerChar c

theorem lowerInContext_eq {c : Char} (h : c ≠ 'İ') (before after : List Char) :
    lowerInContext before c after = [lowerOne before c after] := by
  by_cases hsigma : c = 'Σ'
  · simp [lowerInContext, lowerOne, hsigma]
  · simp [lowerInContext, lowerOne, hsigma, h]

theorem lowerOne_of_ne {c : Char} (h : c ≠ 'Σ') (before after : List Char) :
    lowerOne before c after = lowerChar c := if_neg h

/-- Lower case in a context does not change the folding either. -/
theorem folded_lowerOne (before : List Char) (c : Char) (after : List Char) :
    folded (lowerOne before c after) = folded c := by
  rw [lowerOne]
  split
  · next hsigma =>
    rw [hsigma]
    split
    · exact folded_eq_sigma_iff.2 (.inr (.inr rfl))
    · exact folded_eq_sigma_iff.2 (.inl rfl)
  · exact folded_lowerChar c

/-! ### Texts -/

/-- A piece without dotted capital I keeps its length behind other characters. -/
theorem exists_loweredAfter_append {s : List Char} (h : 'İ' ∉ s) (before t : List Char) :
    ∃ s', s'.length = s.length ∧ s'.map folded = s.map folded ∧
      loweredAfter before (s ++ t) = s' ++ loweredAfter (s.reverse ++ before) t := by
  induction s generalizing before with
  | nil => exact ⟨[], rfl, rfl, rfl⟩
  | cons c s ih =>
      rw [List.mem_cons, not_or] at h
      obtain ⟨s', hlength, hfolded, heq⟩ := ih h.2 (c :: before)
      refine ⟨lowerOne before c (s ++ t) :: s', by simp [hlength], ?_, ?_⟩
      · rw [List.map_cons, List.map_cons, hfolded, folded_lowerOne]
      · rw [List.cons_append, loweredAfter, lowerInContext_eq (Ne.symm h.1), heq]
        simp

/-- **Lower case does not change what a text is folded to**, as long as it has no dotted capital I. -/
theorem map_folded_lowered {s : List Char} (h : 'İ' ∉ s) : (lowered s).map folded = s.map folded := by
  obtain ⟨s', -, hfolded, heq⟩ := exists_loweredAfter_append h [] []
  rw [List.append_nil, List.append_nil, loweredAfter, List.append_nil] at heq
  rw [lowered, heq, hfolded]

theorem length_lowered {s : List Char} (h : 'İ' ∉ s) : (lowered s).length = s.length := by
  rw [← List.length_map folded, map_folded_lowered h, List.length_map]

/-- Away from the two exceptions lower case maps character by character. -/
theorem loweredAfter_append_of_plain {s : List Char} (h : ∀ c ∈ s, c ≠ 'Σ' ∧ c ≠ 'İ')
    (before t : List Char) :
    loweredAfter before (s ++ t) = s.map lowerChar ++ loweredAfter (s.reverse ++ before) t := by
  induction s generalizing before with
  | nil => rfl
  | cons c s ih =>
      rw [List.forall_mem_cons] at h
      rw [List.cons_append, loweredAfter, lowerInContext_eq h.1.2, lowerOne_of_ne h.1.1, ih h.2]
      simp

theorem lowered_of_plain {s : List Char} (h : ∀ c ∈ s, c ≠ 'Σ' ∧ c ≠ 'İ') :
    lowered s = s.map lowerChar := by
  have heq := loweredAfter_append_of_plain h [] []
  rwa [List.append_nil, loweredAfter, List.append_nil] at heq

/-- What is in lower case is plain, and its own lower case. -/
theorem of_mem_loweredAfter {before s : List Char} {c : Char} (h : c ∈ loweredAfter before s) :
    (c ≠ 'Σ' ∧ c ≠ 'İ') ∧ lowerChar c = c := by
  obtain ⟨-, -, hcapital, hsmall, hfinal, hdotless, hdot⟩ := special_characters
  induction s generalizing before with
  | nil => contradiction
  | cons d s ih =>
      rw [loweredAfter] at h
      rcases List.mem_append.1 h with h | h
      · by_cases hdotted : d = 'İ'
        · subst hdotted
          have hpair : c = 'i' ∨ c = '\u0307' := by simpa [lowerInContext] using h
          rcases hpair with rfl | rfl
          · exact ⟨by decide, hdotless⟩
          · exact ⟨by decide, hdot⟩
        · rw [lowerInContext_eq hdotted, List.mem_singleton] at h
          subst h
          rw [lowerOne]
          split
          · split
            · exact ⟨by decide, hfinal⟩
            · exact ⟨by decide, hsmall⟩
          · have hfixed := lowerChar_lowerChar d
            refine ⟨⟨fun hsigma => ?_, fun hdot => ?_⟩, hfixed⟩
            · -- a capital sigma is not its own lower case
              rw [hsigma, hcapital] at hfixed
              exact absurd hfixed (by decide)
            · refine hdotted (eq_dotted_of_folded ?_)
              rw [← folded_lowerChar, hdot]
      · exact ih h

/-- **Lower case changes nothing the second time.** -/
theorem lowered_lowered (s : List Char) : lowered (lowered s) = lowered s := by
  have hplain : ∀ c ∈ lowered s, c ≠ 'Σ' ∧ c ≠ 'İ' := fun c hc => (of_mem_loweredAfter hc).1
  have hfixed : ∀ c ∈ lowered s, lowerChar c = id c := fun c hc => (of_mem_loweredAfter hc).2
  rw [lowered_of_plain hplain, List.map_congr_left hfixed, List.map_id]

/-! ### Steady characters -/

/-- The character is found by lower case wherever it is found by folding: lower case makes all
characters equal that are folded like it. -/
def isSteady (c : Char) : Bool := c != 'İ' && (orbit c).all fun d => lowerChar d == lowerChar c

theorem isSteady_iff {c : Char} :
    isSteady c = true ↔ c ≠ 'İ' ∧ ∀ d, folded d = folded c → lowerChar d = lowerChar c := by
  simp [isSteady, mem_orbit_iff]

/-- No sigma is steady, so that what is folded like a steady character is plain. -/
theorem plain_of_isSteady {c d : Char} (h : isSteady c = true) (hd : folded d = folded c) :
    d ≠ 'Σ' ∧ d ≠ 'İ' := by
  obtain ⟨hdotted, hlower⟩ := isSteady_iff.1 h
  obtain ⟨-, -, hcapital, -, hfinal, -⟩ := special_characters
  constructor
  · rintro rfl
    have hsame := (hlower 'ς' ((folded_eq_sigma_iff.2 (.inr (.inr rfl))).trans hd)).trans (hlower _ hd).symm
    rw [hcapital, hfinal] at hsame
    exact absurd hsame (by decide)
  · rintro rfl
    exact hdotted (eq_dotted_of_folded hd.symm)

/-- Texts that are folded alike have the same lower case where one of them is steady. -/
theorem map_lowerChar_of_steady {s v : List Char} (h : v.all isSteady = true)
    (heq : s.map folded = v.map folded) :
    (∀ c ∈ s, c ≠ 'Σ' ∧ c ≠ 'İ') ∧ s.map lowerChar = v.map lowerChar := by
  induction v generalizing s with
  | nil =>
      rw [List.map_nil, List.map_eq_nil_iff] at heq
      subst heq
      simp
  | cons c v ih =>
      obtain ⟨d, s, rfl, hd, hs⟩ := List.map_eq_cons_iff.1 heq
      rw [List.all_cons, Bool.and_eq_true] at h
      obtain ⟨hplain, hlower⟩ := ih h.2 hs
      rw [List.forall_mem_cons, List.map_cons, List.map_cons, (isSteady_iff.1 h.1).2 d hd, hlower]
      exact ⟨⟨plain_of_isSteady h.1 hd, hplain⟩, rfl⟩

theorem lowered_eq_of_steady {s v : List Char} (h : v.all isSteady = true)
    (heq : s.map folded = v.map folded) : lowered s = lowered v := by
  obtain ⟨hplain, hlower⟩ := map_lowerChar_of_steady h heq
  rw [lowered_of_plain hplain, lowered_of_plain (map_lowerChar_of_steady h rfl).1, hlower]

/-- **Steady texts are found by lower case wherever they are found by folding.** -/
theorem infix_lowered_of_steady {s v : List Char} (h : v.all isSteady = true) (hs : 'İ' ∉ s)
    (hfound : v.map folded <:+: s.map folded) : lowered v <:+: lowered s := by
  obtain ⟨before, after, heq⟩ := hfound
  obtain ⟨first, rest, rfl, hfirst, -⟩ := List.map_eq_append_iff.1 heq.symm
  obtain ⟨front, piece, rfl, -, hpiece⟩ := List.map_eq_append_iff.1 hfirst
  obtain ⟨hplain, hlower⟩ := map_lowerChar_of_steady h hpiece
  have hfront : 'İ' ∉ front := by
    simp only [List.mem_append, not_or] at hs
    exact hs.1.1
  obtain ⟨front', -, -, hloweredFront⟩ := exists_loweredAfter_append hfront [] (piece ++ rest)
  refine ⟨front', loweredAfter (piece.reverse ++ (front.reverse ++ [])) rest, ?_⟩
  rw [lowered_of_plain (map_lowerChar_of_steady h rfl).1, ← hlower, lowered, List.append_assoc,
    List.append_assoc, hloweredFront, loweredAfter_append_of_plain hplain]

/-- **A character that is not steady** can be replaced by one that is folded alike and that lower case
tells apart from what it makes of the character in its place. -/
theorem exists_unlike {c : Char} (hc : c ≠ 'İ') (h : isSteady c = false) (before after : List Char) :
    ∃ d, d ≠ 'İ' ∧ folded d = folded c ∧
      ∀ before' after', lowerOne before' d after' ≠ lowerOne before c after := by
  by_cases hsigma : folded c = folded 'Σ'
  · -- of the two small forms, take the one that does not stand here
    obtain ⟨-, -, -, hsmall, hfinal, -⟩ := special_characters
    by_cases hhere : lowerOne before c after = 'σ'
    · refine ⟨'ς', by decide, ?_, fun before' after' => ?_⟩
      · exact (folded_eq_sigma_iff.2 (.inr (.inr rfl))).trans hsigma.symm
      · rw [lowerOne_of_ne (by decide), hfinal, hhere]
        decide
    · refine ⟨'σ', by decide, ?_, fun before' after' => ?_⟩
      · exact (folded_eq_sigma_iff.2 (.inl rfl)).trans hsigma.symm
      · rw [lowerOne_of_ne (by decide), hsmall]
        exact Ne.symm hhere
  · have hother : ∃ d, folded d = folded c ∧ lowerChar d ≠ lowerChar c := by
      by_contra hall
      push Not at hall
      rw [isSteady_iff.2 ⟨hc, hall⟩] at h
      contradiction
    obtain ⟨d, hd, hlower⟩ := hother
    have hcsigma : c ≠ 'Σ' := fun heq => hsigma (congrArg folded heq)
    have hdsigma : d ≠ 'Σ' := fun heq => hsigma (hd.symm.trans (congrArg folded heq))
    have hddotted : d ≠ 'İ' := fun heq => hc (eq_dotted_of_folded (hd.symm.trans (congrArg folded heq)))
    refine ⟨d, hddotted, hd, fun before' after' => ?_⟩
    rw [lowerOne_of_ne hdsigma, lowerOne_of_ne hcsigma]
    exact hlower

/-- **Texts that are not steady** are folded like one in which lower case does not find them. -/
theorem exists_text_unlike {v : List Char} (hv : 'İ' ∉ v) (h : v.all isSteady = false) :
    ∃ t, 'İ' ∉ t ∧ t.map folded = v.map folded ∧ ¬lowered v <:+: lowered t := by
  rw [List.all_eq_false] at h
  obtain ⟨c, hc, hunsteady⟩ := h
  obtain ⟨before, after, rfl⟩ := List.append_of_mem hc
  simp only [List.mem_append, List.mem_cons, not_or] at hv
  obtain ⟨hbefore, hcdotted, hafter⟩ := hv
  obtain ⟨d, hdotted, hd, hunlike⟩ :=
    exists_unlike (Ne.symm hcdotted) (Bool.eq_false_iff.2 hunsteady) before.reverse after
  have hpiece {e : Char} (he : e ≠ 'İ') : 'İ' ∉ before ++ e :: after := by
    simp [hbefore, Ne.symm he, hafter]
  have hsplit {e : Char} (he : e ≠ 'İ') : ∃ front, front.length = before.length ∧
      ∃ rest, lowered (before ++ e :: after) = front ++ lowerOne before.reverse e after :: rest := by
    obtain ⟨front, hlength, -, heq⟩ := exists_loweredAfter_append hbefore [] (e :: after)
    rw [List.append_nil, loweredAfter, lowerInContext_eq he] at heq
    exact ⟨front, hlength, _, heq⟩
  refine ⟨before ++ d :: after, hpiece hdotted, by simp [hd], fun hfound => ?_⟩
  -- in lower case both are of the same length, but they differ in one place
  have heq : lowered (before ++ c :: after) = lowered (before ++ d :: after) := by
    refine hfound.eq_of_length ?_
    rw [length_lowered (hpiece (Ne.symm hcdotted)), length_lowered (hpiece hdotted)]
    simp
  obtain ⟨front, hfront, rest, hc'⟩ := hsplit (Ne.symm hcdotted)
  obtain ⟨front', hfront', rest', hd'⟩ := hsplit hdotted
  rw [hc', hd'] at heq
  obtain ⟨-, hrest⟩ := List.append_inj heq (hfront.trans hfront'.symm)
  exact hunlike _ _ (List.cons.inj hrest).1.symm

end CardQuery.Unicode
