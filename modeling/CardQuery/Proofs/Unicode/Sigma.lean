/-
**Sigmas at the rim of a text.**

Lower case looks at the surroundings of a capital sigma only: it takes its final form after a cased
character unless one follows.  Characters that are ignored do not count, so that for a sigma near the rim of
a text this may depend on what the text is a part of.  Where no sigma is so near to it, lower case of the
text is the same in all surroundings; and where one is, some surroundings change it.

Main definitions:

* `loweredBetween` — lower case of a text between others;
* `isLoose`, `hasLooseSigma` — the form of a sigma depends on what surrounds the text.

Main results:

* `loweredAfter_append` — lower case of a text is that of its pieces, each between the others;
* `loweredBetween_of_not_loose` — **without a loose sigma** lower case does not depend on the surroundings;
* `infix_lowered_iff` — **exactly then** it is found wherever the text is.
-/

import CardQuery.Proofs.Unicode.Lower

set_option autoImplicit false

namespace CardQuery.Unicode

/-! ### Pieces of a text -/

/-- Lower case of a text between others; `before` lists what precedes it from the nearest on. -/
def loweredBetween (before : List Char) : List Char → List Char → List Char
  | [], _ => []
  | c :: s, after => lowerInContext before c (s ++ after) ++ loweredBetween (c :: before) s after

/-- **Lower case of two pieces** is that of each beside the other. -/
theorem loweredAfter_append (before s t : List Char) :
    loweredAfter before (s ++ t) = loweredBetween before s t ++ loweredAfter (s.reverse ++ before) t := by
  induction s generalizing before with
  | nil => rfl
  | cons c s ih =>
      rw [List.cons_append, loweredAfter, loweredBetween, ih, List.append_assoc, List.reverse_cons,
        List.append_assoc]
      rfl

theorem loweredBetween_append (before s t after : List Char) :
    loweredBetween before (s ++ t) after =
      loweredBetween before s (t ++ after) ++ loweredBetween (s.reverse ++ before) t after := by
  induction s generalizing before with
  | nil => rfl
  | cons c s ih =>
      rw [List.cons_append, loweredBetween, loweredBetween, ih, List.append_assoc, List.append_assoc,
        List.reverse_cons, List.append_assoc]
      rfl

theorem lowered_eq_loweredBetween (s : List Char) : lowered s = loweredBetween [] s [] := by
  have h := loweredAfter_append [] s []
  rwa [List.append_nil, loweredAfter, List.append_nil] at h

/-- Lower case of a text holds that of its middle piece, between the others. -/
theorem lowered_append_append (a s b : List Char) :
    ∃ b', lowered (a ++ s ++ b) = loweredBetween [] a (s ++ b) ++ loweredBetween a.reverse s b ++ b' := by
  refine ⟨loweredAfter (s.reverse ++ (a.reverse ++ [])) b, ?_⟩
  rw [lowered, List.append_assoc, loweredAfter_append, loweredAfter_append, List.append_assoc,
    List.append_nil]

/-! ### Loose sigmas -/

theorem casedAhead_append (s t : List Char) :
    casedAhead (s ++ t) = if s.all caseIgnorable.has then casedAhead t else casedAhead s := by
  induction s with
  | nil => rfl
  | cons c s ih =>
      cases hc : caseIgnorable.has c with
      | true =>
          have hskip (u : List Char) : casedAhead (c :: u) = casedAhead u := by
            rw [casedAhead, List.dropWhile_cons_of_pos hc, casedAhead]
          rw [List.cons_append, hskip, hskip, ih, List.all_cons, hc, Bool.true_and]
      | false =>
          have hstop (u : List Char) : casedAhead (c :: u) = cased.has c := by
            rw [casedAhead, List.dropWhile_cons_of_neg (by simp [hc])]
          rw [List.cons_append, hstop, hstop, List.all_cons, hc, Bool.false_and, if_neg Bool.false_ne_true]

theorem casedAhead_of_all {s : List Char} (h : s.all caseIgnorable.has = true) : casedAhead s = false := by
  have happend := casedAhead_append s []
  rwa [List.append_nil, if_pos h] at happend

/-- The form of a sigma depends on what surrounds the text: a cased character before the text makes it
final, or one behind the text keeps it from being so. -/
def isLoose (before after : List Char) : Bool :=
  (before.all caseIgnorable.has && !casedAhead after) || (casedAhead before && after.all caseIgnorable.has)

/-- One of the capital sigmas of a text is loose; `before` lists what precedes it from the nearest on. -/
def hasLooseSigma (before : List Char) : List Char → Bool
  | [] => false
  | c :: s => (c == 'Σ' && isLoose before s) || hasLooseSigma (c :: before) s

theorem hasLooseSigma_iff {before s : List Char} :
    hasLooseSigma before s = true ↔
      ∃ l r, s = l ++ 'Σ' :: r ∧ isLoose (l.reverse ++ before) r = true := by
  induction s generalizing before with
  | nil => simp [hasLooseSigma]
  | cons c s ih =>
      rw [hasLooseSigma, Bool.or_eq_true, Bool.and_eq_true, beq_iff_eq, ih]
      constructor
      · rintro (⟨rfl, h⟩ | ⟨l, r, rfl, h⟩)
        · exact ⟨[], s, rfl, h⟩
        · exact ⟨c :: l, r, rfl, by simpa using h⟩
      · rintro ⟨l, r, heq, h⟩
        cases l with
        | nil =>
            obtain ⟨rfl, rfl⟩ := List.cons.inj heq
            exact .inl ⟨rfl, h⟩
        | cons d l =>
            obtain ⟨rfl, rfl⟩ := List.cons.inj heq
            exact .inr ⟨l, r, rfl, by simpa using h⟩

/-- The form of a sigma that is not loose does not depend on the surroundings. -/
theorem endsWord_of_not_loose {before after : List Char} (h : isLoose before after = false)
    (before' after' : List Char) :
    endsWord (before ++ before') (after ++ after') = endsWord before after := by
  rw [isLoose, Bool.or_eq_false_iff, Bool.and_eq_false_iff, Bool.and_eq_false_iff] at h
  rw [endsWord, endsWord, casedAhead_append, casedAhead_append]
  cases hbefore : before.all caseIgnorable.has with
  | true =>
      -- a cased character follows within the text
      have hcased : casedAhead after = true := by simpa [hbefore] using h.1
      have hstop : after.all caseIgnorable.has = false := by
        rw [Bool.eq_false_iff]
        intro hall
        rw [casedAhead_of_all hall] at hcased
        contradiction
      simp only [hstop, hcased, Bool.false_eq_true, if_false, Bool.not_true, Bool.and_false]
  | false =>
      cases hcased : casedAhead before with
      | false => simp only [Bool.false_eq_true, if_false, Bool.false_and]
      | true =>
          have hafter : after.all caseIgnorable.has = false := by simpa [hcased] using h.2
          simp only [hafter, Bool.false_eq_true, if_false]

theorem lowerInContext_of_ne {c : Char} (h : c ≠ 'Σ') (before after before' after' : List Char) :
    lowerInContext before c after = lowerInContext before' c after' := by
  rw [lowerInContext, lowerInContext, if_neg h, if_neg h]

/-- **Without a loose sigma** lower case of a text does not depend on its surroundings. -/
theorem loweredBetween_of_not_loose {before s : List Char} (h : hasLooseSigma before s = false)
    (before' after : List Char) :
    loweredBetween (before ++ before') s after = loweredBetween before s [] := by
  induction s generalizing before with
  | nil => rfl
  | cons c s ih =>
      rw [hasLooseSigma, Bool.or_eq_false_iff, Bool.and_eq_false_iff] at h
      have hchar : lowerInContext (before ++ before') c (s ++ after) = lowerInContext before c s := by
        by_cases hc : c = 'Σ'
        · have hloose : isLoose before s = false := h.1.resolve_left (by simp [hc])
          rw [lowerInContext, lowerInContext, if_pos hc, if_pos hc, endsWord_of_not_loose hloose]
        · exact lowerInContext_of_ne hc _ _ _ _
      have hrest := ih h.2
      rw [loweredBetween, loweredBetween, hchar, List.append_nil, ← hrest]
      rfl

/-! ### Surroundings that change the form of a sigma -/

/-- Where sigmas at the end of words stay there, the final form becomes no rarer, and the other one no more
frequent. -/
theorem count_loweredBetween_le (b a b' a' : List Char)
    (h : ∀ l r, endsWord (l ++ b) (r ++ a) = true → endsWord (l ++ b') (r ++ a') = true)
    (s : List Char) :
    (loweredBetween b s a).count 'ς' ≤ (loweredBetween b' s a').count 'ς' ∧
      (loweredBetween b' s a').count 'σ' ≤ (loweredBetween b s a).count 'σ' := by
  induction s generalizing b b' with
  | nil => exact ⟨Nat.le_refl _, Nat.le_refl _⟩
  | cons c s ih =>
      have hrest := ih (c :: b) (c :: b') fun l r => by simpa using h (l ++ [c]) r
      have hchar : (lowerInContext b c (s ++ a)).count 'ς' ≤ (lowerInContext b' c (s ++ a')).count 'ς' ∧
          (lowerInContext b' c (s ++ a')).count 'σ' ≤ (lowerInContext b c (s ++ a)).count 'σ' := by
        by_cases hc : c = 'Σ'
        · have hends := h [] s
          simp only [lowerInContext, if_pos hc]
          cases hb : endsWord b (s ++ a) with
          | true =>
              have hb' : endsWord b' (s ++ a') = true := hends hb
              rw [hb']
              exact ⟨Nat.le_refl _, Nat.le_refl _⟩
          | false => cases endsWord b' (s ++ a') <;> decide
        · rw [lowerInContext_of_ne hc b (s ++ a) b' (s ++ a')]
          exact ⟨Nat.le_refl _, Nat.le_refl _⟩
      rw [loweredBetween, loweredBetween]
      simp only [List.count_append]
      omega

/-- If moreover one sigma comes to the end of a word, the final form becomes more frequent, and the other one
rarer. -/
theorem count_loweredBetween_lt {b a b' a' : List Char}
    (h : ∀ l r, endsWord (l ++ b) (r ++ a) = true → endsWord (l ++ b') (r ++ a') = true)
    {l r : List Char} (hfirst : endsWord (l.reverse ++ b) (r ++ a) = false)
    (hsecond : endsWord (l.reverse ++ b') (r ++ a') = true) :
    (loweredBetween b (l ++ 'Σ' :: r) a).count 'ς' < (loweredBetween b' (l ++ 'Σ' :: r) a').count 'ς' ∧
      (loweredBetween b' (l ++ 'Σ' :: r) a').count 'σ' < (loweredBetween b (l ++ 'Σ' :: r) a).count 'σ' := by
  have hfront := count_loweredBetween_le b ('Σ' :: r ++ a) b' ('Σ' :: r ++ a')
    (fun l' r' => by simpa using h l' (r' ++ 'Σ' :: r)) l
  have hback := count_loweredBetween_le ('Σ' :: (l.reverse ++ b)) a ('Σ' :: (l.reverse ++ b')) a'
    (fun l' r' => by simpa using h (l' ++ 'Σ' :: l.reverse) r') r
  have hsigma (before after : List Char) :
      lowerInContext before 'Σ' after = [if endsWord before after then 'ς' else 'σ'] := if_pos rfl
  rw [loweredBetween_append, loweredBetween_append, loweredBetween, loweredBetween, hsigma, hsigma, hfirst,
    hsecond]
  simp only [List.count_append]
  have hfinal : ['ς'].count 'ς' = 1 ∧ ['σ'].count 'ς' = 0 := by decide
  have hsmall : ['ς'].count 'σ' = 0 ∧ ['σ'].count 'σ' = 1 := by decide
  simp only [if_true, Bool.false_eq_true, if_false]
  omega

/-- What the tables say of a letter that is put beside a text. -/
theorem letter_facts : cased.has 'A' = true ∧ caseIgnorable.has 'A' = false ∧
    lowerChar 'A' = 'a' := by decide +kernel

theorem casedAhead_append_letter (s : List Char) :
    casedAhead (s ++ ['A']) = (s.all caseIgnorable.has || casedAhead s) := by
  have hletter : casedAhead ['A'] = true := by
    rw [casedAhead, List.dropWhile_cons_of_neg (by simp [letter_facts.2.1])]
    exact letter_facts.1
  rw [casedAhead_append, hletter]
  cases s.all caseIgnorable.has <;> rfl

/-- A letter before a text only changes the context of its characters, or adds a small letter. -/
theorem count_lowered_behind_letter {c : Char} (hc : c ≠ 'a') (s : List Char) :
    (lowered (['A'] ++ s)).count c = (loweredBetween ['A'] s []).count c := by
  have hletter : lowerInContext [] 'A' s = ['a'] := by
    rw [lowerInContext, if_neg (by decide), if_neg (by decide), letter_facts.2.2]
  have hrest := loweredAfter_append ['A'] s []
  rw [List.append_nil, loweredAfter, List.append_nil] at hrest
  rw [List.singleton_append, lowered, loweredAfter, hletter, hrest, List.singleton_append,
    List.count_cons_of_ne hc.symm]

/-- So does a letter behind it. -/
theorem count_lowered_before_letter {c : Char} (hc : c ≠ 'a') (s : List Char) :
    (lowered (s ++ ['A'])).count c = (loweredBetween [] s ['A']).count c := by
  have hletter (before : List Char) : loweredAfter before ['A'] = ['a'] := by
    rw [loweredAfter, loweredAfter, lowerInContext, if_neg (by decide), if_neg (by decide),
      letter_facts.2.2, List.append_nil]
  rw [lowered, loweredAfter_append, hletter, List.count_append, List.count_cons_of_ne hc.symm,
    List.count_nil, Nat.add_zero]

theorem not_infix_of_count_lt {s t : List Char} {c : Char} (h : t.count c < s.count c) : ¬s <:+: t :=
  fun hwithin => Nat.not_lt.2 (hwithin.sublist.count_le c) h

/-- **A loose sigma** takes another form beside a letter. -/
theorem exists_surroundings {s : List Char} (h : hasLooseSigma [] s = true) :
    ∃ a b, ¬lowered s <:+: lowered (a ++ s ++ b) := by
  obtain ⟨l, r, rfl, hloose⟩ := hasLooseSigma_iff.1 h
  rw [List.append_nil, isLoose, Bool.or_eq_true, Bool.and_eq_true, Bool.and_eq_true,
    Bool.not_eq_true'] at hloose
  rcases hloose with ⟨hbefore, hafter⟩ | ⟨hbefore, hafter⟩
  · -- a letter before the text makes the sigma final, so that there is one small form less
    have halone : endsWord (l.reverse ++ []) (r ++ []) = false := by
      rw [endsWord, List.append_nil, casedAhead_of_all hbefore, Bool.false_and]
    have hletter : endsWord (l.reverse ++ ['A']) (r ++ []) = true := by
      rw [endsWord, casedAhead_append_letter, hbefore, List.append_nil, hafter]
      rfl
    have hcount := (count_loweredBetween_lt (fun l' r' => ?_) halone hletter).2
    · refine ⟨['A'], [], not_infix_of_count_lt (c := 'σ') ?_⟩
      rwa [List.append_nil, count_lowered_behind_letter (by decide), lowered_eq_loweredBetween]
    · rw [endsWord, endsWord, casedAhead_append_letter, List.append_nil]
      simp +contextual
  · -- a letter behind the text keeps the sigma from being final, so that there is one final form less
    have hletter : endsWord (l.reverse ++ []) (r ++ ['A']) = false := by
      rw [endsWord, casedAhead_append_letter, hafter, Bool.true_or, Bool.not_true, Bool.and_false]
    have halone : endsWord (l.reverse ++ []) (r ++ []) = true := by
      rw [endsWord, List.append_nil, List.append_nil, hbefore, casedAhead_of_all hafter]
      rfl
    have hcount := (count_loweredBetween_lt (fun l' r' => ?_) hletter halone).1
    · refine ⟨[], ['A'], not_infix_of_count_lt (c := 'ς') ?_⟩
      rwa [List.nil_append, count_lowered_before_letter (by decide), lowered_eq_loweredBetween]
    · rw [endsWord, endsWord, casedAhead_append_letter, List.append_nil, List.append_nil]
      simp +contextual

/-- **Lower case of a text is found wherever the text is** exactly when none of its sigmas is loose. -/
theorem infix_lowered_iff {s : List Char} :
    (∀ a b, lowered s <:+: lowered (a ++ s ++ b)) ↔ hasLooseSigma [] s = false := by
  constructor
  · intro h
    rw [Bool.eq_false_iff]
    intro hloose
    obtain ⟨a, b, hnot⟩ := exists_surroundings hloose
    exact hnot (h a b)
  · intro h a b
    obtain ⟨b', hlowered⟩ := lowered_append_append a s b
    refine ⟨loweredBetween [] a (s ++ b), b', ?_⟩
    have hpiece := loweredBetween_of_not_loose h a.reverse b
    rw [List.nil_append] at hpiece
    rw [hlowered, hpiece, lowered_eq_loweredBetween s]

end CardQuery.Unicode
