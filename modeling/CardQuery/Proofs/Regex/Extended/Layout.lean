/-
**Layout and escapes before a closing parenthesis.**

A group around a pattern puts a closing parenthesis after it.  Whatever could be read from the pattern
alone is read in the same way with more text after it, and leaves as much more: nothing that ends with
the pattern looks beyond it.  The exception is a comment of a verbose pattern, which lasts to the end of
its line and so takes the parenthesis in.

Main definitions:

* `closing` — what stands after a pattern that is put into a group and tied to the end of the text;
* `Extended` — the second text is the first with `closing` after it, unless a comment takes it in.

Main results:

* `skipLayout_extended` — layout is skipped before `closing` as at the end of the pattern;
* `scanEscape_extended` — **an escape is read before `closing` as at the end of the pattern**.
-/

import CardQuery.Proofs.Regex.Transfer
import CardQuery.Regex.Reader

set_option autoImplicit false

namespace CardQuery.Regex

open CardQuery.Unicode

/-- The end of the group around a pattern, and the end of the text. -/
def closing : List Char := [')', '$']

/-- The second text is the first with `closing` after it.  Nothing is left of either when the first
ends inside a comment. -/
inductive Extended : List Char → List Char → Prop
  | kept (s : List Char) : Extended s (s ++ closing)
  | hidden : Extended [] []

variable {f : Flags} {c : Char} {s s' r : List Char}

namespace Extended

theorem cons_inv (h : Extended (c :: s) s') : ∃ r', s' = c :: r' ∧ Extended s r' := by
  cases h
  exact ⟨s ++ closing, rfl, .kept s⟩

theorem nil_inv (h : Extended [] s') : s' = closing ∨ s' = [] := by
  cases h with
  | kept => exact Or.inl rfl
  | hidden => exact Or.inr rfl

theorem uncons (h : Extended s (c :: s')) (hc : c ≠ ')') : ∃ r, s = c :: r ∧ Extended r s' := by
  cases s with
  | nil =>
      rcases h.nil_inv with hs | hs
      · obtain ⟨rfl, -⟩ := List.cons.inj hs
        contradiction
      · contradiction
  | cons d s =>
      obtain ⟨r', hr', hs⟩ := h.cons_inv
      obtain ⟨rfl, rfl⟩ := List.cons.inj hr'
      exact ⟨s, rfl, hs⟩

theorem no_head (h : Extended s s') (hc : c ≠ ')') (hs : ∀ r, s = c :: r → False) (r : List Char) :
    s' ≠ c :: r := by
  rintro rfl
  obtain ⟨r', hr', -⟩ := h.uncons hc
  exact hs r' hr'

theorem no_pair {d : Char} (h : Extended s s') (hc : c ≠ ')') (hd : d ≠ ')')
    (hs : ∀ r, s = c :: d :: r → False) (r : List Char) : s' ≠ c :: d :: r := by
  rintro rfl
  obtain ⟨r', rfl, hr'⟩ := h.uncons hc
  obtain ⟨t, rfl, -⟩ := hr'.uncons hd
  exact hs t rfl

theorem length_le (h : Extended s s') : s.length ≤ s'.length := by
  cases h with
  | kept => simp
  | hidden => exact Nat.le_refl _

theorem isEmpty_eq (h : Extended s s') (hs : s.isEmpty = false) : s'.isEmpty = false := by
  cases h with
  | kept => simp [closing]
  | hidden => exact hs

end Extended

/-! ### Space and comments -/

theorem skipComments_append (inComment : Bool) (s : List Char) :
    Extended (skipComments inComment s) (skipComments inComment (s ++ closing)) := by
  fun_induction skipComments inComment s with
  | case1 inComment =>
      -- the pattern ends here: a comment takes `closing` in
      cases inComment with
      | true => exact .hidden
      | false => exact .kept []
  | case2 rest ih => simpa [skipComments] using ih
  | case3 c rest hc ih => simpa [skipComments, hc] using ih
  | case4 c rest hc ih => simpa [skipComments, hc] using ih
  | case5 rest hc ih => simpa [skipComments, hc] using ih
  | case6 c rest hc hsharp =>
      rw [List.cons_append, skipComments, if_neg hc, if_neg hsharp]
      exact .kept (c :: rest)

theorem skipLayout_extended (f : Flags) (h : Extended s s') :
    Extended (skipLayout f s) (skipLayout f s') := by
  cases h with
  | hidden =>
      cases hv : f.verbose <;> simp only [skipLayout, hv, skipComments] <;> exact .hidden
  | kept =>
      unfold skipLayout
      split
      · exact skipComments_append false s
      · exact .kept s

/-- Behind layout nothing is left of a pattern, or a character of it comes next in both texts. -/
theorem skipLayout_cases (f : Flags) (h : Extended s s') :
    skipLayout f s = [] ∨ ∃ c rest rest', Extended (c :: rest) (c :: rest') ∧ Extended rest rest' ∧
      skipLayout f s = c :: rest ∧ skipLayout f s' = c :: rest' := by
  have hlayout := skipLayout_extended f h
  cases hs : skipLayout f s with
  | nil => exact Or.inl rfl
  | cons c rest =>
      rw [hs] at hlayout
      obtain ⟨rest', hs', hrest⟩ := hlayout.cons_inv
      rw [hs'] at hlayout
      exact Or.inr ⟨c, rest, rest', hlayout, hrest, rfl, hs'⟩

theorem dropWhile_extended {p : Char → Bool} (hp : p ')' = false) (h : Extended s s') :
    Extended (s.dropWhile p) (s'.dropWhile p) := by
  cases h with
  | hidden => exact .hidden
  | kept =>
      rw [List.dropWhile_append]
      split
      · next hs =>
        rw [List.isEmpty_iff.1 hs]
        simp only [closing, List.dropWhile_cons, hp]
        exact .kept []
      · exact .kept _

/-- Where a search has stopped, more text at the end changes nothing. -/
theorem dropWhile_append_of_cons {p : Char → Bool} (h : s.dropWhile p = c :: r) (t : List Char) :
    (s ++ t).dropWhile p = c :: (r ++ t) ∧ (s ++ t).takeWhile p = s.takeWhile p := by
  constructor
  · rw [List.dropWhile_append, h]
    rfl
  · rw [List.takeWhile_append, if_neg]
    intro hlength
    have hsplit := congrArg List.length (List.takeWhile_append_dropWhile (p := p) (l := s))
    rw [List.length_append, hlength, h, List.length_cons] at hsplit
    omega

theorem head?_extended (h : Extended s s') (hc : c ≠ ')') :
    s'.head? = some c ↔ s.head? = some c := by
  cases s with
  | nil =>
      rcases h.nil_inv with rfl | rfl
      · simp [closing, hc.symm]
      · rfl
  | cons d s =>
      obtain ⟨r', rfl, -⟩ := h.cons_inv
      rfl

/-- A character that decides about a hyphen is seen only if it belongs to the pattern. -/
theorem peekAfter_extended (h : Extended s s') (hc : c ≠ ')') :
    peekAfter f s' = some c ↔ peekAfter f s = some c := by
  unfold peekAfter
  cases f.verbose with
  | false => exact head?_extended h hc
  | true =>
      have hblank := dropWhile_extended (show isBlank ')' = false by decide) h
      simp only [if_true]
      split
      · next rest' hs' =>
        rw [hs'] at hblank
        obtain ⟨rest, hs, hrest⟩ := hblank.uncons (by decide)
        rw [hs]
        exact head?_extended (dropWhile_extended (by decide) hrest) hc
      · next hs' =>
        split
        · next rest hs =>
          rw [hs] at hblank
          obtain ⟨rest', hrest', -⟩ := hblank.cons_inv
          exact absurd hrest' (hs' rest')
        · exact head?_extended hblank hc

/-! ### Escapes -/

theorem scanHexDigits_extended (n value : Nat) (h : Extended s s') :
    Transfers (Both Eq Extended) (scanHexDigits f n value s) (scanHexDigits f n value s') := by
  induction n generalizing value s s' with
  | zero => exact .leaves value h
  | succ n ih =>
      cases s with
      | nil => exact .none
      | cons c s =>
          obtain ⟨s', rfl, hrest⟩ := h.cons_inv
          rw [scanHexDigits, scanHexDigits]
          cases hexValue? c with
          | none => exact .none
          | some d => exact ih _ (skipLayout_extended f hrest)

theorem scanHexBraces_extended {fuel fuel' : Nat} (hle : fuel ≤ fuel') (value : Option Nat)
    (h : Extended s s') :
    Transfers (Both Eq Extended) (scanHexBraces f fuel value s) (scanHexBraces f fuel' value s') := by
  induction fuel generalizing value fuel' s s' with
  | zero => exact .none
  | succ fuel ih =>
      obtain ⟨fuel', rfl⟩ := Nat.exists_eq_succ_of_ne_zero (show fuel' ≠ 0 by omega)
      cases s with
      | nil => exact .none
      | cons c s =>
          obtain ⟨s', rfl, hrest⟩ := h.cons_inv
          have hlayout := skipLayout_extended f hrest
          rw [scanHexBraces, scanHexBraces]
          refine .ite (.map_value value fun _ => ⟨rfl, hlayout⟩) ?_
          cases hexValue? c with
          | none => exact .none
          | some d => exact ih (by omega) _ hlayout

theorem scanCode_extended (digits : Nat) (h : Extended s s') :
    Transfers (Both Eq Extended) (scanCode f digits s) (scanCode f digits s') := by
  rcases skipLayout_cases f h with hs | ⟨c, rest, rest', hlayout, hext, hs, hs'⟩
  · simp only [scanCode, hs]
    exact .none
  · by_cases hc : c = '\x7b'
    · subst hc
      have hle := Nat.succ_le_succ hext.length_le
      simp only [scanCode, hs, hs']
      refine .bind (scanHexBraces_extended hle none (skipLayout_extended f hext)) ?_
      rintro ⟨code, after⟩ ⟨_, after'⟩ ⟨rfl, hafter⟩
      exact .bind_value (charOfCode? code) fun c => .leaves _ hafter
    · simp only [scanCode, hs, hs', List.cons.injEq, hc, false_and, false_implies, implies_true]
      refine .bind (scanHexDigits_extended digits 0 hlayout) ?_
      rintro ⟨code, after⟩ ⟨_, after'⟩ ⟨rfl, hafter⟩
      exact .bind_value (charOfCode? code) fun c => .leaves _ hafter

theorem scanName_extended {fuel fuel' : Nat} (hle : fuel ≤ fuel') (seen : List Char)
    (h : Extended s s') :
    Transfers (Both Eq Extended) (scanName f fuel seen s) (scanName f fuel' seen s') := by
  induction fuel generalizing seen fuel' s s' with
  | zero => exact .none
  | succ fuel ih =>
      obtain ⟨fuel', rfl⟩ := Nat.exists_eq_succ_of_ne_zero (show fuel' ≠ 0 by omega)
      cases s with
      | nil => exact .none
      | cons c s =>
          obtain ⟨s', rfl, hrest⟩ := h.cons_inv
          rw [scanName, scanName]
          exact .ite (.leaves seen.reverse hrest) (ih (by omega) _ (skipLayout_extended f hrest))

theorem scanProperty_extended (negated : Bool) (h : Extended s s') :
    Transfers (Both Eq Extended) (scanProperty f negated s) (scanProperty f negated s') := by
  rcases skipLayout_cases f h with hs | ⟨c, rest, rest', -, hext, hs, hs'⟩
  · simp only [scanProperty, hs]
    exact .none
  · by_cases hc : c = '\x7b'
    · subst hc
      have hle := Nat.succ_le_succ hext.length_le
      simp only [scanProperty, hs, hs']
      refine .bind (scanName_extended hle [] (skipLayout_extended f hext)) ?_
      rintro ⟨name, after⟩ ⟨_, after'⟩ ⟨rfl, hafter⟩
      exact .bind_value (bracedProperty? name) fun p =>
        .bind_value (f.property? p.1 _) fun members => .leaves _ hafter
    · simp only [scanProperty, hs, hs']
      exact .ite .none (.bind_value (propertyNamed? [c]) fun p =>
        .bind_value (f.property? p _) fun members => .leaves _ (skipLayout_extended f hext))

/-- A word is followed by its brace, so that it does not matter how long one may look for its end. -/
theorem scanWord_extended {fuel fuel' : Nat} {seen word : List Char} (h : Extended s s')
    (hle : fuel ≤ fuel') (hs : scanWord f fuel seen s = (word, '\x7d' :: r)) :
    ∃ r', Extended r r' ∧ scanWord f fuel' seen s' = (word, '\x7d' :: r') := by
  induction fuel generalizing seen fuel' s s' with
  | zero =>
      rw [scanWord] at hs
      cases hs
      obtain ⟨r', rfl, hrest⟩ := h.cons_inv
      refine ⟨r', hrest, ?_⟩
      cases fuel' with
      | zero => rfl
      | succ fuel' => rfl
  | succ fuel ih =>
      obtain ⟨fuel', rfl⟩ := Nat.exists_eq_succ_of_ne_zero (show fuel' ≠ 0 by omega)
      cases s with
      | nil =>
          rw [scanWord] at hs
          cases hs
      | cons c s =>
          obtain ⟨s', rfl, hrest⟩ := h.cons_inv
          rw [scanWord] at hs ⊢
          split at hs
          · next hc =>
            rw [if_pos hc]
            exact ih (skipLayout_extended f hrest) (by omega) hs
          · next hc =>
            cases hs
            exact ⟨s', hrest, by rw [if_neg hc]⟩

theorem scanBoundary_extended (h : Extended s s') :
    Transfers (Both Eq Extended) (scanBoundary f s) (scanBoundary f s') := by
  cases s with
  | nil =>
      rcases h.nil_inv with rfl | rfl
      · exact .leaves _ h
      · exact .leaves _ h
  | cons c rest =>
      obtain ⟨rest', rfl, hrest⟩ := h.cons_inv
      by_cases hc : c = '\x7b'
      · subst hc
        rcases skipLayout_cases f hrest with hs | ⟨c, inner, inner', hlayout, hinner, hs, hs'⟩
        · simp only [scanBoundary, hs]
          exact .none
        · simp only [scanBoundary, hs, hs']
          refine .ite ?_ (.leaves _ h)
          rintro ⟨e, r⟩ hread
          rcases hword : scanWord f (inner.length + 1) [] (c :: inner) with ⟨word, after⟩
          simp only [hword] at hread
          split at hread
          · next after =>
            obtain ⟨after', hafter, hword'⟩ :=
              scanWord_extended hlayout (Nat.succ_le_succ hinner.length_le) hword
            simp only [hword']
            -- the four words differ only in the anchor
            split at hread <;> cases hread <;> exact ⟨(_, after'), ⟨rfl, hafter⟩, rfl⟩
          · contradiction
      · simp only [scanBoundary, List.cons.injEq, hc, false_and, false_implies, implies_true]
        exact .leaves _ h

theorem scanEscape_extended (h : Extended s s') :
    Transfers (Both Eq Extended) (scanEscape f s) (scanEscape f s') := by
  cases s with
  | nil => exact .none
  | cons c s =>
      obtain ⟨s', rfl, hrest⟩ := h.cons_inv
      unfold scanEscape
      refine .ite .none (.ite (scanCode_extended 2 hrest) (.ite (scanCode_extended 4 hrest)
        (.ite (scanCode_extended 8 hrest) (.ite (scanProperty_extended false hrest)
          (.ite (scanProperty_extended true hrest)
            (.ite (.map_value _ fun _ => ⟨rfl, hrest⟩) ?_))))))
      -- of all letters only that of a word boundary looks further
      split
      case h_9 => exact scanBoundary_extended hrest
      case h_13 => exact .ite (.leaves _ hrest) .none
      all_goals exact .leaves _ hrest

end CardQuery.Regex
