/-
**The values of tokens.**

A value is text between double quotes, a regular expression between slashes, or a bare word.  The two
kinds of delimiters have escapes of their own: between quotes a backslash keeps any character, between
slashes it is dropped before a slash only.

Main definitions:

* `QuotedBody`, `RegexBody` — what stands between delimiters, and the value that it stands for;
* `ValueText` — the texts of values.

Main results:

* `Token.scanQuoted_eq_ok_iff`, `Token.scanRegex_eq_ok_iff` — what is read between delimiters;
* `Token.scanOperand_eq_ok_iff` — **values are read exactly where there is the text of one**.
-/

import CardQuery.Proofs.Token.Cover

set_option autoImplicit false

namespace CardQuery

open Unicode (isBlank)

namespace Token

/-! ### Between delimiters -/

/-- What stands between double quotes, and the text that it stands for: a backslash is dropped and
the character after it kept. -/
inductive QuotedBody : List Char → List Char → Prop
  | nil : QuotedBody [] []
  | plain {c : Char} {body text : List Char} (hquote : c ≠ '"') (hslash : c ≠ '\\')
      (rest : QuotedBody body text) : QuotedBody (c :: body) (c :: text)
  | escaped {c : Char} {body text : List Char} (rest : QuotedBody body text) :
      QuotedBody ('\\' :: c :: body) (c :: text)

/-- What stands between slashes, and the regular expression that it stands for: only a slash loses
its backslash. -/
inductive RegexBody : List Char → List Char → Prop
  | nil : RegexBody [] []
  | plain {c : Char} {body source : List Char} (hslash : c ≠ '/') (hback : c ≠ '\\')
      (rest : RegexBody body source) : RegexBody (c :: body) (c :: source)
  | slash {body source : List Char} (rest : RegexBody body source) :
      RegexBody ('\\' :: '/' :: body) ('/' :: source)
  | escaped {c : Char} {body source : List Char} (hslash : c ≠ '/')
      (rest : RegexBody body source) : RegexBody ('\\' :: c :: body) ('\\' :: c :: source)

theorem Scanned.cons_eq_ok {c : Char} {r : Scanned (List Char)} {text rest : List Char}
    (h : Scanned.cons c r = (.ok text, rest)) : ∃ t, text = c :: t ∧ r = (.ok t, rest) := by
  obtain ⟨result, rest'⟩ := r
  cases result with
  | error fault => simp [Scanned.cons, Except.map] at h
  | ok t =>
      simp only [Scanned.cons, Except.map, Prod.mk.injEq, Except.ok.injEq] at h
      exact ⟨t, h.1.symm, by rw [h.2]⟩

theorem scanQuoted_eq_ok_iff {s text rest : List Char} :
    scanQuoted s = (.ok text, rest) ↔ ∃ body, s = body ++ '"' :: rest ∧ QuotedBody body text := by
  constructor
  · intro h
    fun_induction scanQuoted s generalizing text with
    | case1 => simp at h
    | case2 => simp at h
    | case3 c s ih =>
        obtain ⟨t, rfl, hr⟩ := Scanned.cons_eq_ok h
        obtain ⟨body, rfl, hbody⟩ := ih hr
        exact ⟨_, rfl, hbody.escaped⟩
    | case4 s =>
        simp only [Prod.mk.injEq, Except.ok.injEq] at h
        obtain ⟨rfl, rfl⟩ := h
        exact ⟨[], rfl, QuotedBody.nil⟩
    | case5 c s h₁ h₂ hquote ih =>
        obtain ⟨t, rfl, hr⟩ := Scanned.cons_eq_ok h
        obtain ⟨body, rfl, hbody⟩ := ih hr
        exact ⟨_, rfl, QuotedBody.plain hquote (ne_backslash h₁ h₂) hbody⟩
  · rintro ⟨body, rfl, h⟩
    induction h with
    | nil => simp [scanQuoted]
    | plain hquote hslash _ ih =>
        rw [List.cons_append, scanQuoted_plain hquote hslash, ih]
        rfl
    | escaped _ ih =>
        rw [List.cons_append, List.cons_append, scanQuoted, ih]
        rfl

theorem scanRegexFrom_eq_ok_iff {s source rest : List Char} :
    scanRegexFrom s = (.ok source, rest) ↔
      ∃ body, s = body ++ '/' :: rest ∧ RegexBody body source := by
  constructor
  · intro h
    fun_induction scanRegexFrom s generalizing source with
    | case1 => simp at h
    | case2 => simp at h
    | case3 s ih =>
        obtain ⟨t, rfl, hr⟩ := Scanned.cons_eq_ok h
        obtain ⟨body, rfl, hbody⟩ := ih hr
        exact ⟨_, rfl, hbody.slash⟩
    | case4 c s hslash ih =>
        obtain ⟨t, rfl, ht⟩ := Scanned.cons_eq_ok h
        obtain ⟨u, rfl, hu⟩ := Scanned.cons_eq_ok ht
        obtain ⟨body, rfl, hbody⟩ := ih hu
        exact ⟨_, rfl, RegexBody.escaped hslash hbody⟩
    | case5 s =>
        simp only [Prod.mk.injEq, Except.ok.injEq] at h
        obtain ⟨rfl, rfl⟩ := h
        exact ⟨[], rfl, RegexBody.nil⟩
    | case6 c s h₁ h₂ h₃ hslash ih =>
        obtain ⟨t, rfl, hr⟩ := Scanned.cons_eq_ok h
        obtain ⟨body, rfl, hbody⟩ := ih hr
        exact ⟨_, rfl, RegexBody.plain hslash (ne_backslash h₁ h₃) hbody⟩
  · rintro ⟨body, rfl, h⟩
    induction h with
    | nil => simp [scanRegexFrom]
    | plain hslash hback _ ih =>
        rw [List.cons_append, scanRegexFrom_plain hslash hback, ih]
        rfl
    | slash _ ih =>
        rw [List.cons_append, List.cons_append, scanRegexFrom, ih]
        rfl
    | escaped hslash _ ih =>
        rw [List.cons_append, List.cons_append, scanRegexFrom, ih]
        · rfl
        · exact hslash

theorem scanRegex_eq_ok_iff {s source rest : List Char} :
    scanRegex s = (.ok source, rest) ↔
      ∃ body, s = body ++ '/' :: rest ∧ RegexBody body source ∧ source ≠ [] := by
  cases s with
  | nil => simp [scanRegex, scanRegexFrom]
  | cons c s =>
      by_cases hc : c = '/'
      · -- nothing stands between the slashes
        subst hc
        simp only [scanRegex, Prod.mk.injEq, reduceCtorEq, false_and, false_iff]
        rintro ⟨body, hs, hbody, hne⟩
        cases hbody with
        | nil => exact hne rfl
        | plain hslash => exact hslash (List.cons.inj hs).1.symm
        | slash => simp at hs
        | escaped => simp at hs
      · rw [scanRegex_cons hc, scanRegexFrom_eq_ok_iff]
        constructor
        · rintro ⟨body, hs, hbody⟩
          refine ⟨body, hs, hbody, fun hnil => ?_⟩
          subst hnil
          cases hbody
          exact hc (List.cons.inj hs).1
        · rintro ⟨body, hs, hbody, -⟩
          exact ⟨body, hs, hbody⟩

theorem delimited_eq_ok_iff {wrap : String → Operand} {r : Scanned (List Char)}
    {operand : Operand} {rest : List Char} :
    delimited wrap r = (.ok operand, rest) ↔
      ∃ content, r = (.ok content, rest) ∧ atSeparator rest = true ∧
        operand = wrap (String.ofList content) := by
  obtain ⟨result, after⟩ := r
  cases result with
  | error fault => simp [delimited]
  | ok content =>
      simp only [delimited]
      split
      · next hs =>
        simp only [Prod.mk.injEq, Except.ok.injEq]
        constructor
        · rintro ⟨rfl, rfl⟩
          exact ⟨content, ⟨rfl, rfl⟩, hs, rfl⟩
        · rintro ⟨_, ⟨rfl, rfl⟩, _, rfl⟩
          exact ⟨rfl, rfl⟩
      · next hs =>
        simp only [Prod.mk.injEq, reduceCtorEq, false_and, false_iff]
        rintro ⟨_, ⟨_, rfl⟩, hsep, _⟩
        exact hs hsep

/-! ### Texts of values -/

/-- **The texts of values**: quoted text, a regular expression that is not empty, or a bare word.  The
first character of a word tells it from the other two and, after an operator, from its sign. -/
inductive ValueText (afterOperator : Bool) : List Char → Operand → Prop
  | quoted {body text : List Char} (h : QuotedBody body text) :
      ValueText afterOperator ('"' :: (body ++ ['"'])) (.text (String.ofList text))
  | regex {body source : List Char} (h : RegexBody body source) (hne : source ≠ []) :
      ValueText afterOperator ('/' :: (body ++ ['/'])) (.regex (String.ofList source))
  | bare {c : Char} {word : List Char} (hvisible : ∀ d ∈ c :: word, isBlank d = false)
      (hquote : c ≠ '"') (hslash : c ≠ '/')
      (hsign : afterOperator = true → [':', '=', '<', '>'].contains c = false) :
      ValueText afterOperator (c :: word) (.text (String.ofList (c :: word)))

theorem takeWhile_word {word rest : List Char} (hword : ∀ c ∈ word, isBlank c = false)
    (hrest : atSeparator rest = true) : (word ++ rest).takeWhile (!isBlank ·) = word := by
  rw [List.takeWhile_append_of_pos (by simpa using hword)]
  cases rest with
  | nil => simp
  | cons c rest =>
      rw [atSeparator] at hrest
      simp [hrest]

theorem dropWhile_word {word rest : List Char} (hword : ∀ c ∈ word, isBlank c = false)
    (hrest : atSeparator rest = true) : (word ++ rest).dropWhile (!isBlank ·) = rest := by
  rw [List.dropWhile_append_of_pos (by simpa using hword)]
  exact dropPiece_of_atSeparator hrest

theorem isBlank_of_mem_word {s : List Char} {c : Char} (h : c ∈ s.takeWhile (!isBlank ·)) :
    isBlank c = false := by
  simpa using List.all_eq_true.1 (List.all_takeWhile (p := (!isBlank ·))) c h

/-- The scanner reads a value exactly where there is the text of one before a separator. -/
theorem scanOperand_eq_ok_iff {afterOperator : Bool} {s rest : List Char} {operand : Operand} :
    (afterOperator && opensWithOperator s) = false ∧
        scanOperand afterOperator s = (.ok operand, rest) ↔
      ∃ text, s = text ++ rest ∧ atSeparator rest = true ∧
        ValueText afterOperator text operand := by
  constructor
  · rintro ⟨hopens, h⟩
    unfold scanOperand at h
    split at h
    · simp at h
    · obtain ⟨content, hr, hsep, rfl⟩ := delimited_eq_ok_iff.1 h
      obtain ⟨body, rfl, hbody⟩ := scanQuoted_eq_ok_iff.1 hr
      exact ⟨_, by simp, hsep, ValueText.quoted hbody⟩
    · obtain ⟨content, hr, hsep, rfl⟩ := delimited_eq_ok_iff.1 h
      obtain ⟨body, rfl, hbody, hne⟩ := scanRegex_eq_ok_iff.1 hr
      exact ⟨_, by simp, hsep, ValueText.regex hbody hne⟩
    · next c tail hquote hslash =>
      split at h
      · simp at h
      · next hc =>
        simp only [Prod.mk.injEq, Except.ok.injEq] at h
        obtain ⟨rfl, rfl⟩ := h
        have hvisible : isBlank c = false := by simpa using hc
        refine ⟨(c :: tail).takeWhile (!isBlank ·), by rw [List.takeWhile_append_dropWhile],
          atSeparator_dropWhile _, ?_⟩
        have htake : (c :: tail).takeWhile (!isBlank ·) = c :: tail.takeWhile (!isBlank ·) := by
          simp [hvisible]
        rw [htake]
        refine ValueText.bare (fun d hd => ?_) hquote hslash fun ha => ?_
        · exact isBlank_of_mem_word (htake ▸ hd)
        · simpa [ha, opensWithOperator] using hopens
  · rintro ⟨text, rfl, hsep, h⟩
    cases h with
    | @quoted body text hbody =>
        refine ⟨by simp [opensWithOperator], ?_⟩
        have hr : scanQuoted (body ++ '"' :: rest) = (.ok text, rest) :=
          scanQuoted_eq_ok_iff.2 ⟨body, rfl, hbody⟩
        simp only [List.cons_append, List.append_assoc, List.nil_append, scanOperand, hr]
        exact delimited_eq_ok_iff.2 ⟨text, rfl, hsep, rfl⟩
    | @regex body source hbody hne =>
        refine ⟨by simp [opensWithOperator], ?_⟩
        have hr : scanRegex (body ++ '/' :: rest) = (.ok source, rest) :=
          scanRegex_eq_ok_iff.2 ⟨body, rfl, hbody, hne⟩
        simp only [List.cons_append, List.append_assoc, List.nil_append, scanOperand, hr]
        exact delimited_eq_ok_iff.2 ⟨source, rfl, hsep, rfl⟩
    | @bare c word hvisible hquote hslash hsign =>
        refine ⟨?_, ?_⟩
        · cases afterOperator with
          | false => rfl
          | true => simpa [opensWithOperator] using hsign rfl
        · have hc : isBlank c = false := hvisible c List.mem_cons_self
          rw [List.cons_append, scanOperand, hc, ← List.cons_append, takeWhile_word hvisible hsep,
            dropWhile_word hvisible hsep]
          · rfl
          · exact hquote
          · exact hslash

end Token

end CardQuery
