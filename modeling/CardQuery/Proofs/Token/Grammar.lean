/-
**The grammar of tokens.**

A token is marks, a head or none, and a value.  Where a text could be read in two ways the longer head
counts, so that every text is at most one token.

Main definitions:

* `Token.TokenText` — **the texts of tokens**;
* `Token.Writable`, `Token.written` — the tokens that have a text, and one text for each of them.

Main results:

* `Token.scan_eq_ok_iff` — **the scanner reads a token exactly where the grammar has one**;
* `Token.TokenText.unique` — a text is at most one token;
* `Token.exists_tokenText_iff` — the tokens that have a text.
-/

import CardQuery.Proofs.Token.Head
import CardQuery.Proofs.Token.Value

set_option autoImplicit false

namespace CardQuery

open Unicode (isBlank)

namespace Token

/-! ### Tokens -/

/-- The token with a head, or without one. -/
def ofParts (marks : Nat) (head : Option Head) (operand : Operand) : Token where
  qualifiers := List.replicate marks .negation
  field := head.map fun h => String.ofList h.field
  modifier := head.bind fun h => h.modifier.map String.ofList
  operator := head.map (·.operator)
  operand := operand

/-- **The texts of tokens**: marks, then a head or none, then a value.  A token has no head only when
no head could be read, and no modifier only when none could be read after the colon. -/
inductive TokenText : List Char → Token → Prop
  | raw (marks : Nat) {value : List Char} {operand : Operand} (hvalue : ValueText false value operand)
      (hmark : value.head? ≠ some '!') (hhead : ¬OpensHead value) :
      TokenText (List.replicate marks '!' ++ value) (ofParts marks none operand)
  | plain (marks : Nat) {field value : List Char} {op : Operator} {operand : Operand}
      (hfield : IsIdentifier field) (hmodifier : op = .has → ¬OpensHead value)
      (hvalue : ValueText true value operand) :
      TokenText (List.replicate marks '!' ++ (field ++ (op.sign.toList ++ value)))
        (ofParts marks (some ⟨field, none, op⟩) operand)
  | modified (marks : Nat) {field modifier value : List Char} {op : Operator} {operand : Operand}
      (hfield : IsIdentifier field) (hmodifier : IsIdentifier modifier)
      (hvalue : ValueText true value operand) :
      TokenText (List.replicate marks '!' ++ (field ++ ':' :: (modifier ++ (op.sign.toList ++ value))))
        (ofParts marks (some ⟨field, some modifier, op⟩) operand)

/-- A body is read exactly where there is the text of a value before a separator. -/
theorem scanBody_eq_ok_iff {marks : Nat} {head : Option Head} {s rest : List Char} {token : Token} :
    scanBody (List.replicate marks .negation) head s = (.ok token, rest) ↔
      ∃ text operand, s = text ++ rest ∧ atSeparator rest = true ∧
        ValueText head.isSome text operand ∧ token = ofParts marks head operand := by
  constructor
  · intro h
    unfold scanBody at h
    split at h
    · simp at h
    · next hopens =>
      cases ho : scanOperand head.isSome s with
      | mk result after =>
          cases result with
          | error fault => simp [ho, Except.map] at h
          | ok operand =>
              simp only [ho, Except.map, Prod.mk.injEq, Except.ok.injEq] at h
              obtain ⟨rfl, rfl⟩ := h
              obtain ⟨text, hs, hsep, hvalue⟩ :=
                scanOperand_eq_ok_iff.1 ⟨by simpa using hopens, ho⟩
              exact ⟨text, operand, hs, hsep, hvalue, rfl⟩
  · rintro ⟨text, operand, rfl, hsep, hvalue, rfl⟩
    obtain ⟨hopens, ho⟩ := scanOperand_eq_ok_iff.2 ⟨text, rfl, hsep, hvalue⟩
    unfold scanBody
    simp only [hopens, ho]
    rfl

/-- No value after an operator lengthens the sign of the operator. -/
theorem endsSign_of_valueText {value : List Char} {operand : Operand}
    (h : ValueText true value operand) (op : Operator) (rest : List Char) :
    EndsSign op (value ++ rest) := by
  intro _
  cases h with
  | quoted => simp
  | regex => simp
  | bare _ _ _ hsign =>
      intro heq
      obtain rfl := Option.some.inj heq
      exact absurd (hsign rfl) (by decide)

theorem takeWhile_marks {marks : Nat} {s : List Char} (hs : s.head? ≠ some '!') :
    (List.replicate marks '!' ++ s).takeWhile (· == '!') = List.replicate marks '!' := by
  rw [List.takeWhile_append_of_pos (by simp)]
  cases s with
  | nil => simp
  | cons c s =>
      have hc : ¬c = '!' := by simpa using hs
      simp [hc]

theorem dropWhile_marks {marks : Nat} {s : List Char} (hs : s.head? ≠ some '!') :
    (List.replicate marks '!' ++ s).dropWhile (· == '!') = s := by
  rw [List.dropWhile_append_of_pos (by simp)]
  cases s with
  | nil => rfl
  | cons c s =>
      have hc : ¬c = '!' := by simpa using hs
      simp [hc]

theorem head?_dropWhile_marks (s : List Char) : (s.dropWhile (· == '!')).head? ≠ some '!' := by
  intro h
  have := List.head?_dropWhile_not (· == '!') s
  rw [h] at this
  simp at this

/-- The marks are the exclamation marks at the head of a text. -/
theorem scan_marks (marks : Nat) {s : List Char} (hs : s.head? ≠ some '!') :
    scan (List.replicate marks '!' ++ s) =
      match scanHead s with
      | some (head, rest) => scanBody (List.replicate marks .negation) (some head) rest
      | none => scanBody (List.replicate marks .negation) none s := by
  have hmarks : (List.replicate marks '!').map (fun _ => Qualifier.negation) =
      List.replicate marks .negation := List.map_replicate
  rewrite [← hmarks, scan, takeWhile_marks hs, dropWhile_marks hs]
  rfl

theorem exists_marks (s : List Char) :
    ∃ marks r, s = List.replicate marks '!' ++ r ∧ r.head? ≠ some '!' := by
  refine ⟨(s.takeWhile (· == '!')).length, s.dropWhile (· == '!'), ?_, head?_dropWhile_marks s⟩
  have hmarks : s.takeWhile (· == '!') = List.replicate (s.takeWhile (· == '!')).length '!' := by
    refine List.eq_replicate_iff.2 ⟨rfl, fun c hc => ?_⟩
    simpa using List.all_eq_true.1 (List.all_takeWhile (p := (· == '!'))) c hc
  rw [← hmarks, List.takeWhile_append_dropWhile]

theorem head?_ne_of_append {s rest : List Char} {c : Char} (h : (s ++ rest).head? ≠ some c) :
    s.head? ≠ some c := by
  cases s with
  | nil => simp
  | cons d s => exact h

theorem head?_ne_of_identifier {name rest : List Char} (h : IsIdentifier name) :
    (name ++ rest).head? ≠ some '!' := by
  cases name with
  | nil => exact h.elim
  | cons c name =>
      intro hc
      obtain rfl := Option.some.inj hc
      exact absurd h.1 (by decide)

theorem ValueText.ne_nil {afterOperator : Bool} {text : List Char} {operand : Operand}
    (h : ValueText afterOperator text operand) : text ≠ [] := by
  cases h <;> simp

theorem head?_append_of_value {afterOperator : Bool} {text rest : List Char} {operand : Operand}
    (h : ValueText afterOperator text operand) : (text ++ rest).head? = text.head? := by
  rw [List.head?_append_of_ne_nil _ h.ne_nil]

/-- **The scanner reads a token exactly where the grammar has one before a separator.** -/
theorem scan_eq_ok_iff {s rest : List Char} {token : Token} :
    scan s = (.ok token, rest) ↔
      ∃ text, s = text ++ rest ∧ atSeparator rest = true ∧ TokenText text token := by
  constructor
  · intro h
    obtain ⟨marks, r, rfl, hr⟩ := exists_marks s
    rw [scan_marks marks hr] at h
    -- behind the marks there is a head or none, and a value in either case
    cases hh : scanHead r with
    | none =>
        simp only [hh] at h
        obtain ⟨value, operand, rfl, hsep, hvalue, rfl⟩ := scanBody_eq_ok_iff.1 h
        have hhead := scanHead_eq_none_iff.1 hh
        rw [opensHead_append_iff hsep] at hhead
        exact ⟨_, (List.append_assoc ..).symm, hsep,
          TokenText.raw marks hvalue (head?_ne_of_append hr) hhead⟩
    | some q =>
        obtain ⟨head, after⟩ := q
        simp only [hh] at h
        obtain ⟨value, operand, rfl, hsep, hvalue, rfl⟩ := scanBody_eq_ok_iff.1 h
        obtain ⟨text, rfl, htext⟩ := scanHead_eq_some_iff.1 hh
        cases htext with
        | @plain field op hfield hend hmodifier =>
            rw [opensHead_append_iff hsep] at hmodifier
            exact ⟨_, by simp, hsep, TokenText.plain marks hfield hmodifier hvalue⟩
        | @modified field modifier op hfield hmodifier hend =>
            exact ⟨_, by simp, hsep, TokenText.modified marks hfield hmodifier hvalue⟩
  · rintro ⟨text, rfl, hsep, h⟩
    cases h with
    | @raw marks value operand hvalue hmark hhead =>
        have hnone : scanHead (value ++ rest) = none :=
          scanHead_eq_none_iff.2 (by rwa [opensHead_append_iff hsep])
        rw [List.append_assoc, scan_marks marks (by rwa [head?_append_of_value hvalue]), hnone]
        exact scanBody_eq_ok_iff.2 ⟨value, operand, rfl, hsep, hvalue, rfl⟩
    | @plain marks field value op operand hfield hmodifier hvalue =>
        have hsome : scanHead (field ++ (op.sign.toList ++ (value ++ rest))) =
            some (⟨field, none, op⟩, value ++ rest) := by
          refine scanHead_eq_some_iff.2 ⟨_, (List.append_assoc ..).symm, HeadText.plain hfield ?_ ?_⟩
          · exact endsSign_of_valueText hvalue op rest
          · rwa [opensHead_append_iff hsep]
        simp only [List.append_assoc]
        rw [scan_marks marks (head?_ne_of_identifier hfield), hsome]
        exact scanBody_eq_ok_iff.2 ⟨value, operand, rfl, hsep, hvalue, rfl⟩
    | @modified marks field modifier value op operand hfield hmodifier hvalue =>
        have hsome : scanHead (field ++ ':' :: (modifier ++ (op.sign.toList ++ (value ++ rest)))) =
            some (⟨field, some modifier, op⟩, value ++ rest) :=
          scanHead_eq_some_iff.2 ⟨_, by simp,
            HeadText.modified hfield hmodifier (endsSign_of_valueText hvalue op rest)⟩
        simp only [List.append_assoc, List.cons_append]
        rw [scan_marks marks (head?_ne_of_identifier hfield), hsome]
        exact scanBody_eq_ok_iff.2 ⟨value, operand, rfl, hsep, hvalue, rfl⟩

theorem TokenText.unique {text : List Char} {t u : Token} (ht : TokenText text t)
    (hu : TokenText text u) : t = u := by
  have hscan : scan (text ++ []) = (.ok t, []) := scan_eq_ok_iff.2 ⟨text, rfl, rfl, ht⟩
  rw [scan_eq_ok_iff.2 ⟨text, rfl, rfl, hu⟩] at hscan
  simpa using hscan.symm

/-! ### Writing tokens -/

/-- A regular expression between slashes: backslashes stand before a character each, and that is no
slash. -/
inductive Paired : List Char → Prop
  | nil : Paired []
  | escape {c : Char} {rest : List Char} (hslash : c ≠ '/') (h : Paired rest) :
      Paired ('\\' :: c :: rest)
  | other {c : Char} {rest : List Char} (hback : c ≠ '\\') (h : Paired rest) : Paired (c :: rest)

/-- The values that fit between delimiters: all texts, and regular expressions that are not empty. -/
def FitsDelimiters : Operand → Prop
  | .text _ => True
  | .regex source => source.toList ≠ [] ∧ Paired source.toList

/-- The tokens that can be written: the names are identifiers, there is an operator exactly with a
field and a modifier only with a field, and a regular expression is one that fits between slashes. -/
def Writable (t : Token) : Prop :=
  (match t.field, t.modifier, t.operator with
    | none, none, none => True
    | some field, none, some _ => IsIdentifier field.toList
    | some field, some modifier, some _ =>
      IsIdentifier field.toList ∧ IsIdentifier modifier.toList
    | _, _, _ => False) ∧
  FitsDelimiters t.operand

/-- Quoted text with a backslash before quotes and backslashes. -/
def quotedBody (text : List Char) : List Char :=
  text.flatMap fun c => if c = '"' ∨ c = '\\' then ['\\', c] else [c]

/-- A regular expression with a backslash before slashes. -/
def regexBody : List Char → List Char
  | [] => []
  | '\\' :: c :: rest => '\\' :: c :: regexBody rest
  | '/' :: rest => '\\' :: '/' :: regexBody rest
  | c :: rest => c :: regexBody rest

/-- The text of a value. -/
def writtenOperand : Operand → List Char
  | .text text => '"' :: (quotedBody text.toList ++ ['"'])
  | .regex source => '/' :: (regexBody source.toList ++ ['/'])

/-- The text of a head. -/
def writtenHead (t : Token) : List Char :=
  match t.field, t.modifier, t.operator with
  | some field, none, some op => field.toList ++ op.sign.toList
  | some field, some modifier, some op =>
    field.toList ++ ':' :: (modifier.toList ++ op.sign.toList)
  | _, _, _ => []

/-- One text of a token, with text values between quotes. -/
def written (t : Token) : List Char :=
  List.replicate t.qualifiers.length '!' ++ (t.writtenHead ++ writtenOperand t.operand)

theorem quotedBody_spec (text : List Char) : QuotedBody (quotedBody text) text := by
  induction text with
  | nil => exact QuotedBody.nil
  | cons c text ih =>
      rw [quotedBody, List.flatMap_cons]
      split
      · exact QuotedBody.escaped ih
      · next h =>
        rw [not_or] at h
        exact QuotedBody.plain h.1 h.2 ih

theorem regexBody_spec {source : List Char} (h : Paired source) :
    RegexBody (regexBody source) source := by
  induction h with
  | nil => exact RegexBody.nil
  | escape hslash _ ih => exact RegexBody.escaped hslash ih
  | @other c rest hback _ ih =>
      by_cases hc : c = '/'
      · subst hc
        exact RegexBody.slash ih
      · rw [regexBody]
        · exact RegexBody.plain hc hback ih
        · simp [hback]
        · exact hc

theorem RegexBody.paired {body source : List Char} (h : RegexBody body source) : Paired source := by
  induction h with
  | nil => exact Paired.nil
  | plain _ hback _ ih => exact Paired.other hback ih
  | slash _ ih => exact Paired.other (by decide) ih
  | escaped hslash _ ih => exact Paired.escape hslash ih

/-- A value between delimiters opens no head, since its first character is in no identifier. -/
theorem not_opensHead_writtenOperand (operand : Operand) : ¬OpensHead (writtenOperand operand) := by
  rintro ⟨name, op, rest, hname, h⟩
  cases name with
  | nil => exact hname
  | cons c name =>
      cases operand with
      | text text =>
          obtain rfl := (List.cons.inj h).1
          exact absurd hname.1 (by decide)
      | regex source =>
          obtain rfl := (List.cons.inj h).1
          exact absurd hname.1 (by decide)

theorem valueText_writtenOperand {t : Token} (h : t.Writable) (afterOperator : Bool) :
    ValueText afterOperator (writtenOperand t.operand) t.operand := by
  have hoperand := h.2
  cases ho : t.operand with
  | text text =>
      have hvalue : ValueText afterOperator _ _ := ValueText.quoted (quotedBody_spec text.toList)
      rwa [String.ofList_toList] at hvalue
  | regex source =>
      rw [ho] at hoperand
      have hvalue : ValueText afterOperator _ _ :=
        ValueText.regex (regexBody_spec hoperand.2) hoperand.1
      rwa [String.ofList_toList] at hvalue

theorem qualifiers_eq (qualifiers : List Qualifier) :
    qualifiers = List.replicate qualifiers.length .negation :=
  List.eq_replicate_of_mem fun q _ => by cases q; rfl

theorem head?_writtenOperand (operand : Operand) : (writtenOperand operand).head? ≠ some '!' := by
  cases operand <;> simp [writtenOperand]

/-- **A writable token is the token of its text.** -/
theorem tokenText_written {t : Token} (h : t.Writable) : TokenText t.written t := by
  have hvalue := valueText_writtenOperand h
  have hhead := not_opensHead_writtenOperand t.operand
  have hmark := head?_writtenOperand t.operand
  obtain ⟨hnames, -⟩ := h
  obtain ⟨qualifiers, field, modifier, operator, operand⟩ := t
  have hq := qualifiers_eq qualifiers
  match field, modifier, operator with
  | none, none, none =>
      have htext := TokenText.raw qualifiers.length (hvalue false) hmark hhead
      simpa [ofParts, ← hq, written, writtenHead] using htext
  | some field, none, some op =>
      have htext := TokenText.plain qualifiers.length hnames (fun (_ : op = .has) => hhead)
        (hvalue true)
      simpa [ofParts, ← hq, written, writtenHead] using htext
  | some field, some modifier, some op =>
      have htext : TokenText _ (ofParts _ (some ⟨_, _, op⟩) _) :=
        TokenText.modified qualifiers.length hnames.1 hnames.2 (hvalue true)
      simpa [ofParts, ← hq, written, writtenHead] using htext
  -- no modifier and no operator without a field, and no field without an operator
  | none, some _, _ => exact hnames.elim
  | none, none, some _ => exact hnames.elim
  | some _, none, none => exact hnames.elim
  | some _, some _, none => exact hnames.elim

theorem fitsDelimiters_of_valueText {afterOperator : Bool} {text : List Char} {operand : Operand}
    (h : ValueText afterOperator text operand) : FitsDelimiters operand := by
  cases h with
  | quoted => trivial
  | @regex body source hbody hne => simpa [FitsDelimiters] using ⟨hne, hbody.paired⟩
  | bare => trivial

/-- **The tokens that have a text** are the writable ones. -/
theorem exists_tokenText_iff {t : Token} : (∃ text, TokenText text t) ↔ t.Writable := by
  constructor
  · rintro ⟨text, h⟩
    cases h with
    | raw _ hvalue => exact ⟨trivial, fitsDelimiters_of_valueText hvalue⟩
    | plain _ hfield _ hvalue =>
        exact ⟨by simpa [ofParts] using hfield, fitsDelimiters_of_valueText hvalue⟩
    | modified _ hfield hmodifier hvalue =>
        exact ⟨by simpa [ofParts] using ⟨hfield, hmodifier⟩, fitsDelimiters_of_valueText hvalue⟩
  · intro h
    exact ⟨t.written, tokenText_written h⟩

end Token

end CardQuery
