/-
**White space ends every piece.**

A piece of a query ends at the next white space, unless white space stands between delimiters.  This
module shows that no scanner looks beyond it: what is read before white space does not depend on what
follows, so that the pieces of two texts with white space between them are the pieces of the one and
then the pieces of the other.

Two exceptions are part of the statements.  A value whose closing delimiter is missing takes in the
rest of the query, and a value that is missing altogether is reported in other words when white space
follows than at the end of the query.

Main definitions:

* `Fault.isUnterminated` — the fault of a value without its closing delimiter;
* `Agree` — two contents of pieces are the same but for the wording of a missing value.

Main results:

* `Token.scan_append` — a token is read before white space as at the end of the text;
* `piecesFrom_append`, `pieces_append` — the pieces of two texts with white space between them.
-/

import CardQuery.Token.Scanner
import Mathlib.Data.List.Basic

set_option autoImplicit false

namespace CardQuery

open Unicode (isBlank)

/-! ### White space and the characters of tokens -/

/-- White space stands outside the visible characters of plain text. -/
theorem code_of_isBlank {c : Char} (h : isBlank c = true) : c.toNat ≤ 0x20 ∨ 0x85 ≤ c.toNat := by
  by_contra hc
  rw [isBlank, Unicode.Ranges.has] at h
  simp [Unicode.whiteSpace, Unicode.Ranges.contains] at h
  omega

theorem ne_of_isBlank {w c : Char} (hw : isBlank w = true) (hc : isBlank c = false) : w ≠ c := by
  rintro rfl
  rw [hw] at hc
  contradiction

namespace Token

theorem isBlank_of_isIdentifierChar {c : Char} (h : isIdentifierChar c = true) :
    isBlank c = false := by
  by_contra hb
  have hcode := code_of_isBlank (by simpa using hb)
  have hval : c.toNat = c.val.toNat := rfl
  -- letters and digits by their codes, and three signs
  change (decide ('A'.val ≤ c.val ∧ c.val ≤ 'Z'.val) ||
    (decide ('a'.val ≤ c.val) && decide (c.val ≤ 'z'.val)) ||
    (decide ('0'.val ≤ c.val) && decide (c.val ≤ '9'.val)) ||
    c == '_' || c == '-' || c == '.') = true at h
  simp [UInt32.le_iff_toNat_le] at h
  rcases h with ((h | rfl) | rfl) | rfl
  · omega
  all_goals exact absurd hcode (by decide)

theorem isIdentifierChar_of_isStart {c : Char} (h : isIdentifierStart c = true) :
    isIdentifierChar c = true := by
  simp only [isIdentifierStart, Bool.or_eq_true] at h
  rcases h with h | h <;> simp [isIdentifierChar, Char.isAlphanum, h]

theorem not_isIdentifierChar_of_isBlank {w : Char} (hw : isBlank w = true) :
    isIdentifierChar w = false := by
  by_contra h
  rw [isBlank_of_isIdentifierChar (by simpa using h)] at hw
  contradiction

theorem not_isIdentifierStart_of_isBlank {w : Char} (hw : isBlank w = true) :
    isIdentifierStart w = false := by
  by_contra h
  have := isIdentifierChar_of_isStart (by simpa using h)
  rw [not_isIdentifierChar_of_isBlank hw] at this
  contradiction

end Token

/-! ### Field, modifier and operator -/

section

variable {w : Char} (t : List Char)

theorem takeWhile_append_cons {p : Char → Bool} (hw : p w = false) (s : List Char) :
    (s ++ w :: t).takeWhile p = s.takeWhile p := by
  induction s with
  | nil => simp [hw]
  | cons c s ih => by_cases hc : p c = true <;> simp [hc, ih]

theorem dropWhile_append_cons {p : Char → Bool} (hw : p w = false) (s : List Char) :
    (s ++ w :: t).dropWhile p = s.dropWhile p ++ w :: t := by
  induction s with
  | nil => simp [hw]
  | cons c s ih => by_cases hc : p c = true <;> simp [hc, ih]

/-- Is the closing delimiter missing? -/
def Fault.isUnterminated : Fault → Bool
  | .unterminatedText => true
  | .unterminatedRegex => true
  | _ => false

namespace Token

theorem scanIdentifier_append (hw : isBlank w = true) (s : List Char) :
    scanIdentifier (s ++ w :: t) = (scanIdentifier s).map fun r => (r.1, r.2 ++ w :: t) := by
  have hchar := not_isIdentifierChar_of_isBlank hw
  cases s with
  | nil => simp [scanIdentifier, not_isIdentifierStart_of_isBlank hw]
  | cons c s =>
      simp only [List.cons_append, scanIdentifier]
      split
      · simp [takeWhile_append_cons t hchar, dropWhile_append_cons t hchar]
      · rfl

/-- The operator at the head of a text, by its first character. -/
theorem scanOperator_cons (c : Char) (s : List Char) :
    scanOperator (c :: s) =
      if c = '<' then
        if s.head? = some '=' then some (.atMost, s.tail) else some (.less, s)
      else if c = '>' then
        if s.head? = some '=' then some (.atLeast, s.tail) else some (.greater, s)
      else if c = ':' then some (.has, s)
      else if c = '=' then some (.equals, s)
      else none := by
  unfold scanOperator
  split <;> simp_all [List.head?_eq_some_iff]

theorem scanOperator_append (hw : isBlank w = true) (s : List Char) :
    scanOperator (s ++ w :: t) = (scanOperator s).map fun r => (r.1, r.2 ++ w :: t) := by
  have hcolon : w ≠ ':' := ne_of_isBlank hw (by decide)
  have hequal : w ≠ '=' := ne_of_isBlank hw (by decide)
  have hless : w ≠ '<' := ne_of_isBlank hw (by decide)
  have hgreater : w ≠ '>' := ne_of_isBlank hw (by decide)
  match s with
  | [] => rw [List.nil_append, scanOperator_cons]; simp [*, scanOperator]
  | [c] =>
      -- a sign of one character is not lengthened, since white space is no equality sign
      rw [List.cons_append, List.nil_append, scanOperator_cons, scanOperator_cons]
      simp only [List.head?_cons, Option.some.injEq, hequal]
      split_ifs <;> simp_all
  | c :: d :: s =>
      rw [List.cons_append, List.cons_append, scanOperator_cons, scanOperator_cons]
      simp only [List.head?_cons, List.tail_cons, Option.some.injEq]
      split_ifs <;> rfl

theorem scanModifier_append (hw : isBlank w = true) (s : List Char) :
    scanModifier (s ++ w :: t) = (scanModifier s).map fun r => (r.1, r.2.1, r.2.2 ++ w :: t) := by
  rw [scanModifier, scanIdentifier_append t hw, scanModifier]
  cases scanIdentifier s with
  | none => rfl
  | some r =>
      simp only [Option.map_some, scanOperator_append t hw]
      cases scanOperator r.2 <;> rfl

theorem scanHead_append (hw : isBlank w = true) (s : List Char) :
    scanHead (s ++ w :: t) = (scanHead s).map fun r => (r.1, r.2 ++ w :: t) := by
  rw [scanHead, scanIdentifier_append t hw, scanHead]
  cases scanIdentifier s with
  | none => rfl
  | some r =>
      simp only [Option.map_some, scanOperator_append t hw]
      cases scanOperator r.2 with
      | none => rfl
      | some q =>
          simp only [Option.map_some, scanModifier_append t hw]
          by_cases hop : q.1 = .has
          · simp only [hop, if_true]
            cases scanModifier q.2 <;> rfl
          · simp [hop]

/-! ### Values -/

/-- What was scanned, with more text after the place where scanning ended. -/
def Scanned.extend {α : Type} (r : Scanned α) : Scanned α := (r.1, r.2 ++ t)

@[simp] theorem Scanned.cons_fst_eq_error {c : Char} {r : Scanned (List Char)} {f : Fault} :
    (Scanned.cons c r).1 = .error f ↔ r.1 = .error f := by
  rcases r with ⟨_ | _, _⟩ <;> simp [Scanned.cons, Except.map]

theorem Scanned.cons_extend (c : Char) (r : Scanned (List Char)) :
    Scanned.cons c (r.extend t) = (Scanned.cons c r).extend t := rfl

theorem scanQuoted_plain {c : Char} (hq : c ≠ '"') (hb : c ≠ '\\') (s : List Char) :
    scanQuoted (c :: s) = Scanned.cons c (scanQuoted s) := by
  rw [scanQuoted] <;> simp [hq, hb]

theorem scanRegexFrom_plain {c : Char} (hs : c ≠ '/') (hb : c ≠ '\\') (s : List Char) :
    scanRegexFrom (c :: s) = Scanned.cons c (scanRegexFrom s) := by
  rw [scanRegexFrom] <;> simp [hs, hb]

/-- A character that begins no escape, as the rows of the scanners say it. -/
theorem ne_backslash {c : Char} {s : List Char} (h : c = '\\' → s = [] → False)
    (h' : ∀ (d : Char) (r : List Char), c = '\\' → s = d :: r → False) : c ≠ '\\' := by
  intro hc
  cases s with
  | nil => exact h hc rfl
  | cons d r => exact h' d r hc rfl

/-- A quotation that is closed is read without what follows it. -/
theorem scanQuoted_append {s : List Char} (h : (scanQuoted s).1 ≠ .error .unterminatedText) :
    scanQuoted (s ++ t) = (scanQuoted s).extend t := by
  fun_induction scanQuoted s with
  -- in the first two cases the text ends before the quotation does
  | case1 => simp at h
  | case2 => simp at h
  | case3 c rest ih =>
      rw [← Scanned.cons_extend, ← ih (by simpa using h)]
      simp [scanQuoted]
  | case4 rest => simp [scanQuoted, Scanned.extend]
  | case5 c rest h₁ h₂ hq ih =>
      rw [← Scanned.cons_extend, ← ih (by simpa using h), List.cons_append]
      exact scanQuoted_plain hq (ne_backslash h₁ h₂) _

/-- A regular expression that is closed is read without what follows it. -/
theorem scanRegexFrom_append {s : List Char}
    (h : (scanRegexFrom s).1 ≠ .error .unterminatedRegex) :
    scanRegexFrom (s ++ t) = (scanRegexFrom s).extend t := by
  fun_induction scanRegexFrom s with
  -- in the first two cases the text ends before the regular expression does
  | case1 => simp at h
  | case2 => simp at h
  | case3 rest ih =>
      rw [← Scanned.cons_extend, ← ih (by simpa using h)]
      simp [scanRegexFrom]
  | case4 c rest hc ih =>
      rw [← Scanned.cons_extend, ← Scanned.cons_extend, ← ih (by simpa using h)]
      simp [scanRegexFrom]
  | case5 rest => simp [scanRegexFrom, Scanned.extend]
  | case6 c rest h₁ h₂ h₃ hs ih =>
      rw [← Scanned.cons_extend, ← ih (by simpa using h), List.cons_append]
      exact scanRegexFrom_plain hs (ne_backslash h₁ h₃) _

theorem scanRegex_cons {c : Char} (hs : c ≠ '/') (s : List Char) :
    scanRegex (c :: s) = scanRegexFrom (c :: s) := by
  rw [scanRegex]
  simp [hs]

theorem scanRegex_append {s : List Char} (h : (scanRegex s).1 ≠ .error .unterminatedRegex) :
    scanRegex (s ++ t) = (scanRegex s).extend t := by
  cases s with
  | nil => simp [scanRegex, scanRegexFrom] at h
  | cons c s =>
      by_cases hs : c = '/'
      · subst hs; rfl
      · rw [scanRegex_cons hs] at h ⊢
        rw [List.cons_append, scanRegex_cons hs, ← List.cons_append]
        exact scanRegexFrom_append t h

theorem atSeparator_append (hw : isBlank w = true) (s : List Char) :
    atSeparator (s ++ w :: t) = atSeparator s := by
  cases s <;> simp [atSeparator, hw]

theorem delimited_append (hw : isBlank w = true) (wrap : String → Operand)
    (r : Scanned (List Char)) :
    delimited wrap (r.extend (w :: t)) = (delimited wrap r).extend (w :: t) := by
  rcases r with ⟨fault | content, rest⟩
  · rfl
  · simp only [Scanned.extend, delimited, atSeparator_append t hw]
    split <;> rfl

/-- The faults of what was scanned, if there is one, are none of a missing delimiter. -/
def Scanned.IsClosed {α : Type} (r : Scanned α) : Prop :=
  ∀ fault, r.1 = .error fault → fault.isUnterminated = false

theorem delimited_error {wrap : String → Operand} {r : Scanned (List Char)} {fault : Fault}
    (h : r.1 = .error fault) : (delimited wrap r).1 = .error fault := by
  rcases r with ⟨_ | _, _⟩ <;> simp_all [delimited]

theorem not_unterminated_of_delimited {wrap : String → Operand} {r : Scanned (List Char)}
    (h : (delimited wrap r).IsClosed) {fault : Fault} (hf : fault.isUnterminated = true) :
    r.1 ≠ .error fault := by
  intro hr
  rw [h fault (delimited_error hr)] at hf
  contradiction

theorem scanOperand_blank (hw : isBlank w = true) (afterOperator : Bool) :
    scanOperand afterOperator (w :: t) = (.error (.missingValue afterOperator), w :: t) := by
  have hquote : w ≠ '"' := ne_of_isBlank hw (by decide)
  have hslash : w ≠ '/' := ne_of_isBlank hw (by decide)
  unfold scanOperand
  split <;> simp_all

theorem scanOperand_append (hw : isBlank w = true) {afterOperator : Bool} {s : List Char}
    (hs : s ≠ []) (h : (scanOperand afterOperator s).IsClosed) :
    scanOperand afterOperator (s ++ w :: t) = (scanOperand afterOperator s).extend (w :: t) := by
  unfold scanOperand at h ⊢
  -- nothing, a quotation, a regular expression or a word
  split at h
  · contradiction
  · simp only [List.cons_append]
    rw [scanQuoted_append _ (not_unterminated_of_delimited h rfl), delimited_append t hw]
  · simp only [List.cons_append]
    rw [scanRegex_append _ (not_unterminated_of_delimited h rfl), delimited_append t hw]
  · next c rest hquote hslash =>
    have hnot : (!isBlank w) = false := by simp [hw]
    simp only [List.cons_append]
    split
    · rfl
    · rw [← List.cons_append, takeWhile_append_cons (p := (!isBlank ·)) t hnot,
        dropWhile_append_cons (p := (!isBlank ·)) t hnot]
      rfl

/-! ### Tokens -/

theorem opensWithOperator_append (hw : isBlank w = true) (s : List Char) :
    opensWithOperator (s ++ w :: t) = opensWithOperator s := by
  cases s with
  | nil =>
      have hcolon : w ≠ ':' := ne_of_isBlank hw (by decide)
      have hequal : w ≠ '=' := ne_of_isBlank hw (by decide)
      have hless : w ≠ '<' := ne_of_isBlank hw (by decide)
      have hgreater : w ≠ '>' := ne_of_isBlank hw (by decide)
      simp [opensWithOperator, hcolon, hequal, hless, hgreater]
  | cons c s => rfl

theorem scanBody_nil (qualifiers : List Qualifier) (head : Option Head) :
    scanBody qualifiers head [] = (.error (.missingValue false), []) := by
  simp [scanBody, opensWithOperator, scanOperand, Except.map]

theorem scanBody_blank (hw : isBlank w = true) (qualifiers : List Qualifier) (head : Option Head) :
    scanBody qualifiers head (w :: t) = (.error (.missingValue head.isSome), w :: t) := by
  have hopens := opensWithOperator_append t hw []
  rw [List.nil_append] at hopens
  rw [scanBody, hopens, scanOperand_blank t hw]
  simp [opensWithOperator, Except.map]

theorem scanBody_append (hw : isBlank w = true) {qualifiers : List Qualifier} {head : Option Head}
    {s : List Char} (hs : s ≠ []) (h : (scanBody qualifiers head s).IsClosed) :
    scanBody qualifiers head (s ++ w :: t) = (scanBody qualifiers head s).extend (w :: t) := by
  unfold scanBody at h ⊢
  rw [opensWithOperator_append t hw]
  split at h
  · next hm => simp [hm, Scanned.extend]
  · next hm =>
    have hclosed : (scanOperand head.isSome s).IsClosed := by
      intro fault hf
      exact h fault (by simp [hf, Except.map])
    simp only [hm, scanOperand_append t hw hs hclosed]
    rfl

/-- The contents that a scanned token has before white space: its own, except that a value that was
missing at the end of the text may be missing after an operator. -/
def Scanned.WhenFollowed (r : Scanned Token) (content : Except Fault Token) : Prop :=
  content = r.1 ∨
    r = (.error (.missingValue false), []) ∧ content = .error (.missingValue true)

theorem scanBody_followed (hw : isBlank w = true) {qualifiers : List Qualifier}
    {head : Option Head} {s : List Char} (h : (scanBody qualifiers head s).IsClosed) :
    ∃ content, (scanBody qualifiers head s).WhenFollowed content ∧
      scanBody qualifiers head (s ++ w :: t) =
        (content, (scanBody qualifiers head s).2 ++ w :: t) := by
  by_cases hs : s = []
  · -- the query ends with the marks or with the operator
    subst hs
    refine ⟨_, ?_, by rw [List.nil_append, scanBody_blank t hw, scanBody_nil]; rfl⟩
    rw [scanBody_nil]
    cases head with
    | none => exact Or.inl rfl
    | some head => exact Or.inr ⟨rfl, rfl⟩
  · exact ⟨_, Or.inl rfl, scanBody_append t hw hs h⟩

/-- **A token is read before white space as at the end of the text.** -/
theorem scan_append (hw : isBlank w = true) {s : List Char} (h : (scan s).IsClosed) :
    ∃ content, (scan s).WhenFollowed content ∧
      scan (s ++ w :: t) = (content, (scan s).2 ++ w :: t) := by
  have hmark : (w == '!') = false := by simpa using ne_of_isBlank hw (by decide)
  unfold scan at h ⊢
  -- white space is no mark and begins no head, so that both texts agree up to the value
  simp only [takeWhile_append_cons (p := (· == '!')) t hmark,
    dropWhile_append_cons (p := (· == '!')) t hmark, scanHead_append t hw] at h ⊢
  cases hh : scanHead (s.dropWhile (· == '!')) with
  | none =>
      simp only [hh, Option.map_none] at h ⊢
      exact scanBody_followed t hw h
  | some r =>
      simp only [hh, Option.map_some] at h ⊢
      exact scanBody_followed t hw h

end Token

/-! ### Pieces -/

theorem piecesFrom_nil (place : Nat) : piecesFrom place [] = [] := by rw [piecesFrom]

theorem piecesFrom_blank (place : Nat) {c : Char} (hc : isBlank c = true) (s : List Char) :
    piecesFrom place (c :: s) = piecesFrom (place + 1) s := by
  rw [piecesFrom]
  simp [hc]

/-- A piece begins with every character that is no white space. -/
theorem piecesFrom_visible (place : Nat) {c : Char} (hc : isBlank c = false) (s : List Char) :
    piecesFrom place (c :: s) =
      ⟨⟨place, place + ((c :: s).length - (afterPiece (c :: s)).length)⟩,
          (Token.scan (c :: s)).1⟩ ::
        piecesFrom (place + ((c :: s).length - (afterPiece (c :: s)).length))
          (afterPiece (c :: s)) := by
  rw [piecesFrom]
  simp [hc]

/-- The places in a text that has more text before it. -/
def Span.shift (k : Nat) (span : Span) : Span := ⟨span.start + k, span.stop + k⟩

/-- The piece in a text that has more text before it. -/
def Piece.shift (k : Nat) (p : Piece) : Piece := ⟨p.span.shift k, p.content⟩

theorem piecesFrom_add (k place : Nat) (s : List Char) :
    piecesFrom (place + k) s = (piecesFrom place s).map (Piece.shift k) := by
  fun_induction piecesFrom place s with
  | case1 => rw [piecesFrom_nil]; rfl
  | case2 place c rest hc ih =>
      rw [piecesFrom_blank _ hc, ← ih]
      congr 1
      omega
  | case3 place c rest hc after stop ih =>
      have hstop : place + k + ((c :: rest).length - after.length) = stop + k := by
        simp only [stop]
        omega
      rw [piecesFrom_visible _ (by simpa using hc), hstop, ih]
      rfl

/-- The second list has the pieces of the first, except that a value that was missing at the very end
of the text may be missing after an operator. -/
inductive Followed : List Piece → List Piece → Prop
  | nil : Followed [] []
  | cons (p : Piece) {ps qs : List Piece} (rest : Followed ps qs) : Followed (p :: ps) (p :: qs)
  | last (span : Span) :
      Followed [⟨span, .error (.missingValue false)⟩] [⟨span, .error (.missingValue true)⟩]

/-- No piece is a value without its closing delimiter. -/
def AllClosed (ps : List Piece) : Prop :=
  ∀ p ∈ ps, ∀ fault, p.content = .error fault → fault.isUnterminated = false

/-- The pieces of a text before white space, and then those of the text after it. -/
theorem piecesFrom_append (hw : isBlank w = true) (place : Nat) {s : List Char}
    (h : AllClosed (piecesFrom place s)) :
    ∃ ps, Followed (piecesFrom place s) ps ∧
      piecesFrom place (s ++ w :: t) = ps ++ piecesFrom (place + s.length + 1) t := by
  fun_induction piecesFrom place s with
  | case1 place => exact ⟨[], Followed.nil, by simp [piecesFrom_blank _ hw]⟩
  | case2 place c rest hc ih =>
      obtain ⟨ps, hps, heq⟩ := ih h
      refine ⟨ps, hps, ?_⟩
      rw [List.cons_append, piecesFrom_blank _ hc, heq, List.length_cons]
      congr 2
      omega
  | case3 place c rest hc after stop ih =>
      have hvisible : isBlank c = false := by simpa using hc
      have hclosed : (Token.scan (c :: rest)).IsClosed :=
        fun fault hf => h _ List.mem_cons_self fault hf
      obtain ⟨content, hcontent, hscan⟩ := Token.scan_append t hw hclosed
      -- the piece ends where it ended, so that the pieces after it are those of the shorter text
      have hafter : afterPiece (c :: rest ++ w :: t) = after ++ w :: t := by
        rw [afterPiece, hscan, dropPiece, dropWhile_append_cons _ (by simp [hw])]
        rfl
      have hle : after.length ≤ (c :: rest).length := Nat.le_of_lt (length_afterPiece_lt hvisible)
      have hstop : place + ((c :: rest ++ w :: t).length - (after ++ w :: t).length) = stop := by
        simp only [stop, List.length_append]
        omega
      have hlen : stop + after.length = place + (c :: rest).length := by
        simp only [stop]
        omega
      obtain ⟨ps, hps, heq⟩ := ih fun p hp => h p (List.mem_cons_of_mem _ hp)
      rw [List.cons_append] at hscan hafter hstop ⊢
      rw [piecesFrom_visible _ hvisible, hafter, hstop, heq, hscan, hlen]
      rcases hcontent with rfl | ⟨hmissing, rfl⟩
      · exact ⟨_, Followed.cons _ hps, rfl⟩
      · -- nothing follows a value that is missing at the end, so that its piece is the last
        have hnil : after = [] := by simp [after, afterPiece, hmissing, dropPiece]
        rw [hnil, piecesFrom_nil] at hps
        cases hps
        refine ⟨[⟨⟨place, stop⟩, .error (.missingValue true)⟩], ?_, rfl⟩
        rw [hmissing, hnil, piecesFrom_nil]
        exact Followed.last _

/-- **The pieces of two queries with white space between them** are those of the first and then those
of the second, unless a value of the first lacks its closing delimiter. -/
theorem pieces_append (hw : isBlank w = true) {q : String} (h : AllClosed (pieces q))
    (r : String) :
    ∃ ps, Followed (pieces q) ps ∧
      pieces (q.push w ++ r) = ps ++ (pieces r).map (Piece.shift (q.length + 1)) := by
  obtain ⟨ps, hps, heq⟩ := piecesFrom_append r.toList hw 0 h
  refine ⟨ps, hps, ?_⟩
  rw [pieces, pieces, ← piecesFrom_add]
  simpa [← String.length_toList, Nat.add_comm] using heq

end

end CardQuery
