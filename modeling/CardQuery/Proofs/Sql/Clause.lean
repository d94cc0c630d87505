/-
**The text of a condition.**

The text of an expression is that of its words.  No word begins with another one, except that a number
may begin with a shorter one and a quote with two of them; neither happens in an expression, where a
blank, a comma or a parenthesis stands behind every operand.  So the text has one division into words
and, with the operands that stand for its question marks, there is one expression that needs no further
parentheses and has this text.

Main definitions:

* `Sql.Lexeme.text`, `Sql.Lexeme.param?` — the text of a word, and the operand at a hole;
* `Sql.Expr.Delimited` — no key and no label ends the quotes that it stands in;
* `Sql.Mark` — what words begin with.

Main results:

* `Sql.Expr.clause_toList`, `Sql.Expr.params_eq` — text and operands of an expression by its words;
* `Sql.Lexeme.decode_unique` — the first word of a text and the text behind it;
* `Sql.Expr.eq_of_clause_eq` — **the text and its operands have one reading**.
-/

import CardQuery.Proofs.Sql.Grammar
import CardQuery.Sql.Path
import Mathlib.Data.List.Basic

set_option autoImplicit false

namespace CardQuery.Sql

/-! ### Texts of words -/

/-- The text of a word. -/
def Word.text : Word → String
  | element => "e.value"
  | operator op => " " ++ op.sign ++ " "
  | isIn => " IN ("
  | isNotNull => " IS NOT NULL"
  | not => "NOT "
  | coalesce => "COALESCE("
  | cases => "CASE"
  | when => " WHEN "
  | result => " THEN "
  | otherwise => " ELSE "
  | finish => " END"
  | comma => ", "
  | opening => "("
  | closing => ")"

/-- The name of a function. -/
def Accessor.name : Accessor → String
  | extract => "json_extract"
  | typeOf => "json_type"
  | lengthOf => "json_array_length"

/-- What a word begins with, whatever key or label it has. -/
inductive Mark where
  | word (w : Word)
  | value (f : Accessor)
  | someElement
  | label
  | hole
deriving DecidableEq, Repr

/-- The text of a mark. -/
def Mark.text : Mark → String
  | word w => w.text
  | value f => f.name ++ "("
  | someElement => "EXISTS (SELECT 1 FROM json_each("
  | label => "\x27"
  | hole => "?"

namespace Lexeme

/-- What a word begins with; numbers are told by their digits. -/
def mark? : Lexeme → Option Mark
  | word w => some (.word w)
  | value f _ => some (.value f)
  | someElement _ => some .someElement
  | number _ => none
  | label _ => some .label
  | hole _ => some .hole

/-- A text up to the quote that ends it, and what stands behind the quote. -/
def quoted (literal closing : String) : List Char := literal.toList ++ '\x27' :: closing.toList

/-- What stands behind the mark of a word. -/
def tail (column : String) : Lexeme → List Char
  | value _ key => column.toList ++ (", \x27$.".toList ++ quoted key ")")
  | someElement key => column.toList ++ (", \x27$.".toList ++ quoted key ") AS e WHERE ")
  | label text => quoted text ""
  | number n => (Nat.repr n).toList
  | _ => []

/-- The text of a word. -/
def text (column : String) (l : Lexeme) : List Char :=
  ((l.mark?.map Mark.text).getD "").toList ++ l.tail column

/-- The operand at a hole. -/
def param? : Lexeme → Option Param
  | hole p => some p
  | _ => none

/-- The pieces of text that a word is written as. -/
def fragments (column : String) : Lexeme → List Fragment
  | word w => [.word w.text]
  | value f key => [.word (call f.name column key)]
  | someElement key =>
    [.word "EXISTS (SELECT 1 FROM ", .word (call "json_each" column key), .word " AS e WHERE "]
  | number n => [.word (Nat.repr n)]
  | label text => [.word ("\x27" ++ text ++ "\x27")]
  | hole p => [.hole p]

theorem toList_fragments (column : String) (l : Lexeme) :
    (String.join ((l.fragments column).map Fragment.text)).toList = l.text column := by
  cases l <;>
    simp [fragments, Fragment.text, text, mark?, Mark.text, tail, quoted, call, pathOf]

theorem filterMap_fragments (column : String) (l : Lexeme) :
    (l.fragments column).filterMap Fragment.param? = l.param?.toList := by
  cases l <;> rfl

end Lexeme

/-! ### Text and operands by words -/

namespace Expr

mutual

/-- The pieces of an expression are those of its words. -/
theorem fragments_eq (column : String) (e : Expr) :
    e.fragments column = e.lexemes.flatMap (Lexeme.fragments column) := by
  cases e with
  | extract key => rfl
  | typeOf key => rfl
  | lengthOf key => rfl
  | element => rfl
  | number n => rfl
  | label text => rfl
  | param p => rfl
  | binary op left right =>
      simp [fragments, lexemes, fragments_eq column left, fragments_eq column right,
        Lexeme.fragments, Word.text]
  | isIn e items =>
      simp [fragments, lexemes, fragments_eq column e, itemFragments_eq column items,
        Lexeme.fragments, Word.text]
  | isNotNull e => simp [fragments, lexemes, fragments_eq column e, Lexeme.fragments, Word.text]
  | not e => simp [fragments, lexemes, fragments_eq column e, Lexeme.fragments, Word.text]
  | coalesce e otherwise =>
      simp [fragments, lexemes, fragments_eq column e, fragments_eq column otherwise,
        Lexeme.fragments, Word.text]
  | «exists» key condition =>
      simp [fragments, lexemes, fragments_eq column condition, Lexeme.fragments, Word.text]
  | cases branches otherwise =>
      simp [fragments, lexemes, fragments_eq column otherwise, branchFragments_eq column branches,
        Lexeme.fragments, Word.text]
  | paren e => simp [fragments, lexemes, fragments_eq column e, Lexeme.fragments, Word.text]

theorem itemFragments_eq (column : String) (items : List Expr) :
    itemFragments column items = (itemLexemes items).flatMap (Lexeme.fragments column) := by
  match items with
  | [] => rfl
  | [e] => rw [itemFragments, itemLexemes, fragments_eq column e]
  | e :: e' :: rest =>
      simp [itemFragments, itemLexemes, fragments_eq column e, itemFragments_eq column (e' :: rest),
        Lexeme.fragments, Word.text]

theorem branchFragments_eq (column : String) (branches : List (Expr × Expr)) :
    branchFragments column branches = (branchLexemes branches).flatMap (Lexeme.fragments column) := by
  match branches with
  | [] => rfl
  | (c, e) :: rest =>
      simp [branchFragments, branchLexemes, fragments_eq column c, fragments_eq column e,
        branchFragments_eq column rest, Lexeme.fragments, Word.text]

end

/-- The text of an expression is that of its words. -/
theorem clause_toList (column : String) (e : Expr) :
    (e.clause column).toList = e.lexemes.flatMap (Lexeme.text column) := by
  rw [clause, fragments_eq]
  induction e.lexemes with
  | nil => rfl
  | cons l ls ih =>
      rw [List.flatMap_cons, List.map_append, String.join_append, String.toList_append, ih,
        Lexeme.toList_fragments, List.flatMap_cons]

/-- The operands of an expression are those of its words. -/
theorem params_eq (column : String) (e : Expr) :
    e.params column = e.lexemes.filterMap Lexeme.param? := by
  rw [params, fragments_eq]
  induction e.lexemes with
  | nil => rfl
  | cons l ls ih =>
      rw [List.flatMap_cons, List.filterMap_append, ih, Lexeme.filterMap_fragments]
      cases l <;> rfl

end Expr

/-! ### The first word of a text -/

/-- A text that goes on with neither a digit nor a quote. -/
def StartsFresh (s : List Char) : Prop := ∀ c ∈ s.head?, c.isDigit = false ∧ c ≠ '\x27'

theorem literalText?_quote_isSome {s : List Char} :
    (literalText? ('\x27' :: s)).isSome = true ↔
      ∃ rest, s = '\x27' :: rest ∧ (literalText? rest).isSome = true := by
  match s with
  | [] => simp [literalText?]
  | c :: rest =>
      by_cases hc : c = '\x27'
      · subst hc
        simp [literalText?]
      · simp [literalText?, hc]

theorem literalText?_cons_isSome {c : Char} (hc : c ≠ '\x27') (s : List Char) :
    (literalText? (c :: s)).isSome = (literalText? s).isSome := by
  simp [literalText?, hc]

/-- A text in which every quote is doubled ends at the first quote that is not. -/
theorem literal_unique {a b r r' : List Char} (ha : (literalText? a).isSome = true)
    (hb : (literalText? b).isSome = true) (hr : r.head? ≠ some '\x27') (hr' : r'.head? ≠ some '\x27')
    (h : a ++ '\x27' :: r = b ++ '\x27' :: r') : a = b ∧ r = r' := by
  match a, b with
  | [], [] => exact ⟨rfl, (List.cons.inj h).2⟩
  | [], d :: b =>
      obtain ⟨rfl, rfl⟩ := List.cons.inj h
      obtain ⟨rest, rfl, -⟩ := literalText?_quote_isSome.1 hb
      exact absurd rfl hr
  | c :: a, [] =>
      obtain ⟨rfl, rfl⟩ := List.cons.inj h
      obtain ⟨rest, rfl, -⟩ := literalText?_quote_isSome.1 ha
      exact absurd rfl hr'
  | c :: a, d :: b =>
      obtain ⟨rfl, htail⟩ := List.cons.inj h
      by_cases hc : c = '\x27'
      · subst hc
        obtain ⟨a, rfl, ha'⟩ := literalText?_quote_isSome.1 ha
        obtain ⟨b, rfl, hb'⟩ := literalText?_quote_isSome.1 hb
        obtain ⟨rfl, rfl⟩ := literal_unique ha' hb' hr hr' (List.cons.inj htail).2
        exact ⟨rfl, rfl⟩
      · rw [literalText?_cons_isSome hc] at ha hb
        obtain ⟨rfl, rfl⟩ := literal_unique ha hb hr hr' htail
        exact ⟨rfl, rfl⟩

/-- The digits of a number end where other characters begin. -/
theorem digits_unique {n m : Nat} {r r' : List Char} (hr : StartsFresh r) (hr' : StartsFresh r')
    (h : (Nat.repr n).toList ++ r = (Nat.repr m).toList ++ r') : n = m ∧ r = r' := by
  have hdigits (k : Nat) : ∀ c ∈ (Nat.repr k).toList, c.isDigit = true := by
    intro c hc
    rw [Nat.toList_repr] at hc
    exact Nat.isDigit_of_mem_toDigits (by decide) (by decide) hc
  have hnone {s : List Char} (hs : StartsFresh s) : s.takeWhile Char.isDigit = [] := by
    match s with
    | [] => rfl
    | c :: s => rw [List.takeWhile_cons, (hs c rfl).1, if_neg Bool.false_ne_true]
  have htake := congrArg (List.takeWhile Char.isDigit) h
  rw [List.takeWhile_append_of_pos (hdigits n), List.takeWhile_append_of_pos (hdigits m), hnone hr,
    hnone hr', List.append_nil, List.append_nil, Nat.toList_repr, Nat.toList_repr] at htake
  have hnm : n = m := by
    rw [← Nat.ofDigitChars_toDigits (b := 10) (n := n) (by decide) (by decide), htake,
      Nat.ofDigitChars_toDigits (by decide) (by decide)]
  subst hnm
  exact ⟨rfl, List.append_cancel_left h⟩

namespace Mark

/-- All marks. -/
def all : List Mark :=
  ([.element, .isIn, .isNotNull, .not, .coalesce, .cases, .when, .result, .otherwise, .finish, .comma,
    .opening, .closing].map .word) ++
  ([.regexp, .equal, .less, .atMost, .greater, .atLeast, .bitAnd, .and, .or].map fun op =>
    .word (.operator op)) ++
  [.value .extract, .value .typeOf, .value .lengthOf, .someElement, .label, .hole]

theorem mem_all (m : Mark) : m ∈ all := by
  cases m with
  | word w =>
      cases w with
      | operator op => cases op <;> decide
      | _ => decide
  | value f => cases f <;> decide
  | _ => decide

/-- No mark begins with another one. -/
theorem eq_of_prefix {a b : Mark} (h : a.text.toList <+: b.text.toList) : a = b := by
  have hall : ∀ a ∈ all, ∀ b ∈ all, a.text.toList.isPrefixOf b.text.toList = true → a = b := by
    decide +kernel
  exact hall a (mem_all a) b (mem_all b) (List.isPrefixOf_iff_prefix.2 h)

/-- No mark begins with a digit, and only that of labels with a quote. -/
theorem head?_text (m : Mark) :
    ∃ c, m.text.toList.head? = some c ∧ c.isDigit = false ∧ (c = '\x27' → m = .label) := by
  have hall : ∀ m ∈ all,
      (m.text.toList.head?.any fun c => !c.isDigit && (c ≠ '\x27' || m = .label)) = true := by
    decide +kernel
  have hm := hall m (mem_all m)
  simp only [Option.any_eq_true, Bool.and_eq_true, Bool.not_eq_true', Bool.or_eq_true,
    decide_eq_true_eq] at hm
  obtain ⟨c, hc, hdigit, hquote⟩ := hm
  exact ⟨c, hc, hdigit, fun h => hquote.resolve_left (absurd h)⟩

end Mark

namespace Lexeme

/-- A word that ends with a digit or a quote. -/
def isOpenEnded : Lexeme → Bool
  | number _ => true
  | label _ => true
  | _ => false

/-- The key or the label of a word does not end the quotes that it stands in. -/
def IsDelimited : Lexeme → Prop
  | value _ key => (literalText? key.toList).isSome = true
  | someElement key => (literalText? key.toList).isSome = true
  | label text => (literalText? text.toList).isSome = true
  | _ => True

theorem eq_number_of_mark? {l : Lexeme} (h : l.mark? = none) : ∃ n, l = number n := by
  cases l with
  | number n => exact ⟨n, rfl⟩
  | _ => contradiction

theorem text_number (column : String) (n : Nat) :
    (number n).text column = (Nat.repr n).toList := List.nil_append _

theorem text_of_mark? {l : Lexeme} {m : Mark} (h : l.mark? = some m) (column : String) :
    l.text column = m.text.toList ++ l.tail column := by
  rw [text, h]
  rfl

/-- A key between its quotes, where another character follows. -/
theorem quoted_unique {a b : String} (closing : String) {r r' : List Char}
    (ha : (literalText? a.toList).isSome = true) (hb : (literalText? b.toList).isSome = true)
    (hr : (closing.toList ++ r).head? ≠ some '\x27') (hr' : (closing.toList ++ r').head? ≠ some '\x27')
    (h : quoted a closing ++ r = quoted b closing ++ r') : a = b ∧ r = r' := by
  simp only [quoted, List.append_assoc, List.cons_append] at h
  obtain ⟨hab, hrest⟩ := literal_unique ha hb hr hr' h
  exact ⟨String.toList_inj.1 hab, List.append_cancel_left hrest⟩

/-- Two words with one mark. -/
theorem tail_unique {column : String} {l l' : Lexeme} {r r' : List Char} {m : Mark}
    (hm : l.mark? = some m) (hm' : l'.mark? = some m) (hl : l.IsDelimited) (hl' : l'.IsDelimited)
    (hr : l.isOpenEnded = true → StartsFresh r) (hr' : l'.isOpenEnded = true → StartsFresh r')
    (h : l.tail column ++ r = l'.tail column ++ r') :
    (l = l' ∨ ∃ p p', l = hole p ∧ l' = hole p') ∧ r = r' := by
  cases l <;> cases hm <;> cases l' <;> cases hm'
  case word.refl.word.refl w => exact ⟨.inl rfl, h⟩
  case hole.refl.hole.refl p p' => exact ⟨.inr ⟨p, p', rfl, rfl⟩, h⟩
  case value.refl.value.refl f key key' =>
    simp only [tail, List.append_assoc, List.append_cancel_left_eq] at h
    obtain ⟨rfl, rfl⟩ := quoted_unique ")" hl hl' (by simp) (by simp) h
    exact ⟨.inl rfl, rfl⟩
  case someElement.refl.someElement.refl key key' =>
    simp only [tail, List.append_assoc, List.append_cancel_left_eq] at h
    obtain ⟨rfl, rfl⟩ := quoted_unique ") AS e WHERE " hl hl' (by simp) (by simp) h
    exact ⟨.inl rfl, rfl⟩
  case label.refl.label.refl text text' =>
    have hquote {s : List Char} (hs : StartsFresh s) : s.head? ≠ some '\x27' :=
      fun hc => (hs _ hc).2 rfl
    obtain ⟨rfl, rfl⟩ := quoted_unique "" hl hl' (hquote (hr rfl)) (hquote (hr' rfl)) h
    exact ⟨.inl rfl, rfl⟩

theorem toList_repr_ne_nil (n : Nat) : (Nat.repr n).toList ≠ [] := by
  rw [Nat.toList_repr]
  exact Nat.toDigits_ne_nil

theorem text_ne_nil (column : String) (l : Lexeme) : l.text column ≠ [] := by
  intro h
  cases hm : l.mark? with
  | none =>
      obtain ⟨n, rfl⟩ := eq_number_of_mark? hm
      exact toList_repr_ne_nil n h
  | some m =>
      rw [text_of_mark? hm, List.append_eq_nil_iff] at h
      obtain ⟨c, hc, -⟩ := m.head?_text
      rw [h.1] at hc
      contradiction

/-- A number does not begin with a mark. -/
theorem repr_append_ne (n : Nat) (m : Mark) (r s : List Char) :
    (Nat.repr n).toList ++ r ≠ m.text.toList ++ s := by
  intro h
  obtain ⟨c, hc, hdigit, -⟩ := m.head?_text
  obtain ⟨d, ds, hd⟩ := List.exists_cons_of_ne_nil (toList_repr_ne_nil n)
  have hmem : d ∈ Nat.toDigits 10 n := by simp [← Nat.toList_repr, hd]
  have hhead := congrArg List.head? h
  rw [hd, List.cons_append, List.head?_cons, List.head?_append, hc] at hhead
  obtain rfl : d = c := by simpa using hhead
  rw [Nat.isDigit_of_mem_toDigits (by decide) (by decide) hmem] at hdigit
  contradiction

/-- The first word of a text and the text behind it.  Where a question mark stands for an operand, the
text does not say which. -/
theorem decode_unique {column : String} {l l' : Lexeme} {r r' : List Char} (hl : l.IsDelimited)
    (hl' : l'.IsDelimited) (hr : l.isOpenEnded = true → StartsFresh r)
    (hr' : l'.isOpenEnded = true → StartsFresh r') (h : l.text column ++ r = l'.text column ++ r') :
    (l = l' ∨ ∃ p p', l = hole p ∧ l' = hole p') ∧ r = r' := by
  cases hm : l.mark? with
  | none =>
      obtain ⟨n, rfl⟩ := eq_number_of_mark? hm
      cases hm' : l'.mark? with
      | none =>
          obtain ⟨n', rfl⟩ := eq_number_of_mark? hm'
          rw [text_number, text_number] at h
          obtain ⟨rfl, rfl⟩ := digits_unique (hr rfl) (hr' rfl) h
          exact ⟨.inl rfl, rfl⟩
      | some m' =>
          rw [text_number, text_of_mark? hm', List.append_assoc] at h
          exact absurd h (repr_append_ne n m' _ _)
  | some m =>
      rw [text_of_mark? hm, List.append_assoc] at h
      cases hm' : l'.mark? with
      | none =>
          obtain ⟨n', rfl⟩ := eq_number_of_mark? hm'
          rw [text_number] at h
          exact absurd h.symm (repr_append_ne n' m _ _)
      | some m' =>
          rw [text_of_mark? hm', List.append_assoc] at h
          have hprefix := List.prefix_append m'.text.toList (l'.tail column ++ r')
          obtain rfl : m = m' := by
            rcases List.prefix_or_prefix_of_prefix ⟨_, h⟩ hprefix with hmm | hmm
            · exact Mark.eq_of_prefix hmm
            · exact (Mark.eq_of_prefix hmm).symm
          exact tail_unique hm hm' hl hl' hr hr' (List.append_cancel_left h)

end Lexeme

/-! ### All words of a text -/

/-- What can stand behind an operand: nothing, or a word without key, label or number. -/
def Continues : List Lexeme → Prop
  | [] => True
  | .word _ :: _ => True
  | _ => False

/-- Behind every word that ends with a digit or a quote stands something that tells where it ends. -/
def Spaced : List Lexeme → Prop
  | [] => True
  | l :: ls => (l.isOpenEnded = true → Continues ls) ∧ Spaced ls

theorem Continues.startsFresh {ls : List Lexeme} (h : Continues ls) (column : String) :
    StartsFresh (ls.flatMap (Lexeme.text column)) := by
  match ls with
  | [] => simp [StartsFresh]
  | .word w :: ls =>
      obtain ⟨c, hc, hdigit, hquote⟩ := (Mark.word w).head?_text
      intro d hd
      rw [List.flatMap_cons, Lexeme.text_of_mark? rfl, List.append_assoc, List.head?_append, hc] at hd
      obtain rfl : c = d := by simpa using hd
      exact ⟨hdigit, fun h => by cases hquote h⟩

namespace Expr

mutual

/-- The words of an expression are spaced, if those behind it are. -/
theorem spaced_lexemes (e : Expr) {rest : List Lexeme} (hrest : Spaced rest)
    (hcontinues : Continues rest) : Spaced (e.lexemes ++ rest) := by
  have hword {w : Word} {ls : List Lexeme} (h : Spaced ls) : Spaced (.word w :: ls) :=
    ⟨fun h => by contradiction, h⟩
  cases e with
  | number n => exact ⟨fun _ => hcontinues, hrest⟩
  | label text => exact ⟨fun _ => hcontinues, hrest⟩
  | binary op left right =>
      rw [lexemes, List.append_assoc]
      exact spaced_lexemes left (hword (spaced_lexemes right hrest hcontinues)) trivial
  | isIn e items =>
      rw [lexemes, List.append_assoc, List.append_assoc]
      exact spaced_lexemes e (hword (spaced_itemLexemes items (hword hrest) trivial)) trivial
  | isNotNull e =>
      rw [lexemes, List.append_assoc]
      exact spaced_lexemes e (hword hrest) trivial
  | not e => exact hword (spaced_lexemes e hrest hcontinues)
  | coalesce e otherwise =>
      rw [lexemes, List.append_assoc, List.append_assoc]
      exact hword (spaced_lexemes e
        (hword (spaced_lexemes otherwise (hword hrest) trivial)) trivial)
  | «exists» key condition =>
      rw [lexemes, List.append_assoc]
      exact ⟨fun h => by contradiction, spaced_lexemes condition (hword hrest) trivial⟩
  | cases branches otherwise =>
      rw [lexemes, List.append_assoc, List.append_assoc]
      exact hword (spaced_branchLexemes branches
        (hword (spaced_lexemes otherwise (hword hrest) trivial)) trivial)
  | paren e =>
      rw [lexemes, List.append_assoc]
      exact hword (spaced_lexemes e (hword hrest) trivial)
  | _ => exact ⟨fun h => by contradiction, hrest⟩

theorem spaced_itemLexemes (items : List Expr) {rest : List Lexeme} (hrest : Spaced rest)
    (hcontinues : Continues rest) : Spaced (itemLexemes items ++ rest) := by
  match items with
  | [] => exact hrest
  | [e] => exact spaced_lexemes e hrest hcontinues
  | e :: e' :: items =>
      have hitems := spaced_itemLexemes (e' :: items) hrest hcontinues
      rw [itemLexemes, List.append_assoc]
      · exact spaced_lexemes e ⟨fun h => by contradiction, hitems⟩ trivial
      · simp

theorem spaced_branchLexemes (branches : List (Expr × Expr)) {rest : List Lexeme}
    (hrest : Spaced rest) (hcontinues : Continues rest) :
    Spaced (branchLexemes branches ++ rest) := by
  match branches with
  | [] => exact hrest
  | (c, e) :: more =>
      have hmore := spaced_branchLexemes more hrest hcontinues
      have hcontinues' : Continues (branchLexemes more ++ rest) := by
        cases more with
        | nil => exact hcontinues
        | cons => trivial
      have hresult := spaced_lexemes e hmore hcontinues'
      rw [branchLexemes, List.append_assoc, List.append_assoc]
      refine ⟨fun h => by contradiction, ?_⟩
      exact spaced_lexemes c ⟨fun h => by contradiction, hresult⟩ trivial

end

/-- No key and no label of the expression ends the quotes that it stands in. -/
def Delimited (e : Expr) : Prop := ∀ l ∈ e.lexemes, l.IsDelimited

end Expr

/-- Words are given by their text, with the operands at their holes. -/
theorem lexemes_eq_of_text_eq {column : String} {ls ls' : List Lexeme} (h : Spaced ls)
    (h' : Spaced ls') (hl : ∀ l ∈ ls, l.IsDelimited) (hl' : ∀ l ∈ ls', l.IsDelimited)
    (htext : ls.flatMap (Lexeme.text column) = ls'.flatMap (Lexeme.text column))
    (hparams : ls.filterMap Lexeme.param? = ls'.filterMap Lexeme.param?) : ls = ls' := by
  induction ls generalizing ls' with
  | nil =>
      cases ls' with
      | nil => rfl
      | cons l' ls' => exact absurd (List.append_eq_nil_iff.1 htext.symm).1 (l'.text_ne_nil column)
  | cons l ls ih =>
      cases ls' with
      | nil => exact absurd (List.append_eq_nil_iff.1 htext).1 (l.text_ne_nil column)
      | cons l' ls' =>
          rw [List.forall_mem_cons] at hl hl'
          obtain ⟨hword, hrest⟩ := Lexeme.decode_unique hl.1 hl'.1
            (fun ho => (h.1 ho).startsFresh column) (fun ho => (h'.1 ho).startsFresh column) htext
          rcases hword with rfl | ⟨p, p', rfl, rfl⟩
          · have hparams : ls.filterMap Lexeme.param? = ls'.filterMap Lexeme.param? := by
              cases hp : l.param? with
              | none => rwa [List.filterMap_cons_none hp, List.filterMap_cons_none hp] at hparams
              | some p =>
                  rw [List.filterMap_cons_some hp, List.filterMap_cons_some hp] at hparams
                  exact (List.cons.inj hparams).2
            rw [ih h.2 h'.2 hl.2 hl'.2 hrest hparams]
          · obtain ⟨rfl, hothers⟩ := List.cons.inj hparams
            rw [ih h.2 h'.2 hl.2 hl'.2 hrest hothers]

/-- **The text and its operands have one reading**: there is at most one expression that needs no
further parentheses, keeps to its quotes and is written so. -/
theorem Expr.eq_of_clause_eq {column : String} {e e' : Expr} (h : e.Tight) (h' : e'.Tight)
    (hd : e.Delimited) (hd' : e'.Delimited) (hclause : e.clause column = e'.clause column)
    (hparams : e.params column = e'.params column) : e = e' := by
  have hspaced (e : Expr) : Spaced e.lexemes := by
    have hs : Spaced (e.lexemes ++ []) := spaced_lexemes e trivial trivial
    rwa [List.append_nil] at hs
  have htext := congrArg String.toList hclause
  rw [clause_toList, clause_toList] at htext
  rw [params_eq, params_eq] at hparams
  exact h.lexemes_injective h' (lexemes_eq_of_text_eq (hspaced e) (hspaced e') hd hd' htext hparams)

end CardQuery.Sql
