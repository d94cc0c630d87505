/-
**The operands of a predicate.**

The condition of a predicate is a text with question marks, and a list of operands beside it.  The operands
are collected from the predicate from left to right: some of its leaves have one, a mask may be needed
twice, and some have none.  Question marks of other kinds can only come from a key or from the name of the
column.  Without these every question mark stands for one operand, in the order of the list; and the text
for people has the literals of the operands in their places, whatever characters the operands themselves
have.

Main definitions:

* `Predicate.operands` — the operands of a predicate from left to right;
* `Sql.Filled` — a text with other texts in the places of its question marks.

Main results:

* `Predicate.params_toSql` — **the operands of the condition of a predicate**;
* `Sql.count_text` — the question marks of words stand for operands;
* `Sql.filled_fillIn` — filling in replaces the question marks in order;
* `Sql.Param.literalText?_literal` — the literal of a text reads back as the text;
* `Predicate.placeholders_line_up` — **question marks and operands line up**, and the text for people is
  faithful.
-/

import CardQuery.Proofs.Predicate.Structure

set_option autoImplicit false

namespace CardQuery

open Sql

/-! ### Operands -/

namespace Predicate

mutual

/-- The operands of a predicate from left to right. -/
def operands : Predicate → List Param
  | everything => []
  | contains _ needle => [.text (ignoringCase (Regex.escape needle))]
  | regex _ pattern => [.text (ignoringCase pattern)]
  | textEquals _ value => [.text (exactText value)]
  | compare _ _ value => [value.toSql]
  | inList _ values => values.map Scalar.toSql
  | present _ => []
  | hasElement _ value => [.text (exactText value)]
  | soleElement _ value _ => [.text (exactText value)]
  | bitsAllSet _ mask => [maskParam mask, maskParam mask]
  | bitsAllClear _ mask => [maskParam mask]
  | not p => p.operands
  | allOf ps => operandsAll ps
  | anyOf ps => operandsAll ps

/-- The operands of the predicates of a list. -/
def operandsAll : List Predicate → List Param
  | [] => []
  | p :: ps => p.operands ++ operandsAll ps

end

theorem operandsAll_eq (ps : List Predicate) : operandsAll ps = ps.flatMap operands := by
  induction ps with
  | nil => rw [operandsAll, List.flatMap_nil]
  | cons p ps ih => rw [operandsAll, ih, List.flatMap_cons]

@[simp] theorem operands_not (p : Predicate) : (not p).operands = p.operands := by rw [operands]

@[simp] theorem operands_allOf (ps : List Predicate) :
    (allOf ps).operands = ps.flatMap operands := by rw [operands, operandsAll_eq]

@[simp] theorem operands_anyOf (ps : List Predicate) :
    (anyOf ps).operands = ps.flatMap operands := by rw [operands, operandsAll_eq]

end Predicate

namespace Sql

/-! ### Operands of conditions -/

/-- The operands among the words of an expression. -/
def Expr.holes (e : Expr) : List Param := e.lexemes.filterMap Lexeme.param?

theorem holes_foldl {op : BinaryOp} (e : Expr) (es : List Expr) :
    (es.foldl (.binary op) e).holes = e.holes ++ es.flatMap Expr.holes := by
  induction es generalizing e with
  | nil => simp
  | cons e' es ih =>
      have hbinary : (Expr.binary op e e').holes = e.holes ++ e'.holes := by
        simp [Expr.holes, Expr.lexemes, List.filterMap_cons, Lexeme.param?]
      rw [List.foldl_cons, ih, hbinary, List.flatMap_cons, List.append_assoc]

theorem holes_joined {op : BinaryOp} {empty : Expr} (hempty : empty.holes = []) (es : List Expr) :
    (joined op empty es).holes = es.flatMap Expr.holes := by
  have hparen (e : Expr) : (Expr.paren e).holes = e.holes := by
    simp [Expr.holes, Expr.lexemes, List.filterMap_cons, Lexeme.param?]
  rcases es with _ | ⟨e, _ | ⟨e', es⟩⟩
  · exact hempty
  · rw [joined, List.flatMap_singleton]
  · rw [joined, hparen, holes_foldl, List.flatMap_cons]
    all_goals simp

theorem holes_params (values : List Scalar) :
    (Expr.itemLexemes (values.map fun value => .param value.toSql)).filterMap Lexeme.param? =
      values.map Scalar.toSql := by
  match values with
  | [] => rfl
  | [value] => rfl
  | value :: value' :: values =>
      have ih := holes_params (value' :: values)
      rw [List.map_cons] at ih
      rw [List.map_cons, List.map_cons, Expr.itemLexemes, List.map_cons, ← ih]
      · simp [Expr.lexemes, List.filterMap_cons, Lexeme.param?]
      · simp

end Sql

namespace Predicate

theorem holes_leaf {p : Predicate} (hp : p.isLeaf = true) : p.toSql.holes = p.operands := by
  cases p with
  | inList key values =>
      rw [toSql, operands]
      split
      · rename_i hvalues
        simp [List.isEmpty_iff.1 hvalues, never, Expr.holes, Expr.lexemes, Lexeme.param?]
      · simp [Expr.holes, Expr.lexemes, List.filterMap_cons, Lexeme.param?, holes_params]
  | soleElement key value distinct =>
      cases distinct <;> simp [toSql, operands, Expr.holes, matching, elementCount, noOtherThan,
        Expr.lexemes, Expr.itemLexemes, Expr.branchLexemes, List.filterMap_cons, Lexeme.param?]
  | not | allOf | anyOf => contradiction
  | _ =>
      simp [toSql, operands, Expr.holes, always, matching, maskedBits, Expr.lexemes,
        List.filterMap_cons, Lexeme.param?]

theorem holes_toSql (p : Predicate) : p.toSql.holes = p.operands := by
  have hmembers {ps : List Predicate} (ih : ∀ p ∈ ps, p.toSql.holes = p.operands) :
      (ps.map toSql).flatMap Expr.holes = ps.flatMap operands := by
    rw [List.flatMap_map]
    exact List.flatMap_congr ih
  induction p using Predicate.induction with
  | leaf p hp => exact holes_leaf hp
  | neg p ih =>
      rw [toSql, operands_not, ← ih]
      simp [Expr.holes, Expr.lexemes, List.filterMap_cons, Lexeme.param?]
  | all ps ih =>
      rw [toSql_allOf, holes_joined rfl, operands_allOf, hmembers ih]
  | any ps ih =>
      rw [toSql_anyOf, holes_joined rfl, operands_anyOf, hmembers ih]

/-- **The operands of the condition of a predicate** are those of the predicate, in any column. -/
theorem params_toSql (p : Predicate) (column : String) : p.toSql.params column = p.operands := by
  rw [Expr.params_eq]
  exact p.holes_toSql

end Predicate

/-! ### Question marks -/

namespace Sql

theorem Lexeme.text_hole (column : String) (o : Param) : (hole o).text column = ['?'] := by
  simp [text, mark?, Mark.text, tail]

section

variable {keys : List String} {column : String} (hkeys : ∀ key ∈ keys, '?' ∉ key.toList)
  (hcolumn : '?' ∉ column.toList)

include hkeys hcolumn

/-- A question mark in a word stands for an operand, if no key and no column has one. -/
theorem Lexeme.count_text {l : Lexeme} (h : l.Names keys) :
    (l.text column).count '?' = l.param?.toList.length := by
  have hmark : ∀ m ∈ Mark.all, m ≠ .hole → m.text.toList.count '?' = 0 := by decide +kernel
  have hcolumn : column.toList.count '?' = 0 := List.count_eq_zero.2 hcolumn
  have hquoted {key closing : String} (hkey : '?' ∉ key.toList) :
      (quoted key closing).count '?' = closing.toList.count '?' := by
    simp [quoted, List.count_eq_zero.2 hkey]
  cases l with
  | word w => simp [text, mark?, tail, param?, hmark _ (Mark.mem_all (.word w))]
  | value f key =>
      simp [text, mark?, tail, param?, hmark _ (Mark.mem_all (.value f)), hcolumn,
        hquoted (hkeys key h)]
  | someElement key =>
      simp [text, mark?, tail, param?, hmark _ (Mark.mem_all .someElement), hcolumn,
        hquoted (hkeys key h)]
  | number n =>
      have hdigits : '?' ∉ (Nat.repr n).toList := by
        rw [Nat.toList_repr]
        intro hmem
        have hdigit := Nat.isDigit_of_mem_toDigits (by decide) (by decide) hmem
        contradiction
      rw [text_number, List.count_eq_zero.2 hdigits]
      rfl
  | label name =>
      have hlabels : ∀ name ∈ ["array", "text", "integer", "real"], '?' ∉ name.toList := by decide
      simp [text, mark?, tail, param?, hmark _ (Mark.mem_all .label), hquoted (hlabels name h)]
  | hole o => simp [text_hole, param?]

/-- The question marks of words are as many as their operands. -/
theorem count_text {ls : List Lexeme} (h : ∀ l ∈ ls, l.Names keys) :
    (ls.flatMap (Lexeme.text column)).count '?' = (ls.filterMap Lexeme.param?).length := by
  induction ls with
  | nil => rfl
  | cons l ls ih =>
      rw [List.forall_mem_cons] at h
      rw [List.flatMap_cons, List.count_append, Lexeme.count_text hkeys hcolumn h.1, ih h.2]
      cases hl : l.param? with
      | none => rw [List.filterMap_cons_none hl, Option.toList_none, List.length_nil, Nat.zero_add]
      | some o => rw [List.filterMap_cons_some hl, Option.toList_some, List.length_singleton,
          List.length_cons, Nat.add_comm]

end

/-- The operand at a place is the one at the hole behind so many others. -/
theorem getElem?_holes {ls : List Lexeme} {k : Nat} {o : Param} :
    (ls.filterMap Lexeme.param?)[k]? = some o ↔
      ∃ before after, ls = before ++ .hole o :: after ∧
        (before.filterMap Lexeme.param?).length = k := by
  constructor
  · intro h
    obtain ⟨hk, hget⟩ := List.getElem?_eq_some_iff.1 h
    have hsplit := List.take_append_drop k (ls.filterMap Lexeme.param?)
    rw [List.drop_eq_getElem_cons hk, hget] at hsplit
    obtain ⟨front, back, rfl, hfront, hback⟩ := List.filterMap_eq_append_iff.1 hsplit.symm
    obtain ⟨plain, l, after, rfl, hplain, hl, -⟩ := List.filterMap_eq_cons_iff.1 hback
    have hhole : l = .hole o := by
      cases l with
      | hole o' => rw [Option.some.inj hl]
      | _ => contradiction
    refine ⟨front ++ plain, after, by rw [hhole, List.append_assoc], ?_⟩
    rw [List.filterMap_append, List.filterMap_eq_nil_iff.2 hplain, List.append_nil, hfront,
      List.length_take_of_le (Nat.le_of_lt hk)]
  · rintro ⟨before, after, rfl, rfl⟩
    rw [List.filterMap_append, List.getElem?_append_right (Nat.le_refl _), Nat.sub_self]
    rfl

/-! ### Text for people -/

/-- The second text is the first one with the given texts in the places of its question marks, the first
of them in that of the first one, and with nothing else changed. -/
inductive Filled : List Char → List (List Char) → List Char → Prop
  | nil : Filled [] [] []
  | keep {c : Char} {s s' : List Char} {texts : List (List Char)} (hc : c ≠ '?')
      (h : Filled s texts s') : Filled (c :: s) texts (c :: s')
  | fill {s s' text : List Char} {texts : List (List Char)} (h : Filled s texts s') :
      Filled ('?' :: s) (text :: texts) (text ++ s')

theorem fillIn_nil (s : List Char) : fillIn s [] = s := by
  cases s <;> rfl

/-- Filling in replaces the question marks in order, when there are as many as operands. -/
theorem filled_fillIn {s : List Char} {params : List Param} (h : s.count '?' = params.length) :
    Filled s (params.map fun o => o.literal.toList) (fillIn s params) := by
  induction s generalizing params with
  | nil =>
      rw [List.length_eq_zero_iff.1 h.symm]
      exact .nil
  | cons c s ih =>
      by_cases hc : c = '?'
      · subst hc
        rw [List.count_cons_self] at h
        match params with
        | [] => contradiction
        | o :: params => exact .fill (ih (Nat.succ.inj h))
      · rw [List.count_cons_of_ne (Ne.symm hc ∘ Eq.symm)] at h
        have hfill : fillIn (c :: s) params = c :: fillIn s params := by
          cases params with
          | nil => rw [fillIn_nil, fillIn_nil]
          | cons o params => rw [fillIn, if_neg hc]
        rw [hfill]
        exact .keep hc (ih h)

/-- The literal of a text is the text between quotes, with the quotes in it doubled. -/
theorem Param.literalText?_literal (s : String) :
    ∃ inner, (Param.text s).literal.toList = '\x27' :: inner ++ ['\x27'] ∧
      literalText? inner = some s.toList := by
  refine ⟨s.toList.flatMap fun c => if c = '\x27' then [c, c] else [c], ?_, ?_⟩
  · rw [Param.literal, String.toList_ofList]
  · induction s.toList with
    | nil => rfl
    | cons c s ih =>
        rw [List.flatMap_cons]
        by_cases hc : c = '\x27'
        · subst hc
          simp [literalText?, ih]
        · simp [literalText?, hc, ih]

end Sql

/-! ### Predicates -/

namespace Predicate

/-- **Question marks and operands line up.**

If neither a key of a predicate nor the column has a question mark, the condition has as many question
marks as operands.  These are the operands of the predicate from left to right, and each is the one at the
hole that is written as the question mark in its place.  The text for people is the condition with the
question marks replaced by the literals of the operands in order, and the literal of a text reads back as
the text. -/
theorem placeholders_line_up (p : Predicate) (column : String)
    (hkeys : ∀ key ∈ p.keys, '?' ∉ key.toList) (hcolumn : '?' ∉ column.toList) :
    let clause := (p.toSql.clause column).toList
    let params := p.toSql.params column
    params = p.operands ∧ clause.count '?' = params.length ∧
      (∀ k o, params[k]? = some o ↔
        ∃ before after, p.toSql.lexemes = before ++ .hole o :: after ∧
          clause = before.flatMap (Lexeme.text column) ++ '?' :: after.flatMap (Lexeme.text column) ∧
          (before.flatMap (Lexeme.text column)).count '?' = k) ∧
      Filled clause (params.map fun o => o.literal.toList) (p.toSql.inlined column).toList ∧
      ∀ s, .text s ∈ params → ∃ inner,
        (Param.text s).literal.toList = '\x27' :: inner ++ ['\x27'] ∧
          literalText? inner = some s.toList := by
  intro clause params
  have hclause : clause = p.toSql.lexemes.flatMap (Lexeme.text column) :=
    p.toSql.clause_toList column
  have hparams : params = p.toSql.lexemes.filterMap Lexeme.param? := p.toSql.params_eq column
  have hcount : clause.count '?' = params.length := by
    rw [hclause, hparams]
    exact count_text hkeys hcolumn p.names_toSql
  have hfilled := filled_fillIn hcount
  have hplaces (k : Nat) (o : Param) : params[k]? = some o ↔
      ∃ before after, p.toSql.lexemes = before ++ .hole o :: after ∧
        clause = before.flatMap (Lexeme.text column) ++ '?' :: after.flatMap (Lexeme.text column) ∧
        (before.flatMap (Lexeme.text column)).count '?' = k := by
    rw [hparams, getElem?_holes]
    refine exists₂_congr fun before after => and_congr_right fun hsplit => ?_
    have hbefore : ∀ l ∈ before, l.Names p.keys := fun l hl =>
      p.names_toSql l (by rw [hsplit]; exact List.mem_append_left _ hl)
    have htext : clause =
        before.flatMap (Lexeme.text column) ++ '?' :: after.flatMap (Lexeme.text column) := by
      rw [hclause, hsplit, List.flatMap_append, List.flatMap_cons, Lexeme.text_hole,
        List.singleton_append]
    rw [count_text hkeys hcolumn hbefore]
    exact ⟨fun h => ⟨htext, h⟩, fun h => h.2⟩
  refine ⟨p.params_toSql column, hcount, hplaces, ?_, fun s _ => Param.literalText?_literal s⟩
  rw [Expr.inlined, String.toList_ofList]
  exact hfilled

/-- Operands with a question mark and with a quote, one below a negation, and a mask that is needed twice. -/
theorem placeholders_line_up_quotes :
    let p : Predicate :=
      .allOf [.contains "name" "what?", .not (.textEquals "name" "it\x27s"), .bitsAllSet "color" 3]
    let text := "(json_extract(data, \x27$.name\x27) REGEXP \x27(?i)what\\?\x27 AND " ++
      "NOT COALESCE((json_extract(data, \x27$.name\x27) REGEXP \x27(?i)^it\x27\x27s$\x27), 0) AND " ++
      "(json_extract(data, \x27$.color\x27) & 3) = 3)"
    (∀ key ∈ p.keys, '?' ∉ key.toList) ∧ '?' ∉ "data".toList ∧
      p.operands = [.text "(?i)what\\?", .text "(?i)^it\x27s$", .integer 3, .integer 3] ∧
      (p.toSql.clause "data").toList.count '?' = 4 ∧
      Filled (p.toSql.clause "data").toList (p.operands.map fun o => o.literal.toList) text.toList := by
  intro p text
  have hkeys : ∀ key ∈ p.keys, '?' ∉ key.toList := by decide +kernel
  have hcolumn : '?' ∉ "data".toList := by decide
  have htext : (p.toSql.inlined "data").toList = text.toList := by
    rw [Expr.inlined, String.toList_ofList, p.toSql.clause_toList, p.params_toSql,
      String.toList_append, String.toList_append]
    decide +kernel
  obtain ⟨hparams, hcount, -, hfilled, -⟩ := placeholders_line_up p "data" hkeys hcolumn
  rw [hparams] at hcount hfilled
  rw [htext] at hfilled
  exact ⟨hkeys, hcolumn, by decide +kernel, hcount, hfilled⟩

end Predicate

end CardQuery
