/-
**The structure of predicates in their renderings.**

A predicate is made from leaves by negation, conjunction and alternative.  A clause of SQL and a filter
document are read by the rules of their own: in SQL a leaf may be unknown, and operators bind more or
less tightly; in a document groups are lists under an operator.  Read so, either rendering is made from
the renderings of the leaves just as the predicate is made from the leaves.

Main definitions:

* `Predicate.isLeaf`, `Predicate.boolean` — predicates without predicates in them, and the truth value
  of a predicate by those of its leaves;
* `Sql.Expr.Names` — the keys and labels that an expression has in its text;
* `Sql.IsReading` — what a clause with its operands says by the grammar of expressions;
* `CardFilter.truth` — the truth value of a filter by those of its leaves.

Main results:

* `Predicate.closed_toSql` — the condition of a predicate has all parentheses that it needs;
* `Predicate.truth_toSql`, `Predicate.truth_toFilter` — the truth values of the renderings;
* `Predicate.renderings_keep_structure` — **the two renderings keep the structure of a predicate**.
-/

import CardQuery.Filter
import CardQuery.Proofs.Predicate.Test
import CardQuery.Proofs.Sql.Clause
import CardQuery.Proofs.Sql.Truth
import CardQuery.Store.Table

set_option autoImplicit false

namespace CardQuery

open Sql

namespace Predicate

/-! ### Leaves -/

/-- Are there no predicates in the predicate? -/
def isLeaf : Predicate → Bool
  | not _ => false
  | allOf _ => false
  | anyOf _ => false
  | _ => true

mutual

/-- The truth value of a predicate, when its leaves have the given ones. -/
def boolean (leaf : Predicate → Bool) : Predicate → Bool
  | everything => true
  | not p => !p.boolean leaf
  | allOf ps => booleanAll leaf ps
  | anyOf ps => booleanAny leaf ps
  | p => leaf p

/-- Are all predicates of a list true? -/
def booleanAll (leaf : Predicate → Bool) : List Predicate → Bool
  | [] => true
  | p :: ps => p.boolean leaf && booleanAll leaf ps

/-- Is one of the predicates of a list true? -/
def booleanAny (leaf : Predicate → Bool) : List Predicate → Bool
  | [] => false
  | p :: ps => p.boolean leaf || booleanAny leaf ps

/-- The keys that a predicate names. -/
def keys : Predicate → List String
  | everything => []
  | contains key _ => [key]
  | regex key _ => [key]
  | textEquals key _ => [key]
  | compare key _ _ => [key]
  | inList key _ => [key]
  | present key => [key]
  | hasElement key _ => [key]
  | soleElement key _ _ => [key]
  | bitsAllSet key _ => [key]
  | bitsAllClear key _ => [key]
  | not p => p.keys
  | allOf ps => keysAll ps
  | anyOf ps => keysAll ps

/-- The keys that the predicates of a list name. -/
def keysAll : List Predicate → List String
  | [] => []
  | p :: ps => p.keys ++ keysAll ps

end

mutual

/-- What is true of leaves and is kept by negation, conjunction and alternative is true of every
predicate. -/
@[elab_as_elim]
theorem induction {P : Predicate → Prop} (leaf : ∀ p, p.isLeaf = true → P p)
    (neg : ∀ p, P p → P (not p)) (all : ∀ ps, (∀ p ∈ ps, P p) → P (allOf ps))
    (any : ∀ ps, (∀ p ∈ ps, P p) → P (anyOf ps)) (p : Predicate) : P p := by
  cases p with
  | not p => exact neg p (induction leaf neg all any p)
  | allOf ps => exact all ps (induction_list leaf neg all any ps)
  | anyOf ps => exact any ps (induction_list leaf neg all any ps)
  | _ => exact leaf _ rfl

theorem induction_list {P : Predicate → Prop} (leaf : ∀ p, p.isLeaf = true → P p)
    (neg : ∀ p, P p → P (not p)) (all : ∀ ps, (∀ p ∈ ps, P p) → P (allOf ps))
    (any : ∀ ps, (∀ p ∈ ps, P p) → P (anyOf ps)) (ps : List Predicate) : ∀ p ∈ ps, P p := by
  cases ps with
  | nil => simp
  | cons p ps =>
      rw [List.forall_mem_cons]
      exact ⟨induction leaf neg all any p, induction_list leaf neg all any ps⟩

end

variable {leaf : Predicate → Bool}

@[simp] theorem boolean_not (p : Predicate) : (not p).boolean leaf = !p.boolean leaf := by
  rw [boolean]

@[simp] theorem boolean_allOf (ps : List Predicate) :
    (allOf ps).boolean leaf = ps.all fun p => p.boolean leaf := by
  rw [boolean]
  induction ps with
  | nil => rw [booleanAll, List.all_nil]
  | cons p ps ih => rw [booleanAll, ih, List.all_cons]

@[simp] theorem boolean_anyOf (ps : List Predicate) :
    (anyOf ps).boolean leaf = ps.any fun p => p.boolean leaf := by
  rw [boolean]
  induction ps with
  | nil => rw [booleanAny, List.any_nil]
  | cons p ps ih => rw [booleanAny, ih, List.any_cons]

theorem keysAll_eq (ps : List Predicate) : keysAll ps = ps.flatMap keys := by
  induction ps with
  | nil => rw [keysAll, List.flatMap_nil]
  | cons p ps ih => rw [keysAll, ih, List.flatMap_cons]

theorem toSqlList_eq (ps : List Predicate) : toSqlList ps = ps.map toSql := by
  induction ps with
  | nil => rw [toSqlList, List.map_nil]
  | cons p ps ih => rw [toSqlList, ih, List.map_cons]

theorem toSql_allOf (ps : List Predicate) :
    (allOf ps).toSql = Sql.joined .and Sql.always (ps.map toSql) := by rw [toSql, toSqlList_eq]

theorem toSql_anyOf (ps : List Predicate) :
    (anyOf ps).toSql = Sql.joined .or Sql.never (ps.map toSql) := by rw [toSql, toSqlList_eq]

theorem toFilterList_eq (ps : List Predicate) : toFilterList ps = ps.map toFilter := by
  induction ps with
  | nil => rw [toFilterList, List.map_nil]
  | cons p ps ih => rw [toFilterList, ih, List.map_cons]

theorem toFilter_allOf (ps : List Predicate) :
    (allOf ps).toFilter = CardFilter.group "$and" CardFilter.all (ps.map toFilter) := by
  rw [toFilter, toFilterList_eq]

theorem toFilter_anyOf (ps : List Predicate) :
    (anyOf ps).toFilter = CardFilter.group "$or" CardFilter.none (ps.map toFilter) := by
  rw [toFilter, toFilterList_eq]

/-- A card meets a predicate as its leaves say. -/
theorem boolean_holds (card : Json) (p : Predicate) :
    p.boolean (fun q => q.holds card) = p.holds card := by
  induction p using Predicate.induction with
  | leaf p hp => cases p <;> first | rfl | contradiction
  | neg p ih => rw [boolean_not, ih, holds_not]
  | all ps ih =>
      rw [boolean_allOf, holds_allOf, Bool.eq_iff_iff, List.all_eq_true, List.all_eq_true]
      exact forall₂_congr fun p hp => by rw [ih p hp]
  | any ps ih =>
      rw [boolean_anyOf, holds_anyOf, Bool.eq_iff_iff, List.any_eq_true, List.any_eq_true]
      exact exists_congr fun p => and_congr_right fun hp => by rw [ih p hp]

end Predicate

/-! ### Conditions -/

namespace Sql

theorem tight_foldl {op : BinaryOp} (hop : op.level < Expr.negationLevel) {e : Expr}
    {es : List Expr} (he : e.Tight ∧ op.level ≤ e.level)
    (h : ∀ e ∈ es, e.Tight ∧ Expr.negationLevel ≤ e.level) :
    (es.foldl (.binary op) e).Tight := by
  induction es generalizing e with
  | nil => exact he.1
  | cons e' es ih =>
      rw [List.forall_mem_cons] at h
      have hlevel := Nat.lt_of_lt_of_le hop h.1.2
      exact ih ⟨⟨⟨he.2, hlevel⟩, he.1, h.1.1⟩, Nat.le_refl _⟩ h.2

/-- The key of a word is one of the given keys, and its label is the name of a type. -/
def Lexeme.Names (keys : List String) : Lexeme → Prop
  | value _ key => key ∈ keys
  | someElement key => key ∈ keys
  | label text => text ∈ ["array", "text", "integer", "real"]
  | _ => True

namespace Expr

/-- The expression names no keys but the given ones, and no labels but names of types. -/
def Names (keys : List String) (e : Expr) : Prop := ∀ l ∈ e.lexemes, l.Names keys

variable {keys keys' : List String}

theorem names_word (w : Word) : (Lexeme.word w).Names keys := trivial

@[simp] theorem names_binary {op : BinaryOp} {left right : Expr} :
    (binary op left right).Names keys ↔ left.Names keys ∧ right.Names keys := by
  simp [Names, lexemes, or_imp, forall_and, names_word]

@[simp] theorem names_paren {e : Expr} : (paren e).Names keys ↔ e.Names keys := by
  simp [Names, lexemes, or_imp, forall_and, names_word]

/-- A condition that counts as false where it is unknown, and is negated then. -/
@[simp] theorem names_negated {e : Expr} :
    (not (coalesce (paren e) (number 0))).Names keys ↔ e.Names keys := by
  simp [Names, lexemes, or_imp, forall_and, Lexeme.Names]

theorem names_foldl {op : BinaryOp} {e : Expr} {es : List Expr} (he : e.Names keys)
    (h : ∀ e ∈ es, e.Names keys) : (es.foldl (.binary op) e).Names keys := by
  induction es generalizing e with
  | nil => exact he
  | cons e' es ih =>
      rw [List.forall_mem_cons] at h
      exact ih (names_binary.2 ⟨he, h.1⟩) h.2

theorem Names.mono {e : Expr} (h : e.Names keys) (hkeys : keys ⊆ keys') : e.Names keys' := by
  intro l hl
  have hnames := h l hl
  cases l with
  | value f key => exact hkeys hnames
  | someElement key => exact hkeys hnames
  | _ => exact hnames

/-- An expression keeps to its quotes when the keys that it names do. -/
theorem Names.delimited {e : Expr} (h : e.Names keys)
    (hkeys : ∀ key ∈ keys, isContained key = true) : e.Delimited := by
  have hlabels : ∀ text ∈ ["array", "text", "integer", "real"],
      (literalText? text.toList).isSome = true := by decide
  intro l hl
  have hnames := h l hl
  cases l with
  | value f key => exact hkeys key hnames
  | someElement key => exact hkeys key hnames
  | label text => exact hlabels text hnames
  | _ => trivial

end Expr

/-- What a clause with its operands says: an expression that needs no further parentheses, keeps to its
quotes and is written so. -/
def IsReading (column clause : String) (params : List Param) (e : Expr) : Prop :=
  e.Tight ∧ e.Delimited ∧ e.clause column = clause ∧ e.params column = params

end Sql

namespace Predicate

/-- What is true of the conditions of the predicates of a list is true of the joined conditions, if it
is kept where they are joined. -/
theorem joined_induction {P : Expr → Prop} {op : BinaryOp} {empty : Expr} {ps : List Predicate}
    (hempty : P empty)
    (hparen : ∀ e rest, (∀ e' ∈ e :: rest, P e') → P (.paren (rest.foldl (.binary op) e)))
    (hall : ∀ p ∈ ps, P p.toSql) : P (joined op empty (ps.map toSql)) := by
  match ps with
  | [] => exact hempty
  | [p] => exact hall p (List.mem_singleton_self p)
  | p :: p' :: ps => exact hparen p.toSql ((p' :: ps).map toSql) (List.forall_mem_map.2 hall)

/-- The condition of a predicate is no part of the one on a sole element. -/
theorem plain_toSql (p : Predicate) : p.toSql.isSoleTest = false ∧ p.toSql.isNoneOther = false := by
  induction p using Predicate.induction with
  | leaf p hp =>
      cases p with
      | compare key c value => cases c <;> exact ⟨rfl, rfl⟩
      | inList key values => cases values <;> exact ⟨rfl, rfl⟩
      | not | allOf | anyOf => contradiction
      | _ => exact ⟨rfl, rfl⟩
  | neg p ih => exact ⟨rfl, rfl⟩
  | all ps ih =>
      rw [toSql_allOf]
      exact joined_induction (P := fun e => e.isSoleTest = false ∧ e.isNoneOther = false) ⟨rfl, rfl⟩
        (fun _ _ _ => ⟨rfl, rfl⟩) ih
  | any ps ih =>
      rw [toSql_anyOf]
      exact joined_induction (P := fun e => e.isSoleTest = false ∧ e.isNoneOther = false) ⟨rfl, rfl⟩
        (fun _ _ _ => ⟨rfl, rfl⟩) ih

/-- The expression needs no further parentheses, also below a negation. -/
def Closed (e : Expr) : Prop := e.Tight ∧ Expr.negationLevel ≤ e.level

theorem closed_foldl {op : BinaryOp} (hop : op.level < Expr.negationLevel) (e : Expr)
    (rest : List Expr) (h : ∀ e' ∈ e :: rest, Closed e') :
    Closed (.paren (rest.foldl (.binary op) e)) := by
  rw [List.forall_mem_cons] at h
  exact ⟨tight_foldl hop ⟨h.1.1, Nat.le_trans (Nat.le_of_lt hop) h.1.2⟩ h.2, (by decide : 3 ≤ 7)⟩

/-- The operands of a membership are holes. -/
theorem itemsTight_params (values : List Scalar) :
    Expr.ItemsTight (values.map fun value => .param value.toSql) := by
  induction values with
  | nil => trivial
  | cons value values ih => exact ⟨trivial, ih⟩

theorem closed_leaf {p : Predicate} (hp : p.isLeaf = true) : Closed p.toSql := by
  cases p with
  | compare key c value =>
      cases c <;> simp [Closed, toSql, Comparison.toSql, Expr.Tight, Expr.level, BinaryOp.level,
        Expr.negationLevel]
  | inList key values =>
      rw [toSql]
      split
      · simp [Closed, never, Expr.Tight, Expr.level, BinaryOp.level, Expr.negationLevel]
      · rename_i hvalues
        refine ⟨⟨(by decide : 4 ≤ 7), ?_, trivial, itemsTight_params values⟩, (by decide : 3 ≤ 4)⟩
        simpa using hvalues
  | soleElement key value distinct =>
      cases distinct <;> simp [Closed, toSql, elementCount, noOtherThan, matching, Expr.Tight,
        Expr.ItemsTight, Expr.BranchesTight, Expr.level, BinaryOp.level, Expr.negationLevel,
        Expr.testLevel]
  | not | allOf | anyOf => contradiction
  | _ =>
      simp [Closed, toSql, always, matching, maskedBits, Expr.Tight, Expr.level, BinaryOp.level,
        Expr.negationLevel, Expr.testLevel]

/-- **The condition of a predicate has all parentheses that it needs**, also below a negation. -/
theorem closed_toSql (p : Predicate) : Closed p.toSql := by
  induction p using Predicate.induction with
  | leaf p hp => exact closed_leaf hp
  | neg p ih => exact ⟨⟨(by decide : 3 ≤ 7), ih.1, trivial⟩, Nat.le_refl _⟩
  | all ps ih =>
      rw [toSql_allOf]
      exact joined_induction (P := Closed) ⟨⟨by decide, trivial, trivial⟩, by decide⟩
        (closed_foldl (by decide)) ih
  | any ps ih =>
      rw [toSql_anyOf]
      exact joined_induction (P := Closed) ⟨⟨by decide, trivial, trivial⟩, by decide⟩
        (closed_foldl (by decide)) ih

/-- The words of the operands of a membership name no keys. -/
theorem names_params (keys : List String) (values : List Scalar) :
    ∀ l ∈ Expr.itemLexemes (values.map fun value => .param value.toSql), l.Names keys := by
  match values with
  | [] => simp [Expr.itemLexemes]
  | [value] => simp [Expr.itemLexemes, Expr.lexemes, Lexeme.Names]
  | value :: value' :: values =>
      have ih := names_params keys (value' :: values)
      intro l hl
      simp only [List.map_cons, Expr.itemLexemes, Expr.lexemes, List.cons_append, List.nil_append,
        List.mem_cons] at hl ih
      rcases hl with rfl | rfl | hl
      · trivial
      · trivial
      · exact ih l hl

theorem names_leaf {p : Predicate} (hp : p.isLeaf = true) : p.toSql.Names p.keys := by
  cases p with
  | inList key values =>
      rw [toSql]
      split
      · simp [never, Expr.Names, Expr.lexemes, Lexeme.Names]
      · have hitems := names_params [key] values
        simp only [Expr.Names, Expr.lexemes, List.mem_append, List.mem_cons, or_imp, forall_and, keys]
        refine ⟨⟨?_, ?_, hitems⟩, ?_⟩
        · simp [Lexeme.Names]
        · simp [Expr.names_word]
        · simp [Expr.names_word]
  | soleElement key value distinct =>
      cases distinct <;> simp [Expr.Names, toSql, matching, elementCount, noOtherThan,
        Expr.lexemes, Expr.itemLexemes, Expr.branchLexemes, Lexeme.Names, keys]
  | not | allOf | anyOf => contradiction
  | _ =>
      simp [Expr.Names, toSql, always, matching, maskedBits, Expr.lexemes, Lexeme.Names, keys]

/-- The condition of a predicate names the keys of the predicate only. -/
theorem names_toSql (p : Predicate) : p.toSql.Names p.keys := by
  have hparen (op : BinaryOp) {keys : List String} (e : Expr) (rest : List Expr)
      (h : ∀ e' ∈ e :: rest, e'.Names keys) : (Expr.paren (rest.foldl (.binary op) e)).Names keys := by
    rw [List.forall_mem_cons] at h
    exact Expr.names_paren.2 (Expr.names_foldl h.1 h.2)
  have hmember {ps : List Predicate} (ih : ∀ p ∈ ps, p.toSql.Names p.keys) :
      ∀ p ∈ ps, p.toSql.Names (ps.flatMap keys) :=
    fun p hp => (ih p hp).mono fun key hkey => List.mem_flatMap.2 ⟨p, hp, hkey⟩
  induction p using Predicate.induction with
  | leaf p hp => exact names_leaf hp
  | neg p ih =>
      rw [toSql]
      exact Expr.names_negated.2 ih
  | all ps ih =>
      rw [keys, keysAll_eq, toSql_allOf]
      refine joined_induction (P := Expr.Names (ps.flatMap keys)) ?_ (hparen .and) (hmember ih)
      simp [always, Expr.Names, Expr.lexemes, Lexeme.Names]
  | any ps ih =>
      rw [keys, keysAll_eq, toSql_anyOf]
      refine joined_induction (P := Expr.Names (ps.flatMap keys)) ?_ (hparen .or) (hmember ih)
      simp [never, Expr.Names, Expr.lexemes, Lexeme.Names]

/-- The condition of a predicate keeps to its quotes when its keys do. -/
theorem delimited_toSql (p : Predicate) (h : ∀ key ∈ p.keys, isContained key = true) :
    p.toSql.Delimited := p.names_toSql.delimited h

/-! ### Truth values of conditions -/

/-- Is the condition of a leaf true?  That of a membership in nothing is false. -/
def leafTrue (v : Expr → Option Bool) : Predicate → Bool
  | inList _ [] => false
  | p => v p.toSql == some true

theorem truth_leaf (v : Expr → Option Bool) {p : Predicate} (hp : p.isLeaf = true) :
    p.toSql.truth v = some true ↔ p.boolean (leafTrue v) = true := by
  cases p with
  | everything => simp [toSql, always, Expr.truth, boolean]
  | inList key values =>
      cases values with
      | nil => simp [toSql, never, Expr.truth, boolean, leafTrue]
      | cons value values => simp [toSql, Expr.truth, boolean, leafTrue]
  | compare key c value => cases c <;> simp [toSql, Comparison.toSql, Expr.truth, boolean, leafTrue]
  | not | allOf | anyOf => contradiction
  | _ =>
    simp [toSql, matching, maskedBits, noOtherThan, Expr.isSoleTest, Expr.isNoneOther, Expr.truth,
      boolean, leafTrue]

/-- **The condition of a predicate is true** exactly when the predicate is, with those of its leaves
that have true conditions. -/
theorem truth_toSql (v : Expr → Option Bool) (p : Predicate) :
    p.toSql.truth v = some true ↔ p.boolean (leafTrue v) = true := by
  have hplain (ps : List Predicate) : ∀ e ∈ ps.map toSql, e.isNoneOther = false :=
    List.forall_mem_map.2 fun p _ => p.plain_toSql.2
  induction p using Predicate.induction with
  | leaf p hp => exact truth_leaf v hp
  | neg p ih =>
      have hnot : (not p).toSql.truth v = some (!(p.toSql.truth v).getD false) := by
        simp only [toSql, Expr.truth, p.plain_toSql.1]
        rcases p.toSql.truth v with _ | _ | _ <;> rfl
      rw [hnot, boolean_not, Option.some.injEq, Bool.not_eq_true', Bool.not_eq_true',
        ← Bool.not_eq_true, ← Bool.not_eq_true]
      refine not_congr (Iff.trans ?_ ih)
      rcases p.toSql.truth v with _ | _ | _ <;> decide
  | all ps ih =>
      rw [toSql_allOf, truth_joined_and (hplain ps), boolean_allOf, List.all_eq_true,
        List.forall_mem_map]
      exact forall₂_congr ih
  | any ps ih =>
      rw [toSql_anyOf, truth_joined_or (hplain ps), boolean_anyOf, List.any_eq_true]
      simp only [List.mem_map, exists_exists_and_eq_and]
      exact exists_congr fun p => and_congr_right (ih p)

end Predicate

/-! ### Truth values of filters -/

namespace CardFilter

/-- The second of the two filters that a sole element is asked for with. -/
def isNoneOther : Json → Bool
  | .object [(_, .object [(op, _)])] => op == "$not"
  | _ => false

/-- The two filters that a sole element is asked for with.  Together they are one leaf. -/
def isSoleTest : List Json → Bool
  | [_, f] => isNoneOther f
  | _ => false

mutual

/-- The truth value of a filter, when its leaves have the given ones: nothing is asked for by the empty
one, and lists stand under an operator that all, one or none of their filters satisfy. -/
def truth (v : Json → Bool) : Json → Bool
  | .object [] => true
  | .object [(op, .list fs)] =>
    if op = "$and" then if isSoleTest fs then v (.object [(op, .list fs)]) else truthAll v fs
    else if op = "$or" then truthAny v fs
    else if op = "$nor" then !truthAny v fs
    else v (.object [(op, .list fs)])
  | f => v f

/-- Are all filters of a list true? -/
def truthAll (v : Json → Bool) : List Json → Bool
  | [] => true
  | f :: fs => truth v f && truthAll v fs

/-- Is one of the filters of a list true? -/
def truthAny (v : Json → Bool) : List Json → Bool
  | [] => false
  | f :: fs => truth v f || truthAny v fs

end

variable {v : Json → Bool}

theorem truthAll_eq (fs : List Json) : truthAll v fs = fs.all (truth v) := by
  induction fs with
  | nil => rw [truthAll, List.all_nil]
  | cons f fs ih => rw [truthAll, ih, List.all_cons]

theorem truthAny_eq (fs : List Json) : truthAny v fs = fs.any (truth v) := by
  induction fs with
  | nil => rw [truthAny, List.any_nil]
  | cons f fs ih => rw [truthAny, ih, List.any_cons]

/-- A list of filters that are no condition on a sole element, under `$and`. -/
theorem truth_group_and {fs : List Json} (h : ∀ f ∈ fs, isNoneOther f = false) :
    truth v (group "$and" all fs) = fs.all (truth v) := by
  match fs with
  | [] => rw [group, all, truth, List.all_nil]
  | [f] => rw [group, List.all_cons, List.all_nil, Bool.and_true]
  | f :: f' :: fs =>
      have hsole : isSoleTest (f :: f' :: fs) = false := by
        cases fs with
        | nil => exact h f' (by simp)
        | cons => rfl
      rw [group, single, truth, if_pos rfl, hsole, if_neg Bool.false_ne_true, truthAll_eq]
      all_goals simp

/-- A list of filters under `$or`. -/
theorem truth_group_or (fs : List Json) :
    truth v (group "$or" none fs) = fs.any (truth v) := by
  match fs with
  | [] => simp [group, none, single, all, truth, truthAny]
  | [f] => rw [group, List.any_cons, List.any_nil, Bool.or_false]
  | f :: f' :: fs =>
      rw [group, single, truth, if_neg (by decide), if_pos rfl, truthAny_eq]
      all_goals simp

end CardFilter

namespace Predicate

/-- The filter of a predicate is no part of the one on a sole element. -/
theorem isNoneOther_toFilter (p : Predicate) : CardFilter.isNoneOther p.toFilter = false := by
  induction p using Predicate.induction with
  | leaf p hp =>
      cases p with
      | compare key c value => cases c <;> cases value <;> rfl
      | not | allOf | anyOf => contradiction
      | _ => rfl
  | neg p ih => rfl
  | all ps ih =>
      rw [toFilter_allOf]
      match ps with
      | [] => rfl
      | [p] => exact ih p (List.mem_singleton_self p)
      | _ :: _ :: _ => rfl
  | any ps ih =>
      rw [toFilter_anyOf]
      match ps with
      | [] => rfl
      | [p] => exact ih p (List.mem_singleton_self p)
      | _ :: _ :: _ => rfl

/-- **The filter of a predicate is true** exactly when the predicate is, with those of its leaves that
have true filters. -/
theorem truth_toFilter (v : Json → Bool) (p : Predicate) :
    CardFilter.truth v p.toFilter = p.boolean fun q => v q.toFilter := by
  induction p using Predicate.induction with
  | leaf p hp =>
      cases p with
      | everything => simp [toFilter, CardFilter.all, CardFilter.truth, boolean]
      | compare key c value =>
          cases c <;> cases value <;>
            simp [toFilter, CardFilter.comparison, CardFilter.single, Scalar.toJson, Json.ofInt,
              CardFilter.truth, boolean]
      | soleElement key value distinct =>
          simp [toFilter, CardFilter.single, CardFilter.noOtherThan, CardFilter.truth,
            CardFilter.isSoleTest, CardFilter.isNoneOther, boolean]
      | not | allOf | anyOf => contradiction
      | _ =>
        simp [toFilter, CardFilter.single, CardFilter.regex, CardFilter.exactText, CardFilter.truth,
          boolean]
  | neg p ih =>
      rw [toFilter, CardFilter.single, CardFilter.truth, if_neg (by decide), if_neg (by decide),
        if_pos rfl, boolean_not, ← ih]
      simp [CardFilter.truthAny]
  | all ps ih =>
      have hplain : ∀ f ∈ ps.map toFilter, CardFilter.isNoneOther f = false :=
        List.forall_mem_map.2 fun p _ => p.isNoneOther_toFilter
      rw [toFilter_allOf, CardFilter.truth_group_and hplain, boolean_allOf, List.all_map,
        Bool.eq_iff_iff, List.all_eq_true, List.all_eq_true]
      exact forall₂_congr fun p hp => by rw [Function.comp_apply, ih p hp]
  | any ps ih =>
      rw [toFilter_anyOf, CardFilter.truth_group_or, boolean_anyOf, List.any_map,
        Bool.eq_iff_iff, List.any_eq_true, List.any_eq_true]
      exact exists_congr fun p => and_congr_right fun hp => by rw [Function.comp_apply, ih p hp]

/-! ### Both renderings -/

/-- The text and the operands of the condition of a predicate can be read in one way only, unless a key
breaks out of its quotes. -/
theorem isReading_iff {p : Predicate} (hkeys : ∀ key ∈ p.keys, isContained key = true)
    (column : String) (e : Expr) :
    IsReading column (p.toSql.clause column) (p.toSql.params column) e ↔ e = p.toSql := by
  have htight : p.toSql.Tight := p.closed_toSql.1
  have hdelimited := p.delimited_toSql hkeys
  constructor
  · rintro ⟨he, hd, hclause, hparams⟩
    exact Expr.eq_of_clause_eq he htight hd hdelimited hclause hparams
  · rintro rfl
    exact ⟨htight, hdelimited, rfl, rfl⟩

/-- **The two renderings keep the structure of a predicate.**

The words of its condition can be read in one way only, and so can the text and the operands, unless a
key breaks out of its quotes.  Read in this way, the condition is true for the same truth values of the
leaves, be they true, false or unknown, as the predicate is when those leaves hold that have true
conditions.  And the filter is true for the same truth values of the leaves as the predicate. -/
theorem renderings_keep_structure (p : Predicate) :
    (p.toSql.Tight ∧ ∀ e : Expr, e.Tight → e.lexemes = p.toSql.lexemes → e = p.toSql) ∧
      (∀ column, (∀ key ∈ p.keys, isContained key = true) → ∀ e,
        IsReading column (p.toSql.clause column) (p.toSql.params column) e ↔ e = p.toSql) ∧
      (∀ v, p.toSql.truth v = some true ↔ p.boolean (leafTrue v) = true) ∧
      ∀ v, CardFilter.truth v p.toFilter = p.boolean fun q => v q.toFilter := by
  have htight : p.toSql.Tight := p.closed_toSql.1
  exact ⟨⟨htight, fun e he => he.lexemes_injective htight⟩,
    fun column hkeys e => isReading_iff hkeys column e, fun v => p.truth_toSql v,
    fun v => p.truth_toFilter v⟩

/-- Where no value is known, the negation of an alternative is true, and its text has one reading. -/
theorem renderings_keep_structure_negated :
    let p : Predicate := .not (.anyOf [.compare "power" .less (.integer 3), .inList "rarity" []])
    let clause := "NOT COALESCE(((json_extract(data, \x27$.power\x27) < ? OR 1 = 0)), 0)"
    (∀ key ∈ p.keys, isContained key = true) ∧ p.toSql.Tight ∧
      (∀ e, IsReading "data" clause [.integer 3] e ↔ e = p.toSql) ∧
      p.toSql.truth (fun _ => none) = some true ∧
      CardFilter.truth (fun _ => false) p.toFilter = true := by
  intro p clause
  have hkeys : ∀ key ∈ p.keys, isContained key = true := by decide +kernel
  have hclause : p.toSql.clause "data" = clause := by decide +kernel
  obtain ⟨⟨htight, -⟩, hreading, htruth, hfilter⟩ := renderings_keep_structure p
  refine ⟨hkeys, htight, ?_, (htruth fun _ => none).2 (by decide), ?_⟩
  · intro e
    rw [← hclause]
    exact hreading "data" hkeys e
  · rw [hfilter]
    decide

end Predicate

end CardQuery
