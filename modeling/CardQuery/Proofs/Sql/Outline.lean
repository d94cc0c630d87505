/-
**Clauses without literals.**

What a user has written becomes the literals of a predicate: needles, regular expressions, values and
masks.  Each of them is written as a question mark and passed beside the clause.  So the clause is that of
the outline, in which all literals have been wiped out.

Main definitions:

* `Predicate.outline` — a predicate without its literals; keys, comparisons, lengths of lists and the
  nesting of the predicates are left;
* `Sql.Expr.Alike` — two expressions are written alike but for their operands.

Main results:

* `Sql.Expr.Alike.binary` and others — expressions that are put together from such;
* `Predicate.clause_outline` — **the clause of a predicate** is that of its outline.
-/

import CardQuery.Proofs.Predicate.Structure
import Mathlib.Data.List.Forall2

set_option autoImplicit false

namespace CardQuery

open Sql

namespace Predicate

mutual

/-- The predicate without its literals. -/
def outline : Predicate → Predicate
  | everything => everything
  | contains key _ => contains key ""
  | regex key _ => regex key ""
  | textEquals key _ => textEquals key ""
  | compare key comparison _ => compare key comparison (.integer 0)
  | inList key values => inList key (values.map fun _ => .integer 0)
  | present key => present key
  | hasElement key _ => hasElement key ""
  | soleElement key _ distinct => soleElement key "" distinct
  | bitsAllSet key _ => bitsAllSet key 0
  | bitsAllClear key _ => bitsAllClear key 0
  | not p => not p.outline
  | allOf ps => allOf (outlineAll ps)
  | anyOf ps => anyOf (outlineAll ps)

/-- The predicates of a list without their literals. -/
def outlineAll : List Predicate → List Predicate
  | [] => []
  | p :: ps => p.outline :: outlineAll ps

end

theorem outlineAll_eq (ps : List Predicate) : outlineAll ps = ps.map outline := by
  induction ps with
  | nil => rw [outlineAll, List.map_nil]
  | cons p ps ih => rw [outlineAll, ih, List.map_cons]

end Predicate

/-! ### Expressions that are written alike -/

namespace Sql.Expr

/-- The expressions have the same text when operands are written as question marks. -/
def Alike (e e' : Expr) : Prop :=
  ∀ column, (e.fragments column).map Fragment.text = (e'.fragments column).map Fragment.text

theorem Alike.refl (e : Expr) : Alike e e := fun _ => rfl

theorem Alike.clause_eq {e e' : Expr} (h : Alike e e') (column : String) :
    e.clause column = e'.clause column := congrArg String.join (h column)

theorem Alike.param (p p' : Param) : Alike (.param p) (.param p') := fun _ => rfl

theorem Alike.binary {left left' right right' : Expr} (op : BinaryOp) (h : Alike left left')
    (h' : Alike right right') : Alike (.binary op left right) (.binary op left' right') := by
  intro column
  simp only [fragments, List.map_append, List.map_cons, h column, h' column]

theorem Alike.not {e e' : Expr} (h : Alike e e') : Alike (.not e) (.not e') := by
  intro column
  simp only [fragments, List.map_cons, h column]

theorem Alike.coalesce {e e' otherwise otherwise' : Expr} (h : Alike e e')
    (h' : Alike otherwise otherwise') :
    Alike (.coalesce e otherwise) (.coalesce e' otherwise') := by
  intro column
  simp only [fragments, List.map_append, List.map_cons, h column, h' column]

theorem Alike.paren {e e' : Expr} (h : Alike e e') : Alike (.paren e) (.paren e') := by
  intro column
  simp only [fragments, List.map_append, List.map_cons, h column]

theorem Alike.exists {e e' : Expr} (key : String) (h : Alike e e') :
    Alike (.exists key e) (.exists key e') := by
  intro column
  simp only [fragments, List.map_append, List.map_cons, h column]

theorem Alike.matching (e : Expr) (source source' : String) :
    Alike (Sql.matching e source) (Sql.matching e source') :=
  (Alike.refl e).binary .regexp (.param _ _)

theorem Alike.maskedBits (key : String) (mask mask' : Nat) :
    Alike (Sql.maskedBits key mask) (Sql.maskedBits key mask') :=
  ((Alike.refl _).binary .bitAnd (.param _ _)).paren

theorem Alike.noOtherThan (key value value' : String) :
    Alike (Sql.noOtherThan key value) (Sql.noOtherThan key value') :=
  (((Alike.matching .element _ _).coalesce (.refl _)).not.exists key).not

theorem Alike.foldl {e e' : Expr} {es es' : List Expr} (op : BinaryOp) (h : Alike e e')
    (hall : List.Forall₂ Alike es es') :
    Alike (es.foldl (.binary op) e) (es'.foldl (.binary op) e') := by
  induction hall generalizing e e' with
  | nil => exact h
  | cons hfirst _ ih => exact ih (h.binary op hfirst)

/-- Conditions are joined alike when they are as many on both sides. -/
theorem Alike.joined {es es' : List Expr} (op : BinaryOp) (empty : Expr)
    (hall : List.Forall₂ Alike es es') : Alike (Sql.joined op empty es) (Sql.joined op empty es') := by
  cases hall with
  | nil => exact .refl empty
  | cons h hall =>
      cases hall with
      | nil => exact h
      | cons h' hall => exact (Alike.foldl op h (.cons h' hall)).paren

/-- Operands in a list are written as question marks, whatever they are. -/
theorem map_itemFragments_params (column : String) {items items' : List Param}
    (h : items.length = items'.length) :
    (itemFragments column (items.map Expr.param)).map Fragment.text =
      (itemFragments column (items'.map Expr.param)).map Fragment.text := by
  induction items generalizing items' with
  | nil =>
      rw [List.eq_nil_of_length_eq_zero h.symm]
  | cons p items ih =>
      obtain ⟨p', items', rfl⟩ := List.exists_cons_of_length_eq_add_one h.symm
      have hlength : items.length = items'.length := Nat.succ.inj h
      cases items with
      | nil =>
          rw [List.eq_nil_of_length_eq_zero hlength.symm]
          rfl
      | cons q items =>
          obtain ⟨q', items', rfl⟩ := List.exists_cons_of_length_eq_add_one hlength.symm
          have hrest := ih hlength
          simp only [List.map_cons, itemFragments, fragments, List.map_append] at hrest ⊢
          rw [hrest]
          rfl

end Sql.Expr

/-! ### Predicates -/

namespace Predicate

theorem alike_inList (key : String) (values : List Scalar) :
    Expr.Alike (inList key values).toSql (inList key values).outline.toSql := by
  cases values with
  | nil => exact .refl _
  | cons value values =>
      intro column
      have hlength : ((value :: values).map Scalar.toSql).length =
          ((value :: values).map fun _ => (Scalar.integer 0).toSql).length := by simp
      have hitems := Expr.map_itemFragments_params column hlength
      rw [List.map_map, List.map_map] at hitems
      simp only [outline, toSql, List.map_cons, List.isEmpty_cons, Bool.false_eq_true, if_false,
        Expr.fragments, List.map_append, List.map_map]
      exact congrArg (fun items => _ :: _ :: items ++ _) hitems

/-- Leaves have their literals at holes. -/
theorem alike_leaf {p : Predicate} (hp : p.isLeaf = true) : Expr.Alike p.toSql p.outline.toSql := by
  cases p with
  | everything => exact .refl _
  | contains key needle => exact .matching _ _ _
  | regex key pattern => exact .matching _ _ _
  | textEquals key value => exact .matching _ _ _
  | compare key comparison value => exact (Expr.Alike.refl _).binary _ (.param _ _)
  | inList key values => exact alike_inList key values
  | present key => exact .refl _
  | hasElement key value => exact (Expr.Alike.matching _ _ _).exists key
  | soleElement key value distinct =>
      exact ((Expr.Alike.refl _).binary .and (.noOtherThan key value "")).paren
  | bitsAllSet key mask => exact (Expr.Alike.maskedBits key mask 0).binary .equal (.param _ _)
  | bitsAllClear key mask => exact (Expr.Alike.maskedBits key mask 0).binary .equal (.refl _)
  | not | allOf | anyOf => contradiction

theorem forall₂_outline {ps : List Predicate}
    (h : ∀ p ∈ ps, Expr.Alike p.toSql p.outline.toSql) :
    List.Forall₂ Expr.Alike (ps.map toSql) ((ps.map outline).map toSql) := by
  rw [List.map_map, List.forall₂_map_left_iff, List.forall₂_map_right_iff, List.forall₂_same]
  exact h

theorem alike_outline (p : Predicate) : Expr.Alike p.toSql p.outline.toSql := by
  induction p using Predicate.induction with
  | leaf p hp => exact alike_leaf hp
  | neg p ih => exact (ih.paren.coalesce (.refl _)).not
  | all ps ih =>
      rw [outline, outlineAll_eq, toSql_allOf, toSql_allOf]
      exact .joined .and always (forall₂_outline ih)
  | any ps ih =>
      rw [outline, outlineAll_eq, toSql_anyOf, toSql_anyOf]
      exact .joined .or never (forall₂_outline ih)

/-- **The clause of a predicate** is that of its outline. -/
theorem clause_outline (p : Predicate) (column : String) :
    p.outline.toSql.clause column = p.toSql.clause column :=
  ((alike_outline p).clause_eq column).symm

end Predicate

end CardQuery
