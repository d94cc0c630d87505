/-
**Conditions that can be prepared.**

The condition of a predicate keeps to its quotes when the keys of the predicate do, so that whether it can
be prepared is a matter of its operands and of its height.  Conditions that are joined stand in a tree
that leans to the left, and every further one makes it higher.

Main results:

* `Predicate.contained_toSql` — the condition of a predicate keeps to its quotes;
* `Predicate.canPrepare_iff` — **when a statement can be prepared**;
* `Sql.Expr.le_height_foldl`, `Predicate.le_statementHeight_allOf` — **joining many conditions** is too much
  for a statement.
-/

import CardQuery.Proofs.Predicate.Structure

set_option autoImplicit false

namespace CardQuery

open Sql

/-! ### Keys -/

theorem Sql.Expr.keys_foldl (op : BinaryOp) (e : Expr) (es : List Expr) :
    (es.foldl (.binary op) e).keys = e.keys ++ es.flatMap keys := by
  induction es generalizing e with
  | nil => simp
  | cons e' es ih => rw [List.foldl_cons, ih, keys, List.flatMap_cons, List.append_assoc]

theorem Sql.Expr.keysOfItems_params (values : List Scalar) :
    keysOfItems (values.map fun value => .param value.toSql) = [] := by
  induction values with
  | nil => rfl
  | cons value values ih =>
      rw [List.map_cons, keysOfItems, ih, List.append_nil]
      rfl

/-- The condition of a predicate names contained keys only when the predicate does. -/
theorem Predicate.contained_toSql (p : Predicate) (h : ∀ key ∈ p.keys, isContained key = true) :
    ∀ key ∈ p.toSql.keys, isContained key = true := by
  have hparen (op : BinaryOp) (e : Expr) (rest : List Expr)
      (h : ∀ e' ∈ e :: rest, ∀ key ∈ e'.keys, isContained key = true) :
      ∀ key ∈ (Expr.paren (rest.foldl (.binary op) e)).keys, isContained key = true := by
    rw [Expr.keys, Expr.keys_foldl, ← List.flatMap_cons, List.forall_mem_flatMap]
    exact h
  induction p using Predicate.induction with
  | leaf p hp =>
      cases p with
      | inList key values =>
          rw [Predicate.keys] at h
          rw [toSql]
          split
          · simp [never, Expr.keys]
          · rwa [Expr.keys, Expr.keysOfItems_params, List.append_nil, Expr.keys]
      | soleElement key value distinct =>
          cases distinct <;> simpa [toSql, matching, elementCount, noOtherThan, Expr.keys,
            Expr.keysOfItems, Expr.keysOfBranches, Predicate.keys] using h
      | everything => simp [toSql, always, Expr.keys]
      | not | allOf | anyOf => contradiction
      | _ => simpa [toSql, matching, maskedBits, Expr.keys, Predicate.keys] using h
  | neg p ih =>
      have hp := ih h
      rw [toSql]
      simpa [Expr.keys] using hp
  | all ps ih =>
      rw [keys, keysAll_eq, List.forall_mem_flatMap] at h
      rw [toSql_allOf]
      refine joined_induction (P := fun e => ∀ key ∈ e.keys, isContained key = true) ?_ (hparen .and)
        fun p hp => ih p hp (h p hp)
      simp [always, Expr.keys]
  | any ps ih =>
      rw [keys, keysAll_eq, List.forall_mem_flatMap] at h
      rw [toSql_anyOf]
      refine joined_induction (P := fun e => ∀ key ∈ e.keys, isContained key = true) ?_ (hparen .or)
        fun p hp => ih p hp (h p hp)
      simp [never, Expr.keys]

/-! ### Limits -/

theorem Sql.canPrepare_mono {column : String} {e : Expr} {m n : Nat} (hle : m ≤ n)
    (h : canPrepare column e n = true) : canPrepare column e m = true := by
  simp only [canPrepare, fitsParams, Bool.and_eq_true, decide_eq_true_eq] at h ⊢
  exact ⟨⟨h.1.1, by omega⟩, h.2⟩

/-- **When a statement can be prepared** whose keys keep to their quotes. -/
theorem Predicate.canPrepare_iff {p : Predicate} (hkeys : ∀ key ∈ p.keys, isContained key = true)
    (column : String) (further : Nat) : canPrepare column p.toSql further = true ↔
      (p.toSql.params column).length + further ≤ mostParams ∧
        statementHeight p.toSql ≤ mostDepth := by
  have hcontained : p.toSql.keys.all isContained = true :=
    List.all_eq_true.2 (p.contained_toSql hkeys)
  rw [canPrepare, hcontained, Bool.true_and, Bool.and_eq_true, fitsParams, fitsDepth,
    decide_eq_true_eq, decide_eq_true_eq]

/-- Every condition that is joined to others makes the tree higher. -/
theorem Sql.Expr.le_height_foldl (op : BinaryOp) (e : Expr) (es : List Expr) :
    e.height + es.length ≤ (es.foldl (.binary op) e).height := by
  induction es generalizing e with
  | nil => exact Nat.le_refl _
  | cons e' es ih =>
      have hstep : e.height + 1 ≤ (Expr.binary op e e').height := by
        rw [height]
        omega
      have hrest := ih (.binary op e e')
      rw [List.foldl_cons, List.length_cons]
      omega

/-- **The statement for many conditions** is higher than their number. -/
theorem Predicate.le_statementHeight_allOf (p : Predicate) (ps : List Predicate) (hps : ps ≠ []) :
    p.toSql.height + ps.length + 1 ≤ statementHeight (Predicate.allOf (p :: ps)).toSql := by
  obtain ⟨p', rest, rfl⟩ := List.exists_cons_of_ne_nil hps
  have hheight := Expr.le_height_foldl .and p.toSql ((p' :: rest).map toSql)
  have hjoined : (Predicate.allOf (p :: p' :: rest)).toSql =
      .paren (((p' :: rest).map toSql).foldl (.binary .and) p.toSql) := by
    rw [toSql_allOf]
    rfl
  rw [List.length_map] at hheight
  rw [hjoined, statementHeight, Expr.height]
  omega

end CardQuery
