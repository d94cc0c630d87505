/-
**Conditions in three-valued logic.**

A condition is true, false or unknown.  What is unknown stays so under negation and decides neither a
conjunction nor an alternative, unless it is replaced.  The truth value of a condition is computed from
those of its leaves by its connectives alone, whatever values the leaves have; evaluated on a card, a
condition has the truth value that its leaves give it there.

Main definitions:

* `Sql.and3`, `Sql.or3` — conjunction and alternative of truth values;
* `Sql.Expr.leaves`, `Sql.Expr.truth` — the leaves of a condition, and its truth value by theirs.

Main results:

* `Sql.truth_joined_and`, `Sql.truth_joined_or` — when joined conditions are true;
* `Sql.Expr.eval_binary`, `Sql.Expr.eval_coalesce`, `Sql.Expr.eval_isIn` — the values of conditions whose
  operands have values;
* `Sql.Expr.eval_truth` — **the value of a condition on a card** has the truth value that the values of
  its leaves give it.
-/

import CardQuery.Sql.Condition
import CardQuery.Sql.Evaluation
import Mathlib.Data.List.Basic
import Mathlib.Data.Int.Order.Basic

set_option autoImplicit false

namespace CardQuery.Sql

/-! ### Truth values -/

/-- Both are true; one that is false decides. -/
def and3 : Option Bool → Option Bool → Option Bool
  | some false, _ => some false
  | _, some false => some false
  | some true, some true => some true
  | _, _ => none

/-- One of them is true; one that is true decides. -/
def or3 : Option Bool → Option Bool → Option Bool
  | some true, _ => some true
  | _, some true => some true
  | some false, some false => some false
  | _, _ => none

theorem and3_eq_true {a b : Option Bool} : and3 a b = some true ↔ a = some true ∧ b = some true := by
  rcases a with _ | _ | _ <;> rcases b with _ | _ | _ <;> decide

theorem or3_eq_true {a b : Option Bool} : or3 a b = some true ↔ a = some true ∨ b = some true := by
  rcases a with _ | _ | _ <;> rcases b with _ | _ | _ <;> decide

theorem foldl_and3_eq_true {a : Option Bool} {ts : List (Option Bool)} :
    ts.foldl and3 a = some true ↔ a = some true ∧ ∀ t ∈ ts, t = some true := by
  induction ts generalizing a with
  | nil => simp
  | cons t ts ih => rw [List.foldl_cons, ih, and3_eq_true, List.forall_mem_cons, and_assoc]

theorem foldl_or3_eq_true {a : Option Bool} {ts : List (Option Bool)} :
    ts.foldl or3 a = some true ↔ a = some true ∨ ∃ t ∈ ts, t = some true := by
  induction ts generalizing a with
  | nil => simp
  | cons t ts ih => rw [List.foldl_cons, ih, or3_eq_true, List.exists_mem_cons_iff, or_assoc]

/-! ### Conditions -/

namespace Expr

/-- The second of the two conditions that a sole element is asked for with. -/
def isNoneOther : Expr → Bool
  | not (.exists _ _) => true
  | _ => false

/-- The two conditions that a sole element is asked for with.  In parentheses they are one leaf. -/
def isSoleTest : Expr → Bool
  | binary .and _ right => right.isNoneOther
  | _ => false

/-- The truth value of a condition, when its leaves have the given ones. -/
def truth (v : Expr → Option Bool) : Expr → Option Bool
  | paren e => if e.isSoleTest then v (paren e) else e.truth v
  | not e => (e.truth v).map (! ·)
  | coalesce e otherwise => (e.truth v).or (otherwise.truth v)
  | binary .and left right => and3 (left.truth v) (right.truth v)
  | binary .or left right => or3 (left.truth v) (right.truth v)
  | binary .equal (number m) (number n) => some (m == n)
  | number n => some (n != 0)
  | e => v e

end Expr

namespace Expr

/-- The leaves of a condition. -/
def leaves : Expr → List Expr
  | paren e => if e.isSoleTest then [paren e] else e.leaves
  | not e => e.leaves
  | coalesce e otherwise => e.leaves ++ otherwise.leaves
  | binary .and left right => left.leaves ++ right.leaves
  | binary .or left right => left.leaves ++ right.leaves
  | binary .equal (number _) (number _) => []
  | number _ => []
  | e => [e]

end Expr

/-! ### Joined conditions -/

variable {v : Expr → Option Bool}

theorem truth_foldl_and (e : Expr) (es : List Expr) :
    (es.foldl (.binary .and) e).truth v = (es.map (Expr.truth v)).foldl and3 (e.truth v) := by
  induction es generalizing e with
  | nil => rfl
  | cons e' es ih => rw [List.foldl_cons, ih, Expr.truth, List.map_cons, List.foldl_cons]

theorem truth_foldl_or (e : Expr) (es : List Expr) :
    (es.foldl (.binary .or) e).truth v = (es.map (Expr.truth v)).foldl or3 (e.truth v) := by
  induction es generalizing e with
  | nil => rfl
  | cons e' es ih => rw [List.foldl_cons, ih, Expr.truth, List.map_cons, List.foldl_cons]

/-- Joined conditions are no condition on a sole element, unless the last of them makes them one. -/
theorem isSoleTest_foldl {op : BinaryOp} (e : Expr) {es : List Expr} (hne : es ≠ [])
    (h : ∀ e' ∈ es, e'.isNoneOther = false) : (es.foldl (.binary op) e).isSoleTest = false := by
  rw [← List.dropLast_append_getLast hne, List.foldl_append]
  have hlast := h _ (List.getLast_mem hne)
  cases op with
  | and => exact hlast
  | _ => rfl

/-- Joined conditions stand in parentheses that no leaf has. -/
theorem truth_joined {op : BinaryOp} {empty : Expr} (e e' : Expr) (es : List Expr)
    (h : ∀ e ∈ e' :: es, e.isNoneOther = false) :
    (joined op empty (e :: e' :: es)).truth v = ((e' :: es).foldl (.binary op) e).truth v := by
  rw [joined, Expr.truth, isSoleTest_foldl e (List.cons_ne_nil e' es) h, if_neg Bool.false_ne_true]
  simp

/-- Conditions that are joined by `AND` are true together when every one is; none are. -/
theorem truth_joined_and {es : List Expr} (h : ∀ e ∈ es, e.isNoneOther = false) :
    (joined .and always es).truth v = some true ↔ ∀ e ∈ es, e.truth v = some true := by
  match es with
  | [] => simp [joined, always, Expr.truth]
  | [e] => simp [joined]
  | e :: e' :: es =>
      rw [truth_joined e e' es fun e he => h e (List.mem_cons_of_mem _ he), truth_foldl_and,
        foldl_and3_eq_true, List.forall_mem_map, List.forall_mem_cons (a := e)]

/-- Conditions that are joined by `OR` are true together when one of them is; none are not. -/
theorem truth_joined_or {es : List Expr} (h : ∀ e ∈ es, e.isNoneOther = false) :
    (joined .or never es).truth v = some true ↔ ∃ e ∈ es, e.truth v = some true := by
  match es with
  | [] => simp [joined, never, Expr.truth]
  | [e] => simp [joined]
  | e :: e' :: es =>
      rw [truth_joined e e' es fun e he => h e (List.mem_cons_of_mem _ he), truth_foldl_or,
        foldl_or3_eq_true]
      simp only [List.mem_map, exists_exists_and_eq_and, List.exists_mem_cons_iff _ e]

/-! ### Evaluation -/

theorem truth?_ofTruth (t : Option Bool) : (Value.ofTruth t).truth? = t := by
  rcases t with _ | _ | _ <;> rfl

/-- Only null is neither true nor false. -/
theorem truth?_eq_none {x : Value} : x.truth? = none ↔ x = .null := by
  cases x <;> simp [Value.truth?]

/-- Whole numbers are ordered by their values. -/
theorem compared_integer (i j : Int) :
    Value.compared (.integer i) (.integer j) = some (compare i j) := by
  have hunits : (0 : Int) < Double.unitsPerOne := by
    have hpos := twoTo_pos Double.unitBits
    rw [Double.unitsPerOne]
    omega
  simp only [Value.compared, reduceCtorEq, or_self, if_false, Value.order, Value.units?]
  rcases lt_trichotomy i j with hij | rfl | hij
  · rw [compare_lt_iff_lt.2 hij, compare_lt_iff_lt.2 (Int.mul_lt_mul_of_pos_right hij hunits)]
  · rw [compare_eq_iff_eq.2 rfl, compare_eq_iff_eq.2 rfl]
  · rw [compare_gt_iff_gt.2 hij, compare_gt_iff_gt.2 (Int.mul_lt_mul_of_pos_right hij hunits)]

theorem apply_and (a b : Value) :
    BinaryOp.and.apply a b = .ok (.ofTruth (and3 a.truth? b.truth?)) := by
  rcases ha : a.truth? with _ | _ | _ <;> rcases hb : b.truth? with _ | _ | _ <;>
    simp [BinaryOp.apply, and3, ha, hb]

theorem apply_or (a b : Value) :
    BinaryOp.or.apply a b = .ok (.ofTruth (or3 a.truth? b.truth?)) := by
  rcases ha : a.truth? with _ | _ | _ <;> rcases hb : b.truth? with _ | _ | _ <;>
    simp [BinaryOp.apply, or3, ha, hb]

namespace Expr

section Forms

variable (row : Row)

theorem eval_part (key : String) :
    (extract key).eval row = (row.part key).map fun part => (part.map Value.ofJson).getD .null := rfl

theorem eval_number (n : Nat) : (number n).eval row = .ok (.integer n) := rfl

theorem eval_param (p : Param) : (param p).eval row = .ok (.ofParam p) := rfl

theorem eval_paren (e : Expr) : (paren e).eval row = e.eval row := rfl

theorem eval_not (e : Expr) :
    (not e).eval row = (e.eval row).map fun v => .ofTruth (v.truth?.map (! ·)) := rfl

theorem eval_isNotNull (e : Expr) :
    (isNotNull e).eval row = (e.eval row).map fun v => .ofBool (v != .null) := rfl

end Forms

section Operands

variable {row : Row} {e left right : Expr} {a b : Value}

/-- An operator of which the left operand decides nothing is applied to both. -/
theorem eval_binary {op : BinaryOp} (hleft : left.eval row = .ok a) (hright : right.eval row = .ok b) :
    (binary op left right).eval row = ((op.decided? a).map .ok).getD (op.apply a b) := by
  rw [eval, hleft, hright]
  dsimp only
  cases op.decided? a <;> rfl

theorem eval_coalesce (h : e.eval row = .ok a) (otherwise : Expr) :
    (coalesce e otherwise).eval row = if a = .null then otherwise.eval row else .ok a := by
  rw [eval, h]
  cases a <;> rfl

theorem evalItems_params (row : Row) (ps : List Param) :
    evalItems row (ps.map .param) = .ok (ps.map .ofParam) := by
  induction ps with
  | nil => rfl
  | cons p ps ih => rw [List.map_cons, evalItems, eval_param, ih]; rfl

theorem eval_isIn (h : e.eval row = .ok a) (ps : List Param) :
    (isIn e (ps.map .param)).eval row = .ok (isAmong a (ps.map .ofParam)) := by
  rw [eval, h, evalItems_params]
  rfl

end Operands

/-- The condition has a value on the row, and this is its truth value. -/
def HasTruth (row : Row) (e : Expr) (t : Option Bool) : Prop :=
  ∃ x, e.eval row = .ok x ∧ x.truth? = t

variable {row : Row}

theorem hasTruth_of_eval {e : Expr} {x : Value} (h : e.eval row = .ok x) : e.HasTruth row x.truth? :=
  ⟨x, h, rfl⟩

/-- What is unknown of a card is not true of it. -/
theorem HasTruth.holds {e : Expr} {card : Json} {t : Option Bool} (h : e.HasTruth ⟨card, .null⟩ t) :
    e.holds card = .ok (t == some true) := by
  obtain ⟨x, hx, rfl⟩ := h
  rw [Expr.holds, hx]
  rfl

theorem HasTruth.not {e : Expr} {t : Option Bool} (h : e.HasTruth row t) :
    (Expr.not e).HasTruth row (t.map (! ·)) := by
  obtain ⟨x, hx, rfl⟩ := h
  refine ⟨_, ?_, truth?_ofTruth _⟩
  rw [eval_not, hx]
  rfl

theorem HasTruth.coalesce {e otherwise : Expr} {t t' : Option Bool} (h : e.HasTruth row t)
    (h' : otherwise.HasTruth row t') : (Expr.coalesce e otherwise).HasTruth row (t.or t') := by
  obtain ⟨x, hx, rfl⟩ := h
  by_cases hnull : x = .null
  · obtain ⟨y, hy, rfl⟩ := h'
    exact ⟨y, by rw [eval_coalesce hx, if_pos hnull, hy], by rw [hnull]; rfl⟩
  · obtain ⟨b, hb⟩ := Option.ne_none_iff_exists'.1 (mt truth?_eq_none.1 hnull)
    exact ⟨x, by rw [eval_coalesce hx, if_neg hnull], by rw [hb]; rfl⟩

theorem HasTruth.and {left right : Expr} {t t' : Option Bool} (h : left.HasTruth row t)
    (h' : right.HasTruth row t') : (Expr.binary .and left right).HasTruth row (and3 t t') := by
  obtain ⟨x, hx, rfl⟩ := h
  obtain ⟨y, hy, rfl⟩ := h'
  refine ⟨.ofTruth (and3 x.truth? y.truth?), ?_, truth?_ofTruth _⟩
  rw [eval_binary hx hy]
  rcases ht : x.truth? with _ | _ | _ <;> simp [BinaryOp.decided?, apply_and, ht, and3, Value.ofTruth]

theorem HasTruth.or {left right : Expr} {t t' : Option Bool} (h : left.HasTruth row t)
    (h' : right.HasTruth row t') : (Expr.binary .or left right).HasTruth row (or3 t t') := by
  obtain ⟨x, hx, rfl⟩ := h
  obtain ⟨y, hy, rfl⟩ := h'
  refine ⟨.ofTruth (or3 x.truth? y.truth?), ?_, truth?_ofTruth _⟩
  rw [eval_binary hx hy]
  rcases ht : x.truth? with _ | _ | _ <;> simp [BinaryOp.decided?, apply_or, ht, or3, Value.ofTruth]

theorem hasTruth_number (n : Nat) : (number n).HasTruth row (some (n != 0)) :=
  ⟨.integer n, eval_number row n, by simp [Value.truth?, bne]⟩

theorem hasTruth_equal_numbers (m n : Nat) :
    (binary .equal (number m) (number n)).HasTruth row (some (m == n)) := by
  refine ⟨compareBy (· == .eq) (.integer m) (.integer n),
    eval_binary (eval_number row m) (eval_number row n), ?_⟩
  rw [compareBy, truth?_ofTruth, compared_integer, Option.map_some]
  simp only [Option.some.injEq]
  rw [Bool.eq_iff_iff, beq_iff_eq, beq_iff_eq, compare_eq_iff_eq, Int.natCast_inj]

/-- **The value of a condition on a card** has the truth value that the values of its leaves give it. -/
theorem eval_truth {v : Expr → Option Bool} (e : Expr)
    (h : ∀ l ∈ e.leaves, l.HasTruth row (v l)) : e.HasTruth row (e.truth v) := by
  fun_induction leaves e with
  | case1 e hsole =>
      rw [truth, if_pos hsole]
      exact h _ (List.mem_singleton_self _)
  | case2 e hsole ih =>
      rw [truth, if_neg hsole]
      obtain ⟨x, hx, ht⟩ := ih h
      exact ⟨x, by rw [eval_paren, hx], ht⟩
  | case3 e ih => exact (ih h).not
  | case4 e otherwise ih ih' =>
      rw [List.forall_mem_append] at h
      exact (ih h.1).coalesce (ih' h.2)
  | case5 left right ih ih' =>
      rw [List.forall_mem_append] at h
      exact (ih h.1).and (ih' h.2)
  | case6 left right ih ih' =>
      rw [List.forall_mem_append] at h
      exact (ih h.1).or (ih' h.2)
  | case7 m n => exact hasTruth_equal_numbers m n
  | case8 n => exact hasTruth_number n
  | case9 e _ _ _ _ _ _ _ =>
      rw [truth] <;> first | assumption | exact h e (List.mem_singleton_self e)

end Expr

end CardQuery.Sql
