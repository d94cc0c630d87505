/-
**The form of combined predicates.**

`conjunction`, `disjunction` and `negate` leave out nodes that say nothing: what every card meets and
conjunctions are not members of a conjunction, a negation is not negated, and a single member stands for
itself.  Each of them looks at the top nodes of what it is given only, so that nothing superfluous is left
below relies on how the members came about.  It is an invariant of all predicates that are put together in
this way, and it says which predicates these are.

Main definitions:

* `Predicate.Composed` — the predicates that are put together from leaves;
* `Predicate.nodes` — the predicates that a predicate is made of;
* `Predicate.IsFlat`, `Predicate.Normal` — no node is superfluous at the top, or anywhere.

Main results:

* `Predicate.normal_conjunction`, `Predicate.normal_disjunction`, `Predicate.normal_negate` — one step of
  putting together keeps the form;
* `Predicate.composed_iff_normal` — **the predicates put together from leaves are those in normal form**;
* `Predicate.combining_flat_and_faithful` — **combining predicates keeps what they mean and their form**.
-/

import CardQuery.Proofs.Outcome
import CardQuery.Proofs.Predicate.Structure

set_option autoImplicit false

namespace CardQuery

namespace Predicate

/-! ### Putting together -/

/-- The predicates that are put together from leaves, in any order and to any depth. -/
inductive Composed : Predicate → Prop
  | leaf {p : Predicate} (h : p.isLeaf = true) : Composed p
  | negate {p : Predicate} (h : Composed p) : Composed p.negate
  | conjunction {ps : List Predicate} (h : ∀ p ∈ ps, Composed p) : Composed (conjunction ps)
  | disjunction {ps : List Predicate} (h : ∀ p ∈ ps, Composed p) : Composed (disjunction ps)

/-! ### Nodes -/

mutual

/-- The predicates that a predicate is made of, itself among them. -/
def nodes : Predicate → List Predicate
  | not p => not p :: p.nodes
  | allOf ps => allOf ps :: nodesAll ps
  | anyOf ps => anyOf ps :: nodesAll ps
  | p => [p]

/-- The predicates that those of a list are made of. -/
def nodesAll : List Predicate → List Predicate
  | [] => []
  | p :: ps => p.nodes ++ nodesAll ps

end

/-- No node at the top of a predicate is superfluous. -/
def IsFlat : Predicate → Prop
  | not p => ∀ q, p ≠ not q
  | allOf ps => 2 ≤ ps.length ∧ ∀ p ∈ ps, p ≠ everything ∧ ∀ qs, p ≠ allOf qs
  | anyOf ps => ps.length ≠ 1
  | _ => True

/-- No node of a predicate is superfluous. -/
def Normal (p : Predicate) : Prop := ∀ q ∈ p.nodes, q.IsFlat

theorem nodesAll_eq (ps : List Predicate) : nodesAll ps = ps.flatMap nodes := by
  induction ps with
  | nil => rw [nodesAll, List.flatMap_nil]
  | cons p ps ih => rw [nodesAll, ih, List.flatMap_cons]

theorem normal_leaf {p : Predicate} (hp : p.isLeaf = true) : p.Normal := by
  cases p with
  | not | allOf | anyOf => contradiction
  | _ => simp [Normal, nodes, IsFlat]

theorem normal_not {p : Predicate} : (not p).Normal ↔ (∀ q, p ≠ not q) ∧ p.Normal := by
  simp [Normal, nodes, IsFlat]

theorem normal_allOf {ps : List Predicate} :
    (allOf ps).Normal ↔
      (2 ≤ ps.length ∧ ∀ p ∈ ps, p ≠ everything ∧ ∀ qs, p ≠ allOf qs) ∧ ∀ p ∈ ps, p.Normal := by
  simp only [Normal, nodes, nodesAll_eq, List.forall_mem_cons, List.forall_mem_flatMap, IsFlat]

theorem normal_anyOf {ps : List Predicate} :
    (anyOf ps).Normal ↔ ps.length ≠ 1 ∧ ∀ p ∈ ps, p.Normal := by
  simp only [Normal, nodes, nodesAll_eq, List.forall_mem_cons, List.forall_mem_flatMap, IsFlat]

/-! ### One step -/

/-- The opposite is a new node unless there is a negation to take off. -/
theorem negate_eq_not {p : Predicate} (h : ∀ q, p ≠ not q) : p.negate = not p := by
  cases p with
  | not q => exact absurd rfl (h q)
  | _ => rfl

/-- A member that is neither met by every card nor a conjunction is taken as it is. -/
theorem conjuncts_eq_self {p : Predicate} (h : p ≠ everything ∧ ∀ qs, p ≠ allOf qs) :
    p.conjuncts = [p] := by
  cases p with
  | everything => exact absurd rfl h.1
  | allOf qs => exact absurd rfl (h.2 qs)
  | _ => rfl

/-- What a predicate in normal form contributes to a conjunction may be a member of one. -/
theorem normal_of_mem_conjuncts {p q : Predicate} (h : p.Normal) (hq : q ∈ p.conjuncts) :
    (q ≠ everything ∧ ∀ qs, q ≠ allOf qs) ∧ q.Normal := by
  cases p with
  | everything => cases hq
  | allOf ps =>
      obtain ⟨⟨-, hmembers⟩, hnormal⟩ := normal_allOf.1 h
      exact ⟨hmembers q hq, hnormal q hq⟩
  | _ =>
      rw [List.mem_singleton.1 hq]
      exact ⟨⟨by simp, by simp⟩, h⟩

theorem normal_negate {p : Predicate} (h : p.Normal) : p.negate.Normal := by
  cases p with
  | not p => exact (normal_not.1 h).2
  | _ => exact normal_not.2 ⟨by simp, h⟩

theorem normal_conjunction {ps : List Predicate} (h : ∀ p ∈ ps, p.Normal) :
    (conjunction ps).Normal := by
  have hmembers : ∀ q ∈ ps.flatMap conjuncts, (q ≠ everything ∧ ∀ qs, q ≠ allOf qs) ∧ q.Normal := by
    rw [List.forall_mem_flatMap]
    exact fun p hp q hq => normal_of_mem_conjuncts (h p hp) hq
  rw [conjunction]
  rcases hqs : ps.flatMap conjuncts with _ | ⟨q, _ | ⟨q', qs⟩⟩
  · exact normal_leaf rfl
  · exact (hmembers q (by simp [hqs])).2
  · rw [hqs] at hmembers
    exact normal_allOf.2 ⟨⟨by simp, fun r hr => (hmembers r hr).1⟩, fun r hr => (hmembers r hr).2⟩

theorem normal_disjunction {ps : List Predicate} (h : ∀ p ∈ ps, p.Normal) :
    (disjunction ps).Normal := by
  match ps with
  | [] => exact normal_anyOf.2 ⟨by simp, h⟩
  | [p] => exact h p (List.mem_singleton_self p)
  | _ :: _ :: _ => exact normal_anyOf.2 ⟨by simp, h⟩

/-! ### All predicates put together -/

/-- A conjunction without superfluous nodes is the conjunction of its members. -/
theorem conjunction_eq_allOf {ps : List Predicate} (hlength : 2 ≤ ps.length)
    (h : ∀ p ∈ ps, p ≠ everything ∧ ∀ qs, p ≠ allOf qs) : conjunction ps = allOf ps := by
  have hself : ps.flatMap conjuncts = ps := by
    rw [List.flatMap_congr fun p hp => conjuncts_eq_self (h p hp), List.flatMap_singleton']
  rw [conjunction, hself]
  rcases ps with _ | ⟨p, _ | ⟨q, qs⟩⟩
  · simp at hlength
  · simp at hlength
  · rfl

theorem disjunction_eq_anyOf {ps : List Predicate} (h : ps.length ≠ 1) :
    disjunction ps = anyOf ps := by
  match ps with
  | [_] => exact absurd rfl h
  | [] | _ :: _ :: _ => rfl

theorem Composed.normal {p : Predicate} (h : Composed p) : p.Normal := by
  induction h with
  | leaf h => exact normal_leaf h
  | negate _ ih => exact normal_negate ih
  | conjunction _ ih => exact normal_conjunction ih
  | disjunction _ ih => exact normal_disjunction ih

/-- **The predicates put together from leaves are those in normal form.** -/
theorem composed_iff_normal {p : Predicate} : Composed p ↔ p.Normal := by
  refine ⟨Composed.normal, fun h => ?_⟩
  induction p using Predicate.induction with
  | leaf p hp => exact .leaf hp
  | neg p ih =>
      obtain ⟨hp, hnormal⟩ := normal_not.1 h
      rw [← negate_eq_not hp]
      exact .negate (ih hnormal)
  | all ps ih =>
      obtain ⟨⟨hlength, hmembers⟩, hnormal⟩ := normal_allOf.1 h
      rw [← conjunction_eq_allOf hlength hmembers]
      exact .conjunction fun p hp => ih p hp (hnormal p hp)
  | any ps ih =>
      obtain ⟨hlength, hnormal⟩ := normal_anyOf.1 h
      rw [← disjunction_eq_anyOf hlength]
      exact .disjunction fun p hp => ih p hp (hnormal p hp)

/-! ### Tests of what is put together -/

theorem testAll?_eq_mapM (ps : List Predicate) : testAll? ps = ps.mapM test? := by
  induction ps with
  | nil => rfl
  | cons p ps ih =>
      rw [testAll?, ih, List.mapM_cons]
      cases p.test? with
      | error e => rfl
      | ok f => cases ps.mapM test? <;> rfl

/-- The test of a conjunction is made from those of the members, and fails as the first of them does. -/
theorem test?_conjunction_eq_map (ps : List Predicate) :
    (conjunction ps).test? = (ps.mapM test?).map fun tests card => tests.all fun test => test card := by
  rw [← testAll?_eq_mapM, test?_eq, testAll?_eq, patterns_conjunction]
  cases (ps.flatMap patterns).find? IsMalformed with
  | none => simp [Except.map, funext (holds_conjunction ps), List.all_map, Function.comp_def]
  | some pattern => rfl

/-- The test of an alternative is made from those of the members, and fails as the first of them does. -/
theorem test?_disjunction_eq_map (ps : List Predicate) :
    (disjunction ps).test? = (ps.mapM test?).map fun tests card => tests.any fun test => test card := by
  rw [← testAll?_eq_mapM, test?_eq, testAll?_eq, patterns_disjunction]
  cases (ps.flatMap patterns).find? IsMalformed with
  | none => simp [Except.map, funext (holds_disjunction ps), List.any_map, Function.comp_def]
  | some pattern => rfl

theorem test?_negate_eq_map (p : Predicate) :
    p.negate.test? = p.test?.map fun test card => !test card := by
  rw [test?_eq, test?_eq, patterns_negate]
  cases p.patterns.find? IsMalformed with
  | none => simp [Except.map, funext (holds_negate p)]
  | some pattern => rfl

/-- **Combining predicates keeps what they mean and their form.**

The tests of a conjunction, an alternative and an opposite are made from those of the members, and exist
when these do.  And predicates are put together from leaves, however deep, exactly when no negation is
negated, conjunctions have at least two members, which neither every card meets nor are conjunctions,
and no alternative has a single member. -/
theorem combining_flat_and_faithful :
    (∀ ps, (conjunction ps).test? =
        (ps.mapM test?).map fun tests card => tests.all fun test => test card) ∧
      (∀ ps, (disjunction ps).test? =
        (ps.mapM test?).map fun tests card => tests.any fun test => test card) ∧
      (∀ p : Predicate, p.negate.test? = p.test?.map fun test card => !test card) ∧
      ∀ p, Composed p ↔ ∀ q ∈ p.nodes, q.IsFlat :=
  ⟨test?_conjunction_eq_map, test?_disjunction_eq_map, test?_negate_eq_map, fun _ => composed_iff_normal⟩

/-- Three members in two conjunctions, the inner one below two negations, are one conjunction of three. -/
theorem combining_flat_and_faithful_nested :
    let inner := conjunction [present "power", everything, present "cost"]
    let p := conjunction [inner.negate.negate, present "name"]
    Composed p ∧ p = allOf [present "power", present "cost", present "name"] ∧
      ∀ q ∈ p.nodes, q.IsFlat := by
  intro inner p
  have hinner : Composed inner := by
    refine .conjunction ?_
    simp only [List.forall_mem_cons]
    exact ⟨.leaf rfl, .leaf rfl, .leaf rfl, by simp⟩
  have hp : Composed p := by
    refine .conjunction ?_
    simp only [List.forall_mem_cons]
    exact ⟨hinner.negate.negate, .leaf rfl, by simp⟩
  exact ⟨hp, rfl, (combining_flat_and_faithful.2.2.2 p).1 hp⟩

end Predicate

end CardQuery
