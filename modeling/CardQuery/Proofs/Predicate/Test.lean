/-
**Tests of predicates.**

The test of a predicate does two things at once: it looks for malformed regular expressions, and it
builds a function on cards.  Here the two are taken apart.  The regular expressions of a predicate are
listed in order, and whether a card meets a predicate is a function of its own, so that the test exists
exactly when all that is listed is well formed, and is that function.

Main definitions:

* `Predicate.patterns` — the regular expressions of a predicate in order;
* `Predicate.holds` — does a card meet the predicate?

Main results:

* `Predicate.test?_eq` — **the test of a predicate**, or the first malformed regular expression;
* `Predicate.holds_conjunction`, `Predicate.patterns_conjunction` — combining predicates in the form
  without superfluous nesting changes neither what they mean nor what they list, and so for
  `disjunction` and `negate`.
-/

import CardQuery.Predicate.Matching
import Mathlib.Data.List.Basic

set_option autoImplicit false

namespace CardQuery

namespace Predicate

/-! ### Patterns and meanings -/

mutual

/-- The regular expressions of a predicate in order. -/
def patterns : Predicate → List String
  | regex _ pattern => [pattern]
  | not p => p.patterns
  | allOf ps => patternsAll ps
  | anyOf ps => patternsAll ps
  | _ => []

/-- The regular expressions of the predicates of a list. -/
def patternsAll : List Predicate → List String
  | [] => []
  | p :: ps => p.patterns ++ patternsAll ps

end

/-- The text is no regular expression when case is ignored. -/
def IsMalformed (pattern : String) : Bool := (Regex.parse? true pattern).isNone

mutual

/-- Does a card meet the predicate?  A malformed regular expression is found nowhere. -/
def holds : Predicate → Json → Bool
  | everything => fun _ => true
  | contains key needle => textTest key (containsNeedle needle)
  | regex key pattern =>
    textTest key fun text =>
      match Regex.parse? true pattern with
      | some p => p.occursIn text.toList
      | none => false
  | textEquals key value => textTest key (equalsText value)
  | compare key comparison value => storedTest key fun stored => value.meets stored comparison
  | inList key values => storedTest key fun stored => values.any fun value => value.meets stored .equal
  | present key => storedTest key fun _ => true
  | hasElement key value => textTest key (equalsText value)
  | soleElement key value distinct =>
    fun card => soleTest value distinct (card.textsAt (Json.pathOf key))
  | bitsAllSet key mask => bitsTest key fun bits => bits &&& mask == mask
  | bitsAllClear key mask => bitsTest key fun bits => bits &&& mask == 0
  | not p => fun card => !p.holds card
  | allOf ps => holdsAll ps
  | anyOf ps => holdsAny ps

/-- Does a card meet all predicates of a list? -/
def holdsAll : List Predicate → Json → Bool
  | [] => fun _ => true
  | p :: ps => fun card => p.holds card && holdsAll ps card

/-- Does a card meet one of the predicates of a list? -/
def holdsAny : List Predicate → Json → Bool
  | [] => fun _ => false
  | p :: ps => fun card => p.holds card || holdsAny ps card

end

theorem patternsAll_eq (ps : List Predicate) : patternsAll ps = ps.flatMap patterns := by
  induction ps with
  | nil => rw [patternsAll, List.flatMap_nil]
  | cons p ps ih => rw [patternsAll, ih, List.flatMap_cons]

theorem holdsAll_eq (ps : List Predicate) (card : Json) :
    holdsAll ps card = ps.all fun p => p.holds card := by
  induction ps with
  | nil => rw [holdsAll, List.all_nil]
  | cons p ps ih => simp only [holdsAll, ih, List.all_cons]

theorem holdsAny_eq (ps : List Predicate) (card : Json) :
    holdsAny ps card = ps.any fun p => p.holds card := by
  induction ps with
  | nil => rw [holdsAny, List.any_nil]
  | cons p ps ih => simp only [holdsAny, ih, List.any_cons]

@[simp] theorem holds_allOf (ps : List Predicate) (card : Json) :
    (allOf ps).holds card = ps.all fun p => p.holds card := by rw [holds, holdsAll_eq]

@[simp] theorem holds_anyOf (ps : List Predicate) (card : Json) :
    (anyOf ps).holds card = ps.any fun p => p.holds card := by rw [holds, holdsAny_eq]

@[simp] theorem holds_not (p : Predicate) (card : Json) : (not p).holds card = !p.holds card := by
  rw [holds]

@[simp] theorem holds_everything (card : Json) : everything.holds card = true := by rw [holds]

/-- A list is met by a value that equals one of its members. -/
theorem holds_inList {key : String} {values : List Scalar} {card : Json} :
    (inList key values).holds card = true ↔
      ∃ stored, card.stored? (Json.pathOf key) = some stored ∧
        ∃ value ∈ values, value.meets stored .equal = true := by
  cases hstored : card.stored? (Json.pathOf key) with
  | none => simp [holds, storedTest, hstored]
  | some stored => simp [holds, storedTest, hstored]

@[simp] theorem patterns_allOf (ps : List Predicate) :
    (allOf ps).patterns = ps.flatMap patterns := by rw [patterns, patternsAll_eq]

@[simp] theorem patterns_anyOf (ps : List Predicate) :
    (anyOf ps).patterns = ps.flatMap patterns := by rw [patterns, patternsAll_eq]

@[simp] theorem patterns_not (p : Predicate) : (not p).patterns = p.patterns := by rw [patterns]

/-! ### The test -/

mutual

/-- **The test of a predicate** is what it means, unless a regular expression in it is malformed. -/
theorem test?_eq (p : Predicate) :
    p.test? =
      match p.patterns.find? IsMalformed with
      | none => .ok p.holds
      | some pattern => .error pattern := by
  cases p with
  | regex key pattern =>
      cases h : Regex.parse? true pattern <;> simp [test?, patterns, IsMalformed, holds, h]
  | not p =>
      rw [test?, test?_eq p, patterns_not]
      cases p.patterns.find? IsMalformed with
      | none => simp only [holds]
      | some pattern => rfl
  | allOf ps =>
      rw [test?, testAll?_eq ps, patterns_allOf]
      cases (ps.flatMap patterns).find? IsMalformed with
      | none => simp [funext (holds_allOf ps), List.all_map, Function.comp_def]
      | some pattern => rfl
  | anyOf ps =>
      rw [test?, testAll?_eq ps, patterns_anyOf]
      cases (ps.flatMap patterns).find? IsMalformed with
      | none => simp [funext (holds_anyOf ps), List.any_map, Function.comp_def]
      | some pattern => rfl
  | _ => simp only [test?, patterns, holds, List.find?_nil]

theorem testAll?_eq (ps : List Predicate) :
    testAll? ps =
      match (ps.flatMap patterns).find? IsMalformed with
      | none => .ok (ps.map holds)
      | some pattern => .error pattern := by
  cases ps with
  | nil => simp [testAll?]
  | cons p ps =>
      rw [testAll?, test?_eq p, testAll?_eq ps, List.flatMap_cons, List.find?_append]
      cases p.patterns.find? IsMalformed with
      | none => cases (ps.flatMap patterns).find? IsMalformed <;> rfl
      | some pattern => rfl

end

theorem test?_eq_ok_iff {p : Predicate} {f : Json → Bool} :
    p.test? = .ok f ↔ (∀ pattern ∈ p.patterns, IsMalformed pattern = false) ∧ f = p.holds := by
  rw [test?_eq]
  cases h : p.patterns.find? IsMalformed with
  | none =>
      have hnone : ∀ pattern ∈ p.patterns, IsMalformed pattern = false := by
        simpa using List.find?_eq_none.1 h
      simp only [Except.ok.injEq]
      exact ⟨fun hf => ⟨hnone, hf.symm⟩, fun hf => hf.2.symm⟩
  | some pattern =>
      simp only [reduceCtorEq, false_iff, not_and]
      intro hall
      have hmalformed := List.find?_some h
      rw [hall pattern (List.mem_of_find?_eq_some h)] at hmalformed
      contradiction

/-! ### Combining predicates -/

theorem holds_conjuncts (p : Predicate) (card : Json) :
    p.holds card = p.conjuncts.all fun q => q.holds card := by
  unfold conjuncts
  split <;> simp

theorem patterns_conjuncts (p : Predicate) : p.patterns = p.conjuncts.flatMap patterns := by
  unfold conjuncts
  split <;> simp [patterns, patternsAll_eq]

theorem holds_ofConjuncts (ps : List Predicate) (card : Json) :
    (ofConjuncts ps).holds card = ps.all fun p => p.holds card := by
  unfold ofConjuncts
  split <;> simp

theorem patterns_ofConjuncts (ps : List Predicate) :
    (ofConjuncts ps).patterns = ps.flatMap patterns := by
  unfold ofConjuncts
  split <;> simp [patterns, patternsAll_eq]

/-- A card meets a conjunction when it meets every member. -/
@[simp] theorem holds_conjunction (ps : List Predicate) (card : Json) :
    (conjunction ps).holds card = ps.all fun p => p.holds card := by
  rw [conjunction, holds_ofConjuncts, List.all_flatMap]
  congr 1
  funext p
  rw [holds_conjuncts p]

/-- A card meets a disjunction when it meets some member. -/
@[simp] theorem holds_disjunction (ps : List Predicate) (card : Json) :
    (disjunction ps).holds card = ps.any fun p => p.holds card := by
  unfold disjunction
  split <;> simp

/-- A card meets the opposite of a predicate when it does not meet the predicate. -/
@[simp] theorem holds_negate (p : Predicate) (card : Json) : p.negate.holds card = !p.holds card := by
  unfold negate
  split <;> simp

@[simp] theorem patterns_conjunction (ps : List Predicate) :
    (conjunction ps).patterns = ps.flatMap patterns := by
  rw [conjunction, patterns_ofConjuncts, List.flatMap_assoc]
  congr 1
  funext p
  rw [← patterns_conjuncts p]

@[simp] theorem patterns_disjunction (ps : List Predicate) :
    (disjunction ps).patterns = ps.flatMap patterns := by
  unfold disjunction
  split <;> simp

@[simp] theorem patterns_negate (p : Predicate) : p.negate.patterns = p.patterns := by
  unfold negate
  split <;> simp

end Predicate

end CardQuery
