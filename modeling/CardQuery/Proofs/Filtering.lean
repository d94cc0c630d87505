/-
**How tokens with a literal value filter the cards.**

Unless its command orders the results or is composite, a token with a literal value has the condition that
the kind of its command makes of the value without the white space around it.  Such a condition holds no
regular expression, and so there is a test for it.

Main definitions:

* `Argument.FiltersBy` — a token keeps the cards that pass a test, or those that do not if it is negated;
* `Argument.asking` — the token with another operator and another value.

Main results:

* `Argument.filtersBy_of_literal` — **a token with a literal value filters by the test of its condition**;
* `Argument.filtersBy_of_made` — its case for conditions that are made of the trimmed value;
* `Argument.filtersBy_number`, `Argument.filtersBy_bitset`, `Argument.filtersBy_halfNumber` — its instances
  for numbers, for sets of letters and for whole and half numbers.
-/

import CardQuery.Proofs.Meaning
import CardQuery.Proofs.Search.Patterns
import CardQuery.Proofs.Unicode.Blank

set_option autoImplicit false

namespace CardQuery

open Unicode (trimmed trimmed_trimmed)

/-- The token filters the cards by a condition, or by the opposite if it is negated, and the condition has a
test. -/
structure Argument.FiltersBy (a : Argument) (p : Predicate) (test : Json → Bool) : Prop where
  meaning_eq : a.meaning = .ok (.filter (if a.isNegated then p.negate else p))
  test_eq : p.test? = .ok test

/-- The token with another operator and another value. -/
def Argument.asking (a : Argument) (op : Operator) (value : String) : Argument :=
  { a with operator := op, operand := .text value }

/-- Words, numbers of letters and letters are read without the white space around them. -/
theorem Alphabet.read_trimmed (a : Alphabet) (raw : String) : a.read (trimmed raw) = a.read raw := by
  rw [read, trimmed_trimmed]
  rfl

/-- A command of a kind that is no order does not order the results. -/
theorem Command.not_isOrder_of_kind {c : Command} {kind : CommandKind} (hkind : c.kind = kind)
    (h : ∀ keys, kind ≠ .order keys) : ¬c.IsOrder := by
  rintro ⟨keys, hkeys⟩
  exact h keys (hkind.symm.trans hkeys)

namespace Argument

variable {a : Argument} {raw : String} {p : Predicate}

/-- **A token with a literal value filters by the test of its condition.** -/
theorem filtersBy_of_literal (hraw : a.operand = .text raw) (hkind : a.command.kind.isComposite = false)
    (horder : ¬a.command.IsOrder) (hp : a.toBinding.condition = .ok p) : a.FiltersBy p p.holds := by
  have hpatterns : p.patterns = [] := by
    rw [Binding.patterns_condition hp, Binding.patterns_of_text hraw]
  refine ⟨?_, Predicate.test?_eq_ok_iff.2 ⟨?_, rfl⟩⟩
  · rw [meaning_of_not_isOrder horder, condition_of_simple hkind, hp]
    rfl
  · rw [hpatterns]
    exact List.forall_mem_nil _

/-- A token whose kind makes the condition of the value without the white space around it. -/
theorem filtersBy_of_made (make : String → Except SearchError Predicate) (hraw : a.operand = .text raw)
    (hkind : a.command.kind.isComposite = false) (horder : ¬a.command.IsOrder)
    (hmade : a.toBinding.condition = a.toBinding.literal >>= make) (hp : make (trimmed raw) = .ok p) :
    a.FiltersBy p p.holds := by
  have hliteral : a.toBinding.literal = .ok (trimmed raw) := by rw [Binding.literal, hraw]
  refine filtersBy_of_literal hraw hkind horder ?_
  rw [hmade, hliteral]
  exact hp

/-- A token for a number. -/
theorem filtersBy_number {allowReal : Bool} (hkind : a.command.kind = .number allowReal)
    (hraw : a.operand = .text raw) (hp : a.numberCondition allowReal (trimmed raw) = .ok p) :
    a.FiltersBy p p.holds := by
  have horder : ¬a.command.IsOrder := Command.not_isOrder_of_kind hkind fun keys h => by cases h
  refine filtersBy_of_made (a.numberCondition allowReal) hraw (by rw [hkind]; rfl) horder ?_ hp
  rw [Binding.condition, hkind]

/-- A token for a set of letters. -/
theorem filtersBy_bitset {alphabet : Alphabet} (hkind : a.command.kind = .bitset alphabet)
    (hraw : a.operand = .text raw) (hp : a.bitsetCondition alphabet (trimmed raw) = .ok p) :
    a.FiltersBy p p.holds := by
  have horder : ¬a.command.IsOrder := Command.not_isOrder_of_kind hkind fun keys h => by cases h
  refine filtersBy_of_made (a.bitsetCondition alphabet) hraw (by rw [hkind]; rfl) horder ?_ hp
  rw [Binding.condition, hkind]

/-- A token for a whole or half number. -/
theorem filtersBy_halfNumber {range : HalfRange} (hkind : a.command.kind = .halfNumber range)
    (hraw : a.operand = .text raw) (hp : a.halfNumberCondition range (trimmed raw) = .ok p) :
    a.FiltersBy p p.holds := by
  have horder : ¬a.command.IsOrder := Command.not_isOrder_of_kind hkind fun keys h => by cases h
  refine filtersBy_of_made (a.halfNumberCondition range) hraw (by rw [hkind]; rfl) horder ?_ hp
  rw [Binding.condition, hkind]

end Argument

end CardQuery
