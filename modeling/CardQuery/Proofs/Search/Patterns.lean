/-
**The regular expressions that a token asks for.**

Only conditions on texts hold regular expressions: the one that was written if it may be found
anywhere, and the one for whole texts if it has to be the whole.  Parts of composite values are literal
texts and bring in none.

Main definitions:

* `Binding.patterns` — the regular expressions in the condition of a bound value.

Main results:

* `Argument.patterns_meaning` — **the regular expressions in the meaning of a token** are those of its
  binding.
-/

import CardQuery.Proofs.Meaning

set_option autoImplicit false

namespace CardQuery

namespace Binding

variable {b : Binding} {p : Predicate}

/-- The regular expressions in a condition on a text. -/
def textPatterns (b : Binding) : List String :=
  match b.operand, b.operator with
  | .regex source, .has => [source]
  | .regex source, .equals => [wholeText source]
  | _, _ => []

/-- The regular expressions in the condition of a bound value. -/
def patterns (b : Binding) : List String :=
  match b.command.kind with
  | .text => b.textPatterns
  | .unrestricted targets => targets.flatMap fun _ => b.textPatterns
  | _ => []

theorem patterns_textCondition {key : String} (h : b.textCondition key = .ok p) :
    p.patterns = b.textPatterns := by
  unfold textCondition at h
  unfold textPatterns
  split at h <;> cases h <;> simp_all [Predicate.patterns]

/-! ### Conditions on literal values -/

theorem patterns_numberCondition {allowReal : Bool} {raw : String}
    (h : b.numberCondition allowReal raw = .ok p) : p.patterns = [] := by
  unfold numberCondition at h
  split at h
  · cases h
    rfl
  · contradiction

theorem patterns_setCondition {values : ValueSet} {raw : String}
    (h : b.setCondition values raw = .ok p) : p.patterns = [] := by
  obtain ⟨-, -, ⟨-, rfl⟩ | ⟨-, rfl⟩⟩ := setCondition_eq_ok_iff.1 h
  · rfl
  · rfl

theorem patterns_maskCondition (key : String) (full mask : Nat) (op : Operator) :
    (maskCondition key full mask op).patterns = [] := by
  cases op with
  | has =>
      rw [maskCondition]
      split <;> rfl
  | less => simp [maskCondition, subsetOf, exactly, Predicate.patterns]
  | greater => simp [maskCondition, supersetOf, exactly, Predicate.patterns]
  | _ => rfl

theorem patterns_bitsetCondition {alphabet : Alphabet} {raw : String}
    (h : b.bitsetCondition alphabet raw = .ok p) : p.patterns = [] := by
  unfold bitsetCondition at h
  split at h
  · contradiction
  · cases h
    exact patterns_maskCondition _ _ _ _
  · cases h
    rfl

theorem patterns_offLadder (key : String) (steps : List Step) :
    (offLadder key steps).patterns = [] := by
  simp [offLadder, oneOf, Predicate.patterns]

theorem patterns_halfNumberCondition {range : HalfRange} {raw : String}
    (h : b.halfNumberCondition range raw = .ok p) : p.patterns = [] := by
  obtain ⟨labels, rfl⟩ | rfl := halfNumberCondition_cases h
  · rfl
  · exact patterns_offLadder _ _

/-! ### Conditions of bound values -/

theorem flatMap_patterns {α : Type} {xs : List α} {ps : List Predicate}
    {f : α → Except SearchError Predicate} {g : α → List String}
    (hf : ∀ x p, f x = .ok p → p.patterns = g x) (h : xs.mapM f = .ok ps) :
    ps.flatMap Predicate.patterns = xs.flatMap g := by
  have hall := mapM_eq_ok_iff.1 h
  clear h
  induction hall with
  | nil => rfl
  | cons hx _ ih => rw [List.flatMap_cons, List.flatMap_cons, ih, hf _ _ hx]

/-- The regular expressions in the condition of a bound value are those of the binding. -/
theorem patterns_condition (h : b.condition = .ok p) : p.patterns = b.patterns := by
  unfold condition at h
  unfold patterns
  cases hk : b.command.kind with
  | text =>
      rw [hk] at h
      exact patterns_textCondition h
  | number allowReal =>
      rw [hk] at h
      obtain ⟨raw, -, h⟩ := bind_eq_ok_iff.1 h
      exact patterns_numberCondition h
  | set values =>
      rw [hk] at h
      obtain ⟨raw, -, h⟩ := bind_eq_ok_iff.1 h
      exact patterns_setCondition h
  | bitset alphabet =>
      rw [hk] at h
      obtain ⟨raw, -, h⟩ := bind_eq_ok_iff.1 h
      exact patterns_bitsetCondition h
  | halfNumber range =>
      rw [hk] at h
      obtain ⟨raw, -, h⟩ := bind_eq_ok_iff.1 h
      exact patterns_halfNumberCondition h
  | composite templates =>
      rw [hk] at h
      cases h
      rfl
  | unrestricted targets =>
      rw [hk] at h
      obtain ⟨ps, hps, rfl⟩ := map_eq_ok_iff.1 h
      rw [Predicate.patterns_disjunction]
      exact flatMap_patterns (fun key p hp => patterns_textCondition hp) hps
  | order keys =>
      rw [hk] at h
      contradiction

end Binding

/-! ### Meanings of tokens -/

theorem Binding.patterns_of_text {b : Binding} {s : String} (h : b.operand = .text s) :
    b.patterns = [] := by
  have htext : b.textPatterns = [] := by rw [textPatterns, h]
  unfold patterns
  split <;> simp [htext]

/-- **The regular expressions in the meaning of a token** are those of its binding. -/
theorem Argument.patterns_meaning {m : Model} {t : Token} {a : Argument} (ha : m.resolve t = .ok a)
    {p : Predicate} (h : a.meaning = .ok (.filter p)) : p.patterns = a.toBinding.patterns := by
  have hcondition : ∃ q, a.condition = .ok q ∧ p.patterns = q.patterns := by
    unfold meaning at h
    split at h
    · obtain ⟨key, -, hkey⟩ := map_eq_ok_iff.1 h
      contradiction
    · obtain ⟨q, hq, hp⟩ := map_eq_ok_iff.1 h
      cases hp
      refine ⟨q, hq, ?_⟩
      split
      · exact Predicate.patterns_negate q
      · rfl
  obtain ⟨q, hq, hpatterns⟩ := hcondition
  rw [hpatterns]
  unfold condition at hq
  split at hq
  · next templates hk =>
    -- the parts have no regular expressions, and the whole has none of its own
    obtain ⟨ps, hps, rfl⟩ := map_eq_ok_iff.1 hq
    have hnone : a.toBinding.patterns = [] := by simp only [Binding.patterns, hk]
    rw [hnone, Predicate.patterns_conjunction, List.flatMap_eq_nil_iff]
    intro q hq
    obtain ⟨part, hpart, hcondition⟩ := exists_of_mem_mapM hps hq
    obtain ⟨s, hs⟩ := Model.operand_of_mem_parts ha hpart
    rw [Binding.patterns_condition hcondition, Binding.patterns_of_text hs]
  · exact Binding.patterns_condition hq

end CardQuery
