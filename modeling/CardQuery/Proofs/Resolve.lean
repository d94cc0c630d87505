/-
**Tokens that are bound.**

Main results:

* `Model.resolve_eq_ok`, `Model.resolve_of_checks` — **everything that is checked** when a token is bound, and
  nothing else is;
* `Model.bindPart_eq_ok`, `Model.bindParts_eq_ok` — what a part is bound to, and that the parts of a composite
  value are its captures, bound in order;
* `Model.operand_of_mem_parts` — the parts of a composite value are literal texts;
* `Model.isValid_of_resolve` — a regular expression that is bound is one as long as case counts.
-/

import CardQuery.Argument
import CardQuery.Proofs.Outcome

set_option autoImplicit false

namespace CardQuery.Model

variable {m : Model} {t : Token} {a : Argument}

/-- What is known about the parts of a value: a composite one has its captures bound in order, and any
other has none. -/
def PartsOf (m : Model) (t : Token) (a : Argument) : Prop :=
  match a.command.kind with
  | .composite templates => ∃ fields, a.fields = some fields ∧
      m.bindParts a.command templates a.operator t.operand.content = .ok (fields, a.parts)
  | _ => a.fields = none ∧ a.parts = []

/-- **A token that is bound** has passed all checks of its command, in this order. -/
theorem resolve_eq_ok (h : m.resolve t = .ok a) :
    m.addressed t = .ok a.command ∧
      a.command.checkModifier t = .ok a.modifier ∧
      a.command.checkOperator t = .ok a.operator ∧
      a.command.checkOperand t.operand = .ok () ∧
      a.command.checkQualifiers t a.operator = .ok () ∧
      a.operand = t.operand ∧ a.qualifiers = t.qualifiers ∧ m.PartsOf t a := by
  unfold resolve at h
  obtain ⟨command, hcommand, h⟩ := bind_eq_ok_iff.1 h
  obtain ⟨modifier, hmodifier, h⟩ := bind_eq_ok_iff.1 h
  obtain ⟨operator, hoperator, h⟩ := bind_eq_ok_iff.1 h
  obtain ⟨⟨⟩, hoperand, h⟩ := bind_eq_ok_iff.1 h
  obtain ⟨⟨⟩, hqualifiers, h⟩ := bind_eq_ok_iff.1 h
  simp only at h
  split at h
  · next templates hk =>
    obtain ⟨⟨fields, parts⟩, hparts, h⟩ := bind_eq_ok_iff.1 h
    cases h
    refine ⟨hcommand, hmodifier, hoperator, hoperand, hqualifiers, rfl, rfl, ?_⟩
    simp only [PartsOf, hk]
    exact ⟨fields, rfl, hparts⟩
  · next hk =>
    cases h
    refine ⟨hcommand, hmodifier, hoperator, hoperand, hqualifiers, rfl, rfl, ?_⟩
    unfold PartsOf
    split
    · next templates hk' => exact absurd hk' (hk templates)
    · exact ⟨rfl, rfl⟩

/-- An argument that agrees with all checks is what the token is bound to. -/
theorem resolve_of_checks (hcommand : m.addressed t = .ok a.command)
    (hmodifier : a.command.checkModifier t = .ok a.modifier)
    (hoperator : a.command.checkOperator t = .ok a.operator)
    (hoperand : a.command.checkOperand t.operand = .ok ())
    (hqualifiers : a.command.checkQualifiers t a.operator = .ok ())
    (hsame : a.operand = t.operand) (hmarks : a.qualifiers = t.qualifiers)
    (hparts : m.PartsOf t a) : m.resolve t = .ok a := by
  obtain ⟨⟨command, modifier, operand, operator, qualifiers⟩, fields, parts⟩ := a
  simp only at hcommand hmodifier hoperator hoperand hqualifiers hsame hmarks
  subst hsame hmarks
  unfold resolve
  refine bind_eq_ok_iff.2 ⟨command, hcommand, bind_eq_ok_iff.2 ⟨modifier, hmodifier,
    bind_eq_ok_iff.2 ⟨operator, hoperator, bind_eq_ok_iff.2 ⟨(), hoperand,
      bind_eq_ok_iff.2 ⟨(), hqualifiers, ?_⟩⟩⟩⟩⟩
  unfold PartsOf at hparts
  simp only at hparts ⊢
  split
  · next templates hkind =>
    simp only [hkind] at hparts
    obtain ⟨found, rfl, hbind⟩ := hparts
    exact bind_eq_ok_iff.2 ⟨(found, parts), hbind, rfl⟩
  · next hkind =>
    split at hparts
    · next templates hk => exact absurd hk (hkind templates)
    · obtain ⟨rfl, rfl⟩ := hparts
      rfl

/-- What a part is bound to. -/
theorem bindPart_eq_ok {whole : Command} {op : Operator} {field : String × String} {b : Binding}
    (h : m.bindPart whole op field = .ok b) :
    m.command? field.1 = some b.command ∧ b.command.partOperator? op = some b.operator ∧
      b = { command := b.command, modifier := none, operand := .text field.2,
            operator := b.operator, qualifiers := [] } := by
  unfold bindPart at h
  split at h
  · contradiction
  · next c hc =>
    split at h
    · contradiction
    · next op' hop =>
      cases h
      exact ⟨hc, hop, rfl⟩

theorem operand_of_bindPart {whole : Command} {op : Operator} {part : String × String} {b : Binding}
    (h : m.bindPart whole op part = .ok b) : b.operand = .text part.2 := by
  obtain ⟨-, -, hb⟩ := bindPart_eq_ok h
  rw [hb]

/-- The parts of a value are its captures, bound in order. -/
theorem bindParts_eq_ok {whole : Command} {templates : Composite} {op : Operator} {value : String}
    {fields : KeyedList String} {parts : List Binding}
    (h : m.bindParts whole templates op value = .ok (fields, parts)) :
    templates.captures value = some fields ∧
      List.Forall₂ (fun field b => m.bindPart whole op field = .ok b) fields parts := by
  unfold bindParts at h
  split at h
  · contradiction
  · next captured hcaptures =>
    obtain ⟨bound, hmap, heq⟩ := map_eq_ok_iff.1 h
    cases heq
    exact ⟨hcaptures, mapM_eq_ok_iff.1 hmap⟩

/-- Every part of a composite value is bound with the operator of the whole. -/
theorem exists_bindPart_of_mem_parts (h : m.resolve t = .ok a) {b : Binding} (hb : b ∈ a.parts) :
    ∃ part, m.bindPart a.command a.operator part = .ok b := by
  obtain ⟨-, -, -, -, -, -, -, hparts⟩ := resolve_eq_ok h
  unfold PartsOf at hparts
  split at hparts
  · obtain ⟨fields, -, hbind⟩ := hparts
    obtain ⟨part, -, hpart⟩ := exists_rel_of_mem (bindParts_eq_ok hbind).2 hb
    exact ⟨part, hpart⟩
  · rw [hparts.2] at hb
    contradiction

/-- The parts of a composite value are literal texts. -/
theorem operand_of_mem_parts (h : m.resolve t = .ok a) {b : Binding} (hb : b ∈ a.parts) :
    ∃ s, b.operand = .text s := by
  obtain ⟨part, hpart⟩ := exists_bindPart_of_mem_parts h hb
  exact ⟨part.2, operand_of_bindPart hpart⟩

theorem isValid_of_resolve (h : m.resolve t = .ok a) {source : String}
    (ha : a.operand = .regex source) : Regex.isValid source = true := by
  obtain ⟨-, -, -, hoperand, -, heq, -⟩ := resolve_eq_ok h
  rw [← heq, ha, Command.checkOperand] at hoperand
  split at hoperand
  · contradiction
  · split at hoperand
    · next hvalid => exact hvalid
    · contradiction

end CardQuery.Model
