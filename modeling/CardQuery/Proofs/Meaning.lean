/-
**What single tokens mean.**

A token is bound and then given a meaning.  Unless its command orders the results, the meaning is the
condition of its value, or the opposite of it if the token is marked.  The marks of a token enter into its
meaning in no other way: without them it is bound to the same, and has the same condition.

Main definitions:

* `Command.IsOrder` — commands that order the results;
* `Model.interpret` — what a token does to the results, or why it can do nothing.

Main results:

* `Binding.setCondition_eq_ok_iff`, `Binding.halfNumberCondition_cases` — what lists of values and labels can
  be asked for;
* `Argument.meaning_of_not_isOrder`, `Argument.meaning_eq_filter_iff` — which meanings are conditions;
* `Model.resolve_unmarked` — a token without its marks is bound to the same;
* `Model.negation_complements` — **a marked token asks for the complement** of what it asks for without its
  marks.
-/

import CardQuery.Meaning
import CardQuery.Proofs.Predicate.Test
import CardQuery.Proofs.Resolve

set_option autoImplicit false

namespace CardQuery

/-- The command orders the results. -/
def Command.IsOrder (c : Command) : Prop := ∃ keys, c.kind = .order keys

theorem Command.not_isOrder_of_isComposite {c : Command} (h : c.kind.isComposite = true) :
    ¬c.IsOrder := by
  rintro ⟨keys, hkeys⟩
  rw [hkeys] at h
  contradiction

/-- What a token does to the results, or why it can do nothing. -/
def Model.interpret (m : Model) (t : Token) : Except SearchError Meaning := do
  (← m.resolve t).meaning

theorem Model.interpret_of_resolve {m : Model} {t : Token} {a : Argument} (h : m.resolve t = .ok a) :
    m.interpret t = a.meaning := by
  rw [interpret, h]
  rfl

/-! ### Conditions -/

/-- A list of values is only asked for a value that is admitted, behind a colon or an equals sign. -/
theorem Binding.setCondition_eq_ok_iff {b : Binding} {p : Predicate} {values : ValueSet}
    {raw : String} :
    b.setCondition values raw = .ok p ↔
      raw.isEmpty = false ∧ values.accepts (values.canonical raw) = true ∧
        ((b.operator = .has ∧ p = .hasElement b.key (values.canonical raw)) ∨
          (b.operator = .equals ∧
            p = .soleElement b.key (values.canonical raw) (!values.countDuplicates))) := by
  unfold Binding.setCondition
  dsimp only
  generalize values.canonical raw = value
  cases raw.isEmpty with
  | true => simp [Binding.refuse]
  | false =>
      cases values.accepts value with
      | true => cases b.operator <;> simp [eq_comm]
      | false => simp [Binding.refuse]

/-- A word is asked for behind a colon or an equals sign, and what varies takes its place behind a colon. -/
theorem Binding.wordCondition_eq_ok_iff {b : Binding} {p : Predicate} {raw word : String}
    {varying : Option Predicate} :
    b.wordCondition raw word varying = .ok p ↔
      (b.operator = .has ∧ p = varying.getD (oneOf b.key [word])) ∨
        (b.operator = .equals ∧ p = oneOf b.key [word]) := by
  unfold wordCondition
  cases b.operator <;> simp [Binding.refuse, eq_comm]

/-- A label is one of some, or off the ladder. -/
theorem Binding.halfNumberCondition_cases {b : Binding} {p : Predicate} {range : HalfRange} {raw : String}
    (h : b.halfNumberCondition range raw = .ok p) :
    (∃ labels, p = oneOf b.key labels) ∨ p = offLadder b.key range.ladder := by
  unfold halfNumberCondition at h
  split at h
  · obtain ⟨-, rfl⟩ | ⟨-, rfl⟩ := wordCondition_eq_ok_iff.1 h
    · exact .inr rfl
    · exact .inl ⟨_, rfl⟩
  · split at h
    · obtain ⟨-, rfl⟩ | ⟨-, rfl⟩ := wordCondition_eq_ok_iff.1 h
      · exact .inl ⟨_, rfl⟩
      · exact .inl ⟨_, rfl⟩
    · split at h
      · contradiction
      · cases h
        exact .inl ⟨_, rfl⟩

namespace Argument

variable {a : Argument}

/-- An argument of a command that orders the results has no condition. -/
theorem meaning_ne_filter (h : a.command.IsOrder) (p : Predicate) : a.meaning ≠ .ok (.filter p) := by
  obtain ⟨keys, hkeys⟩ := h
  simp only [meaning, hkeys]
  intro heq
  obtain ⟨key, -, hkey⟩ := map_eq_ok_iff.1 heq
  contradiction

/-- Any other argument means its condition, or the opposite if it is negated. -/
theorem meaning_of_not_isOrder (h : ¬a.command.IsOrder) :
    a.meaning = a.condition.map fun p => .filter (if a.isNegated then p.negate else p) := by
  unfold meaning
  split
  · next keys hkeys => exact absurd ⟨keys, hkeys⟩ h
  · rfl

theorem meaning_eq_filter_iff {p : Predicate} :
    a.meaning = .ok (.filter p) ↔ ¬a.command.IsOrder ∧
      ∃ q, a.condition = .ok q ∧ (if a.isNegated then q.negate else q) = p := by
  by_cases horder : a.command.IsOrder
  · exact iff_of_false (meaning_ne_filter horder p) fun h => h.1 horder
  · rw [meaning_of_not_isOrder horder, map_eq_ok_iff]
    simp only [Meaning.filter.injEq, horder, not_false_eq_true, true_and]

/-- A value that has no parts means what its own binding asks for. -/
theorem condition_of_simple (h : a.command.kind.isComposite = false) :
    a.condition = a.toBinding.condition := by
  unfold condition
  split
  · next templates hkind =>
    rw [hkind] at h
    contradiction
  · rfl

/-- The marks have no part in the condition. -/
theorem condition_unmarked (a : Argument) (qualifiers : List Qualifier) :
    ({ a with qualifiers }).condition = a.condition := rfl

end Argument

/-! ### Marks -/

/-- There is only one mark, so that a token has it as soon as it has any. -/
theorem contains_negation_iff {qualifiers : List Qualifier} :
    qualifiers.contains .negation = true ↔ qualifiers ≠ [] := by
  cases qualifiers with
  | nil => simp
  | cons q rest =>
      cases q
      simp

namespace Model

variable {m : Model} {t : Token} {a : Argument}

/-- A token without its marks is bound to the same. -/
theorem resolve_unmarked (h : m.resolve t = .ok a) :
    m.resolve { t with qualifiers := [] } = .ok { a with qualifiers := [] } := by
  obtain ⟨hcommand, hmodifier, hoperator, hoperand, -, hsame, -, hparts⟩ := resolve_eq_ok h
  exact resolve_of_checks hcommand hmodifier hoperator hoperand rfl hsame rfl hparts

/-- **A marked token asks for the complement** of what it asks for without its marks. -/
theorem negation_complements (hmarked : t.qualifiers ≠ []) (h : m.resolve t = .ok a) {p : Predicate}
    (hp : a.meaning = .ok (.filter p)) :
    ∃ a' p', m.resolve { t with qualifiers := [] } = .ok a' ∧ a'.meaning = .ok (.filter p') ∧
      -- there is a test for both of them, or for none
      ((∃ test, p.test? = .ok test) ↔ ∃ test', p'.test? = .ok test') ∧
      ∀ test test', p.test? = .ok test → p'.test? = .ok test' →
        ∀ card, test card = !test' card := by
  obtain ⟨horder, q, hq, hnegate⟩ := Argument.meaning_eq_filter_iff.1 hp
  have hmarks : a.qualifiers = t.qualifiers := (resolve_eq_ok h).2.2.2.2.2.2.1
  have hnegated : a.isNegated = true := contains_negation_iff.2 (hmarks ▸ hmarked)
  rw [if_pos hnegated] at hnegate
  subst hnegate
  have hplain : ({ a with qualifiers := [] } : Argument).meaning = .ok (.filter q) := by
    refine Argument.meaning_eq_filter_iff.2 ⟨horder, q, ?_, rfl⟩
    rw [Argument.condition_unmarked]
    exact hq
  refine ⟨_, q, resolve_unmarked h, hplain, ?_, ?_⟩
  · simp only [Predicate.test?_eq_ok_iff, Predicate.patterns_negate, exists_and_left, exists_eq,
      and_true]
  · intro test test' htest htest' card
    obtain ⟨-, rfl⟩ := Predicate.test?_eq_ok_iff.1 htest
    obtain ⟨-, rfl⟩ := Predicate.test?_eq_ok_iff.1 htest'
    exact Predicate.holds_negate q card

/-- A card without colors has not more than the color that is asked for, and so it meets the opposite. -/
theorem negation_complements_missing :
    let color : Command :=
      ⟨"color", "color", [], Operator.all, [.negation], none, false, [], .bitset (.ofText "wu"), none⟩
    let m : Model := ⟨"cards", [color], color⟩
    let t : Token := ⟨[.negation, .negation], some "color", none, some .greater, .text "w"⟩
    let more : Predicate :=
      .allOf [.bitsAllSet "color" 1, .not (.compare "color" .equal (.integer 1))]
    m.interpret t = .ok (.filter (.not more)) ∧
      m.interpret { t with qualifiers := [] } = .ok (.filter more) ∧
      more.holds (.object []) = false ∧ (Predicate.not more).holds (.object []) = true := by
  intro color m t more
  have hresolve : m.resolve t = .ok ⟨⟨color, none, t.operand, .greater, t.qualifiers⟩, none, []⟩ := by
    dsimp only [m, t, color]
    rfl
  have hmeaning : (⟨⟨color, none, t.operand, .greater, t.qualifiers⟩, none, []⟩ : Argument).meaning =
      .ok (.filter (.not more)) := rfl
  obtain ⟨a', p', hresolve', hp', -, hopposite⟩ :=
    negation_complements (List.cons_ne_nil _ _) hresolve hmeaning
  have hplain : m.interpret { t with qualifiers := [] } = .ok (.filter more) := by
    dsimp only [m, t, color]
    rfl
  have hsame : p' = more := by
    rw [interpret_of_resolve hresolve', hp'] at hplain
    injection hplain with hplain
    injection hplain
  subst hsame
  have hnot : more.holds (.object []) = false := by decide +kernel
  refine ⟨(interpret_of_resolve hresolve).trans hmeaning, hplain, hnot, ?_⟩
  rw [hopposite _ _ (Predicate.test?_eq_ok_iff.2 ⟨by decide, rfl⟩)
    (Predicate.test?_eq_ok_iff.2 ⟨by decide, rfl⟩) (.object []), hnot]
  rfl

end Model

end CardQuery
