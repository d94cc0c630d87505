/-
**Equality is at least as strict as a colon.**

Behind a colon a text only has to occur, a regular expression to be found, a value to be among others, and an
asterisk stands for everything that is not a number.  Behind an equals sign the same value asks for more: for
the whole text, for the only element of the list, for the asterisk itself.  So every card that a token with an
equals sign finds is found with a colon, and there is no value that is understood behind the one and not
behind the other.

Main definitions:

* `CommandKind.comparesTexts` — the kinds of commands whose values are compared with texts;
* `Command.countingOnce` — a command for lists, with equal elements counting once.

Main results:

* `oneOf_implies_offLadder` — the asterisk is on no ladder;
* `Binding.equals_implies_has` — the conditions of a value behind the two operators;
* `Model.equality_is_strict` — **equality is at least as strict as a colon**.
-/

import CardQuery.Proofs.Contract
import CardQuery.Proofs.HalfNumber.Comparison
import CardQuery.Proofs.Predicate.Implication
import CardQuery.Proofs.Search.Patterns

set_option autoImplicit false

namespace CardQuery

open Predicate (Implies)

/-! ### Labels -/

/-- The asterisk is on no ladder, whatever its bounds. -/
theorem varyingLabel_not_mem_ladder (range : HalfRange) : varyingLabel ∉ range.ladder.map (·.label) := by
  intro hmem
  obtain ⟨step, hstep, hlabel⟩ := List.mem_map.1 hmem
  exact (HalfRange.displays_of_mem_ladder hstep).ne_varyingLabel hlabel

/-- What is an asterisk is present and not on the ladder. -/
theorem oneOf_implies_offLadder (key : String) (range : HalfRange) :
    (oneOf key [varyingLabel]).Implies (offLadder key range.ladder) := by
  refine .of_holds (Binding.patterns_offLadder _ _) fun card hcard => ?_
  obtain ⟨label, hlabel, hstored⟩ := holds_oneOf.1 hcard
  obtain rfl := List.mem_singleton.1 hlabel
  rw [holds_offLadder (Option.isSome_iff_exists.2 ⟨_, hstored⟩), Bool.not_eq_true', Bool.eq_false_iff]
  intro hlisted
  obtain ⟨label', hladder, hstored'⟩ := holds_oneOf.1 hlisted
  rw [hstored] at hstored'
  cases hstored'
  exact varyingLabel_not_mem_ladder _ hladder

/-! ### Conditions -/

/-- The kinds of commands whose values are compared with texts: whole texts, elements of lists and labels. -/
def CommandKind.comparesTexts : CommandKind → Bool
  | .text => true
  | .set _ => true
  | .halfNumber _ => true
  | .unrestricted _ => true
  | _ => false

/-- The command for a list of values, with equal elements counting once. -/
def Command.countingOnce (c : Command) (values : ValueSet) : Command :=
  { c with kind := .set { values with countDuplicates := false } }

namespace Binding

variable {b : Binding} {p : Predicate}

theorem textCondition_implies (hop : b.operator = .equals)
    (hvalid : ∀ source, b.operand = .regex source → Regex.isValid source = true) {key : String}
    (h : b.textCondition key = .ok p) :
    ∃ q, ({ b with operator := .has } : Binding).textCondition key = .ok q ∧ p.Implies q := by
  unfold textCondition at h ⊢
  rw [hop] at h
  cases hoperand : b.operand with
  | text s =>
      rw [hoperand] at h
      cases h
      exact ⟨_, rfl, Predicate.textEquals_implies_contains key s⟩
  | regex source =>
      rw [hoperand] at h
      cases h
      exact ⟨_, rfl, Predicate.wholeText_implies_regex key (hvalid source hoperand)⟩

theorem setCondition_implies (hop : b.operator = .equals) {values : ValueSet} {raw : String}
    (h : b.setCondition values raw = .ok p) :
    ∃ q, ({ b with operator := .has } : Binding).setCondition values raw = .ok q ∧ p.Implies q := by
  obtain ⟨hvalue, haccepts, ⟨hhas, -⟩ | ⟨-, rfl⟩⟩ := setCondition_eq_ok_iff.1 h
  · rw [hop] at hhas
    contradiction
  · exact ⟨_, setCondition_eq_ok_iff.2 ⟨hvalue, haccepts, .inl ⟨rfl, rfl⟩⟩,
      Predicate.soleElement_implies_hasElement _ _ _⟩

theorem wordCondition_implies (hop : b.operator = .equals) {raw word : String}
    {varying : Option Predicate} (hvarying : ∀ q ∈ varying, (oneOf b.key [word]).Implies q)
    (h : b.wordCondition raw word varying = .ok p) :
    ∃ q, ({ b with operator := .has } : Binding).wordCondition raw word varying = .ok q ∧
      p.Implies q := by
  obtain ⟨hhas, -⟩ | ⟨-, rfl⟩ := wordCondition_eq_ok_iff.1 h
  · rw [hop] at hhas
    contradiction
  · refine ⟨varying.getD (oneOf b.key [word]), wordCondition_eq_ok_iff.2 (.inl ⟨rfl, rfl⟩), ?_⟩
    cases varying with
    | none => exact .refl _
    | some q => exact hvarying q rfl

theorem halfNumberCondition_implies (hop : b.operator = .equals) {range : HalfRange} {raw : String}
    (h : b.halfNumberCondition range raw = .ok p) :
    ∃ q, ({ b with operator := .has } : Binding).halfNumberCondition range raw = .ok q ∧ p.Implies q := by
  unfold halfNumberCondition at h ⊢
  split at h
  · next hraw =>
    rw [if_pos hraw]
    refine wordCondition_implies hop ?_ h
    rintro q hq
    cases hq
    exact oneOf_implies_offLadder b.key range
  · next hraw =>
    rw [if_neg hraw]
    cases hsentinel : range.sentinel? raw with
    | some word =>
        rw [hsentinel] at h
        refine wordCondition_implies hop ?_ h
        simp
    | none =>
        simp only [hsentinel, hop] at h ⊢
        cases hread : HalfNumber.read? raw with
        | none =>
            rw [hread] at h
            contradiction
        | some target =>
            -- both operators ask for the same numbers
            rw [hread] at h
            cases h
            exact ⟨_, rfl, .refl _⟩

/-- **The condition behind an equals sign** implies the one behind a colon, and there is no such condition
behind the one only. -/
theorem equals_implies_has (hop : b.operator = .equals)
    (hvalid : ∀ source, b.operand = .regex source → Regex.isValid source = true)
    (hkind : b.command.kind.comparesTexts = true) (h : b.condition = .ok p) :
    ∃ q, ({ b with operator := .has } : Binding).condition = .ok q ∧ p.Implies q := by
  unfold condition at h ⊢
  cases hk : b.command.kind with
  | text =>
      rw [hk] at h
      exact textCondition_implies hop hvalid h
  | set values =>
      rw [hk] at h
      obtain ⟨raw, hraw, h⟩ := bind_eq_ok_iff.1 h
      obtain ⟨q, hq, himplies⟩ := setCondition_implies hop h
      exact ⟨q, bind_eq_ok_iff.2 ⟨raw, hraw, hq⟩, himplies⟩
  | halfNumber range =>
      rw [hk] at h
      obtain ⟨raw, hraw, h⟩ := bind_eq_ok_iff.1 h
      obtain ⟨q, hq, himplies⟩ := halfNumberCondition_implies hop h
      exact ⟨q, bind_eq_ok_iff.2 ⟨raw, hraw, hq⟩, himplies⟩
  | unrestricted targets =>
      rw [hk] at h
      obtain ⟨ps, hps, rfl⟩ := map_eq_ok_iff.1 h
      have hbetween : ∃ qs, List.Forall₂ (fun key q =>
            ({ b with operator := .has } : Binding).textCondition key = .ok q) targets qs ∧
          List.Forall₂ (fun q p => p.Implies q) qs ps :=
        exists_list_between ((mapM_eq_ok_iff.1 hps).imp fun key p hp =>
          textCondition_implies hop hvalid hp)
      obtain ⟨qs, hqs, himplies⟩ := hbetween
      exact ⟨.disjunction qs, map_eq_ok_iff.2 ⟨qs, mapM_eq_ok_iff.2 hqs, rfl⟩,
        .disjunction himplies.flip⟩
  | _ =>
      rw [hk] at hkind
      contradiction

/-- Where equal elements count apart, a value that is the only element is so too where they count once. -/
theorem setCondition_countingOnce {values : ValueSet} (hkind : b.command.kind = .set values)
    (hop : b.operator = .equals) (h : b.condition = .ok p) :
    ∃ q, ({ b with command := b.command.countingOnce values } : Binding).condition = .ok q ∧
      p.Implies q := by
  unfold condition at h ⊢
  rw [hkind] at h
  obtain ⟨raw, hraw, h⟩ := bind_eq_ok_iff.1 h
  obtain ⟨hvalue, haccepts, ⟨hhas, -⟩ | ⟨-, rfl⟩⟩ := setCondition_eq_ok_iff.1 h
  · rw [hop] at hhas
    contradiction
  · exact ⟨_, bind_eq_ok_iff.2 ⟨raw, hraw,
        setCondition_eq_ok_iff.2 ⟨hvalue, haccepts, .inr ⟨hop, rfl⟩⟩⟩,
      Predicate.soleElement_implies_distinct _ _ _⟩

end Binding

/-! ### Tokens -/

/-- Without marks an argument of such a command means the condition of its value. -/
theorem Argument.meaning_eq_filter_iff_condition {a : Argument} (hplain : a.qualifiers = [])
    (hkind : a.command.kind.comparesTexts = true) {p : Predicate} :
    a.meaning = .ok (.filter p) ↔ a.toBinding.condition = .ok p := by
  have hnot : a.isNegated = false := by
    rw [Binding.isNegated, hplain]
    rfl
  have hsimple : a.command.kind.isComposite = false := by
    cases hk : a.command.kind with
    | composite templates =>
        rw [hk] at hkind
        contradiction
    | _ => rfl
  have horder : ¬a.command.IsOrder := by
    rintro ⟨keys, hk⟩
    rw [hk] at hkind
    contradiction
  rw [meaning_eq_filter_iff, condition_of_simple hsimple, hnot]
  simp [horder]

namespace Model

variable {m : Model} {t : Token} {a : Argument} {p : Predicate}

/-- A token without marks is bound alike with every operator that its command supports. -/
theorem resolve_with_operator (hplain : t.qualifiers = []) (ha : m.resolve t = .ok a)
    (hkind : a.command.kind.comparesTexts = true) {op : Operator} (hop : a.command.supports op = true) :
    m.resolve { t with operator := some op } = .ok { a with operator := op } := by
  obtain ⟨hcommand, hmodifier, -, hoperand, -, hsame, hmarks, hparts⟩ := resolve_eq_ok ha
  refine resolve_of_checks hcommand hmodifier (if_pos hop) hoperand ?_ hsame hmarks ?_
  · simp only [Command.checkQualifiers, hplain, List.find?_nil]
  · unfold PartsOf at hparts ⊢
    cases hk : a.command.kind with
    | composite templates =>
        rw [hk] at hkind
        contradiction
    | _ =>
        rw [hk] at hparts
        exact hparts

/-- **Equality is at least as strict as a colon.**

A token without marks asks a command for texts, for elements of lists or for labels, with an equals sign and
by a literal value or a regular expression.  If it has a condition, and the command knows the colon, there is
one behind a colon as well, it can be tested if the first can, and every card that passes the test of the
first passes that of the second.  Where equal elements of a list count apart, what is found is also found
where they count once. -/
theorem equality_is_strict (hplain : t.qualifiers = [])
    (ha : m.resolve { t with operator := some .equals } = .ok a)
    (hkind : a.command.kind.comparesTexts = true) (hp : a.meaning = .ok (.filter p)) :
    (a.command.supports .has = true →
      m.resolve { t with operator := some .has } = .ok { a with operator := .has } ∧
        ∃ q, ({ a with operator := .has } : Argument).meaning = .ok (.filter q) ∧ p.Implies q) ∧
      ∀ values, a.command.kind = .set values →
        ∃ q, ({ a with command := a.command.countingOnce values } : Argument).meaning =
          .ok (.filter q) ∧ p.Implies q := by
  obtain ⟨-, -, hoperator, -, -, hoperand, hmarks, -⟩ := resolve_eq_ok ha
  have hop : a.operator = .equals := (Command.mem_operators_of_check hoperator).1
  have hmarks' : a.qualifiers = [] := hmarks.trans hplain
  rw [Argument.meaning_eq_filter_iff_condition hmarks' hkind] at hp
  constructor
  · intro hhas
    refine ⟨resolve_with_operator (t := { t with operator := some .equals }) hplain ha hkind hhas, ?_⟩
    obtain ⟨q, hq, himplies⟩ :=
      Binding.equals_implies_has hop (fun source hsource => isValid_of_resolve ha hsource) hkind hp
    exact ⟨q, (Argument.meaning_eq_filter_iff_condition
      (a := { a with operator := .has }) hmarks' hkind).2 hq, himplies⟩
  · intro values hvalues
    obtain ⟨q, hq, himplies⟩ := Binding.setCondition_countingOnce hvalues hop hp
    have hlist : (a.command.countingOnce values).kind.comparesTexts = true := rfl
    exact ⟨q, (Argument.meaning_eq_filter_iff_condition
      (a := { a with command := a.command.countingOnce values }) hmarks' hlist).2 hq, himplies⟩

/-- A rune that a card has once, and nothing else, is its only rune also where runes count once. -/
theorem equality_is_strict_single_rune :
    let rune : Command :=
      ⟨"rune", "rune", [], [.has, .equals], [], none, false, [], .set ⟨[], true, none⟩, none⟩
    let m : Model := ⟨"cards", [rune], rune⟩
    let t : Token := ⟨[], some "rune", none, none, .text "blood"⟩
    let card (runes : List String) : Json := .object [("rune", .list (runes.map .text))]
    let once : Predicate := .soleElement "rune" "blood" false
    let alone : Predicate := .soleElement "rune" "blood" true
    let among : Predicate := .hasElement "rune" "blood"
    m.interpret { t with operator := some .equals } = .ok (.filter once) ∧
      m.interpret { t with operator := some .has } = .ok (.filter among) ∧
      once.holds (card ["Blood"]) = true ∧ alone.holds (card ["Blood"]) = true ∧
      among.holds (card ["Blood"]) = true ∧ once.holds (card ["Blood", "Blood"]) = false := by
  intro rune m t card once alone among
  let a : Argument := ⟨⟨rune, none, .text "blood", .equals, []⟩, none, []⟩
  have hresolve : m.resolve { t with operator := some .equals } = .ok a := by
    dsimp only [m, t, a, rune]
    rfl
  have hmeaning : a.meaning = .ok (.filter once) := by
    dsimp only [a, rune, once]
    rfl
  have honce : once.holds (card ["Blood"]) = true := by decide +kernel
  have hplain : ∀ pattern ∈ once.patterns, Predicate.IsMalformed pattern = false := by decide
  obtain ⟨hhas, hset⟩ := equality_is_strict rfl hresolve rfl hmeaning
  obtain ⟨hresolve', q, hq, hamong⟩ := hhas rfl
  obtain ⟨r, hr, halone⟩ := hset ⟨[], true, none⟩ rfl
  have hsame : q = among := by
    have hknown : ({ a with operator := .has } : Argument).meaning = .ok (.filter among) := by
      dsimp only [a, rune, among]
      rfl
    rw [hq] at hknown
    injection hknown with hknown
    injection hknown
  have hsame' : r = alone := by
    have hknown : ({ a with command := rune.countingOnce ⟨[], true, none⟩ } : Argument).meaning =
        .ok (.filter alone) := by
      dsimp only [a, rune, alone]
      rfl
    rw [hr] at hknown
    injection hknown with hknown
    injection hknown
  subst hsame hsame'
  refine ⟨(interpret_of_resolve hresolve).trans hmeaning, (interpret_of_resolve hresolve').trans hq, honce,
    (halone.holds hplain).2 _ honce, (hamong.holds hplain).2 _ honce, by decide +kernel⟩

end Model

end CardQuery
