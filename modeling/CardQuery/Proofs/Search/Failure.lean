/-
**When a search fails.**

A token that cannot be used leaves an error and nothing else, and cards in memory are always there,
so that a query to a model that exists should be answered.  It is, with two exceptions.  A regular
expression is accepted for what it is alone, but it is tested inside a group if it has to be the whole
text; a few regular expressions do not survive that, and a query with one of them has no answer.  And the
sort may give up on more than 20 cards whose order is no total preorder.

Main definitions:

* `Argument.Untestable` — a bound token whose regular expression does not survive;
* `Engine.SortGivesUp` — the cards that a query finds cannot be put in order.

Main results:

* `Engine.search_memory` — **when a search over cards in memory fails**, and what it answers otherwise.
-/

import CardQuery.Proofs.Regex.Whole
import CardQuery.Proofs.Search.Pages
import CardQuery.Proofs.Search.Patterns

set_option autoImplicit false

namespace CardQuery

open Predicate (IsMalformed)
open Regex (LosesClosing depth depthLimit)

/-- The command looks for texts, at one key or at several. -/
def Command.SearchesText (c : Command) : Prop :=
  c.kind = .text ∨ ∃ target targets, c.kind = .unrestricted (target :: targets)

/-- The token asks for a regular expression that has to be the whole text and cannot be put into a
group: its end is a comment, or it is too deep. -/
def Argument.Untestable (a : Argument) : Prop :=
  a.command.SearchesText ∧ a.operator = .equals ∧ ∃ source, a.operand = .regex source ∧
    (LosesClosing source ∨ depthLimit < depth source + 2)

/-- The sort gives up on those of the given cards that meet the conditions of a query. -/
def Engine.SortGivesUp (e : Engine) (m : Model) (cards : List Json) (query : String) : Prop :=
  let plan := m.plan e.catalog e.settings.emptyQuery query
  ∃ p test, plan.predicate = some p ∧ p.test? = .ok test ∧
    arrangeBy? plan.sort (cards.filter test) = none

/-- A regular expression that is accepted alone can be tested alone. -/
theorem isMalformed_of_isValid {source : String} (hvalid : Regex.isValid source = true) :
    IsMalformed source = false := by
  rw [IsMalformed, ← Option.not_isSome, Regex.isSome_parse?, hvalid]
  rfl

theorem isMalformed_wholeText_iff {source : String} (hvalid : Regex.isValid source = true) :
    IsMalformed (wholeText source) = true ↔
      LosesClosing source ∨ depthLimit < depth source + 2 := by
  rw [IsMalformed, Option.isNone_iff_eq_none, Regex.parse?_wholeText_eq_none_iff true hvalid]

/-! ### Untestable tokens -/

variable {m : Model} {t : Token} {a : Argument}

/-- A malformed regular expression is among those of a binding only if the token is untestable. -/
theorem untestable_of_mem_patterns (ha : m.resolve t = .ok a) {pattern : String}
    (hmem : pattern ∈ a.toBinding.patterns) (hmalformed : IsMalformed pattern = true) :
    a.Untestable := by
  have htext : pattern ∈ a.toBinding.textPatterns → a.operator = .equals ∧
      ∃ source, a.operand = .regex source ∧
        (LosesClosing source ∨ depthLimit < depth source + 2) := by
    intro h
    unfold Binding.textPatterns at h
    split at h
    · next source hoperand hoperator =>
      rw [List.mem_singleton.1 h,
        isMalformed_of_isValid (Model.isValid_of_resolve ha hoperand)] at hmalformed
      contradiction
    · next source hoperand hoperator =>
      rw [List.mem_singleton.1 h,
        isMalformed_wholeText_iff (Model.isValid_of_resolve ha hoperand)] at hmalformed
      exact ⟨hoperator, source, hoperand, hmalformed⟩
    · contradiction
  unfold Binding.patterns at hmem
  split at hmem
  · next hk => exact ⟨Or.inl hk, htext hmem⟩
  · next targets hk =>
    obtain ⟨_, htarget, hpattern⟩ := List.mem_flatMap.1 hmem
    cases targets with
    | nil => contradiction
    | cons target targets => exact ⟨Or.inr ⟨target, targets, hk⟩, htext hpattern⟩
  · contradiction

/-- The condition on a text is there, and has a malformed regular expression. -/
theorem Argument.Untestable.textCondition (ha : m.resolve t = .ok a) (h : a.Untestable) :
    (∃ pattern ∈ a.toBinding.textPatterns, IsMalformed pattern = true) ∧
      ∀ key, ∃ p, a.toBinding.textCondition key = .ok p := by
  obtain ⟨-, hoperator, source, hoperand, hlost⟩ := h
  constructor
  · refine ⟨wholeText source, ?_, ?_⟩
    · simp only [Binding.textPatterns, hoperand, hoperator, List.mem_singleton]
    · exact (isMalformed_wholeText_iff (Model.isValid_of_resolve ha hoperand)).2 hlost
  · intro key
    refine ⟨.regex key (wholeText source), ?_⟩
    simp only [Binding.textCondition, hoperand, hoperator]

/-- An untestable token has a condition, and in it a malformed regular expression. -/
theorem Argument.Untestable.meaning (ha : m.resolve t = .ok a) (h : a.Untestable) :
    (∃ pattern ∈ a.toBinding.patterns, IsMalformed pattern = true) ∧
      ∃ p, a.meaning = .ok (.filter p) := by
  obtain ⟨⟨pattern, hmem, hmalformed⟩, hcondition⟩ := h.textCondition ha
  obtain ⟨hk | ⟨target, targets, hk⟩, -⟩ := h
  · constructor
    · refine ⟨pattern, ?_, hmalformed⟩
      simp only [Binding.patterns, hk, hmem]
    · obtain ⟨p, hp⟩ := hcondition a.toBinding.key
      simp only [Argument.meaning, Argument.condition, Binding.condition, hk, hp]
      exact ⟨_, rfl⟩
  · constructor
    · refine ⟨pattern, ?_, hmalformed⟩
      simp only [Binding.patterns, hk]
      exact List.mem_flatMap.2 ⟨target, List.mem_cons_self, hmem⟩
    · have hall : ∀ key ∈ target :: targets, ∃ p, a.toBinding.textCondition key = .ok p :=
        fun key _ => hcondition key
      obtain ⟨ps, hps⟩ := exists_mapM_eq_ok hall
      simp only [Argument.meaning, Argument.condition, Binding.condition, hk, hps]
      exact ⟨_, rfl⟩

/-- **A malformed regular expression is among the conditions of a query** exactly when a token of it is
untestable. -/
theorem Model.exists_malformed_iff (m : Model) (query : String) :
    (∃ pattern ∈ (m.conditions query).flatMap Predicate.patterns, IsMalformed pattern = true) ↔
      ∃ t a, .ok t ∈ contents query ∧ m.resolve t = .ok a ∧ a.Untestable := by
  constructor
  · rintro ⟨pattern, hmem, hmalformed⟩
    obtain ⟨p, hp, hpattern⟩ := List.mem_flatMap.1 hmem
    obtain ⟨t, ht, hmeaning⟩ := (m.mem_conditions_iff query p).1 hp
    unfold meaning? at hmeaning
    split at hmeaning
    · next a ha =>
      have hfilter : a.meaning = .ok (.filter p) := by
        cases h : a.meaning with
        | error e => rw [h] at hmeaning; contradiction
        | ok meaning => rw [h] at hmeaning; cases hmeaning; rfl
      rw [Argument.patterns_meaning ha hfilter] at hpattern
      exact ⟨t, a, ht, ha, untestable_of_mem_patterns ha hpattern hmalformed⟩
    · contradiction
  · rintro ⟨t, a, ht, ha, h⟩
    obtain ⟨⟨pattern, hpattern, hmalformed⟩, p, hp⟩ := h.meaning ha
    rw [← Argument.patterns_meaning ha hp] at hpattern
    have hmeaning : m.meaning? t = some (.filter p) := by
      simp only [meaning?, ha, hp, Except.toOption]
    exact ⟨pattern, List.mem_flatMap.2 ⟨p, (m.mem_conditions_iff query p).2 ⟨t, ht, hmeaning⟩,
      hpattern⟩, hmalformed⟩

/-! ### Searching in memory -/

theorem EmptyQuery.patterns_predicate (e : EmptyQuery) {filters : List Predicate} {p : Predicate}
    (h : e.predicate filters = some p) : p.patterns = filters.flatMap Predicate.patterns := by
  unfold predicate at h
  split at h
  · next hempty =>
    rw [List.isEmpty_iff.1 hempty]
    split at h
    · cases h
      rfl
    · contradiction
  · cases h
    exact Predicate.patterns_conjunction filters

theorem EmptyQuery.eq_nil_of_predicate (e : EmptyQuery) {filters : List Predicate}
    (h : e.predicate filters = none) : filters = [] := by
  unfold predicate at h
  split at h
  · next hempty => exact List.isEmpty_iff.1 hempty
  · contradiction

/-- A store in memory fails when a regular expression of the predicate is malformed. -/
theorem MemoryStore.fetch_of_malformed {p : Predicate}
    (h : ∃ pattern ∈ p.patterns, IsMalformed pattern = true) (s : MemoryStore) (id : String)
    (r : PageRequest) : ∃ error, s.fetch id p r = .error (.failed error) := by
  rw [fetch, matching?, Predicate.test?_eq]
  cases hfind : p.patterns.find? IsMalformed with
  | none =>
      obtain ⟨pattern, hmem, hmalformed⟩ := h
      exact absurd hmalformed (List.find?_eq_none.1 hfind pattern hmem)
  | some pattern => exact ⟨_, rfl⟩

/-- The cards that pass a test can be put in order if all cards can. -/
theorem IsArrangeable.filter {sort : Option SortKey} {cards : List Json} (h : IsArrangeable sort cards)
    (test : Json → Bool) : IsArrangeable sort (cards.filter test) := by
  rcases h with hfew | hpreorder
  · exact Or.inl (Nat.le_trans (List.length_filter_le test cards) hfew)
  · exact Or.inr fun k hk => (hpreorder k hk).filter test

namespace Engine

variable {e : Engine} {id : String} {m : Model}

theorem search_unknown (e : Engine) (store : Store) {id : String} (h : e.registry.get? id = none)
    (query : String) (o : SearchOptions) :
    e.search store id query o = .error (.unknownModel id) := by
  simp only [search, plan, model, h]
  rfl

theorem not_sortGivesUp {query : String} {cards : List Json}
    (h : IsArrangeable (m.plan e.catalog e.settings.emptyQuery query).sort cards) :
    ¬e.SortGivesUp m cards query := by
  rintro ⟨p, test, -, -, hnone⟩
  obtain ⟨hits, hhits⟩ := exists_arrangeBy? (h.filter test)
  rw [hnone] at hhits
  contradiction

/-- A query to a known model is not answered if a regular expression of its conditions is malformed. -/
theorem search_of_malformed (hm : e.registry.get? id = some m) {query : String}
    (h : ∃ pattern ∈ (m.conditions query).flatMap Predicate.patterns, IsMalformed pattern = true)
    (s : MemoryStore) (o : SearchOptions) :
    ∃ causes, e.search s.store id query o = .error (.storeUnavailable causes) := by
  have hpredicate := m.predicate_plan e.catalog e.settings.emptyQuery query
  rw [← Model.conditions] at hpredicate
  cases hp : e.settings.emptyQuery.predicate (m.conditions query) with
  | none =>
      rw [e.settings.emptyQuery.eq_nil_of_predicate hp] at h
      obtain ⟨pattern, hmem, -⟩ := h
      contradiction
  | some p =>
      rw [← e.settings.emptyQuery.patterns_predicate hp] at h
      obtain ⟨error, herror⟩ := MemoryStore.fetch_of_malformed h s id
        (e.settings.request o (m.plan e.catalog e.settings.emptyQuery query).sort)
      refine ⟨error.causes, ?_⟩
      rw [e.search_eq hm]
      simp only [hpredicate, hp, MemoryStore.store, herror]

/-- A query to a known model is answered if no regular expression of its conditions is malformed, unless
the sort gives up. -/
theorem search_of_wellFormed (hm : e.registry.get? id = some m) {query : String}
    (h : ∀ pattern ∈ (m.conditions query).flatMap Predicate.patterns, IsMalformed pattern = false)
    (s : MemoryStore) (o : SearchOptions) :
    (e.SortGivesUp m (s.cardsOf id) query → e.search s.store id query o = .error .aborted) ∧
    (¬e.SortGivesUp m (s.cardsOf id) query → ∃ result, e.search s.store id query o =
      .ok ⟨m.plan e.catalog e.settings.emptyQuery query, result⟩) := by
  refine ⟨fun ⟨p, test, hp, htest, hnone⟩ => search_aborted hm hp htest s hnone o, fun hsort => ?_⟩
  have hpredicate := m.predicate_plan e.catalog e.settings.emptyQuery query
  rw [← Model.conditions] at hpredicate
  cases hp : e.settings.emptyQuery.predicate (m.conditions query) with
  | none =>
      -- without conditions the store is not asked
      obtain ⟨-, hsearch⟩ := search_of_no_predicate hm (hpredicate.trans hp)
      exact ⟨_, hsearch s.store o⟩
  | some p =>
      rw [← e.settings.emptyQuery.patterns_predicate hp] at h
      have htest : p.test? = .ok p.holds := Predicate.test?_eq_ok_iff.2 ⟨h, rfl⟩
      cases hhits : arrangeBy? (m.plan e.catalog e.settings.emptyQuery query).sort
          ((s.cardsOf id).filter p.holds) with
      | none => exact absurd ⟨p, _, hpredicate.trans hp, htest, hhits⟩ hsort
      | some hits => exact ⟨_, search_page hm (hpredicate.trans hp) htest s hhits o⟩

/-- **When a search over cards in memory fails.** -/
theorem search_memory (e : Engine) (s : MemoryStore) (id query : String) (o : SearchOptions) :
    (e.registry.get? id = none → e.search s.store id query o = .error (.unknownModel id)) ∧
    ∀ m, e.registry.get? id = some m →
      let plan := m.plan e.catalog e.settings.emptyQuery query
      let untestable := ∃ t a, .ok t ∈ contents query ∧ m.resolve t = .ok a ∧ a.Untestable
      -- the store has no answer exactly when a token is untestable
      ((∃ causes, e.search s.store id query o = .error (.storeUnavailable causes)) ↔ untestable) ∧
      -- the search gives up exactly when the sort does
      (e.search s.store id query o = .error .aborted ↔
        ¬untestable ∧ e.SortGivesUp m (s.cardsOf id) query) ∧
      -- which it does not without a sort, for up to 20 cards, or in an order that is a total preorder
      (IsArrangeable plan.sort (s.cardsOf id) → e.search s.store id query o ≠ .error .aborted) ∧
      -- any other query is answered, with a view of every piece and an error for each that failed
      (¬untestable → e.search s.store id query o ≠ .error .aborted →
        ∃ response, e.search s.store id query o = .ok response ∧
          response.plan = plan ∧
          response.plan.commands.length = (contents query).length ∧
          response.plan.errors.length =
            (response.plan.commands.countP fun v => v.failedAt.isSome) ∧
          ∀ (i : Nat) (content : Except Fault Token), (contents query)[i]? = some content →
            m.meaningOf? content = none →
            ∃ v, response.plan.commands[i]? = some v ∧ v.failedAt.isSome = true) := by
  refine ⟨fun h => e.search_unknown s.store h query o, ?_⟩
  intro m hm plan untestable
  have hunavailable (h : untestable) :
      ∃ causes, e.search s.store id query o = .error (.storeUnavailable causes) :=
    search_of_malformed hm ((m.exists_malformed_iff query).2 h) s o
  have hwellFormed (h : ¬untestable) :
      (e.SortGivesUp m (s.cardsOf id) query → e.search s.store id query o = .error .aborted) ∧
      (¬e.SortGivesUp m (s.cardsOf id) query →
        ∃ result, e.search s.store id query o = .ok ⟨plan, result⟩) := by
    refine search_of_wellFormed hm (fun pattern hmem => ?_) s o
    exact Bool.eq_false_iff.2 fun hmalformed =>
      h ((m.exists_malformed_iff query).1 ⟨pattern, hmem, hmalformed⟩)
  have haborted : e.search s.store id query o = .error .aborted ↔
      ¬untestable ∧ e.SortGivesUp m (s.cardsOf id) query := by
    constructor
    · intro hsearch
      have htestable : ¬untestable := by
        intro h
        obtain ⟨causes, hcauses⟩ := hunavailable h
        cases hcauses.symm.trans hsearch
      refine ⟨htestable, by_contra fun hsort => ?_⟩
      obtain ⟨result, hresult⟩ := (hwellFormed htestable).2 hsort
      rw [hresult] at hsearch
      contradiction
    · exact fun h => (hwellFormed h.1).1 h.2
  refine ⟨⟨fun ⟨causes, hcauses⟩ => ?_, hunavailable⟩, haborted, fun h hsearch => ?_,
    fun htestable hsearch => ?_⟩
  · by_contra htestable
    by_cases hsort : e.SortGivesUp m (s.cardsOf id) query
    · cases ((hwellFormed htestable).1 hsort).symm.trans hcauses
    · obtain ⟨result, hresult⟩ := (hwellFormed htestable).2 hsort
      rw [hresult] at hcauses
      contradiction
  · exact not_sortGivesUp h (haborted.1 hsearch).2
  · obtain ⟨result, hresult⟩ := (hwellFormed htestable).2 fun hsort =>
      hsearch (haborted.2 ⟨htestable, hsort⟩)
    obtain ⟨hlength, herrors, hshown⟩ :=
      m.reported_plan e.catalog e.settings.emptyQuery query
    exact ⟨_, hresult, rfl, hlength, herrors, hshown⟩

/-- The end of the whole text is a comment here, and the parenthesis that would close the group is
lost in it. -/
theorem search_memory_comment :
    let name : Command :=
      ⟨"name", "name", [], [.has, .equals], [], none, true, [], .text, none⟩
    let m : Model := ⟨"cards", [name], name⟩
    let e : Engine := ⟨⟨[m]⟩, default, .standard⟩
    (∃ causes, e.search (MemoryStore.store .empty) "cards" "name=/(?x)a#b/" .none =
      .error (.storeUnavailable causes)) ∧
    ∃ response, e.search (MemoryStore.store .empty) "cards" "name:/(?x)a#b/" .none =
      .ok response := by
  intro name m e
  have hm : e.registry.get? "cards" = some m := by
    have hid : (m.id == "cards") = true := rfl
    simp only [e, Registry.get?, List.find?_cons, hid]
  have hget : m.get? "name" = some name := by
    have hname : name.hasLoweredName (Unicode.loweredText "name") = true := by
      simp [Command.hasLoweredName, Command.names, name]
    simp only [m, Model.get?, List.find?_cons, hname]
  have hresolve (op : Operator) (hop : op = .has ∨ op = .equals) :
      m.resolve ⟨[], some "name", none, some op, .regex "(?x)a#b"⟩ =
        .ok ⟨⟨name, none, .regex "(?x)a#b", op, []⟩, none, []⟩ := by
    simp only [Model.resolve, Model.addressed, hget, bind, Except.bind]
    rcases hop with rfl | rfl <;> rfl
  constructor
  · have hcontents : contents "name=/(?x)a#b/" =
        [.ok ⟨[], some "name", none, some .equals, .regex "(?x)a#b"⟩] := by decide +kernel
    have hloses : LosesClosing "(?x)a#b" := by
      rw [LosesClosing]
      decide +kernel
    obtain ⟨-, hmemory⟩ := e.search_memory .empty "cards" "name=/(?x)a#b/" .none
    refine (hmemory m hm).1.2 ⟨_, _, ?_, hresolve .equals (Or.inr rfl), Or.inl rfl, rfl, _, rfl,
      Or.inl hloses⟩
    rw [hcontents, List.mem_singleton]
  · have hcontents : contents "name:/(?x)a#b/" =
        [.ok ⟨[], some "name", none, some .has, .regex "(?x)a#b"⟩] := by decide +kernel
    obtain ⟨-, hmemory⟩ := e.search_memory .empty "cards" "name:/(?x)a#b/" .none
    obtain ⟨-, -, hgiven, hanswered⟩ := hmemory m hm
    have harranged := hgiven (Or.inl (Nat.zero_le 20))
    obtain ⟨response, hresponse, -⟩ := hanswered (by
      rintro ⟨t, a, ht, ha, -, hequals, -⟩
      rw [hcontents, List.mem_singleton] at ht
      cases ht
      rw [hresolve .has (Or.inl rfl)] at ha
      cases ha
      contradiction) harranged
    exact ⟨response, hresponse⟩

end Engine

end CardQuery
