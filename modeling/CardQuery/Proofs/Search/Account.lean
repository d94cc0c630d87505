/-
**The account of a query.**

A plan is put together piece by piece: a view of each piece, an error for each that failed, the conditions,
and an order.  Here it is stated what all of these come to when the pieces are done.  Every piece has one
view, in its place and with its characters, which shows the stage at which the piece failed, and the errors
are those of the failed views, one for each.  Whether an order fails depends on the pieces before it, so that
the account is kept along with the pieces that have been added, and each further piece keeps it.

Main definitions:

* `Model.Reports` — the errors of the pieces of a query by stage;
* `Planned.Accounts` — what pieces have come to is an account of them.

Main results:

* `Planned.Accounts.add`, `Planned.Accounts.foldl` — **the account is kept** by each piece, and so by all;
* `Model.plan_accounts` — **a plan accounts for every piece once**.
-/

import CardQuery.Proofs.Search.Meanings

set_option autoImplicit false

namespace CardQuery

/-! ### All pieces -/

namespace Planned

/-- What pieces have come to is an account of them. -/
structure Accounts (query : String) (ts : List Treated) (p : Planned) : Prop where
  /-- Every piece has a view in its place and with its characters. -/
  views : List.Forall₂ (fun t v => v.span = t.span ∧ v.text = t.span.sliceText query) ts p.views
  /-- A view shows the stage at which its piece failed; an order fails after another. -/
  stages : ∀ (i : Nat) (t : Treated) (v : CommandView), ts[i]? = some t → p.views[i]? = some v →
    v.failedAt = (t.failure? ((ts.take i).any fun t => t.sort?.isSome)).map (·.1)
  /-- The errors are those of the views that failed. -/
  errors : List.Forall₂
    (fun x e => ∃ stage sorted, x.2.failedAt = some stage ∧ x.1.failure? sorted = some (stage, e))
    ((ts.zip p.views).filter fun x => x.2.failedAt.isSome) p.errors
  /-- The conditions are those of the views that did not fail. -/
  filters : p.filters =
    (ts.zip p.views).filterMap fun x => if x.2.failedAt.isNone then x.1.filter? else none
  /-- The order is the first that is asked for. -/
  sort : p.sort = (ts.filterMap Treated.sort?).head?

namespace Accounts

variable {query : String} {ts : List Treated} {p : Planned}

theorem empty (query : String) : Accounts query [] .empty where
  views := .nil
  stages := by
    intro i t v ht
    rw [List.getElem?_nil] at ht
    contradiction
  errors := .nil
  filters := rfl
  sort := rfl

/-- There is an order as soon as a piece has asked for one. -/
theorem isSome_sort (h : Accounts query ts p) :
    p.sort.isSome = ts.any fun t => t.sort?.isSome := by
  rw [h.sort, List.head?_filterMap, List.isSome_findSome?]

/-- **The account is kept** by each piece. -/
theorem add (h : Accounts query ts p) (c : Catalog) (t : Treated) :
    Accounts query (ts ++ [t]) (Planned.add query c p t) := by
  obtain ⟨v, hspan, htext, hstage, hadd⟩ := exists_add_eq query c p t
  rw [hadd]
  have hlength : ts.length = p.views.length := h.views.length_eq
  have hzip : (ts ++ [t]).zip (p.views ++ [v]) = ts.zip p.views ++ [(t, v)] :=
    List.zip_append hlength
  constructor
  · exact List.rel_append h.views (.cons ⟨hspan, htext⟩ .nil)
  · intro i t' v' ht hv
    rcases Nat.lt_trichotomy i ts.length with hlt | rfl | hgt
    -- an earlier piece has the same pieces before it
    · rw [List.getElem?_append_left hlt] at ht
      rw [List.getElem?_append_left (hlength ▸ hlt)] at hv
      rw [List.take_append_of_le_length (Nat.le_of_lt hlt)]
      exact h.stages i t' v' ht hv
    -- the new piece has all of them before it
    · rw [List.getElem?_concat_length] at ht
      rw [hlength, List.getElem?_concat_length] at hv
      cases ht
      cases hv
      rw [List.take_left, ← h.isSome_sort]
      exact hstage
    · rw [List.getElem?_eq_none (by simp; omega)] at ht
      contradiction
  · rw [hzip, List.filter_append]
    refine List.rel_append h.errors ?_
    cases hfailure : t.failure? p.sort.isSome with
    | none =>
        rw [hfailure] at hstage
        have hnone : v.failedAt = none := hstage
        simp [hnone]
    | some failure =>
        rw [hfailure] at hstage
        have hsome : v.failedAt = some failure.1 := hstage
        simp only [List.filter_cons, hsome, Option.isSome_some, if_true, List.filter_nil,
          Option.map_some, Option.toList_some]
        exact .cons ⟨failure.1, p.sort.isSome, hsome, hfailure⟩ .nil
  · have hkept : (if v.failedAt.isNone then t.filter? else none) = t.filter? := by
      rw [hstage]
      cases hfailure : t.failure? p.sort.isSome with
      | none => rfl
      | some failure =>
          rw [Treated.filter?_of_failure? (by rw [hfailure]; rfl)]
          rfl
    simp only [hzip, List.filterMap_append, ← h.filters, List.filterMap_cons, hkept,
      List.filterMap_nil]
    cases t.filter? <;> rfl
  · simp only [List.filterMap_append, List.head?_append, ← h.sort]
    congr 1
    cases hsort : t.sort? <;> simp [hsort]

/-- **The account is kept** by any number of pieces. -/
theorem foldl (h : Accounts query ts p) (c : Catalog) (us : List Treated) :
    Accounts query (ts ++ us) (us.foldl (Planned.add query c) p) := by
  induction us generalizing ts p with
  | nil =>
      rw [List.append_nil]
      exact h
  | cons u us ih =>
      have hrest := ih (h.add c u)
      rw [List.append_assoc, List.singleton_append] at hrest
      exact hrest

/-- A piece that has asked for an order comes with the first that did, which has not failed. -/
theorem exists_accepted_iff (h : Accounts query ts p) (i : Nat) :
    ((ts.take i).any fun t => t.sort?.isSome) = true ↔
      ∃ (j : Nat) (t : Treated) (w : CommandView) (key : SortKey), j < i ∧ ts[j]? = some t ∧
        p.views[j]? = some w ∧ w.failedAt = none ∧ t.sort? = some key := by
  constructor
  · intro hany
    rw [← List.isSome_find?, Option.isSome_iff_exists] at hany
    obtain ⟨t, hfind⟩ := hany
    obtain ⟨hsort, before, after, hsplit, hbefore⟩ := List.find?_eq_some_iff_append.1 hfind
    have hlt : before.length < i := by
      have hlength := congrArg List.length hsplit
      simp only [List.length_take, List.length_append, List.length_cons] at hlength
      omega
    have ht : ts[before.length]? = some t := by
      rw [← List.getElem?_take_of_lt hlt, hsplit, List.getElem?_append_right (Nat.le_refl _),
        Nat.sub_self, List.getElem?_cons_zero]
    have htake : ts.take before.length = before := by
      have htwice : (ts.take i).take before.length = ts.take before.length := by
        rw [List.take_take, Nat.min_eq_left (Nat.le_of_lt hlt)]
      rw [← htwice, hsplit, List.take_left]
    -- no piece before it has asked for an order
    have hnone : ((ts.take before.length).any fun t => t.sort?.isSome) = false := by
      rw [htake, List.any_eq_false]
      intro t' ht'
      simpa using hbefore t' ht'
    have hbound : before.length < p.views.length := by
      rw [← h.views.length_eq]
      exact (List.getElem?_eq_some_iff.1 ht).1
    have hview : p.views[before.length]? = some p.views[before.length] :=
      List.getElem?_eq_getElem hbound
    obtain ⟨key, hkey⟩ := Option.isSome_iff_exists.1 hsort
    refine ⟨before.length, t, _, key, hlt, ht, hview, ?_, hkey⟩
    rw [h.stages _ t _ ht hview, hnone, Treated.failure?_of_sort? hsort]
    rfl
  · rintro ⟨j, t, w, key, hlt, ht, -, -, hkey⟩
    have hmem : t ∈ ts.take i := by
      rw [List.mem_iff_getElem?]
      exact ⟨j, by rw [List.getElem?_take_of_lt hlt, ht]⟩
    exact List.any_eq_true.2 ⟨t, hmem, by rw [hkey]; rfl⟩

end Accounts

end Planned

/-! ### The pieces of a query -/

namespace Model

/-- The error of a piece that fails at a stage. -/
inductive Reports (m : Model) (p : Piece) : Stage → SearchError → Prop where
  /-- The piece is no token. -/
  | parsing {fault : Fault} : p.content = .error fault →
      Reports m p .parsing (.ofFault fault p.span)
  /-- The token is not bound to a command. -/
  | resolving {t : Token} {e : SearchError} : p.content = .ok t → m.resolve t = .error e →
      Reports m p .resolving e
  /-- The command makes nothing of the token. -/
  | compiling {t : Token} {a : Argument} {e : SearchError} : p.content = .ok t →
      m.resolve t = .ok a → a.meaning = .error e → Reports m p .compiling e
  /-- The token asks for a second order. -/
  | secondSort {t : Token} {a : Argument} {key : SortKey} : p.content = .ok t →
      m.resolve t = .ok a → a.meaning = .ok (.sort key) →
      Reports m p .compiling (.invalid a.command.id a.operand.content .secondSort)

/-- How far a piece comes: it is no token, or not bound, or bound to an argument. -/
theorem treat_cases (m : Model) (p : Piece) :
    (∃ fault, p.content = .error fault ∧ m.treat p = .malformed p.span (.ofFault fault p.span)) ∨
    (∃ t e, p.content = .ok t ∧ m.resolve t = .error e ∧ m.treat p = .unresolved p.span t e) ∨
    (∃ t a, p.content = .ok t ∧ m.resolve t = .ok a ∧
      m.treat p = .resolved p.span t a a.meaning) := by
  unfold treat
  split
  · next fault hfault => exact .inl ⟨fault, hfault, rfl⟩
  · next t ht =>
    split
    · next e he => exact .inr (.inl ⟨t, e, ht, he, rfl⟩)
    · next a ha => exact .inr (.inr ⟨t, a, ht, ha, rfl⟩)

theorem span_treat (m : Model) (p : Piece) : (m.treat p).span = p.span := by
  rcases m.treat_cases p with ⟨fault, -, h⟩ | ⟨t, e, -, -, h⟩ | ⟨t, a, -, -, h⟩ <;> rw [h] <;> rfl

theorem sort?_treat (m : Model) (p : Piece) :
    (m.treat p).sort? = (m.meaningOf? p.content).bind Meaning.sort? := by
  rw [Treated.sort?, meaning?_treat]

theorem filter?_treat (m : Model) (p : Piece) :
    (m.treat p).filter? = (m.meaningOf? p.content).bind Meaning.filter? := by
  rw [Treated.filter?, meaning?_treat]

variable {m : Model}

/-- The first piece of a query that has asked for an order before a place has not failed. -/
theorem exists_accepted_piece_iff {query : String} {ps : List Piece} {planned : Planned}
    (h : Planned.Accounts query (ps.map m.treat) planned) (i : Nat) :
    (((ps.map m.treat).take i).any fun t => t.sort?.isSome) = true ↔
      ∃ (j : Nat) (q : Piece) (w : CommandView) (key : SortKey), j < i ∧ ps[j]? = some q ∧
        planned.views[j]? = some w ∧ w.failedAt = none ∧
          m.meaningOf? q.content = some (.sort key) := by
  rw [h.exists_accepted_iff]
  constructor
  · rintro ⟨j, t, w, key, hlt, ht, hw, hkept, hkey⟩
    rw [List.getElem?_map, Option.map_eq_some_iff] at ht
    obtain ⟨q, hq, rfl⟩ := ht
    rw [Treated.sort?_eq_some_iff, meaning?_treat] at hkey
    exact ⟨j, q, w, key, hlt, hq, hw, hkept, hkey⟩
  · rintro ⟨j, q, w, key, hlt, hq, hw, hkept, hkey⟩
    rw [← meaning?_treat, ← Treated.sort?_eq_some_iff] at hkey
    refine ⟨j, m.treat q, w, key, hlt, ?_, hw, hkept, hkey⟩
    rw [List.getElem?_map, hq]
    rfl

/-- The stages at which a piece fails. -/
theorem stage_treat_iff (m : Model) (p : Piece) (sorted : Bool) :
    (((m.treat p).failure? sorted).map (·.1) = some .parsing ↔ ∃ fault, p.content = .error fault) ∧
    (((m.treat p).failure? sorted).map (·.1) = some .resolving ↔
      ∃ t e, p.content = .ok t ∧ m.resolve t = .error e) ∧
    (((m.treat p).failure? sorted).map (·.1) = some .compiling ↔
      ∃ t a, p.content = .ok t ∧ m.resolve t = .ok a ∧
        ((∃ e, a.meaning = .error e) ∨ ∃ key, a.meaning = .ok (.sort key) ∧ sorted = true)) := by
  rcases m.treat_cases p with ⟨fault, hc, h⟩ | ⟨t, e, hc, hr, h⟩ | ⟨t, a, hc, hr, h⟩
  · simp [h, hc, Treated.failure?]
  · simp [h, hc, hr, Treated.failure?]
  · rw [h]
    cases hmeaning : a.meaning with
    | error e => simp [hc, hr, hmeaning, Treated.failure?]
    | ok meaning =>
        cases meaning with
        | filter f => simp [hc, hr, hmeaning, Treated.failure?]
        | sort key => cases sorted <;> simp [hc, hr, hmeaning, Treated.failure?]

theorem reports_of_failure? {p : Piece} {sorted : Bool} {stage : Stage} {e : SearchError}
    (hfailure : (m.treat p).failure? sorted = some (stage, e)) : m.Reports p stage e := by
  rcases m.treat_cases p with ⟨fault, hc, h⟩ | ⟨t, e', hc, hr, h⟩ | ⟨t, a, hc, hr, h⟩
  · rw [h] at hfailure
    cases hfailure
    exact .parsing hc
  · rw [h] at hfailure
    cases hfailure
    exact .resolving hc hr
  · rw [h] at hfailure
    cases hmeaning : a.meaning with
    | error e' =>
        rw [hmeaning] at hfailure
        cases hfailure
        exact .compiling hc hr hmeaning
    | ok meaning =>
        rw [hmeaning] at hfailure
        cases meaning with
        | filter f => contradiction
        | sort key =>
            cases sorted with
            | false => contradiction
            | true =>
                cases hfailure
                exact .secondSort hc hr hmeaning

/-- The account of a plan. -/
theorem accounts_plan (m : Model) (c : Catalog) (query : String) :
    Planned.Accounts query ((pieces query).map m.treat)
      (((pieces query).map m.treat).foldl (Planned.add query c) .empty) := by
  have h := (Planned.Accounts.empty query).foldl c ((pieces query).map m.treat)
  rwa [List.nil_append] at h

/-- **A plan accounts for every piece once.** -/
theorem plan_accounts (m : Model) (c : Catalog) (e : EmptyQuery) (query : String) :
    -- each piece has one view, in its place and with its characters
    List.Forall₂ (fun p v => v.span = p.span ∧
        v.text.toList = (query.toList.drop p.span.start).take (p.span.stop - p.span.start))
      (pieces query) (m.plan c e query).commands ∧
    -- which shows the stage at which the piece failed
    (∀ (i : Nat) (p : Piece) (v : CommandView), (pieces query)[i]? = some p →
      (m.plan c e query).commands[i]? = some v →
      (v.failedAt = some .parsing ↔ ∃ fault, p.content = .error fault) ∧
      (v.failedAt = some .resolving ↔ ∃ t err, p.content = .ok t ∧ m.resolve t = .error err) ∧
      (v.failedAt = some .compiling ↔ ∃ t a, p.content = .ok t ∧ m.resolve t = .ok a ∧
        ((∃ err, a.meaning = .error err) ∨ ∃ key, a.meaning = .ok (.sort key) ∧
          -- an earlier piece has asked for an order and did not fail
          ∃ (j : Nat) (q : Piece) (w : CommandView) (key' : SortKey), j < i ∧
            (pieces query)[j]? = some q ∧
            (m.plan c e query).commands[j]? = some w ∧ w.failedAt = none ∧
              m.meaningOf? q.content = some (.sort key')))) ∧
    -- there is one error for each view that failed
    List.Forall₂ (fun x err => ∃ stage, x.2.failedAt = some stage ∧ m.Reports x.1 stage err)
      (((pieces query).zip (m.plan c e query).commands).filter fun x => x.2.failedAt.isSome)
      (m.plan c e query).errors ∧
    -- the order is the first that is asked for
    (m.plan c e query).sort =
      ((pieces query).filterMap fun p => (m.meaningOf? p.content).bind Meaning.sort?).head? ∧
    -- the predicate is the conjunction of the conditions of the views that did not fail
    ∃ filters : List Predicate,
      filters = (((pieces query).zip (m.plan c e query).commands).filterMap fun x =>
        if x.2.failedAt.isNone then (m.meaningOf? x.1.content).bind Meaning.filter? else none) ∧
      (filters ≠ [] → (m.plan c e query).predicate = some (.conjunction filters)) ∧
      (filters = [] → (m.plan c e query).predicate =
        if e = .matchAll then some .everything else none) := by
  have haccount := m.accounts_plan c query
  -- the account is of treated pieces, and each piece is treated by itself
  have hzip : ((pieces query).map m.treat).zip (m.plan c e query).commands =
      ((pieces query).zip (m.plan c e query).commands).map (Prod.map m.treat fun v => v) :=
    List.zip_map_left
  have hpredicate : (m.plan c e query).predicate = e.predicate
      (((pieces query).zip (m.plan c e query).commands).filterMap fun x =>
        if x.2.failedAt.isNone then (m.meaningOf? x.1.content).bind Meaning.filter? else none) := by
    refine congrArg e.predicate (haccount.filters.trans ((congrArg _ hzip).trans ?_))
    rw [List.filterMap_map]
    simp only [Function.comp_def, Prod.map_fst, Prod.map_snd, filter?_treat]
  refine ⟨?_, ?_, ?_, ?_, _, rfl, ?_, ?_⟩
  · refine (List.forall₂_map_left_iff.1 haccount.views).imp ?_
    rintro p v ⟨hspan, htext⟩
    rw [span_treat] at hspan htext
    rw [htext]
    exact ⟨hspan, String.toList_ofList⟩
  · intro i p v hp hv
    have htreated : ((pieces query).map m.treat)[i]? = some (m.treat p) := by
      rw [List.getElem?_map, hp]
      rfl
    obtain ⟨hparsing, hresolving, hcompiling⟩ := m.stage_treat_iff p
      (((pieces query).map m.treat).take i |>.any fun t => t.sort?.isSome)
    rw [haccount.stages i _ v htreated hv]
    refine ⟨hparsing, hresolving, hcompiling.trans ?_⟩
    rw [exists_accepted_piece_iff haccount i]
    rfl
  · have herrors : List.Forall₂
        (fun x err => ∃ stage sorted, x.2.failedAt = some stage ∧
          x.1.failure? sorted = some (stage, err))
        ((((pieces query).map m.treat).zip (m.plan c e query).commands).filter fun x =>
          x.2.failedAt.isSome) (m.plan c e query).errors := haccount.errors
    rw [hzip, List.filter_map, List.forall₂_map_left_iff] at herrors
    refine herrors.imp ?_
    rintro x err ⟨stage, sorted, hstage, hfailure⟩
    exact ⟨stage, hstage, reports_of_failure? hfailure⟩
  · refine haccount.sort.trans ?_
    rw [List.filterMap_map]
    simp only [Function.comp_def, sort?_treat]
  · intro hne
    rw [hpredicate]
    unfold EmptyQuery.predicate
    exact if_neg (by simpa using hne)
  · intro hnil
    rw [hpredicate, hnil]
    cases e <;> rfl

/-- Only the first order is taken, and what failed is shown where it stands. -/
example :
    let name : Command := ⟨"name", "name", [], [.has], [], none, false, [], .text, none⟩
    let sort : Command :=
      ⟨"sort", "sort", [], [.has], [], none, false, [], .order [("name", "name"), ("cost", "cmc")], none⟩
    let m : Model := ⟨"cards", [name, sort], name⟩
    let plan := m.plan default .matchAll "elf sort:cost foo:1 sort:name sort:x \"y"
    plan.commands.map (·.failedAt) =
        [none, none, some .resolving, some .compiling, some .compiling, some .parsing] ∧
      plan.errors.length = 4 ∧ plan.sort = some ⟨"cmc", false⟩ := by
  decide +kernel

end Model

end CardQuery
