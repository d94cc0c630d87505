/-
**The plan of a query and the meanings of its pieces.**

Only the meanings of its pieces enter into what a plan asks for: the conditions of all of them in
order, and the first order that one of them asks for.  A piece that fails before it has a meaning has
none; an order that comes after another has one, and fails all the same.

Main definitions:

* `Model.meaning?`, `Model.meanings` — what a token means in a model, and what the pieces of a query
  mean;
* `Meaning.filter?`, `Meaning.sort?` — the condition and the order of a meaning;
* `Treated.failure?` — the stage and the error with which a piece fails, given whether there is an order;
* `Model.Reported` — is there an error for every piece that is shown to have failed?

Main results:

* `Planned.exists_add_eq` — **everything that adding a piece does**;
* `Model.predicate_plan`, `Model.sort_plan` — **what a plan asks for** in terms of meanings;
* `Model.reported_plan` — every piece is shown, and every failure reported;
* `Model.plan_failed` — a piece that failed might as well be missing.
-/

import CardQuery.Search.Plan
import Mathlib.Data.List.Forall2

set_option autoImplicit false

namespace CardQuery

/-- The condition of a meaning, unless it is an order. -/
def Meaning.filter? : Meaning → Option Predicate
  | .filter p => some p
  | .sort _ => none

/-- The order of a meaning, unless it is a condition. -/
def Meaning.sort? : Meaning → Option SortKey
  | .filter _ => none
  | .sort key => some key

/-- What a treated piece means; one that failed means nothing. -/
def Treated.meaning? : Treated → Option Meaning
  | .resolved _ _ _ (.ok meaning) => some meaning
  | _ => none

namespace Model

/-- What a token means in a model; one that cannot be bound or given a meaning means nothing. -/
def meaning? (m : Model) (t : Token) : Option Meaning :=
  match m.resolve t with
  | .ok argument => argument.meaning.toOption
  | .error _ => none

/-- What the content of a piece means; a fault means nothing. -/
def meaningOf? (m : Model) (content : Except Fault Token) : Option Meaning :=
  content.toOption.bind m.meaning?

/-- What the pieces of a query mean, in order. -/
def meanings (m : Model) (ps : List Piece) : List Meaning :=
  ps.filterMap fun p => m.meaningOf? p.content

theorem meaning?_treat (m : Model) (p : Piece) : (m.treat p).meaning? = m.meaningOf? p.content := by
  rw [treat, meaningOf?]
  cases p.content with
  | error fault => rfl
  | ok t =>
      simp only [Except.toOption, Option.bind_some, meaning?]
      cases m.resolve t with
      | error e => rfl
      | ok argument =>
          show (Treated.resolved p.span t argument argument.meaning).meaning? =
            argument.meaning.toOption
          cases argument.meaning <;> rfl

end Model

/-! ### What a piece does -/

namespace Treated

/-- The place of a piece. -/
def span : Treated → Span
  | .malformed span _ => span
  | .unresolved span _ _ => span
  | .resolved span _ _ _ => span

/-- The stage at which a piece fails, and its error; `sorted` says whether there is an order already. -/
def failure? (sorted : Bool) : Treated → Option (Stage × SearchError)
  | .malformed _ e => some (.parsing, e)
  | .unresolved _ _ e => some (.resolving, e)
  | .resolved _ _ _ (.error e) => some (.compiling, e)
  | .resolved _ _ _ (.ok (.filter _)) => none
  | .resolved _ _ a (.ok (.sort _)) =>
    if sorted then some (.compiling, .invalid a.command.id a.operand.content .secondSort) else none

/-- The order that a piece asks for. -/
def sort? (t : Treated) : Option SortKey := t.meaning?.bind Meaning.sort?

/-- The condition of a piece. -/
def filter? (t : Treated) : Option Predicate := t.meaning?.bind Meaning.filter?

theorem sort?_eq_some_iff {t : Treated} {key : SortKey} :
    t.sort? = some key ↔ t.meaning? = some (.sort key) := by
  rw [sort?, Option.bind_eq_some_iff]
  constructor
  · rintro ⟨meaning, hmeaning, hkey⟩
    cases meaning with
    | filter f => contradiction
    | sort key' =>
        cases hkey
        exact hmeaning
  · intro hmeaning
    exact ⟨_, hmeaning, rfl⟩

/-- The first order does not fail. -/
theorem failure?_of_sort? {t : Treated} (h : t.sort?.isSome = true) : t.failure? false = none := by
  match t with
  | .malformed _ _ => contradiction
  | .unresolved _ _ _ => contradiction
  | .resolved _ _ _ (.error _) => contradiction
  | .resolved _ _ _ (.ok (.filter _)) => contradiction
  | .resolved _ _ _ (.ok (.sort _)) => rfl

/-- A piece with a condition does not fail. -/
theorem filter?_of_failure? {sorted : Bool} {t : Treated} (h : (t.failure? sorted).isSome = true) :
    t.filter? = none := by
  match t with
  | .malformed _ _ => rfl
  | .unresolved _ _ _ => rfl
  | .resolved _ _ _ (.error _) => rfl
  | .resolved _ _ _ (.ok (.filter _)) => contradiction
  | .resolved _ _ _ (.ok (.sort _)) => rfl

/-- A piece that fails asks for no order, or for a second one. -/
theorem or_sort?_of_failure? {order : Option SortKey} {t : Treated}
    (h : (t.failure? order.isSome).isSome = true) : order.or t.sort? = order := by
  cases order with
  | some first => rfl
  | none =>
      match t with
      | .malformed _ _ => rfl
      | .unresolved _ _ _ => rfl
      | .resolved _ _ _ (.error _) => rfl
      | .resolved _ _ _ (.ok (.filter _)) => contradiction
      | .resolved _ _ _ (.ok (.sort _)) => contradiction

/-- A piece that means nothing fails. -/
theorem failure?_of_meaning? {sorted : Bool} {t : Treated} (h : t.meaning? = none) :
    (t.failure? sorted).isSome = true := by
  match t with
  | .malformed _ _ => rfl
  | .unresolved _ _ _ => rfl
  | .resolved _ _ _ (.error _) => rfl
  | .resolved _ _ _ (.ok _) => contradiction

end Treated

namespace Planned

/-- A piece that failed leaves its error. -/
theorem addFailed_eq (p : Planned) (v : CommandView) (stage : Stage) (e : SearchError) :
    p.addFailed v stage e =
      { views := p.views ++ [v.failed stage]
        errors := p.errors ++ [e]
        filters := p.filters ++ []
        sort := p.sort.or none } := by
  rw [List.append_nil, Option.or_none]
  rfl

/-- **Everything that adding a piece does**: it has a view, which shows whether it fails, and it leaves its
error, its condition or its order. -/
theorem exists_add_eq (query : String) (c : Catalog) (p : Planned) (t : Treated) :
    ∃ v : CommandView, v.span = t.span ∧ v.text = t.span.sliceText query ∧
      v.failedAt = (t.failure? p.sort.isSome).map (·.1) ∧
      add query c p t =
        { views := p.views ++ [v]
          errors := p.errors ++ ((t.failure? p.sort.isSome).map (·.2)).toList
          filters := p.filters ++ t.filter?.toList
          sort := p.sort.or t.sort? } := by
  match t with
  | .malformed span e => exact ⟨_, rfl, rfl, rfl, addFailed_eq ..⟩
  | .unresolved span token e => exact ⟨_, rfl, rfl, rfl, addFailed_eq ..⟩
  | .resolved span token a (.error e) => exact ⟨_, rfl, rfl, rfl, addFailed_eq ..⟩
  | .resolved span token a (.ok (.filter f)) =>
      refine ⟨.ofArgument query c span token a, rfl, rfl, rfl, ?_⟩
      simp only [add, addMeaning, Treated.failure?, Option.map_none, Option.toList_none,
        List.append_nil]
      congr 1
      exact Option.or_none.symm
  | .resolved span token a (.ok (.sort key)) =>
      cases hsort : p.sort with
      | some first =>
          refine ⟨(CommandView.ofArgument query c span token a).failed .compiling, rfl, rfl, rfl, ?_⟩
          simp only [add, addMeaning, hsort, Option.isSome_some, if_true, addFailed_eq]
          rfl
      | none =>
          refine ⟨.ofArgument query c span token a, rfl, rfl, rfl, ?_⟩
          simp only [add, addMeaning, hsort, Option.isSome_none, Bool.false_eq_true, if_false,
            Treated.failure?, Option.map_none, Option.toList_none, List.append_nil]
          congr 1
          exact (List.append_nil _).symm

end Planned

/-! ### What a plan asks for -/

namespace Model

theorem filters_add (query : String) (c : Catalog) (p : Planned) (t : Treated) :
    (Planned.add query c p t).filters = p.filters ++ t.filter?.toList := by
  obtain ⟨v, -, -, -, hadd⟩ := Planned.exists_add_eq query c p t
  rw [hadd]

theorem sort_add (query : String) (c : Catalog) (p : Planned) (t : Treated) :
    (Planned.add query c p t).sort = p.sort.or t.sort? := by
  obtain ⟨v, -, -, -, hadd⟩ := Planned.exists_add_eq query c p t
  rw [hadd]

theorem filters_foldl (query : String) (c : Catalog) (p : Planned) (ts : List Treated) :
    (ts.foldl (Planned.add query c) p).filters =
      p.filters ++ (ts.filterMap Treated.meaning?).filterMap Meaning.filter? := by
  induction ts generalizing p with
  | nil => simp
  | cons t ts ih =>
      rw [List.foldl_cons, ih, filters_add, List.append_assoc, Treated.filter?]
      cases ht : t.meaning? with
      | none => simp [ht]
      | some meaning => cases hf : meaning.filter? <;> simp [ht, hf]

theorem sort_foldl (query : String) (c : Catalog) (p : Planned) (ts : List Treated) :
    (ts.foldl (Planned.add query c) p).sort =
      p.sort.or ((ts.filterMap Treated.meaning?).filterMap Meaning.sort?).head? := by
  induction ts generalizing p with
  | nil => simp
  | cons t ts ih =>
      rw [List.foldl_cons, ih, sort_add, Option.or_assoc, Treated.sort?]
      cases ht : t.meaning? with
      | none => simp [ht]
      | some meaning => cases hs : meaning.sort? <;> simp [ht, hs]

theorem filterMap_treat (m : Model) (ps : List Piece) :
    (ps.map m.treat).filterMap Treated.meaning? = m.meanings ps := by
  rw [List.filterMap_map, meanings]
  congr 1
  funext p
  exact meaning?_treat m p

/-- **The predicate of a plan** is the conjunction of the conditions of the pieces. -/
theorem predicate_plan (m : Model) (c : Catalog) (e : EmptyQuery) (query : String) :
    (m.plan c e query).predicate =
      e.predicate ((m.meanings (pieces query)).filterMap Meaning.filter?) := by
  rw [← filterMap_treat]
  exact congrArg e.predicate (filters_foldl query c Planned.empty _)

/-- **The order of a plan** is the first that a piece asks for. -/
theorem sort_plan (m : Model) (c : Catalog) (e : EmptyQuery) (query : String) :
    (m.plan c e query).sort = ((m.meanings (pieces query)).filterMap Meaning.sort?).head? := by
  rw [← filterMap_treat]
  exact sort_foldl query c Planned.empty _

/-! ### Pieces that fail -/

/-- Every piece has a view, which shows a failure if the piece means nothing, and a piece that failed
leaves an error, and the conditions and the order as they are. -/
theorem exists_view_add (query : String) (c : Catalog) (p : Planned) (t : Treated) :
    ∃ v, (Planned.add query c p t).views = p.views ++ [v] ∧
      (t.meaning? = none → v.failedAt.isSome = true) ∧
      (v.failedAt.isSome = false → (Planned.add query c p t).errors = p.errors) ∧
      (v.failedAt.isSome = true → (∃ e, (Planned.add query c p t).errors = p.errors ++ [e]) ∧
        (Planned.add query c p t).filters = p.filters ∧
        (Planned.add query c p t).sort = p.sort) := by
  obtain ⟨v, -, -, hstage, hadd⟩ := Planned.exists_add_eq query c p t
  have hfailed : v.failedAt.isSome = (t.failure? p.sort.isSome).isSome := by
    rw [hstage, Option.isSome_map]
  rw [hadd]
  refine ⟨v, rfl, ?_, ?_, ?_⟩ <;> rw [hfailed]
  · exact Treated.failure?_of_meaning?
  · intro hnone
    rw [Option.isSome_eq_false_iff, Option.isNone_iff_eq_none] at hnone
    rw [hnone]
    exact List.append_nil _
  · intro hsome
    obtain ⟨failure, hfailure⟩ := Option.isSome_iff_exists.1 hsome
    refine ⟨⟨failure.2, by rw [hfailure]; rfl⟩, ?_, Treated.or_sort?_of_failure? hsome⟩
    rw [Treated.filter?_of_failure? hsome]
    exact List.append_nil _

/-- A piece with its view: one that means nothing is shown to have failed. -/
def Shows (t : Treated) (v : CommandView) : Prop := t.meaning? = none → v.failedAt.isSome = true

theorem views_foldl (query : String) (c : Catalog) (p : Planned) (ts : List Treated) :
    ∃ vs, List.Forall₂ Shows ts vs ∧ (ts.foldl (Planned.add query c) p).views = p.views ++ vs := by
  induction ts generalizing p with
  | nil => exact ⟨[], .nil, (List.append_nil _).symm⟩
  | cons t ts ih =>
      obtain ⟨v, hv, hshows, -⟩ := exists_view_add query c p t
      obtain ⟨vs, hall, hvs⟩ := ih (Planned.add query c p t)
      refine ⟨v :: vs, .cons hshows hall, ?_⟩
      rw [List.foldl_cons, hvs, hv, List.append_assoc, List.singleton_append]

/-- There is an error for every piece that is shown to have failed. -/
def Reported (p : Planned) : Prop := p.errors.length = p.views.countP fun v => v.failedAt.isSome

theorem reported_add (query : String) (c : Catalog) {p : Planned} (h : Reported p) (t : Treated) :
    Reported (Planned.add query c p t) := by
  obtain ⟨v, hv, -, hkept, hfailed⟩ := exists_view_add query c p t
  rw [Reported, hv, List.countP_append, List.countP_singleton, ← h]
  cases hf : v.failedAt.isSome with
  | true =>
      obtain ⟨⟨e, he⟩, -⟩ := hfailed hf
      rw [he, List.length_append]
      rfl
  | false =>
      rw [hkept hf]
      rfl

theorem reported_foldl (query : String) (c : Catalog) {p : Planned} (h : Reported p)
    (ts : List Treated) : Reported (ts.foldl (Planned.add query c) p) := by
  induction ts generalizing p with
  | nil => exact h
  | cons t ts ih => exact ih (reported_add query c h t)

/-- The view at the place of a piece is the one that was added for it. -/
theorem foldl_failed (query : String) (c : Catalog) (ts : List Treated) (t : Treated)
    (rest : List Treated) {v : CommandView}
    (hv : ((ts ++ t :: rest).foldl (Planned.add query c) .empty).views[ts.length]? = some v)
    (hfailed : v.failedAt.isSome = true) :
    ((ts ++ t :: rest).foldl (Planned.add query c) .empty).filters =
        ((ts ++ rest).foldl (Planned.add query c) .empty).filters ∧
      ((ts ++ t :: rest).foldl (Planned.add query c) .empty).sort =
        ((ts ++ rest).foldl (Planned.add query c) .empty).sort := by
  obtain ⟨vs, hall, hvs⟩ := views_foldl query c .empty ts
  obtain ⟨v', hv', -, -, hsame⟩ := exists_view_add query c (ts.foldl (Planned.add query c) .empty) t
  simp only [List.foldl_append, List.foldl_cons] at hv ⊢
  obtain ⟨ws, -, hws⟩ := views_foldl query c
    (Planned.add query c (ts.foldl (Planned.add query c) .empty) t) rest
  rw [hws, hv', hvs, hall.length_eq] at hv
  have hfound : v' = v := by simpa [Planned.empty] using hv
  obtain ⟨-, hfilters, hsort⟩ := hsame (by rw [hfound]; exact hfailed)
  rw [filters_foldl, filters_foldl, sort_foldl, sort_foldl, hfilters, hsort]
  exact ⟨rfl, rfl⟩

end Model

/-- What the pieces of a query are, without their places. -/
def contents (query : String) : List (Except Fault Token) := (pieces query).map Piece.content

namespace Model

theorem meanings_pieces (m : Model) (query : String) :
    m.meanings (pieces query) = (contents query).filterMap m.meaningOf? := by
  rw [contents, List.filterMap_map]
  rfl

/-- **Every piece is shown**, and one that means nothing is shown to have failed, with an error for
each that did. -/
theorem reported_plan (m : Model) (c : Catalog) (e : EmptyQuery) (query : String) :
    (m.plan c e query).commands.length = (contents query).length ∧
      (m.plan c e query).errors.length =
        ((m.plan c e query).commands.countP fun v => v.failedAt.isSome) ∧
      ∀ (i : Nat) (content : Except Fault Token), (contents query)[i]? = some content →
        m.meaningOf? content = none →
        ∃ v, (m.plan c e query).commands[i]? = some v ∧ v.failedAt.isSome = true := by
  obtain ⟨vs, hall, hvs⟩ := views_foldl query c .empty ((pieces query).map m.treat)
  have hcommands : (m.plan c e query).commands = vs := hvs
  have hlength : vs.length = (pieces query).length := by rw [← hall.length_eq, List.length_map]
  have hempty : Reported Planned.empty := rfl
  refine ⟨by rw [hcommands, hlength, contents, List.length_map], reported_foldl query c hempty _, ?_⟩
  intro i content hi hnone
  obtain ⟨hbound, hget⟩ := List.getElem?_eq_some_iff.1 hi
  rw [contents, List.length_map] at hbound
  have hviews : i < vs.length := by rw [hlength]; exact hbound
  have hshows := hall.get (by rw [List.length_map]; exact hbound) hviews
  refine ⟨vs[i], by rw [hcommands, List.getElem?_eq_getElem hviews], hshows ?_⟩
  simp only [contents, List.getElem_map] at hget
  simp only [List.get_eq_getElem, List.getElem_map, meaning?_treat, hget, hnone]

/-- **A piece that failed might as well be missing.** -/
theorem plan_failed (m : Model) (c : Catalog) (e : EmptyQuery) {q q' : String}
    {before after : List (Except Fault Token)} {content : Except Fault Token}
    (hq : contents q = before ++ content :: after) (hq' : contents q' = before ++ after)
    {v : CommandView} (hv : (m.plan c e q).commands[before.length]? = some v)
    (hfailed : v.failedAt.isSome = true) :
    (m.plan c e q).predicate = (m.plan c e q').predicate ∧
      (m.plan c e q).sort = (m.plan c e q').sort := by
  obtain ⟨ps, rest, hps, rfl, hrest⟩ := List.map_eq_append_iff.1 hq
  obtain ⟨p, qs, rfl, rfl, rfl⟩ := List.map_eq_cons_iff.1 hrest
  have hmeanings : m.meanings (pieces q') = m.meanings (ps ++ qs) := by
    rw [meanings_pieces, hq', ← List.map_append, List.filterMap_map]
    rfl
  have hviews : (((ps.map m.treat) ++ m.treat p :: qs.map m.treat).foldl (Planned.add q c)
      .empty).views[(ps.map m.treat).length]? = some v := by
    rw [List.length_map] at hv ⊢
    rw [← hv, ← List.map_cons, ← List.map_append, ← hps]
    rfl
  obtain ⟨hfilters, hsort⟩ := foldl_failed q c _ _ _ hviews hfailed
  rw [← List.map_cons, ← List.map_append, ← List.map_append, ← hps] at hfilters hsort
  constructor
  · rw [predicate_plan m c e q', hmeanings, ← filterMap_treat]
    exact congrArg e.predicate (hfilters.trans (filters_foldl q c .empty _))
  · rw [sort_plan m c e q', hmeanings, ← filterMap_treat]
    exact hsort.trans (sort_foldl q c .empty _)

end Model

end CardQuery
