/-
**One explanation for a token.**

A token is explained in two places: alone, and in the view that the plan of its query has of it.  The first reads
and binds the token on its own and never asks for its meaning; the second comes to the explanation on the way to
the meaning, and may find afterwards that there is none, or that it is a second order.  Both say the same, since a
view that is marked as failed keeps its explanation.

Main definitions:

* `Treated.explanation?` — the explanation of a piece, which a piece has as soon as it is bound;
* `Model.firstExplanation?` — the explanation of the first piece of a query.

Main results:

* `Model.explanations_plan` — **the explanations in a plan** are those of the pieces, in order;
* `Engine.explain_eq_first_view` — **the explanation of a token alone** is that of the first view.
-/

import CardQuery.Proofs.Outcome
import CardQuery.Search.Engine

set_option autoImplicit false

namespace CardQuery

/-- The explanation of a piece: that of the argument that it is bound to. -/
def Treated.explanation? (c : Catalog) : Treated → Option String
  | .malformed _ _ => none
  | .unresolved _ _ _ => none
  | .resolved span _ a _ => a.explain c span

/-! ### Views -/

namespace Planned

/-- A piece is shown with its explanation, whether it fails afterwards or not. -/
theorem exists_explained_add (query : String) (c : Catalog) (p : Planned) (t : Treated) :
    ∃ v, (add query c p t).views = p.views ++ [v] ∧ v.explanation = t.explanation? c := by
  match t with
  | .malformed span e => exact ⟨_, rfl, rfl⟩
  | .unresolved span token e => exact ⟨_, rfl, rfl⟩
  | .resolved span token a (.error e) => exact ⟨_, rfl, rfl⟩
  | .resolved span token a (.ok (.filter f)) => exact ⟨_, rfl, rfl⟩
  | .resolved span token a (.ok (.sort key)) =>
      rw [add, addMeaning]
      split
      · exact ⟨_, rfl, rfl⟩
      · exact ⟨_, rfl, rfl⟩

/-- All pieces are shown with their explanations. -/
theorem explanations_foldl (query : String) (c : Catalog) (p : Planned) (ts : List Treated) :
    (ts.foldl (add query c) p).views.map (·.explanation) =
      p.views.map (·.explanation) ++ ts.map (Treated.explanation? c) := by
  induction ts generalizing p with
  | nil => exact (List.append_nil _).symm
  | cons t ts ih =>
      obtain ⟨v, hviews, hexplanation⟩ := exists_explained_add query c p t
      rw [List.foldl_cons, ih, hviews, List.map_append, List.append_assoc, List.map_singleton,
        hexplanation, List.singleton_append, List.map_cons]

end Planned

/-- **The explanations in a plan** are those of the pieces, in order. -/
theorem Model.explanations_plan (m : Model) (c : Catalog) (e : EmptyQuery) (query : String) :
    (m.plan c e query).commands.map (·.explanation) =
      (pieces query).map fun p => (m.treat p).explanation? c := by
  have hviews := Planned.explanations_foldl query c .empty ((pieces query).map m.treat)
  rw [List.map_map] at hviews
  exact hviews

/-- A token is explained when it is bound to an argument, whatever becomes of its meaning. -/
theorem Model.explanation?_treat_token (m : Model) (c : Catalog) (span : Span) (t : Token) :
    (m.treat ⟨span, .ok t⟩).explanation? c =
      (m.resolve t).toOption.bind fun a => a.explain c span := by
  rw [treat]
  dsimp only
  cases m.resolve t <;> rfl

/-! ### The first token -/

/-- The explanation of the first piece of a query, as far as the piece comes in the model. -/
def Model.firstExplanation? (m : Model) (c : Catalog) (query : String) : Option String :=
  (pieces query).head?.bind fun p => (m.treat p).explanation? c

namespace Model

/-- The first view of a plan has the explanation of the first piece. -/
theorem explanation_first_view (m : Model) (c : Catalog) (e : EmptyQuery) (query : String) :
    (m.plan c e query).commands.head?.bind (·.explanation) = m.firstExplanation? c query := by
  have hviews := m.explanations_plan c e query
  rw [firstExplanation?]
  generalize (m.plan c e query).commands = views at hviews ⊢
  generalize pieces query = ps at hviews ⊢
  cases ps with
  | nil =>
      obtain rfl := List.map_eq_nil_iff.1 hviews
      rfl
  | cons p ps =>
      obtain ⟨v, vs, rfl, hexplanation, -⟩ := List.map_eq_cons_iff.1 hviews
      exact hexplanation

/-- There is such an explanation exactly when the first piece is a token that is bound to an argument, and the
argument is not silent. -/
theorem firstExplanation?_eq_some_iff {m : Model} {c : Catalog} {query text : String} :
    m.firstExplanation? c query = some text ↔
      ∃ span t rest a, pieces query = ⟨span, .ok t⟩ :: rest ∧ m.resolve t = .ok a ∧
        a.explain c span = some text := by
  constructor
  · intro htext
    obtain ⟨piece, hpiece, htext⟩ := Option.bind_eq_some_iff.1 htext
    obtain ⟨rest, hpieces⟩ := List.head?_eq_some_iff.1 hpiece
    obtain ⟨span, fault | t⟩ := piece
    · cases htext
    · rw [explanation?_treat_token, Option.bind_eq_some_iff] at htext
      obtain ⟨a, ha, htext⟩ := htext
      cases hresolve : m.resolve t with
      | error e =>
          rw [hresolve] at ha
          contradiction
      | ok a' =>
          rw [hresolve] at ha
          cases ha
          exact ⟨span, t, rest, a, hpieces, hresolve, htext⟩
  · rintro ⟨span, t, rest, a, hpieces, hresolve, htext⟩
    rw [firstExplanation?, hpieces, List.head?_cons, Option.bind_some, explanation?_treat_token, hresolve]
    exact htext

end Model

namespace Engine

/-- The explanation of a token alone is that of the first piece. -/
theorem explain_eq (e : Engine) (id query : String) :
    e.explain id query = (e.model id).map fun m => m.firstExplanation? e.catalog query := by
  rw [explain]
  congr 1
  funext m
  rw [Model.firstExplanation?]
  rcases pieces query with _ | ⟨⟨span, fault | t⟩, rest⟩
  · rfl
  · rfl
  · rw [List.head?_cons, Option.bind_some, Model.explanation?_treat_token]
    dsimp only
    cases m.resolve t <;> rfl

theorem model_eq_ok_iff {e : Engine} {id : String} {m : Model} :
    e.model id = .ok m ↔ e.registry.get? id = some m := by
  rw [model]
  cases e.registry.get? id <;> simp

/-- **The explanation of a token alone is that of the first view** in the plan of its query.

A model that is not known is refused in both places alike.  In a model that is known there is an explanation
exactly when the query begins with a token that is bound to an argument, whether or not this has a meaning, and
the argument is not silent. -/
theorem explain_eq_first_view (e : Engine) (id query : String) :
    e.explain id query =
        (e.plan id query).map (fun plan => plan.commands.head?.bind (·.explanation)) ∧
      ∀ text, e.explain id query = .ok (some text) ↔
        ∃ m span t rest a, e.registry.get? id = some m ∧ pieces query = ⟨span, .ok t⟩ :: rest ∧
          m.resolve t = .ok a ∧ a.explain e.catalog span = some text := by
  constructor
  · rw [explain_eq, plan]
    cases e.model id with
    | error failure => rfl
    | ok m => exact congrArg Except.ok (m.explanation_first_view _ _ query).symm
  · intro text
    rw [explain_eq, map_eq_ok_iff]
    simp only [model_eq_ok_iff, Model.firstExplanation?_eq_some_iff, exists_and_left]

/-- A token that is bound but has no meaning is explained all the same. -/
example :
    let cost : Command := ⟨"cost", "cost", [], [.has, .equals], [], none, false, [], .number false, none⟩
    let m : Model := ⟨"cards", [cost], cost⟩
    let view := (m.plan .empty .matchAll "cost:many").commands.head?
    view.bind (·.explanation) = some "cost : many" ∧ view.bind (·.failedAt) = some .compiling := by
  decide +kernel

end Engine

end CardQuery
