/-
**A query means the conjunction of its parts.**

With white space between them, two queries keep their pieces, so that together they mean what the first
means and then what the second means.  A card meets the plan of both exactly when it meets both plans,
and the order is that of the first unless only the second asks for one.  A piece without a meaning
changes nothing, and how often and in which order conditions are stated changes nothing either.

Main definitions:

* `Plan.Builds`, `Plan.hits?` — the test of the cards that a plan wants, and these cards;
* `Model.conditions` — the conditions of a query in order.

Main results:

* `Model.meanings_append` — what two queries with white space between them mean;
* `Model.builds_plan_iff` — the test of a plan, and when there is one;
* `Model.plan_append` — **a query means the conjunction of its parts**.
-/

import CardQuery.Proofs.Predicate.Test
import CardQuery.Proofs.Search.Meanings
import CardQuery.Proofs.Token.Boundary
import CardQuery.Store.Memory

set_option autoImplicit false

namespace CardQuery

open Unicode (isBlank)

/-- A store builds the test for the predicate of the plan. -/
def Plan.Builds (p : Plan) (test : Json → Bool) : Prop :=
  ∃ predicate, p.predicate = some predicate ∧ predicate.test? = .ok test

/-- The cards of a model that a plan wants; a plan without a predicate wants none. -/
def Plan.hits? (p : Plan) (s : MemoryStore) (id : String) : Except StoreError (List Json) :=
  match p.predicate with
  | some predicate => s.matching? id predicate
  | none => .ok []

/-- The cards that a plan wants are in the order of the store. -/
theorem Plan.Builds.hits?_eq {p : Plan} {test : Json → Bool} (h : p.Builds test) (s : MemoryStore)
    (id : String) : p.hits? s id = .ok ((s.cardsOf id).filter test) := by
  obtain ⟨predicate, hp, htest⟩ := h
  simp only [hits?, hp, MemoryStore.matching?, htest]

namespace Model

/-! ### Meanings of pieces -/

theorem meanings_followed (m : Model) {ps qs : List Piece} (h : Followed ps qs) :
    m.meanings qs = m.meanings ps := by
  induction h with
  | nil => rfl
  | cons p rest ih =>
      simp only [meanings, List.filterMap_cons] at ih ⊢
      rw [ih]
  | last span => rfl

theorem meanings_shift (m : Model) (k : Nat) (ps : List Piece) :
    m.meanings (ps.map (Piece.shift k)) = m.meanings ps := by
  rw [meanings, List.filterMap_map]
  rfl

/-- **What two queries with white space between them mean.** -/
theorem meanings_append (m : Model) {w : Char} (hw : isBlank w = true) {q₁ : String}
    (h : AllClosed (pieces q₁)) (q₂ : String) :
    m.meanings (pieces (q₁.push w ++ q₂)) = m.meanings (pieces q₁) ++ m.meanings (pieces q₂) := by
  obtain ⟨ps, hps, heq⟩ := pieces_append hw h q₂
  have hparts : m.meanings (ps ++ (pieces q₂).map (Piece.shift (q₁.length + 1))) =
      m.meanings ps ++ m.meanings ((pieces q₂).map (Piece.shift (q₁.length + 1))) :=
    List.filterMap_append
  rw [heq, hparts, m.meanings_followed hps, m.meanings_shift]

/-! ### The test of a plan -/

/-- The conditions of a query, in order. -/
def conditions (m : Model) (query : String) : List Predicate :=
  (m.meanings (pieces query)).filterMap Meaning.filter?

/-- A query without conditions is met by all cards, as an empty conjunction is. -/
theorem predicate_plan_matchAll (m : Model) (c : Catalog) (query : String) :
    (m.plan c .matchAll query).predicate = some (.conjunction (m.conditions query)) := by
  rw [predicate_plan, EmptyQuery.predicate, ← conditions]
  cases m.conditions query with
  | nil => rfl
  | cons p ps => rfl

/-- **The test of a plan** exists when all regular expressions of its conditions are well formed, and
asks for all of the conditions. -/
theorem builds_plan_iff (m : Model) (c : Catalog) (query : String) (test : Json → Bool) :
    (m.plan c .matchAll query).Builds test ↔
      (∀ p ∈ m.conditions query, ∀ pattern ∈ p.patterns, Predicate.IsMalformed pattern = false) ∧
        test = fun card => (m.conditions query).all fun p => p.holds card := by
  rw [Plan.Builds, predicate_plan_matchAll]
  simp only [Option.some.injEq, exists_eq_left', Predicate.test?_eq_ok_iff,
    Predicate.patterns_conjunction, List.mem_flatMap, forall_exists_index, and_imp,
    funext (Predicate.holds_conjunction (m.conditions query))]
  exact and_congr_left' ⟨fun h p hp pattern hpattern => h pattern p hp hpattern,
    fun h pattern p hp hpattern => h p hp pattern hpattern⟩

/-- The cards that a plan wants are those that pass its test, if it has one. -/
theorem hits?_plan_eq_ok_iff (m : Model) (c : Catalog) (query : String) (s : MemoryStore)
    (id : String) (hits : List Json) :
    (m.plan c .matchAll query).hits? s id = .ok hits ↔
      ∃ test, (m.plan c .matchAll query).Builds test ∧ hits = (s.cardsOf id).filter test := by
  constructor
  · intro h
    rw [Plan.hits?, predicate_plan_matchAll] at h
    simp only [MemoryStore.matching?] at h
    split at h
    · next test htest =>
      cases h
      exact ⟨test, ⟨_, m.predicate_plan_matchAll c query, htest⟩, rfl⟩
    · contradiction
  · rintro ⟨test, htest, rfl⟩
    exact htest.hits?_eq s id

/-- The conditions decide which cards a plan wants, and not their order or how often they occur. -/
theorem builds_plan_congr (m : Model) (c : Catalog) {q q' : String}
    (h : ∀ p, p ∈ m.conditions q ↔ p ∈ m.conditions q') (test : Json → Bool) :
    (m.plan c .matchAll q).Builds test ↔ (m.plan c .matchAll q').Builds test := by
  have hall (card : Json) : (m.conditions q).all (fun p => p.holds card) =
      (m.conditions q').all fun p => p.holds card := by
    rw [Bool.eq_iff_iff, List.all_eq_true, List.all_eq_true]
    simp only [h]
  simp only [builds_plan_iff, h, hall]

/-! ### Parts of a query -/

theorem mem_conditions_iff (m : Model) (query : String) (p : Predicate) :
    p ∈ m.conditions query ↔ ∃ t, .ok t ∈ contents query ∧ m.meaning? t = some (.filter p) := by
  rw [conditions, meanings_pieces, List.mem_filterMap]
  simp only [List.mem_filterMap]
  constructor
  · rintro ⟨meaning, ⟨content, hcontent, hmeaning⟩, hp⟩
    cases content with
    | error fault => contradiction
    | ok t =>
        cases meaning with
        | sort key => contradiction
        | filter p' =>
            cases hp
            exact ⟨t, hcontent, hmeaning⟩
  · rintro ⟨t, ht, hp⟩
    exact ⟨.filter p, ⟨.ok t, ht, hp⟩, rfl⟩

/-- **A query means the conjunction of its parts.** -/
theorem plan_append (m : Model) (c : Catalog) {w : Char} (hw : isBlank w = true) {q₁ : String}
    (h : AllClosed (pieces q₁)) (q₂ : String) :
    -- a card meets both queries together when it meets each of them
    (∀ test, (m.plan c .matchAll (q₁.push w ++ q₂)).Builds test ↔
      ∃ test₁ test₂, (m.plan c .matchAll q₁).Builds test₁ ∧ (m.plan c .matchAll q₂).Builds test₂ ∧
        test = fun card => test₁ card && test₂ card) ∧
    (∀ test₁ test₂, (m.plan c .matchAll q₁).Builds test₁ → (m.plan c .matchAll q₂).Builds test₂ →
      ∀ (s : MemoryStore) (id : String),
        (m.plan c .matchAll q₁).hits? s id = .ok ((s.cardsOf id).filter test₁) ∧
        (m.plan c .matchAll q₂).hits? s id = .ok ((s.cardsOf id).filter test₂) ∧
        (m.plan c .matchAll (q₁.push w ++ q₂)).hits? s id =
          .ok ((s.cardsOf id).filter fun card => test₁ card && test₂ card)) ∧
    (m.plan c .matchAll (q₁.push w ++ q₂)).sort =
      (m.plan c .matchAll q₁).sort.or (m.plan c .matchAll q₂).sort ∧
    -- pieces that fail at any stage change nothing
    (∀ q q' before content after v, contents q = before ++ content :: after →
      contents q' = before ++ after →
      (m.plan c .matchAll q).commands[before.length]? = some v → v.failedAt.isSome = true →
      (m.plan c .matchAll q).predicate = (m.plan c .matchAll q').predicate ∧
        (m.plan c .matchAll q).sort = (m.plan c .matchAll q').sort) ∧
    -- conditions may be reordered and repeated
    (∀ q q', (∀ t p, m.meaning? t = some (.filter p) → (.ok t ∈ contents q ↔ .ok t ∈ contents q')) →
      ∀ (s : MemoryStore) (id : String) (hits : List Json),
        (m.plan c .matchAll q).hits? s id = .ok hits ↔
          (m.plan c .matchAll q').hits? s id = .ok hits) := by
  have hmeanings := m.meanings_append hw h q₂
  have hconditions : m.conditions (q₁.push w ++ q₂) = m.conditions q₁ ++ m.conditions q₂ := by
    rw [conditions, hmeanings, List.filterMap_append]
    rfl
  have hbuilds (test : Json → Bool) : (m.plan c .matchAll (q₁.push w ++ q₂)).Builds test ↔
      ∃ test₁ test₂, (m.plan c .matchAll q₁).Builds test₁ ∧ (m.plan c .matchAll q₂).Builds test₂ ∧
        test = fun card => test₁ card && test₂ card := by
    simp only [builds_plan_iff, hconditions, List.all_append, List.forall_mem_append]
    constructor
    · rintro ⟨⟨hpatterns₁, hpatterns₂⟩, rfl⟩
      exact ⟨_, _, ⟨hpatterns₁, rfl⟩, ⟨hpatterns₂, rfl⟩, rfl⟩
    · rintro ⟨_, _, ⟨hpatterns₁, rfl⟩, ⟨hpatterns₂, rfl⟩, rfl⟩
      exact ⟨⟨hpatterns₁, hpatterns₂⟩, rfl⟩
  refine ⟨hbuilds, ?_, ?_, ?_, ?_⟩
  · intro test₁ test₂ h₁ h₂ s id
    have hboth := (hbuilds _).2 ⟨test₁, test₂, h₁, h₂, rfl⟩
    exact ⟨h₁.hits?_eq s id, h₂.hits?_eq s id, hboth.hits?_eq s id⟩
  · rw [sort_plan, sort_plan, sort_plan, hmeanings, List.filterMap_append, List.head?_append]
  · intro q q' before content after v hq hq' hv hfailed
    exact m.plan_failed c .matchAll hq hq' hv hfailed
  · intro q q' hsame s id hits
    simp only [hits?_plan_eq_ok_iff]
    refine exists_congr fun test => and_congr_left' (m.builds_plan_congr c (fun p => ?_) test)
    rw [mem_conditions_iff, mem_conditions_iff]
    constructor
    · rintro ⟨t, ht, hp⟩
      exact ⟨t, (hsame t p hp).1 ht, hp⟩
    · rintro ⟨t, ht, hp⟩
      exact ⟨t, (hsame t p hp).2 ht, hp⟩

/-- Of three cards, only one has both words in its name. -/
theorem plan_append_red_goblin :
    let name : Command := ⟨"name", "name", [], [.has], [], none, false, [], .text, none⟩
    let m : Model := ⟨"cards", [name], name⟩
    let cards := ["red goblin", "red elf", "goblin"].map fun s => Json.object [("name", .text s)]
    isBlank ' ' = true ∧ AllClosed (pieces "red") ∧
      (m.plan default .matchAll (("red" : String).push ' ' ++ "goblin")).hits?
          ⟨[("cards", cards)]⟩ "cards" = .ok [.object [("name", .text "red goblin")]] := by
  intro name m cards
  have hred : contents "red" = [.ok ⟨[], none, none, none, .text "red"⟩] := by decide +kernel
  have hgoblin : contents "goblin" = [.ok ⟨[], none, none, none, .text "goblin"⟩] := by
    decide +kernel
  have hclosed : AllClosed (pieces "red") := by
    intro p hp fault hf
    have hmem : p.content ∈ contents "red" := List.mem_map_of_mem hp
    rw [hred, List.mem_singleton, hf] at hmem
    contradiction
  have hbuilds₁ : (m.plan default .matchAll "red").Builds fun card =>
      [Predicate.contains "name" "red"].all fun p => p.holds card := by
    have hconditions : m.conditions "red" = [.contains "name" "red"] := by
      rw [conditions, meanings_pieces, hred]
      rfl
    rw [builds_plan_iff, hconditions]
    exact ⟨by decide, rfl⟩
  have hbuilds₂ : (m.plan default .matchAll "goblin").Builds fun card =>
      [Predicate.contains "name" "goblin"].all fun p => p.holds card := by
    have hconditions : m.conditions "goblin" = [.contains "name" "goblin"] := by
      rw [conditions, meanings_pieces, hgoblin]
      rfl
    rw [builds_plan_iff, hconditions]
    exact ⟨by decide, rfl⟩
  obtain ⟨-, hhits, -⟩ := m.plan_append default (by decide : isBlank ' ' = true) hclosed "goblin"
  obtain ⟨-, -, hboth⟩ := hhits _ _ hbuilds₁ hbuilds₂ ⟨[("cards", cards)]⟩ "cards"
  refine ⟨by decide, hclosed, hboth.trans (congrArg Except.ok ?_)⟩
  rfl

end Model

end CardQuery
