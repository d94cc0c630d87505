/-
**Both stores find the same cards.**

Tokens about whole numbers, sets of letters and labels ask both stores for the same cards, however they
are negated and combined, as long as a key that is read for such a token holds nothing, null or such a
value.  The clause of their predicate has one reading, which is true of exactly the cards that the test
of the store in memory lets pass.  So stores that are filled alike count the same hits, as long as the
conditions are not too many for a statement: of 998 that are joined a table has no answer.

Main definitions:

* `Binding.AllFit` — cards that keep to what the keys of some bindings are supposed to hold;
* `Model.Compiles` — predicates that are made of what tokens of a model mean.

Main results:

* `Model.Compiles.oneAsks` — every leaf of such a predicate asks for the content of a key that is read;
* `Model.Compiles.agrees` — **the condition of such a predicate is true of the cards that meet it**;
* `Model.stores_find_same` — **both stores find the same cards**.
-/

import CardQuery.Proofs.Predicate.Operands
import CardQuery.Proofs.Search.Contents
import CardQuery.Proofs.Store.Fetch

set_option autoImplicit false

namespace CardQuery

open CommandDraft (bitset isPlainKey ordering unrestricted)
open Sql

/-! ### What tokens ask for -/

/-- The card keeps to what the keys of the bindings are supposed to hold. -/
def Binding.AllFit (bs : List Binding) (card : Json) : Prop :=
  ∀ b ∈ bs, ∀ c, b.content? = some c → c.Fits b.key card

/-- Predicates that are made, by negation and conjunction, of what tokens of the model mean.  Nothing is
read for the tokens but the given bindings, and it is known what their keys are supposed to hold. -/
inductive Model.Compiles (m : Model) (bs : List Binding) : Predicate → Prop where
  | token {t : Token} {a : Argument} {p : Predicate} (resolved : m.resolve t = .ok a)
    (reads : ∀ b ∈ a.readings, b ∈ bs ∧ b.content?.isSome = true)
    (meaning : a.meaning = .ok (.filter p)) : Compiles m bs p
  | negate {p : Predicate} (h : Compiles m bs p) : Compiles m bs p.negate
  | conjunction {ps : List Predicate} (h : ∀ p ∈ ps, Compiles m bs p) :
    Compiles m bs (.conjunction ps)

namespace Model.Compiles

variable {m : Model} {bs : List Binding} {p : Predicate} {card : Json}

/-- **Every leaf** asks for the content of a key that is read. -/
theorem oneAsks (hm : m.Built) (h : m.Compiles bs p) : ∀ q ∈ p.leaves, Binding.OneAsks bs q := by
  induction h with
  | token resolved reads meaning =>
      intro q hq
      obtain ⟨b, hb, hasks⟩ :=
        Argument.oneAsks_meaning hm resolved (fun b hb => (reads b hb).2) meaning q hq
      exact ⟨b, (reads b hb).1, hasks⟩
  | negate _ ih => rwa [Predicate.leaves_negate]
  | conjunction _ ih =>
      rw [Predicate.leaves_conjunction, List.forall_mem_flatMap]
      exact ih

/-- **The condition is true of the cards that meet the predicate**, and of no others. -/
theorem agrees (hm : m.Built) (h : m.Compiles bs p) (hfit : Binding.AllFit bs card) :
    p.Agrees card := by
  refine Predicate.agrees_of_leaves fun q hq => ?_
  obtain ⟨b, hb, hsound, c, hc, hasks⟩ := h.oneAsks hm q hq
  exact hasks.agrees hsound.key (hfit b hb c hc)

/-- No regular expression is searched for. -/
theorem test?_eq (hm : m.Built) (h : m.Compiles bs p) : p.test? = .ok p.holds := by
  refine Predicate.test?_eq_ok_iff.2 ⟨?_, rfl⟩
  rw [Predicate.patterns_eq_flatMap, List.forall_mem_flatMap]
  intro q hq pattern hpattern
  obtain ⟨b, -, -, c, -, hasks⟩ := h.oneAsks hm q hq
  cases hasks <;> contradiction

theorem isContained_of_mem_keys (hm : m.Built) (h : m.Compiles bs p) :
    ∀ key ∈ p.keys, isContained key = true := by
  rw [Predicate.keys_eq_flatMap, List.forall_mem_flatMap]
  intro q hq key hkey
  obtain ⟨b, -, hsound, c, -, hasks⟩ := h.oneAsks hm q hq
  have heq : key = b.key := by cases hasks <;> exact List.mem_singleton.1 hkey
  rw [heq]
  exact isContained_of_isPlainKey hsound.key

end Model.Compiles

/-- A condition that is no conjunction, several times. -/
theorem Predicate.conjunction_replicate {q : Predicate} (hq : q.conjuncts = [q]) (n : Nat) :
    conjunction (List.replicate (n + 2) q) = allOf (q :: List.replicate (n + 1) q) := by
  have hflat (n : Nat) : (List.replicate n q).flatMap conjuncts = List.replicate n q := by
    induction n with
    | zero => rfl
    | succ n ih => rw [List.replicate_succ, List.flatMap_cons, ih, hq, List.singleton_append]
  rw [conjunction, hflat]
  rfl

/-! ### Both stores -/

namespace Model

/-- **Both stores find the same cards.** -/
theorem stores_find_same {m : Model} (hm : m.Built) {bs : List Binding} {p : Predicate}
    (hp : m.Compiles bs p) :
    ∃ test, p.test? = .ok test ∧
      -- the clause can be read in one way, and is true of a card exactly when the card passes the test
      (∀ column, ∃ e,
        (∀ e', IsReading column (p.toSql.clause column) (p.toSql.params column) e' ↔ e' = e) ∧
          ∀ card, Binding.AllFit bs card → e.holds card = .ok (test card)) ∧
      -- stores that are filled alike report the same total
      ∀ names table entries id r, TableStore.create names = .ok table →
        (∀ card ∈ (MemoryStore.empty.fill entries).cardsOf id, Binding.AllFit bs card) →
        (p.toSql.params names.dataColumn).length + 3 ≤ mostParams →
        (∀ k ∈ r.sort, isPlainKey k.key = true) →
        let memory := MemoryStore.empty.fill entries
        let hits := (memory.cardsOf id).filter test
        (∀ page, memory.fetch id p r = .ok page → page.total = hits.length) ∧
        (∀ answer, (table.fill entries).fetch id p r = .ok answer → answer.total = hits.length) ∧
        -- the store in memory answers unless the sort gives up
        (IsArrangeable r.sort hits → ∃ page, memory.fetch id p r = .ok page) ∧
        -- the table answers exactly when the condition is not too high for a statement
        ((∀ card ∈ memory.cardsOf id, (Json.read? card.compact).isSome = true) →
          ((∃ answer, (table.fill entries).fetch id p r = .ok answer) ↔
            statementHeight p.toSql ≤ mostDepth)) := by
  refine ⟨p.holds, hp.test?_eq hm, fun column => ⟨p.toSql, ?_, ?_⟩, ?_⟩
  · exact Predicate.isReading_iff (hp.isContained_of_mem_keys hm) column
  · exact fun card hfit => Predicate.holds_toSql (hp.agrees hm hfit)
  · intro names table entries id r htable hfit hfew hsort memory hits
    obtain ⟨hnames, hmirrors⟩ := Mirrors.create htable
    have hprepare (further : Nat) (hle : further ≤ 3) :
        canPrepare (table.fill entries).names.dataColumn p.toSql further = true ↔
          statementHeight p.toSql ≤ mostDepth := by
      rw [TableStore.names_fill, hnames, Predicate.canPrepare_iff (hp.isContained_of_mem_keys hm)]
      exact and_iff_right (by omega)
    have hanswers : (∃ answer, (table.fill entries).fetch id p r = .ok answer) →
        statementHeight p.toSql ≤ mostDepth := by
      rintro ⟨answer, hanswer⟩
      exact (hprepare 1 (by decide)).1 (TableStore.canPrepare_of_fetch hanswer)
    have hholds : ∀ card ∈ memory.cardsOf id, p.toSql.holds card = .ok (p.holds card) :=
      fun card hcard => Predicate.holds_toSql (hp.agrees hm (hfit card hcard))
    have hfilled := hmirrors.fill entries
    refine ⟨fun page hpage => MemoryStore.total_of_fetch (hp.test?_eq hm) hpage, fun answer hanswer => ?_,
      MemoryStore.exists_fetch (hp.test?_eq hm), fun hread => ⟨hanswers, fun hheight => ?_⟩⟩
    · have hheight := hanswers ⟨answer, hanswer⟩
      exact hfilled.total_of_fetch ((hprepare 3 (by decide)).2 hheight) hsort hholds hanswer
    · exact hfilled.exists_fetch ((hprepare 3 (by decide)).2 hheight) hsort hholds hread

/-- The negation of a comparison is met by a card that has no such value, in both stores. -/
theorem stores_find_same_missing_number :
    let raw : Command :=
      ⟨"raw", "raw", [], Operator.all, [.negation], none, true, [], .unrestricted ["name"], none⟩
    let cmc : Command :=
      ⟨"cmc", "cmc", [], ordering, [.negation], some [.equals], false, [], .number false, none⟩
    let color : Command :=
      ⟨"color", "color", [], Operator.all, [.negation], none, false, [], .bitset (.ofText "WUBRG"), none⟩
    let m : Model := ⟨"magic", [raw, cmc, color], raw⟩
    let number : Binding := ⟨cmc, none, .text "3", .equals, [.negation]⟩
    let letters : Binding := ⟨color, none, .text "W", .atLeast, []⟩
    let p : Predicate := .allOf [.not (.compare "cmc" .equal (.integer 3)), .bitsAllSet "color" 1]
    let white := Json.object [("color", .ofNat 1)]
    let memory := MemoryStore.empty.fill [("magic", white)]
    let table := (⟨.standard, []⟩ : TableStore).fill [("magic", white)]
    m.Built ∧ m.Compiles [number, letters] p ∧ Binding.AllFit [number, letters] white ∧
      p.toSql.holds white = .ok true ∧
      ∃ page answer, memory.fetch "magic" p ⟨1, 10, none⟩ = .ok page ∧
        table.fetch "magic" p ⟨1, 10, none⟩ = .ok answer ∧ answer.total = page.total := by
  intro raw cmc color m number letters p white memory table
  have hm : m.Built :=
    ⟨"magic", "raw", [unrestricted "raw" ["name"], CommandDraft.number "cmc", bitset "color" "WUBRG"],
      [raw, cmc, color], rfl, by dsimp only [m, raw, cmc, color]; rfl⟩
  have hnumber : m.Compiles [number, letters] (.not (.compare "cmc" .equal (.integer 3))) := by
    refine .token (t := ⟨[.negation], some "cmc", none, some .equals, .text "3"⟩)
      (a := ⟨number, none, []⟩) ?_ ?_ ?_
    · dsimp only [m, raw, cmc, color, number]
      rfl
    · intro b hb
      obtain rfl := List.mem_singleton.1 hb
      exact ⟨List.mem_cons_self, rfl⟩
    · rfl
  have hletters : m.Compiles [number, letters] (.bitsAllSet "color" 1) := by
    refine .token (t := ⟨[], some "color", none, some .atLeast, .text "W"⟩)
      (a := ⟨letters, none, []⟩) ?_ ?_ ?_
    · dsimp only [m, raw, cmc, color, letters]
      rfl
    · intro b hb
      obtain rfl := List.mem_singleton.1 hb
      exact ⟨List.mem_cons_of_mem _ List.mem_cons_self, rfl⟩
    · rfl
  have hcompiles : m.Compiles [number, letters] p := by
    have hboth : p = .conjunction [.not (.compare "cmc" .equal (.integer 3)), .bitsAllSet "color" 1] :=
      rfl
    rw [hboth]
    refine .conjunction fun q hq => ?_
    rcases List.mem_pair.1 hq with rfl | rfl
    · exact hnumber
    · exact hletters
  have hfit : Binding.AllFit [number, letters] white := by
    have hcmc : white.stored? (Json.pathOf "cmc") = none := rfl
    have hcolor : white.stored? (Json.pathOf "color") = some (.ofNat 1) := rfl
    intro b hb c hc j hj
    rcases List.mem_pair.1 hb with rfl | rfl
    · rw [Binding.key, hcmc] at hj
      contradiction
    · rw [Binding.key, hcolor] at hj
      cases hj
      cases hc
      exact ⟨1, by decide, by decide, rfl⟩
  have hcards : ∀ card ∈ memory.cardsOf "magic", Binding.AllFit [number, letters] card := by
    have hmemory : memory.cardsOf "magic" = [white] := rfl
    rw [hmemory]
    intro card hcard
    rwa [List.mem_singleton.1 hcard]
  have htrue : p.toSql.holds white = .ok true := by
    rw [Predicate.holds_toSql (hcompiles.agrees hm hfit)]
    rfl
  obtain ⟨_, -, -, htotal⟩ := stores_find_same hm hcompiles
  obtain ⟨hpages, hanswers, hmemory, htable⟩ := htotal .standard ⟨.standard, []⟩ [("magic", white)]
    "magic" ⟨1, 10, none⟩ rfl hcards (by decide +kernel) (by simp)
  obtain ⟨page, hpage⟩ := hmemory (Or.inr (by simp))
  obtain ⟨answer, hanswer⟩ := (htable (by decide +kernel)).2 (by decide +kernel)
  exact ⟨hm, hcompiles, hfit, htrue, page, answer, hpage, hanswer,
    (hanswers answer hanswer).trans (hpages page hpage).symm⟩

/-- **The limit is met by queries.**  Of 998 tokens that ask for a number the store in memory finds the card,
and a table has no answer, far from the limit of operands. -/
theorem stores_differ_beyond_depth :
    let cmc : Command :=
      ⟨"cmc", "cmc", [], ordering, [.negation], some [.equals], false, [], .number false, none⟩
    let m : Model := ⟨"magic", [cmc], cmc⟩
    let number : Binding := ⟨cmc, none, .text "1", .equals, []⟩
    let p : Predicate := .conjunction (List.replicate 998 (.compare "cmc" .equal (.integer 1)))
    let card := Json.object [("cmc", .ofNat 1)]
    m.Built ∧ m.Compiles [number] p ∧ Binding.AllFit [number] card ∧
      (p.toSql.params "data").length + 3 ≤ mostParams ∧
      (MemoryStore.empty.fill [("magic", card)]).fetch "magic" p ⟨1, 10, none⟩ = .ok ⟨[card], 1⟩ ∧
      ((⟨.standard, []⟩ : TableStore).fill [("magic", card)]).fetch "magic" p ⟨1, 10, none⟩ =
        .error TableStore.countFailed := by
  intro cmc m number p card
  have hm : m.Built := ⟨"magic", "cmc", [CommandDraft.number "cmc"], [cmc], rfl, by
    dsimp only [m, cmc]; rfl⟩
  let q : Predicate := .compare "cmc" .equal (.integer 1)
  have hone : m.Compiles [number] q := by
    refine .token (t := ⟨[], some "cmc", none, some .equals, .text "1"⟩) (a := ⟨number, none, []⟩)
      ?_ ?_ ?_
    · dsimp only [m, cmc, number]
      rfl
    · intro b hb
      obtain rfl := List.mem_singleton.1 hb
      exact ⟨List.mem_cons_self, rfl⟩
    · rfl
  have hcompiles : m.Compiles [number] p := .conjunction fun q' hq => by
    rwa [List.eq_of_mem_replicate hq]
  have hfit : Binding.AllFit [number] card := by
    have hcmc : card.stored? (Json.pathOf "cmc") = some (.ofNat 1) := rfl
    intro b hb c hc j hj
    obtain rfl := List.mem_singleton.1 hb
    rw [Binding.key, hcmc] at hj
    cases hj
    cases hc
    exact ⟨1, by decide, rfl⟩
  have hp : p = .allOf (q :: List.replicate 997 q) := Predicate.conjunction_replicate rfl 996
  have hparams : (p.toSql.params "data").length = 998 := by
    rw [p.params_toSql, hp, Predicate.operands_allOf, List.length_flatMap, ← List.replicate_succ,
      List.map_replicate, List.sum_replicate_nat]
    rfl
  have hheight : mostDepth < statementHeight p.toSql := by
    have hle := q.le_statementHeight_allOf (List.replicate 997 q) (List.cons_ne_nil q _)
    rw [List.length_replicate, ← hp] at hle
    have hthree : q.toSql.height = 3 := rfl
    rw [hthree] at hle
    rw [mostDepth]
    omega
  have htest : p.test? = .ok p.holds := hcompiles.test?_eq hm
  have hmemory : p.holds card = true := by
    rw [hp, Predicate.holds_allOf, List.all_eq_true]
    intro q' hq
    rw [← List.replicate_succ] at hq
    rw [List.eq_of_mem_replicate hq]
    rfl
  refine ⟨hm, hcompiles, hfit, by rw [hparams]; decide, ?_, ?_⟩
  · have hcards : (MemoryStore.empty.fill [("magic", card)]).cardsOf "magic" = [card] := by
      simp [MemoryStore.cardsOf_fill]
    have hhits : [card].filter p.holds = [card] := by
      rw [List.filter_cons_of_pos hmemory, List.filter_nil]
    rw [MemoryStore.fetch_of_test htest, hcards, hhits]
    rfl
  · refine TableStore.fetch_of_count_not_prepared ?_ "magic" _
    rw [Bool.eq_false_iff, Ne, Predicate.canPrepare_iff (hcompiles.isContained_of_mem_keys hm)]
    exact fun h => absurd h.2 (Nat.not_le_of_lt hheight)

end Model

end CardQuery
