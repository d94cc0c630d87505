/-
**Looking up commands by their names.**

However many commands a model has taken in, and in whatever order, a name leads to one command at most.
A command is refused when two of its own names are equal up to case, or when one of them is a name of a
command before it.  So what is found by a name is the only command that has it, and to ask for an id and
to ask for a name is the same.

Main results:

* `ModelDraft.exists_addAll_iff` — when commands are taken in;
* `ModelDraft.refuses_add_iff` — **when the next command is refused**;
* `DistinctNames.get?_eq_some_iff` — what is found by a name;
* `ModelDraft.name_lookup` — **a name is a function to commands**, also by an index.
-/

import CardQuery.Proofs.NameIndex
import Mathlib.Data.List.Nodup

set_option autoImplicit false

namespace CardQuery

open Unicode (loweredText)

/-! ### Taking in commands -/

namespace ModelDraft

variable {d d' : ModelDraft} {c : Command} {commands : List Command}

theorem commands_add (h : d.add c = .ok d') : d'.commands = d.commands ++ [c] := by
  obtain ⟨-, -, rfl⟩ := map_eq_ok_iff.1 h
  rfl

/-- Commands are taken in exactly when all names stay distinct. -/
theorem exists_addAll_iff (h : DistinctNames d.commands) :
    (∃ d', d.addAll commands = .ok d') ↔ DistinctNames (d.commands ++ commands) := by
  induction commands generalizing d with
  | nil =>
      rw [List.append_nil]
      exact iff_of_true ⟨d, rfl⟩ h
  | cons c commands ih =>
      have hsplit : d.commands ++ c :: commands = d.commands ++ [c] ++ commands := by simp
      rw [hsplit]
      constructor
      · rintro ⟨d', hd'⟩
        obtain ⟨d₁, hfirst, hrest⟩ := bind_eq_ok_iff.1 hd'
        rw [← commands_add hfirst]
        exact (ih (distinctNames_add h hfirst)).1 ⟨d', hrest⟩
      · intro hall
        have hone : DistinctNames (d.commands ++ [c]) := by
          rw [DistinctNames, List.flatMap_append] at hall
          exact (List.nodup_append.1 hall).1
        obtain ⟨d₁, hfirst⟩ := (exists_add_iff h).2 hone
        rw [← commands_add hfirst] at hall
        obtain ⟨d', hrest⟩ := (ih (distinctNames_add h hfirst)).2 hall
        exact ⟨d', bind_eq_ok_iff.2 ⟨d₁, hfirst, hrest⟩⟩

/-- **The next command is refused** when two of its names are equal up to case, or when one is taken. -/
theorem refuses_add_iff :
    (∃ e, d.add c = .error e) ↔
      ¬c.loweredNames.Nodup ∨
        ∃ name ∈ c.loweredNames, ∃ c' ∈ d.commands, name ∈ c'.loweredNames := by
  have hfails : (∃ e, d.add c = .error e) ↔ ¬d.checkNames c.id [] c.names = .ok () := by
    rw [add]
    cases d.checkNames c.id [] c.names with
    | error e => exact iff_of_true ⟨e, rfl⟩ (by simp)
    | ok u => exact iff_of_false (by simp [Except.map]) (by simp)
  have htaken (name : String) : name ∈ d.commands.flatMap Command.loweredNames ↔
      ∃ c' ∈ d.commands, name ∈ c'.loweredNames := List.mem_flatMap
  rw [hfails, checkNames_eq_ok_iff, ← Command.loweredNames, Classical.not_and_iff_not_or_not]
  refine or_congr_right ?_
  simp only [htaken, List.not_mem_nil, not_false_eq_true, true_and, not_forall, not_not, exists_prop]

end ModelDraft

/-! ### Looking them up -/

namespace DistinctNames

variable {commands : List Command}

/-- What is found by a name is a command with that name, and there is no other. -/
theorem find?_eq_some_iff (h : DistinctNames commands) {name : String} {c : Command} :
    (commands.find? fun c => c.hasLoweredName name) = some c ↔
      c ∈ commands ∧ name ∈ c.loweredNames := by
  constructor
  · intro hfind
    have hname := List.find?_some (p := fun c : Command => c.hasLoweredName name) hfind
    exact ⟨List.mem_of_find?_eq_some hfind, Command.hasLoweredName_iff.1 hname⟩
  · rintro ⟨hc, hname⟩
    rw [← List.head?_filter, h.filter_eq hc hname]
    rfl

/-- No two commands have a name in common. -/
theorem pairwise_disjoint (h : DistinctNames commands) :
    commands.Pairwise fun c c' => c.loweredNames.Disjoint c'.loweredNames :=
  (List.nodup_flatMap.1 h).2

end DistinctNames

/-- **A name is a function to commands.** -/
theorem ModelDraft.name_lookup (id : String) (raw : Option String) (commands : List Command) :
    -- commands are taken in, with an index or without, when all their names are distinct
    ((∃ d, (begin id raw).addAll commands = .ok d) ↔ DistinctNames commands) ∧
    ((IndexedDraft.begin id raw).addAll commands).map IndexedDraft.toModelDraft =
      (begin id raw).addAll commands ∧
    ∀ d, (begin id raw).addAll commands = .ok d →
      -- the next one is refused for a name that it has twice, or that is taken
      (∀ c, (∃ e, d.add c = .error e) ↔
        ¬c.loweredNames.Nodup ∨
          ∃ name ∈ c.loweredNames, ∃ c' ∈ commands, name ∈ c'.loweredNames) ∧
      ∀ m, d.build = .ok m →
        m.commands = commands ∧
        -- a name leads to the one command that has it up to case
        (∀ name c, m.get? name = some c ↔ c ∈ commands ∧ loweredText name ∈ c.loweredNames) ∧
        (∀ name, m.get? name = none ↔ ∀ c ∈ commands, loweredText name ∉ c.loweredNames) ∧
        (∀ ix, (IndexedDraft.begin id raw).addAll commands = .ok ix →
          ∀ name, ix.get? name = m.get? name) ∧
        -- and so does an id, as it is
        (∀ c ∈ commands, m.command? c.id = some c ∧ m.get? c.id = some c) ∧
        commands.Pairwise fun c c' => c.loweredNames.Disjoint c'.loweredNames := by
  have hfaithful := IndexedDraft.isFaithful_begin id raw
  have hempty : DistinctNames (begin id raw).commands := List.nodup_nil
  refine ⟨exists_addAll_iff hempty, (hfaithful.addAll_eq commands).1, ?_⟩
  intro d hd
  have hcommands : d.commands = commands := commands_addAll hd
  have hdistinct : DistinctNames commands := hcommands ▸ distinctNames_addAll hempty hd
  refine ⟨fun c => by rw [refuses_add_iff, hcommands], ?_⟩
  intro m hm
  have hsame : m.commands = commands := (commands_build hm).1.trans hcommands
  have hget (name : String) (c : Command) :
      m.get? name = some c ↔ c ∈ commands ∧ loweredText name ∈ c.loweredNames := by
    rw [Model.get?, hsame]
    exact hdistinct.find?_eq_some_iff
  refine ⟨hsame, hget, ?_, ?_, ?_, hdistinct.pairwise_disjoint⟩
  · intro name
    rw [Option.eq_none_iff_forall_ne_some]
    simp only [Ne, hget, not_and]
  · intro ix hix name
    have heq : ix.toModelDraft = d := by
      have hall := (hfaithful.addAll_eq commands).1
      rw [hix] at hall
      exact Except.ok.inj (hall.trans hd)
    exact ((hfaithful.addAll_eq commands).2 ix hix).get?_eq (heq ▸ hm) name
  · intro c hc
    refine ⟨?_, (hget c.id c).2 ⟨hc, c.lowered_id_mem⟩⟩
    rw [Model.command?, hsame]
    exact hdistinct.find?_id hc

/-- A name with an accent is found in capitals, and a short form cannot be given away again. -/
theorem ModelDraft.name_lookup_accent :
    let name : Command := ⟨"Name", "name", ["éclat"], [.has], [], none, false, [], .text, none⟩
    let color : Command := ⟨"color", "color", ["c"], [.has], [], none, false, [], .text, none⟩
    let cost : Command := ⟨"cost", "cost", ["C"], [.has], [], none, false, [], .text, none⟩
    let d : ModelDraft := ⟨"cards", some "Name", [name, color]⟩
    let m : Model := ⟨"cards", [name, color], name⟩
    (begin "cards" (some "Name")).addAll [name, color] = .ok d ∧ d.build = .ok m ∧
      (∃ e, d.add cost = .error e) ∧ m.get? "ÉCLAT" = some name ∧ m.get? "cost" = none := by
  intro name color cost d m
  have hd : (begin "cards" (some "Name")).addAll [name, color] = .ok d := by
    dsimp only [d, name, color]
    rfl
  have hm : d.build = .ok m := rfl
  obtain ⟨hrefused, hmodel⟩ := (name_lookup "cards" (some "Name") [name, color]).2.2 d hd
  obtain ⟨-, hget, hnone, -⟩ := hmodel m hm
  have hshort : loweredText "C" = loweredText "c" := by decide +kernel
  refine ⟨hd, hm, (hrefused cost).2 (.inr ?_), (hget _ name).2 ⟨List.mem_cons_self, ?_⟩, ?_⟩
  · have hcost : loweredText "C" ∈ cost.loweredNames := List.mem_cons_of_mem _ List.mem_cons_self
    have hcolor : loweredText "c" ∈ color.loweredNames := List.mem_cons_of_mem _ List.mem_cons_self
    exact ⟨_, hcost, color, List.mem_cons_of_mem _ List.mem_cons_self, hshort ▸ hcolor⟩
  · have haccent : loweredText "ÉCLAT" = loweredText "éclat" := by decide +kernel
    rw [haccent]
    exact List.mem_cons_of_mem _ List.mem_cons_self
  · refine (hnone _).2 ?_
    simp only [List.forall_mem_cons, List.not_mem_nil, false_implies, implies_true, and_true]
    exact ⟨by decide +kernel, by decide +kernel⟩

end CardQuery
