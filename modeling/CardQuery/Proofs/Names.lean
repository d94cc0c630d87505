/-
**The names of commands.**

A model takes in commands one after another, and refuses one that has a name which is taken up to case,
by a command before it or by another name of its own.  So every name belongs to one command only, and
what is looked up by its name or by its id is the only command that there is.

Main definitions:

* `Command.loweredNames` — the names of a command in lower case;
* `DistinctNames` — no two names of some commands are equal up to case.

Main results:

* `ModelDraft.exists_add_iff` — **when a command is taken in**;
* `ModelDraft.distinctNames_addAll` — the commands of a draft have distinct names;
* `DistinctNames.filter_eq` — **the one command that has a name**;
* `DistinctNames.find?_id` — the one command that has an id.
-/

import CardQuery.Proofs.Model
import Mathlib.Data.List.Basic

set_option autoImplicit false

namespace CardQuery

open Unicode (loweredText)

/-- The names of a command in lower case. -/
def Command.loweredNames (c : Command) : List String := c.names.map loweredText

/-- No two names of the commands are equal up to case, also not two names of one of them. -/
def DistinctNames (commands : List Command) : Prop :=
  (commands.flatMap Command.loweredNames).Nodup

theorem Command.hasLoweredName_iff {c : Command} {name : String} :
    c.hasLoweredName name = true ↔ name ∈ c.loweredNames := by
  simp only [hasLoweredName, loweredNames, List.any_eq_true, beq_iff_eq, List.mem_map]

theorem Command.lowered_id_mem (c : Command) : loweredText c.id ∈ c.loweredNames :=
  List.mem_map_of_mem List.mem_cons_self

/-- The first command of a model is found by its id. -/
theorem Model.get?_first {m : Model} {c : Command} {commands : List Command}
    (h : m.commands = c :: commands) : m.get? c.id = some c := by
  rw [Model.get?, h]
  exact List.find?_cons_of_pos (Command.hasLoweredName_iff.2 c.lowered_id_mem)

/-! ### Taking in commands -/

namespace ModelDraft

variable {d d' : ModelDraft} {c : Command} {commands : List Command}

/-- A name is free when no command has it and it has not been shown before. -/
theorem owner?_eq_none_iff {id name : String} {incoming : List String} :
    d.owner? id incoming name = none ↔
      name ∉ incoming ∧ name ∉ d.commands.flatMap Command.loweredNames := by
  have hfind : (d.commands.find? fun c => c.hasLoweredName name) = none ↔
      name ∉ d.commands.flatMap Command.loweredNames := by
    rw [List.find?_eq_none, List.mem_flatMap]
    simp only [Command.hasLoweredName_iff, not_exists, not_and]
  rw [← hfind, owner?]
  cases d.commands.find? fun c => c.hasLoweredName name with
  | none => simp
  | some c => simp

/-- The names of a command pass when they are new and distinct. -/
theorem checkNames_eq_ok_iff {id : String} {incoming names : List String} :
    d.checkNames id incoming names = .ok () ↔
      (names.map loweredText).Nodup ∧ ∀ name ∈ names.map loweredText,
        name ∉ incoming ∧ name ∉ d.commands.flatMap Command.loweredNames := by
  induction names generalizing incoming with
  | nil => simp [checkNames]
  | cons name names ih =>
      have howner : d.owner? id incoming (loweredText name) = none ↔ _ := owner?_eq_none_iff
      rw [checkNames, List.map_cons, List.nodup_cons, List.forall_mem_cons]
      cases hfree : d.owner? id incoming (loweredText name) with
      | some existing =>
          have htaken := mt howner.2 (by simp [hfree])
          simp only [reduceCtorEq, false_iff]
          exact fun h => htaken h.2.1
      | none =>
          have hnew := howner.1 hfree
          rw [ih]
          simp only [List.mem_append, List.mem_singleton, not_or]
          constructor
          · rintro ⟨hnodup, hall⟩
            refine ⟨⟨fun hmem => (hall _ hmem).1.2 rfl, hnodup⟩, hnew, fun n hn => ?_⟩
            exact ⟨(hall n hn).1.1, (hall n hn).2⟩
          · rintro ⟨⟨hname, hnodup⟩, -, hall⟩
            refine ⟨hnodup, fun n hn => ⟨⟨(hall n hn).1, ?_⟩, (hall n hn).2⟩⟩
            rintro rfl
            exact hname hn

/-- **A command is taken in** exactly when the names stay distinct. -/
theorem exists_add_iff (h : DistinctNames d.commands) :
    (∃ d', d.add c = .ok d') ↔ DistinctNames (d.commands ++ [c]) := by
  have hadd : (∃ d', d.add c = .ok d') ↔ d.checkNames c.id [] c.names = .ok () := by
    constructor
    · rintro ⟨d', hd'⟩
      obtain ⟨⟨⟩, hcheck, -⟩ := map_eq_ok_iff.1 hd'
      exact hcheck
    · intro hcheck
      exact ⟨_, map_eq_ok_iff.2 ⟨(), hcheck, rfl⟩⟩
  rw [hadd, checkNames_eq_ok_iff, DistinctNames, List.flatMap_append, List.flatMap_singleton,
    List.nodup_append]
  constructor
  · rintro ⟨hnodup, hall⟩
    refine ⟨h, hnodup, fun n hn n' hn' heq => ?_⟩
    exact (hall n' hn').2 (heq ▸ hn)
  · rintro ⟨-, hnodup, hdisjoint⟩
    exact ⟨hnodup, fun n hn => ⟨List.not_mem_nil, fun hn' => hdisjoint n hn' n hn rfl⟩⟩

theorem distinctNames_add (h : DistinctNames d.commands) (hadd : d.add c = .ok d') :
    DistinctNames d'.commands := by
  have hdistinct := (exists_add_iff h).1 ⟨d', hadd⟩
  obtain ⟨-, -, rfl⟩ := map_eq_ok_iff.1 hadd
  exact hdistinct

/-- The commands of a draft have distinct names, however many have been taken in. -/
theorem distinctNames_addAll (h : DistinctNames d.commands) (hadd : d.addAll commands = .ok d') :
    DistinctNames d'.commands := by
  induction commands generalizing d with
  | nil =>
      cases hadd
      exact h
  | cons c commands ih =>
      obtain ⟨d₁, hfirst, hrest⟩ := bind_eq_ok_iff.1 hadd
      exact ih (distinctNames_add h hfirst) hrest

end ModelDraft

/-! ### Looking up commands -/

namespace DistinctNames

variable {commands : List Command} {c c' : Command}

/-- **The one command that has a name.** -/
theorem filter_eq (h : DistinctNames commands) (hc : c ∈ commands) {name : String}
    (hname : name ∈ c.loweredNames) :
    (commands.filter fun c => c.hasLoweredName name) = [c] := by
  induction commands with
  | nil => contradiction
  | cons first rest ih =>
      rw [DistinctNames, List.flatMap_cons, List.nodup_append] at h
      obtain ⟨-, hrest, hdisjoint⟩ := h
      rw [List.filter_cons]
      rcases List.mem_cons.1 hc with rfl | hc
      · have hnone : (rest.filter fun c => c.hasLoweredName name) = [] := by
          rw [List.filter_eq_nil_iff]
          intro other hother hmem
          exact hdisjoint name hname name
            (List.mem_flatMap.2 ⟨other, hother, Command.hasLoweredName_iff.1 hmem⟩) rfl
        rw [if_pos (Command.hasLoweredName_iff.2 hname), hnone]
      · have hfirst : name ∉ first.loweredNames := fun hmem =>
          hdisjoint name hmem name (List.mem_flatMap.2 ⟨c, hc, hname⟩) rfl
        rw [if_neg (mt Command.hasLoweredName_iff.1 hfirst)]
        exact ih hrest hc

/-- Two commands with a common name are the same. -/
theorem eq_of_mem (h : DistinctNames commands) (hc : c ∈ commands) (hc' : c' ∈ commands)
    {name : String} (hname : name ∈ c.loweredNames) (hname' : name ∈ c'.loweredNames) : c' = c := by
  have hmem : c' ∈ commands.filter fun c => c.hasLoweredName name :=
    List.mem_filter.2 ⟨hc', Command.hasLoweredName_iff.2 hname'⟩
  rw [h.filter_eq hc hname] at hmem
  exact List.mem_singleton.1 hmem

/-- The one command that has an id. -/
theorem find?_id (h : DistinctNames commands) (hc : c ∈ commands) :
    (commands.find? fun c' => c'.id == c.id) = some c := by
  cases hfind : commands.find? fun c' => c'.id == c.id with
  | none =>
      have hnone := List.find?_eq_none.1 hfind c hc
      simp at hnone
  | some c' =>
      have hid : c'.id = c.id := by simpa using List.find?_some hfind
      rw [h.eq_of_mem hc (List.mem_of_find?_eq_some hfind) c.lowered_id_mem
        (hid ▸ c'.lowered_id_mem)]

end DistinctNames

/-- The commands of a model have distinct names. -/
theorem Model.distinctNames_ofCommands {id raw : String} {commands : List Command} {m : Model}
    (h : Model.ofCommands id raw commands = .ok m) : DistinctNames m.commands := by
  obtain ⟨d, hadd, hbuild⟩ := bind_eq_ok_iff.1 h
  have hempty : DistinctNames (ModelDraft.begin id (some raw)).commands := List.nodup_nil
  rw [(ModelDraft.commands_build hbuild).1]
  exact ModelDraft.distinctNames_addAll hempty hadd

end CardQuery
