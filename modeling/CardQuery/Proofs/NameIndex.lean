/-
**An index of names beside the commands.**

A model finds a command by going through its commands.  With an index beside them, from every name in
lower case to the place of its command, nothing has to be searched.  The index grows name by name and the
list of commands by one command at a time.  What holds the two together is that the index gives the place
of the first command that has a name, and nothing for a name that no command has.

Main definitions:

* `IndexedDraft` — a model under construction with an index of its names;
* `IndexedDraft.add`, `IndexedDraft.addAll`, `IndexedDraft.get?` — taking in commands by the index, and
  looking them up;
* `IndexedDraft.IsFaithful` — the index gives the place of the first command with a name.

Main results:

* `IndexedDraft.IsFaithful.add_eq`, `IndexedDraft.IsFaithful.add` — a command is taken in or refused as it is
  without an index, and the index stays faithful;
* `IndexedDraft.IsFaithful.addAll_eq` — **so are any number of commands**;
* `IndexedDraft.IsFaithful.get?_eq` — **the index finds what a search finds**.
-/

import CardQuery.Proofs.Names

set_option autoImplicit false

namespace CardQuery

open Unicode (loweredText)

/-- A model under construction with an index: every name in lower case with the place of its command. -/
structure IndexedDraft extends ModelDraft where
  index : KeyedList Nat

namespace IndexedDraft

/-- A model without commands. -/
def begin (id : String) (raw : Option String) : IndexedDraft := ⟨.begin id raw, []⟩

/-- The command with a name, by the index. -/
def lookup? (d : IndexedDraft) (lowered : String) : Option Command :=
  (KeyedList.find? d.index lowered).bind fun place => d.commands[place]?

/-- The command with a name, regardless of case. -/
def get? (d : IndexedDraft) (name : String) : Option Command := d.lookup? (loweredText name)

/-- The id of the command that has a name already; `incoming` are the names in lower case that the
new command `id` has shown before. -/
def owner? (d : IndexedDraft) (id : String) (incoming : List String) (lowered : String) :
    Option String :=
  match d.lookup? lowered with
  | some c => some c.id
  | none => if incoming.contains lowered then some id else none

/-- Checks the names of a new command in order, and gives them in lower case. -/
def collect (d : IndexedDraft) (id : String) :
    List String → List String → Except ModelError (List String)
  | incoming, [] => .ok incoming
  | incoming, name :: rest =>
    let lowered := loweredText name
    match d.owner? id incoming lowered with
    | some existing => .error (.duplicateName d.id name existing)
    | none => d.collect id (incoming ++ [lowered]) rest

/-- Writes names into an index, all with the same place. -/
def enter (place : Nat) (index : KeyedList Nat) (names : List String) : KeyedList Nat :=
  names.foldl (fun index name => KeyedList.insert index name place) index

/-- Adds a command, all names of which are new, and enters its names. -/
def add (d : IndexedDraft) (c : Command) : Except ModelError IndexedDraft :=
  (d.collect c.id [] c.names).map fun names =>
    { d with
      commands := d.commands ++ [c]
      index := enter d.commands.length d.index names }

/-- Adds commands in order. -/
def addAll (d : IndexedDraft) (commands : List Command) : Except ModelError IndexedDraft :=
  commands.foldlM add d

/-- The index gives the place of the first command with a name, and only for names of commands. -/
def IsFaithful (d : IndexedDraft) : Prop :=
  ∀ lowered, KeyedList.find? d.index lowered =
    d.commands.findIdx? fun c => c.hasLoweredName lowered

variable {d d' : IndexedDraft} {c : Command}

theorem isFaithful_begin (id : String) (raw : Option String) : (begin id raw).IsFaithful :=
  fun _ => rfl

/-! ### One command -/

/-- A faithful index finds what a search finds. -/
theorem IsFaithful.lookup?_eq (h : d.IsFaithful) (lowered : String) :
    d.lookup? lowered = d.commands.find? fun c => c.hasLoweredName lowered := by
  rw [lookup?, h lowered, List.find?_eq_bind_findIdx?_getElem?]

theorem IsFaithful.owner?_eq (h : d.IsFaithful) (id : String) (incoming : List String)
    (lowered : String) : d.owner? id incoming lowered = d.toModelDraft.owner? id incoming lowered := by
  rewrite [owner?, ModelDraft.owner?, h.lookup?_eq]
  rfl

/-- The same names pass, and those that pass are given in lower case. -/
theorem IsFaithful.collect_eq (h : d.IsFaithful) (id : String) (incoming names : List String) :
    d.collect id incoming names =
      (d.toModelDraft.checkNames id incoming names).map fun _ =>
        incoming ++ names.map loweredText := by
  induction names generalizing incoming with
  | nil =>
      rw [List.map_nil, List.append_nil]
      rfl
  | cons name names ih =>
      simp only [collect, ModelDraft.checkNames, h.owner?_eq]
      cases d.toModelDraft.owner? id incoming (loweredText name) with
      | some existing => rfl
      | none =>
          simp only
          rw [ih, List.append_assoc, List.singleton_append, List.map_cons]

/-- **A command is taken in or refused** as it is without an index. -/
theorem IsFaithful.add_eq (h : d.IsFaithful) (c : Command) :
    (d.add c).map toModelDraft = d.toModelDraft.add c := by
  rw [add, ModelDraft.add, h.collect_eq]
  cases d.toModelDraft.checkNames c.id [] c.names with
  | error e => rfl
  | ok _ => rfl

/-- The names that are entered have the new place, and all others the place that they had. -/
theorem find?_enter (place : Nat) (index : KeyedList Nat) (names : List String) (name : String) :
    KeyedList.find? (enter place index names) name =
      if name ∈ names then some place else KeyedList.find? index name := by
  induction names generalizing index with
  | nil => rw [if_neg List.not_mem_nil, enter, List.foldl_nil]
  | cons first names ih =>
      have hstep : enter place index (first :: names) =
          enter place (KeyedList.insert index first place) names := rfl
      rw [hstep, ih, KeyedList.find?_insert]
      by_cases hmem : name ∈ names
      · rw [if_pos hmem, if_pos (List.mem_cons_of_mem _ hmem)]
      · by_cases heq : first = name
        · rw [if_neg hmem, if_pos heq, if_pos (heq ▸ List.mem_cons_self)]
        · have hnot : name ∉ first :: names := by
            intro h
            rcases List.mem_cons.1 h with hfirst | hrest
            · exact heq hfirst.symm
            · exact hmem hrest
          rw [if_neg hmem, if_neg heq, if_neg hnot]

/-- What a command that is taken in does: its names are new, and they are entered with its place. -/
theorem IsFaithful.add_eq_ok (h : d.IsFaithful) (hadd : d.add c = .ok d') :
    (∀ name ∈ c.loweredNames, name ∉ d.commands.flatMap Command.loweredNames) ∧
      d' = { d with
        commands := d.commands ++ [c]
        index := enter d.commands.length d.index c.loweredNames } := by
  rw [add, h.collect_eq] at hadd
  obtain ⟨names, hnames, rfl⟩ := map_eq_ok_iff.1 hadd
  obtain ⟨⟨⟩, hcheck, rfl⟩ := map_eq_ok_iff.1 hnames
  have hnew := (ModelDraft.checkNames_eq_ok_iff.1 hcheck).2
  exact ⟨fun name hname => (hnew name hname).2, rfl⟩

/-- The index stays faithful. -/
theorem IsFaithful.add (h : d.IsFaithful) (hadd : d.add c = .ok d') : d'.IsFaithful := by
  obtain ⟨hnew, rfl⟩ := h.add_eq_ok hadd
  intro lowered
  show KeyedList.find? (enter d.commands.length d.index c.loweredNames) lowered =
    (d.commands ++ [c]).findIdx? fun c => c.hasLoweredName lowered
  rw [find?_enter, List.findIdx?_append, List.findIdx?_cons, List.findIdx?_nil]
  by_cases hmem : lowered ∈ c.loweredNames
  -- the name is new, so that no command before has it
  · have hnone : (d.commands.findIdx? fun c => c.hasLoweredName lowered) = none := by
      rw [List.findIdx?_eq_none_iff]
      intro c' hc'
      rw [Bool.eq_false_iff, Ne, Command.hasLoweredName_iff]
      intro hname
      exact hnew lowered hmem (List.mem_flatMap.2 ⟨c', hc', hname⟩)
    rw [if_pos hmem, hnone, if_pos (Command.hasLoweredName_iff.2 hmem), Option.none_or,
      Option.map_some, Nat.zero_add]
  · rw [if_neg hmem, if_neg (mt Command.hasLoweredName_iff.1 hmem), Option.map_none,
      Option.map_none, Option.or_none, h lowered]

/-! ### Any number of commands -/

/-- **Commands are taken in or refused** as they are without an index, which is faithful in the end. -/
theorem IsFaithful.addAll_eq (h : d.IsFaithful) (commands : List Command) :
    (d.addAll commands).map toModelDraft = d.toModelDraft.addAll commands ∧
      ∀ d', d.addAll commands = .ok d' → d'.IsFaithful := by
  induction commands generalizing d with
  | nil =>
      refine ⟨rfl, ?_⟩
      intro d' hd'
      cases hd'
      exact h
  | cons c commands ih =>
      have hstep := h.add_eq c
      rw [addAll, ModelDraft.addAll, List.foldlM_cons, List.foldlM_cons, ← hstep]
      cases hadd : d.add c with
      | error e =>
          refine ⟨rfl, ?_⟩
          intro d' hd'
          cases hd'
      | ok d₁ => exact ih (h.add hadd)

/-- **The index finds what a search finds**, also in a finished model. -/
theorem IsFaithful.get?_eq (h : d.IsFaithful) {m : Model} (hm : d.toModelDraft.build = .ok m)
    (name : String) : d.get? name = m.get? name := by
  rw [get?, h.lookup?_eq, Model.get?, (ModelDraft.commands_build hm).1]

end IndexedDraft

end CardQuery
