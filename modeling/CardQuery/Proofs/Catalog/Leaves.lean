/-
**Every value of a settings document has its own message.**

The messages of a document are collected along the paths of its tables, and a path is written with dots between
its names.  Names that are not empty and have no dots of their own can be read off such a key again, so that no
two values meet in one key, and none is replaced by another on the way into the catalog.  Of two catalogs laid
over one another the upper one counts, key by key.

Main definitions:

* `Toml.Value.IsLeaf` — a path of names leads to a value that is no table;
* `Toml.Value.PlainNames` — no name of a table is empty or has a dot;
* `Toml.Value.messageText`, `dottedKey` — a value as a message, and a path as a key;
* `Catalog.Files` — a catalog has the messages of a value, and no others.

Main results:

* `pathOf_dottedKey` — **the path of a key is read off the key**;
* `messagesOf_eq` — the messages that are collected are those of the leaves;
* `Catalog.files_ofTable` — **the catalog of a table has one message for each leaf**;
* `Catalog.flattening_lossless` — **flattening loses nothing, and overlays count first**.
-/

import CardQuery.Catalog.Basic
import CardQuery.Json.Basic
import CardQuery.Proofs.Toml.Names
import Mathlib.Data.Finset.Dedup
import Mathlib.Data.Set.Card

set_option autoImplicit false

namespace CardQuery

open Toml (Value)

/-! ### Keys -/

/-- A path as a key: its names with dots between them. -/
def dottedKey (path : List String) : String := String.intercalate "." path

theorem splitDots_of_no_dot {s : List Char} (h : '.' ∉ s) : Json.splitDots s = [s] := by
  induction s with
  | nil => rfl
  | cons c s ih =>
      rw [List.mem_cons, not_or] at h
      rw [Json.splitDots, if_neg (Ne.symm h.1), ih h.2]

theorem splitDots_append_dot {s : List Char} (h : '.' ∉ s) (rest : List Char) :
    Json.splitDots (s ++ '.' :: rest) = s :: Json.splitDots rest := by
  induction s with
  | nil => rfl
  | cons c s ih =>
      rw [List.mem_cons, not_or] at h
      rw [List.cons_append, Json.splitDots, if_neg (Ne.symm h.1), ih h.2]

/-- **The path of a key is read off the key**, if no name of the path has a dot. -/
theorem pathOf_dottedKey {path : List String} (hne : path ≠ []) (hpath : ∀ name ∈ path, '.' ∉ name.toList) :
    Json.pathOf (dottedKey path) = path := by
  induction path with
  | nil => contradiction
  | cons name path ih =>
      rw [List.forall_mem_cons] at hpath
      cases path with
      | nil =>
          rw [dottedKey, String.intercalate_singleton, Json.pathOf, splitDots_of_no_dot hpath.1,
            List.map_singleton, String.ofList_toList]
      | cons next path =>
          have hrest := ih (List.cons_ne_nil _ _) hpath.2
          have hkey : (dottedKey (name :: next :: path)).toList =
              name.toList ++ '.' :: (dottedKey (next :: path)).toList := by
            rw [dottedKey, String.intercalate_cons_cons, String.toList_append, String.toList_append,
              List.append_assoc]
            rfl
          rw [Json.pathOf, hkey, splitDots_append_dot hpath.1, List.map_cons, String.ofList_toList]
          exact congrArg (name :: ·) hrest

theorem dottedKey_ne_empty {path : List String} (hne : path ≠ []) (hpath : ∀ name ∈ path, name ≠ "") :
    dottedKey path ≠ "" := by
  obtain ⟨name, path, rfl⟩ := List.exists_cons_of_ne_nil hne
  have hname := hpath name List.mem_cons_self
  cases path with
  | nil => rwa [dottedKey, String.intercalate_singleton]
  | cons next path =>
      rw [dottedKey, String.intercalate_cons_cons, Ne, String.append_eq_empty_iff, String.append_eq_empty_iff]
      exact fun h => hname h.1.1

/-- A name behind a path is joined to its key by a dot, or stands alone when there is no path. -/
theorem joinPath_dottedKey {path : List String} (hpath : ∀ name ∈ path, name ≠ "") (name : String) :
    joinPath (dottedKey path) name = dottedKey (path ++ [name]) := by
  rw [joinPath]
  rcases eq_or_ne path [] with rfl | hne
  · have hkey : (dottedKey []).isEmpty = true := rfl
    rw [if_pos hkey, List.nil_append, dottedKey, String.intercalate_singleton]
  · have hkey : ¬(dottedKey path).isEmpty = true :=
      fun hempty => dottedKey_ne_empty hne hpath (String.isEmpty_iff.1 hempty)
    rw [if_neg hkey, dottedKey, dottedKey, String.intercalate_append_of_ne_nil hne (List.cons_ne_nil _ _),
      String.intercalate_singleton]

/-! ### Leaves -/

namespace Toml.Value

/-- The path of names leads to a value that is no table. -/
def IsLeaf (v : Value) (path : List String) (leaf : Value) : Prop :=
  v.Leads path leaf ∧ leaf.asTable? = none

/-- The names of the tables of a value are not empty and have no dots. -/
def PlainNames (v : Value) : Prop :=
  v.Throughout fun names => ∀ name ∈ names, name ≠ "" ∧ '.' ∉ name.toList

/-- A value as a message: a text as it is, and the text of any other value. -/
def messageText : Value → String
  | .text s => s
  | v => v.render

mutual

/-- The leaves of a value, each with the path to it. -/
def leaves : Value → List (List String × Value)
  | .table fields => leavesOfFields fields
  | v => [([], v)]

/-- The leaves of the fields of a table. -/
def leavesOfFields : List (String × Value) → List (List String × Value)
  | [] => []
  | (key, value) :: rest => (value.leaves.map fun leaf => (key :: leaf.1, leaf.2)) ++ leavesOfFields rest

end

mutual

/-- What is true of values that are no tables, and of a table if it is true of its values, is true of every
value. -/
@[elab_as_elim]
theorem induction {P : Value → Prop} (leaf : ∀ v, v.asTable? = none → P v)
    (table : ∀ fields, (∀ e ∈ fields, P e.2) → P (.table fields)) (v : Value) : P v := by
  cases v with
  | table fields => exact table fields (induction_fields leaf table fields)
  | _ => exact leaf _ rfl

theorem induction_fields {P : Value → Prop} (leaf : ∀ v, v.asTable? = none → P v)
    (table : ∀ fields, (∀ e ∈ fields, P e.2) → P (.table fields)) (fields : List (String × Value)) :
    ∀ e ∈ fields, P e.2 := by
  cases fields with
  | nil => exact List.forall_mem_nil _
  | cons e fields =>
      rw [List.forall_mem_cons]
      exact ⟨induction leaf table e.2, induction_fields leaf table fields⟩

end

theorem leaves_of_no_table {v : Value} (h : v.asTable? = none) : v.leaves = [([], v)] := by
  cases v with
  | table => contradiction
  | _ =>
      rw [leaves]
      nofun

theorem leaves_table (fields : List (String × Value)) :
    (table fields).leaves = fields.flatMap fun e => e.2.leaves.map fun leaf => (e.1 :: leaf.1, leaf.2) := by
  rw [leaves]
  induction fields with
  | nil => rw [leavesOfFields, List.flatMap_nil]
  | cons e fields ih => rw [leavesOfFields, ih, List.flatMap_cons]

theorem mem_leaves_iff {v : Value} {path : List String} {leaf : Value} :
    (path, leaf) ∈ v.leaves ↔ v.IsLeaf path leaf := by
  induction v using Value.induction generalizing path with
  | leaf v hv =>
      rw [leaves_of_no_table hv, List.mem_singleton, Prod.mk.injEq]
      constructor
      · rintro ⟨rfl, rfl⟩
        exact ⟨.here _, hv⟩
      · rintro ⟨hleads, -⟩
        cases hleads with
        | here => exact ⟨rfl, rfl⟩
        | inside => contradiction
  | table fields ih =>
      simp only [leaves_table, List.mem_flatMap, List.mem_map, Prod.mk.injEq]
      constructor
      · rintro ⟨⟨key, value⟩, he, ⟨rest, _⟩, hleaf, rfl, rfl⟩
        have hinside := (ih _ he).1 hleaf
        exact ⟨.inside he hinside.1, hinside.2⟩
      · rintro ⟨hleads, hnone⟩
        cases hleads with
        | here => contradiction
        | inside hmem hleads => exact ⟨_, hmem, _, (ih _ hmem).2 ⟨hleads, hnone⟩, rfl, rfl⟩

/-- The paths to the leaves are different when no table has a name twice. -/
theorem nodup_paths {v : Value} (h : v.Distinct) : (v.leaves.map (·.1)).Nodup := by
  induction v using Value.induction with
  | leaf v hv =>
      rw [leaves_of_no_table hv]
      exact List.nodup_singleton _
  | table fields ih =>
      obtain ⟨hnodup, hinside⟩ := distinct_table_iff.1 h
      rw [leaves_table, List.map_flatMap, List.nodup_flatMap]
      refine ⟨fun e he => ?_, ?_⟩
      · have hcons := (ih e he (hinside e he)).map (List.cons_injective (a := e.1))
        rwa [List.map_map] at hcons ⊢
      · refine (List.pairwise_map.1 hnodup).imp fun {e e'} hne path hpath hpath' => ?_
        simp only [List.map_map, List.mem_map, Function.comp_apply] at hpath hpath'
        obtain ⟨_, -, rfl⟩ := hpath
        obtain ⟨_, -, heq⟩ := hpath'
        exact hne (List.cons.inj heq).1.symm

theorem plainNames_table_iff {fields : List (String × Value)} :
    (table fields).PlainNames ↔
      (∀ e ∈ fields, e.1 ≠ "" ∧ '.' ∉ e.1.toList) ∧ ∀ e ∈ fields, e.2.PlainNames := by
  rw [PlainNames, throughout_table_iff, KeyedList.keys, List.forall_mem_map]
  rfl

/-- The names on a path are names of tables. -/
theorem PlainNames.of_leads {v leaf : Value} {path : List String} (h : v.PlainNames) (hleads : v.Leads path leaf) :
    ∀ name ∈ path, name ≠ "" ∧ '.' ∉ name.toList := by
  induction hleads with
  | here => exact List.forall_mem_nil _
  | inside hmem hleads ih =>
      obtain ⟨hnames, hinside⟩ := plainNames_table_iff.1 h
      rw [List.forall_mem_cons]
      exact ⟨hnames _ hmem, ih (hinside _ hmem)⟩

end Toml.Value

/-! ### Messages -/

theorem messagesOf_of_no_table {v : Value} (h : v.asTable? = none) (path : String) :
    messagesOf path v = [(path, v.messageText)] := by
  cases v with
  | table => contradiction
  | text s => rw [messagesOf, Value.messageText]
  | _ =>
      rw [messagesOf, Value.messageText]
      nofun

theorem messagesOfFields_eq (path : String) (fields : List (String × Value)) :
    messagesOfFields path fields = fields.flatMap fun e => messagesOf (joinPath path e.1) e.2 := by
  induction fields with
  | nil => rw [messagesOfFields, List.flatMap_nil]
  | cons e fields ih => rw [messagesOfFields, ih, List.flatMap_cons]

/-- **The messages that are collected** below a path are those of the leaves. -/
theorem messagesOf_eq {v : Value} (hv : v.PlainNames) {path : List String} (hpath : ∀ name ∈ path, name ≠ "") :
    messagesOf (dottedKey path) v =
      v.leaves.map fun leaf => (dottedKey (path ++ leaf.1), leaf.2.messageText) := by
  induction v using Value.induction generalizing path with
  | leaf v hnone =>
      rw [messagesOf_of_no_table hnone, Value.leaves_of_no_table hnone, List.map_singleton, List.append_nil]
  | table fields ih =>
      obtain ⟨hnames, hinside⟩ := Value.plainNames_table_iff.1 hv
      rw [messagesOf, messagesOfFields_eq, Value.leaves_table, List.map_flatMap]
      refine List.flatMap_congr fun e he => ?_
      have hlonger : ∀ name ∈ path ++ [e.1], name ≠ "" := by
        rw [List.forall_mem_append, List.forall_mem_singleton]
        exact ⟨hpath, (hnames e he).1⟩
      rw [joinPath_dottedKey hpath, ih e he (hinside e he) hlonger, List.map_map]
      refine List.map_congr_left fun leaf _ => ?_
      rw [Function.comp_apply, List.append_assoc, List.singleton_append]

namespace Catalog

/-- The catalog has one message for each leaf of a value, under the key of the path to it, and no others. -/
structure Files (c : Catalog) (v : Value) : Prop where
  /-- No two leaves have the same key. -/
  apart : ∀ path leaf path' leaf', v.IsLeaf path leaf → v.IsLeaf path' leaf' →
    dottedKey path = dottedKey path' → path = path' ∧ leaf = leaf'
  /-- There are as many messages as leaves. -/
  size_eq : c.size = {path | ∃ leaf, v.IsLeaf path leaf}.ncard
  /-- The messages are those of the leaves. -/
  get?_eq_some_iff : ∀ key message, c.get? key = some message ↔
    ∃ path leaf, v.IsLeaf path leaf ∧ key = dottedKey path ∧ message = leaf.messageText

/-- The catalog of a table has its messages under different keys. -/
theorem nodup_keys_ofTable (table : Toml.Table) : (ofTable table).messages.keys.Nodup := by
  have hempty : (KeyedList.keys ([] : KeyedList String)).Nodup := .nil
  exact KeyedList.nodup_keys_insertAll hempty _

section Table

variable {table : Toml.Table} (hdistinct : (Value.table table).Distinct) (hplain : (Value.table table).PlainNames)

include hplain in
/-- The path to a leaf is read off its key. -/
theorem pathOf_of_isLeaf {path : List String} {leaf : Value} (h : (Value.table table).IsLeaf path leaf) :
    Json.pathOf (dottedKey path) = path := by
  refine pathOf_dottedKey ?_ fun name hname => (hplain.of_leads h.1 name hname).2
  rintro rfl
  obtain ⟨hleads, hnone⟩ := h
  cases hleads
  contradiction

include hdistinct hplain

theorem nodup_keys_leaves : ((Value.table table).leaves.map fun leaf => dottedKey leaf.1).Nodup := by
  have hkeys := (Value.nodup_paths hdistinct).map_on (f := dottedKey) fun path hpath path' hpath' heq => ?_
  · rwa [List.map_map] at hkeys
  · obtain ⟨⟨_, leaf⟩, hleaf, rfl⟩ := List.mem_map.1 hpath
    obtain ⟨⟨_, leaf'⟩, hleaf', rfl⟩ := List.mem_map.1 hpath'
    rw [← pathOf_of_isLeaf hplain (Value.mem_leaves_iff.1 hleaf), heq,
      pathOf_of_isLeaf hplain (Value.mem_leaves_iff.1 hleaf')]

/-- No message replaces another on the way into the catalog. -/
theorem messages_ofTable :
    (ofTable table).messages =
      (Value.table table).leaves.map fun leaf => (dottedKey leaf.1, leaf.2.messageText) := by
  have hall : messagesOf (dottedKey []) (.table table) =
      (Value.table table).leaves.map fun leaf => (dottedKey leaf.1, leaf.2.messageText) :=
    messagesOf_eq hplain (List.forall_mem_nil _)
  have hfields : messagesOf (dottedKey []) (.table table) = messagesOfFields "" table := by
    rw [messagesOf]
    rfl
  rw [hfields] at hall
  rw [ofTable, hall]
  refine KeyedList.insertAll_eq_append ?_
  rw [List.nil_append, KeyedList.keys, List.map_map]
  exact nodup_keys_leaves hdistinct hplain

/-- **The catalog of a table has one message for each leaf.** -/
theorem files_ofTable : (ofTable table).Files (.table table) := by
  have hmessages := messages_ofTable hdistinct hplain
  have hpaths := Value.nodup_paths hdistinct
  constructor
  · intro path leaf path' leaf' hleaf hleaf' heq
    have hpath : path = path' := by
      rw [← pathOf_of_isLeaf hplain hleaf, heq, pathOf_of_isLeaf hplain hleaf']
    have hsame := List.inj_on_of_nodup_map hpaths (Value.mem_leaves_iff.2 hleaf)
      (Value.mem_leaves_iff.2 hleaf') hpath
    exact Prod.mk.inj hsame
  · have hset : {path | ∃ leaf, (Value.table table).IsLeaf path leaf} =
        ((Value.table table).leaves.map (·.1)).toFinset := by
      ext path
      simp only [Set.mem_ofPred_eq, List.coe_toFinset, List.mem_map, Prod.exists, exists_and_right,
        exists_eq_right, Value.mem_leaves_iff]
    rw [hset, Set.ncard_coe_finset, List.toFinset_card_of_nodup hpaths, size, hmessages, List.length_map,
      List.length_map]
  · intro key message
    rw [get?, KeyedList.find?_eq_some_iff (nodup_keys_ofTable table), hmessages, List.mem_map]
    simp only [Prod.exists, Value.mem_leaves_iff, Prod.mk.injEq, @eq_comm _ key, @eq_comm _ message]

end Table

theorem get?_merge (base : Catalog) {overlay : Catalog} (h : overlay.messages.keys.Nodup) (key : String) :
    (base.merge overlay).get? key = (overlay.get? key).or (base.get? key) :=
  KeyedList.find?_insertAll _ h key

/-- **Flattening loses nothing, and overlays count first.**

Of a table without repeated names, all of them plain, the catalog has one message for each leaf, under the names on
the path to it with dots between them.  Every table that is read from a text is without repeated names.  And laying
the catalog of a table over any other gives its message to each key that it has one for, and the message of the
other one to the rest. -/
theorem flattening_lossless :
    (∀ table : Toml.Table, (Value.table table).Distinct → (Value.table table).PlainNames →
      (ofTable table).Files (.table table)) ∧
      (∀ text table, Toml.read? text = some table →
        (Value.table table).Distinct ∧ read? text = some (ofTable table)) ∧
      ∀ (base : Catalog) (table : Toml.Table) (key : String),
        (base.merge (ofTable table)).get? key = ((ofTable table).get? key).or (base.get? key) := by
  refine ⟨fun table => files_ofTable, fun text table hread => ⟨Toml.distinct_of_read? hread, ?_⟩,
    fun base table => base.get?_merge (nodup_keys_ofTable table)⟩
  rw [read?, hread, Option.map_some]

/-- Tables in tables, a list and a number, read from a text and laid over a catalog that has a message under one of
the keys. -/
theorem flattening_lossless_sections :
    let text := "top = 1\n[a]\nb = \"x\"\n[a.c]\nd = [true]\n"
    let table : Toml.Table := [("a", .table [("b", .text "x"), ("c", .table [("d", .list [.bool true])])]),
      ("top", .integer 1)]
    Toml.read? text = some table ∧ (Value.table table).Distinct ∧ (Value.table table).PlainNames ∧
      (ofTable table).Files (.table table) ∧
      (Value.table table).IsLeaf ["a", "c", "d"] (.list [.bool true]) ∧
      (ofTable table).get? "a.c.d" = some "[true]" ∧
      ((Catalog.mk [("a.b", "y"), ("e", "z")]).merge (ofTable table)).get? "a.b" = some "x" ∧
      ((Catalog.mk [("a.b", "y"), ("e", "z")]).merge (ofTable table)).get? "e" = some "z" := by
  intro text table
  have hread : Toml.read? text = some table := by decide +kernel
  have hplain : (Value.table table).PlainNames := by
    have hnone {v : Value} (h : v.asTable? = none) : v.PlainNames := Value.throughout_of_no_table h
    simp only [table, Value.plainNames_table_iff, List.forall_mem_cons, List.not_mem_nil, false_implies,
      implies_true, and_true, hnone (v := .text "x") rfl, hnone (v := .list [.bool true]) rfl,
      hnone (v := .integer 1) rfl]
    decide +kernel
  obtain ⟨hfiles, htext, hmerge⟩ := flattening_lossless
  obtain ⟨hdistinct, -⟩ := htext text table hread
  have hleaf : (Value.table table).IsLeaf ["a", "c", "d"] (.list [.bool true]) := by
    refine ⟨.inside List.mem_cons_self (.inside (List.mem_cons_of_mem _ List.mem_cons_self)
      (.inside List.mem_cons_self (.here _))), rfl⟩
  refine ⟨hread, hdistinct, hplain, hfiles table hdistinct hplain, hleaf, ?_, ?_, ?_⟩
  · exact ((hfiles table hdistinct hplain).get?_eq_some_iff _ _).2 ⟨_, _, hleaf, rfl, rfl⟩
  · rw [hmerge]
    rfl
  · rw [hmerge]
    rfl

end Catalog

end CardQuery
