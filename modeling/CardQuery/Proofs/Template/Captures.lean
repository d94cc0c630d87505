/-
**The captures of a composite value.**

A composite command reads its templates once.  A value is captured by the first template that it fits, split
into the shortest texts, and each part of the template becomes a field without the white space around it.

Main definitions:

* `Template.Fits` — a value can be split by a template;
* `Template.IsRead` — a template is the reading of its source.

Main results:

* `Template.split?_eq_some`, `Template.split?_eq_none_iff` — **how a template splits a value**;
* `Composite.mem_fieldsOf` — the fields are the texts at the placeholders;
* `Composite.captures_shortest` — **what is captured of a value**.
-/

import CardQuery.Proofs.Outcome
import CardQuery.Proofs.Template.Grammar
import CardQuery.Proofs.Template.Split
import Mathlib.Data.List.Nodup

set_option autoImplicit false

namespace CardQuery

open Unicode (trimmed)

namespace Template

/-- The value is the template of the source with texts at its placeholders. -/
def Fits (source value : String) : Prop :=
  ∃ opening places texts, Parts source.toList opening places ∧ Fills opening places texts value.toList

/-- The template is the reading of its source, and the names of its parts are not repeated. -/
structure IsRead (t : Template) : Prop where
  parts : Parts t.source.toList t.opening t.places
  nodup : (t.places.map (·.1)).Nodup

/-! ### Reading templates -/

theorem nodup_of_firstRepeated? {seen names : List String} (h : firstRepeated? seen names = none) :
    names.Nodup ∧ ∀ name ∈ names, name ∉ seen := by
  induction names generalizing seen with
  | nil => exact ⟨.nil, List.forall_mem_nil _⟩
  | cons name names ih =>
      rw [firstRepeated?] at h
      split at h
      · contradiction
      · next hseen =>
        obtain ⟨hnodup, hfresh⟩ := ih h
        refine ⟨List.nodup_cons.2 ⟨fun hmem => hfresh name hmem List.mem_cons_self, hnodup⟩, ?_⟩
        rw [List.forall_mem_cons]
        refine ⟨by simpa using hseen, fun other hmem hother => ?_⟩
        exact hfresh other hmem (List.mem_cons_of_mem _ hother)

/-- What is read from a source is the source cut at its placeholders. -/
theorem isRead_of_read {source : String} {t : Template} (h : read source = .ok t) :
    t.source = source ∧ t.IsRead := by
  rw [read] at h
  simp only at h
  split at h
  · contradiction
  · next hrepeated =>
    split at h
    · contradiction
    · cases h
      exact ⟨rfl, (scanParts_eq_iff (Nat.lt_succ_self _)).1 rfl, (nodup_of_firstRepeated? hrepeated).1⟩

/-! ### Splitting values -/

section Split

variable {t : Template} {value : List Char}

/-- **A template splits a value into the shortest texts.** -/
theorem split?_eq_some {found : List (String × List Char)} (h : t.split? value = some found) :
    ∃ texts, found = (t.places.map (·.1)).zip texts ∧ IsShortest t.opening t.places texts value := by
  obtain ⟨rest, hrest, hsplit⟩ := Option.bind_eq_some_iff.1 h
  obtain rfl := afterLiteral?_eq_some_iff.1 hrest
  obtain ⟨texts, hfound, hfills, hleast⟩ := splitPlaces?_eq_some hsplit
  refine ⟨texts, hfound, ⟨rest, rfl, hfills⟩, ?_⟩
  rintro texts' ⟨rest', hrest', hfills'⟩
  obtain rfl := List.append_cancel_left hrest'
  exact hleast texts' hfills'

theorem split?_eq_none_iff : t.split? value = none ↔ ∀ texts, ¬Fills t.opening t.places texts value := by
  constructor
  · rintro h texts ⟨rest, rfl, hfills⟩
    have hnone := Option.bind_eq_none_iff.1 h rest (afterLiteral?_eq_some_iff.2 rfl)
    exact splitPlaces?_eq_none hnone texts hfills
  · intro h
    cases hsplit : t.split? value with
    | none => rfl
    | some found =>
        obtain ⟨texts, -, hshortest⟩ := split?_eq_some hsplit
        exact absurd hshortest.fills (h texts)

/-- **A template splits the values that fit it.** -/
theorem IsRead.split?_eq_none_iff (ht : t.IsRead) (value : String) :
    t.split? value.toList = none ↔ ¬Fits t.source value := by
  rw [Template.split?_eq_none_iff]
  constructor
  · rintro h ⟨opening, places, texts, hparts, hfills⟩
    obtain ⟨rfl, rfl⟩ := hparts.unique ht.parts
    exact h texts hfills
  · exact fun h texts hfills => h ⟨_, _, texts, ht.parts, hfills⟩

end Split

end Template

/-! ### Fields -/

namespace Composite

theorem mem_withNames {name : String} (names more : List String) :
    name ∈ withNames names more ↔ name ∈ names ∨ name ∈ more := by
  induction more generalizing names with
  | nil => simp [withNames]
  | cons other more ih =>
      rw [withNames]
      split
      · next hmem =>
        have hmem : other ∈ names := List.contains_iff_mem.1 hmem
        rw [ih, List.mem_cons]
        constructor
        · exact fun h => h.imp_right .inr
        · rintro (h | rfl | h)
          · exact .inl h
          · exact .inl hmem
          · exact .inr h
      · rw [ih, List.mem_append, List.mem_singleton, List.mem_cons, or_assoc]

theorem nodup_withNames {names : List String} (hnames : names.Nodup) (more : List String) :
    (withNames names more).Nodup := by
  induction more generalizing names with
  | nil => exact hnames
  | cons name more ih =>
      rw [withNames]
      split
      · exact ih hnames
      · next hmem =>
        have hmem : name ∉ names := fun h => hmem (List.contains_iff_mem.2 h)
        refine ih (List.nodup_append.2 ⟨hnames, List.nodup_singleton _, ?_⟩)
        rintro other hother _ hname rfl
        rw [List.mem_singleton] at hname
        exact hmem (hname ▸ hother)

/-- The fields of a value that a template has split, in the order of the parts of the command. -/
def fieldsOf (parts : List String) (found : List (String × List Char)) : KeyedList String :=
  parts.filterMap fun part =>
    (found.find? fun e => e.1 == part).map fun e => (part, trimmed (String.ofList e.2))

theorem captures_eq (c : Composite) (value : String) :
    c.captures value =
      (c.templates.findSome? fun t => t.split? value.toList).map (fieldsOf c.parts) := rfl

theorem nodup_keys_fieldsOf {parts : List String} (hparts : parts.Nodup) (found : List (String × List Char)) :
    (fieldsOf parts found).keys.Nodup := by
  rw [KeyedList.keys, fieldsOf, List.map_filterMap]
  refine List.Nodup.filterMap (fun part part' name h h' => ?_) hparts
  simp only [Option.map_map, Option.mem_def, Option.map_eq_some_iff, Function.comp_apply] at h h'
  obtain ⟨_, -, rfl⟩ := h
  obtain ⟨_, -, h'⟩ := h'
  exact h'.symm

/-- **The fields are the texts at the placeholders**, without white space around them. -/
theorem mem_fieldsOf {parts : List String} {found : List (String × List Char)} (hfound : (found.map (·.1)).Nodup)
    (hparts : ∀ e ∈ found, e.1 ∈ parts) {name text : String} :
    (name, text) ∈ fieldsOf parts found ↔
      ∃ part, (name, part) ∈ found ∧ text = trimmed (String.ofList part) := by
  rw [fieldsOf, List.mem_filterMap]
  constructor
  · rintro ⟨part, -, h⟩
    obtain ⟨e, hfind, heq⟩ := Option.map_eq_some_iff.1 h
    cases heq
    have hname : e.1 = name := by simpa using List.find?_some hfind
    exact ⟨e.2, hname ▸ List.mem_of_find?_eq_some hfind, rfl⟩
  · rintro ⟨part, hmem, rfl⟩
    refine ⟨name, hparts _ hmem, ?_⟩
    cases hfind : found.find? fun e => e.1 == name with
    | none => simpa using List.find?_eq_none.1 hfind _ hmem
    | some e =>
        have hname : e.1 = name := by simpa using List.find?_some hfind
        have he : e = (name, part) :=
          List.inj_on_of_nodup_map hfound (List.mem_of_find?_eq_some hfind) hmem hname
        rw [Option.map_some, he]

/-! ### Captures -/

/-- What is known of a composite command that has been read. -/
structure IsRead (c : Composite) (sources : List String) : Prop where
  sources_eq : c.templates.map (·.source) = sources
  templates : ∀ t ∈ c.templates, t.IsRead
  nodup_parts : c.parts.Nodup
  mem_parts : ∀ t ∈ c.templates, ∀ place ∈ t.places, place.1 ∈ c.parts

theorem isRead_of_read {sources : List String} {c : Composite} (h : read sources = .ok c) :
    c.IsRead sources := by
  unfold read at h
  split at h
  · contradiction
  · obtain ⟨templates, hmapM, heq⟩ := bind_eq_ok_iff.1 h
    cases heq
    have hall := mapM_eq_ok_iff.1 hmapM
    constructor
    · have hsources : List.Forall₂ Eq sources (templates.map (·.source)) :=
        List.forall₂_map_right_iff.2 (hall.imp fun source t ht => (Template.isRead_of_read ht).1.symm)
      rw [List.forall₂_eq_eq_eq] at hsources
      exact hsources.symm
    · intro t ht
      obtain ⟨source, -, hsource⟩ := exists_rel_of_mem hall ht
      exact (Template.isRead_of_read hsource).2
    · exact nodup_withNames .nil _
    · intro t ht place hplace
      rw [mem_withNames]
      exact .inr (List.mem_flatMap.2 ⟨t, ht, List.mem_map_of_mem hplace⟩)

/-- **What is captured of a value.**  It is captured by the first template that it fits, if there is any.  The
template splits it into the shortest texts, and its fields are these texts without the white space around
them. -/
theorem captures_shortest {sources : List String} {c : Composite} (hread : read sources = .ok c)
    (value : String) :
    (c.captures value = none ↔ ∀ source ∈ sources, ¬Template.Fits source value) ∧
      ∀ fields, c.captures value = some fields →
        ∃ earlier source later opening places texts, sources = earlier ++ source :: later ∧
          (∀ source ∈ earlier, ¬Template.Fits source value) ∧
          Template.Parts source.toList opening places ∧
          Template.IsShortest opening places texts value.toList ∧
          fields.keys.Nodup ∧
          ∀ name text, (name, text) ∈ fields ↔
            ∃ part, (name, part) ∈ (places.map (·.1)).zip texts ∧ text = trimmed (String.ofList part) := by
  have hc := isRead_of_read hread
  have hsources : sources = c.templates.map (·.source) := hc.sources_eq.symm
  subst hsources
  rw [captures_eq]
  constructor
  · rw [Option.map_eq_none_iff, List.findSome?_eq_none_iff, List.forall_mem_map]
    exact forall₂_congr fun t ht => (hc.templates t ht).split?_eq_none_iff value
  · intro fields h
    obtain ⟨found, hfirst, rfl⟩ := Option.map_eq_some_iff.1 h
    obtain ⟨earlier, t, later, htemplates, hsplit, hearlier⟩ := List.findSome?_eq_some_iff.1 hfirst
    have ht : t ∈ c.templates := by
      rw [htemplates]
      exact List.mem_append_right _ List.mem_cons_self
    obtain ⟨texts, rfl, hshortest⟩ := Template.split?_eq_some hsplit
    obtain ⟨rest, -, hfills⟩ := hshortest.fills
    have hkeys : ((t.places.map (·.1)).zip texts).map (·.1) = t.places.map (·.1) := by
      refine List.map_fst_zip ?_
      rw [List.length_map, hfills.length_eq]
    refine ⟨earlier.map (·.source), t.source, later.map (·.source), t.opening, t.places, texts, ?_, ?_,
      (hc.templates t ht).parts, hshortest, nodup_keys_fieldsOf hc.nodup_parts _, fun name text => ?_⟩
    · rw [htemplates, List.map_append, List.map_cons]
    · rw [List.forall_mem_map]
      intro t' ht'
      have hmem : t' ∈ c.templates := by
        rw [htemplates]
        exact List.mem_append_left _ ht'
      exact ((hc.templates t' hmem).split?_eq_none_iff value).1 (hearlier t' ht')
    · refine mem_fieldsOf ?_ fun e he => ?_
      · rw [hkeys]
        exact (hc.templates t ht).nodup
      · obtain ⟨place, hplace, hname⟩ := List.mem_map.1 (hkeys ▸ List.mem_map_of_mem he)
        exact hname ▸ hc.mem_parts t ht place hplace

/-- Of two separators the first one ends the shortest text, and a value without a separator does not fit. -/
theorem captures_shortest_two_separators :
    let source := "\x7b\x7ba\x7d\x7d/\x7b\x7b b \x7d\x7d"
    ∃ c, read [source] = .ok c ∧ ¬Template.Fits source "12" ∧
      c.captures "1 /2/3" = some [("a", "1"), ("b", "2/3")] ∧
      ∃ opening places texts, Template.Parts source.toList opening places ∧
        Template.IsShortest opening places texts "1 /2/3".toList ∧
        ∃ part, ("a", part) ∈ (places.map (·.1)).zip texts ∧ "1" = trimmed (String.ofList part) := by
  intro source
  let t : Template := ⟨source, [], [("a", ['/']), ("b", [])]⟩
  have hread : read [source] = .ok ⟨[t], ["a", "b"]⟩ := by decide +kernel
  have hnone : (Composite.mk [t] ["a", "b"]).captures "12" = none := by decide +kernel
  have hsome : (Composite.mk [t] ["a", "b"]).captures "1 /2/3" = some [("a", "1"), ("b", "2/3")] := by
    decide +kernel
  refine ⟨_, hread, ?_, hsome, ?_⟩
  · exact (captures_shortest hread "12").1.1 hnone source (List.mem_singleton_self _)
  · obtain ⟨earlier, source', later, opening, places, texts, hsources, -, hparts, hshortest, -, hfields⟩ :=
      (captures_shortest hread "1 /2/3").2 _ hsome
    have hsource : source' = source := by
      have hmem : source' ∈ [source] := by
        rw [hsources]
        exact List.mem_append_right _ List.mem_cons_self
      exact List.mem_singleton.1 hmem
    subst hsource
    exact ⟨opening, places, texts, hparts, hshortest, (hfields "a" "1").1 List.mem_cons_self⟩

end Composite

end CardQuery
