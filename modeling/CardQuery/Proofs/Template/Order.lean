/-
**The order of the parts of a composite value.**

A composite command lists its parts in the order in which its templates mention them first, and captures,
bound parts and explanations follow this list whatever template a value fits.  The template decides the
texts and not the order: of two templates that name their placeholders in different orders the first one has
its way, and the parts of a value that fits only the second are not listed as they were typed.

Main definitions:

* `Template.names` — the names of the placeholders of a template in order;
* `Template.written` — the fields of a value as a template writes them.

Main results:

* `Composite.parts_eq_of_read` — the parts of a command are the names of all templates, each where it is
  mentioned first;
* `Composite.captures_eq_some` — what is captured are the fields of the first template that fits, in the
  order of the parts of the command;
* `Model.parts_in_order` — **when the parts of a value follow its template**.
-/

import CardQuery.Explanation
import CardQuery.Proofs.Parts
import CardQuery.Proofs.Template.Captures
import Mathlib.Data.List.Perm.Basic

set_option autoImplicit false

namespace CardQuery

open Unicode (trimmed)

/-- The names of the placeholders in order. -/
def Template.names (t : Template) : List String := t.places.map (·.1)

/-- The fields of a value with these texts at the placeholders, as they are written in the template. -/
def Template.written (t : Template) (texts : List (List Char)) : KeyedList String :=
  (t.names.zip texts).map fun e => (e.1, trimmed (String.ofList e.2))

theorem Template.map_fst_zip_names {t : Template} {texts : List (List Char)}
    (h : texts.length = t.places.length) : (t.names.zip texts).map (·.1) = t.names := by
  refine List.map_fst_zip ?_
  rw [names, List.length_map, h]

theorem Template.keys_written {t : Template} {texts : List (List Char)} (h : texts.length = t.places.length) :
    (t.written texts).keys = t.names := by
  rw [KeyedList.keys, written, List.map_map]
  exact map_fst_zip_names h

/-- Two orders of the same entries agree if their keys do. -/
theorem KeyedList.eq_of_perm {α : Type} {fields fields' : KeyedList α} (hperm : fields.Perm fields')
    (hkeys : fields.keys = fields'.keys) (hnodup : fields.keys.Nodup) : fields = fields' := by
  induction fields generalizing fields' with
  | nil => exact hperm.nil_eq
  | cons e fields ih =>
      cases fields' with
      | nil => contradiction
      | cons e' fields' =>
          have hmem : e' ∈ e :: fields := hperm.mem_iff.2 List.mem_cons_self
          rw [keys, keys, List.map_cons, List.map_cons, List.cons.injEq] at hkeys
          obtain rfl := List.inj_on_of_nodup_map hnodup List.mem_cons_self hmem hkeys.1
          rw [ih (List.perm_cons _ |>.1 hperm) hkeys.2 (List.nodup_cons.1 hnodup).2]

namespace Composite

/-! ### The parts of a command -/

theorem eraseDups_of_nodup {names : List String} (h : names.Nodup) : names.eraseDups = names := by
  induction names with
  | nil => rfl
  | cons name names ih =>
      rw [List.nodup_cons] at h
      rw [List.eraseDups_cons, List.filter_eq_self.2, ih h.2]
      rintro other hother
      have hne : other ≠ name := fun heq => h.1 (heq ▸ hother)
      simpa using hne

/-- New names are appended in the order in which they are mentioned first. -/
theorem withNames_eq (names more : List String) :
    withNames names more = names ++ (more.filter fun name => name ∉ names).eraseDups := by
  induction more generalizing names with
  | nil => simp [withNames]
  | cons name more ih =>
      rw [withNames]
      split
      · next hmem =>
        rw [ih, List.filter_cons_of_neg]
        simpa using hmem
      · next hmem =>
        have hnew : name ∉ names := fun h => hmem (List.contains_iff_mem.2 h)
        have hrest : (more.filter fun other => other ∉ names ++ [name]) =
            (more.filter fun other => other ∉ names).filter fun other => !other == name := by
          rw [List.filter_filter]
          refine List.filter_congr fun other _ => ?_
          rw [Bool.eq_iff_iff]
          simp [and_comm]
        rw [ih, List.filter_cons_of_pos (by simpa using hnew), List.eraseDups_cons, hrest, List.append_assoc,
          List.singleton_append]

/-- **The parts of a command** are the names of all its templates, each where it is mentioned first. -/
theorem parts_eq_of_read {sources : List String} {c : Composite} (h : read sources = .ok c) :
    c.parts = (c.templates.flatMap Template.names).eraseDups := by
  unfold read at h
  split at h
  · contradiction
  · obtain ⟨templates, -, heq⟩ := bind_eq_ok_iff.1 h
    cases heq
    rw [withNames_eq, List.nil_append, List.filter_eq_self.2 fun _ _ => decide_eq_true List.not_mem_nil]
    rfl

/-- The names of a template that shares none with those before it stand together in its order. -/
theorem names_sublist {before names after : List String} (hnames : names.Nodup)
    (hnew : ∀ name ∈ names, name ∉ before) :
    names.Sublist (before ++ (names ++ after)).eraseDups := by
  have hremove : names.removeAll before = names := by
    rw [List.removeAll, List.filter_eq_self]
    intro name hname
    simpa using hnew name hname
  rw [List.eraseDups_append, List.removeAll, List.filter_append, ← List.removeAll, hremove,
    List.eraseDups_append, eraseDups_of_nodup hnames]
  exact (List.sublist_append_left names _).trans (List.sublist_append_right _ _)

/-! ### Fields in the order of the parts -/

theorem keys_fieldsOf_sublist (parts : List String) (found : List (String × List Char)) :
    (fieldsOf parts found).keys.Sublist parts := by
  induction parts with
  | nil => exact .slnil
  | cons part parts ih =>
      rw [fieldsOf, List.filterMap_cons]
      split
      · exact ih.cons part
      · next field hfield =>
        obtain ⟨_, -, rfl⟩ := Option.map_eq_some_iff.1 hfield
        exact ih.cons_cons part

/-- The fields are the texts that are found without white space around them, in some order. -/
theorem fieldsOf_perm {parts : List String} (hparts : parts.Nodup) {found : List (String × List Char)}
    (hfound : (found.map (·.1)).Nodup) (hmem : ∀ e ∈ found, e.1 ∈ parts) :
    (fieldsOf parts found).Perm (found.map fun e => (e.1, trimmed (String.ofList e.2))) := by
  have hnodup : (found.map fun e => (e.1, trimmed (String.ofList e.2))).Nodup := by
    refine List.Nodup.of_map (·.1) ?_
    rw [List.map_map]
    exact hfound
  rw [List.perm_ext_iff_of_nodup (nodup_keys_fieldsOf hparts _).of_map hnodup]
  rintro ⟨name, text⟩
  rw [mem_fieldsOf hfound hmem, List.mem_map]
  constructor
  · rintro ⟨part, hpart, rfl⟩
    exact ⟨_, hpart, rfl⟩
  · rintro ⟨⟨name, part⟩, hpart, heq⟩
    cases heq
    exact ⟨part, hpart, rfl⟩

/-- **What is captured** are the fields of the first template that fits the value, in the order of the parts
of the command. -/
theorem captures_eq_some {sources : List String} {c : Composite} (hread : read sources = .ok c)
    {value : String} {fields : KeyedList String} (h : c.captures value = some fields) :
    ∃ earlier t later texts, c.templates = earlier ++ t :: later ∧
      (∀ other ∈ earlier, ¬Template.Fits other.source value) ∧ t.IsRead ∧
      Template.IsShortest t.opening t.places texts value.toList ∧
      fields.Perm (t.written texts) ∧ fields.keys.Sublist c.parts := by
  have hc := isRead_of_read hread
  rw [captures_eq] at h
  obtain ⟨found, hfirst, rfl⟩ := Option.map_eq_some_iff.1 h
  obtain ⟨earlier, t, later, htemplates, hsplit, hearlier⟩ := List.findSome?_eq_some_iff.1 hfirst
  obtain ⟨texts, rfl, hshortest⟩ := Template.split?_eq_some hsplit
  have hall : ∀ other ∈ earlier ++ t :: later, other.IsRead := htemplates ▸ hc.templates
  rw [List.forall_mem_append, List.forall_mem_cons] at hall
  obtain ⟨hbefore, ht, -⟩ := hall
  obtain ⟨_, -, hfills⟩ := hshortest.fills
  have hkeys : (t.names.zip texts).map (·.1) = t.names := Template.map_fst_zip_names hfills.length_eq
  refine ⟨earlier, t, later, texts, htemplates, fun other hother => ?_, ht, hshortest, ?_,
    keys_fieldsOf_sublist _ _⟩
  · exact ((hbefore other hother).split?_eq_none_iff value).1 (hearlier other hother)
  · refine fieldsOf_perm hc.nodup_parts (hkeys ▸ ht.nodup) fun e he => ?_
    have hmem : t ∈ c.templates := htemplates ▸ List.mem_append_right _ List.mem_cons_self
    have hname : e.1 ∈ t.names := hkeys ▸ List.mem_map_of_mem he
    obtain ⟨place, hplace, heq⟩ := List.mem_map.1 hname
    exact heq ▸ hc.mem_parts t hmem place hplace

/-- The fields are in the order of the template just if the parts of the command are. -/
theorem eq_written_iff {parts : List String} (hparts : parts.Nodup) {fields : KeyedList String} {t : Template}
    {texts : List (List Char)} (hperm : fields.Perm (t.written texts)) (hkeys : (t.written texts).keys = t.names)
    (hsublist : fields.keys.Sublist parts) : fields = t.written texts ↔ t.names.Sublist parts := by
  constructor
  · rintro rfl
    exact hkeys ▸ hsublist
  · intro h
    have hsame : fields.keys = t.names :=
      (List.Nodup.perm_iff_eq_of_sublist hparts hsublist h).1 (hkeys ▸ hperm.map _)
    exact KeyedList.eq_of_perm hperm (hsame.trans hkeys.symm) (hparts.sublist hsublist)

end Composite

namespace Model

/-- **When the parts of a value follow its template.**  They are captured, bound and explained in the order in
which the templates of the command mention them first.  This is the order of the template that captures the
value just if its names are first mentioned in its order, as they are if no earlier template shares a name
with it. -/
theorem parts_in_order {m : Model} {t : Token} {a : Argument} (h : m.resolve t = .ok a) {c : Composite}
    (hkind : a.command.kind = .composite c) {sources : List String} (hread : Composite.read sources = .ok c) :
    ∃ earlier template later texts fields, c.templates = earlier ++ template :: later ∧
      -- the first template that the value fits splits it into the shortest texts
      (∀ other ∈ earlier, ¬Template.Fits other.source t.operand.content) ∧
      Template.IsShortest template.opening template.places texts t.operand.content.toList ∧
      -- these are captured in an order of their own, in which the parts are bound
      a.fields = some fields ∧ fields.Perm (template.written texts) ∧
      List.Forall₂ (fun field b => b.command.id = field.1 ∧ b.operand = .text field.2) fields a.parts ∧
      fields.keys.Sublist (c.templates.flatMap Template.names).eraseDups ∧
      (fields = template.written texts ↔
        template.names.Sublist (c.templates.flatMap Template.names).eraseDups) ∧
      ((∀ other ∈ earlier, template.names.Disjoint other.names) → fields = template.written texts) ∧
      -- and the explanation enumerates the parts as they are bound
      ∀ catalog span, a.isNegated = false → a.standardExplanation catalog span =
        joinAll catalog (a.parts.filterMap fun b => b.explain catalog span) := by
  obtain ⟨-, -, -, -, -, -, -, hparts⟩ := resolve_eq_ok h
  simp only [PartsOf, hkind] at hparts
  obtain ⟨fields, hfields, hbind⟩ := hparts
  obtain ⟨hcaptures, hbound⟩ := bindParts_eq_ok hbind
  obtain ⟨earlier, template, later, texts, htemplates, hearlier, htemplate, hshortest, hperm, hsublist⟩ :=
    Composite.captures_eq_some hread hcaptures
  obtain ⟨_, -, hfills⟩ := hshortest.fills
  have horder : fields = template.written texts ↔ template.names.Sublist c.parts :=
    Composite.eq_written_iff (Composite.isRead_of_read hread).nodup_parts hperm
      (Template.keys_written hfills.length_eq) hsublist
  rw [Composite.parts_eq_of_read hread] at horder hsublist
  refine ⟨earlier, template, later, texts, fields, htemplates, hearlier, hshortest, hfields, hperm, ?_,
    hsublist, horder, fun hnew => horder.2 ?_, fun catalog span hplain => ?_⟩
  · refine hbound.imp fun field b hb => ?_
    obtain ⟨hcommand, -, heq⟩ := bindPart_eq_ok hb
    refine ⟨?_, heq ▸ rfl⟩
    simpa using List.find?_some hcommand
  · rw [htemplates, List.flatMap_append, List.flatMap_cons]
    refine Composite.names_sublist htemplate.nodup fun name hname hbefore => ?_
    obtain ⟨other, hother, hmem⟩ := List.mem_flatMap.1 hbefore
    exact hnew other hother hname hmem
  · unfold Argument.standardExplanation
    simp only [hkind, hplain, Bool.false_eq_true, if_false, Option.map_id']

/-- A value that fits only the second of two templates is listed as the first one names its parts. -/
theorem parts_in_order_second_template :
    let number (id : String) : Command :=
      ⟨id, id, [], CommandDraft.ordering, [], none, false, [], .number false, none⟩
    let slash : Template := ⟨"\x7b\x7ba\x7d\x7d/\x7b\x7bb\x7d\x7d", [], [("a", ['/']), ("b", [])]⟩
    let dash : Template := ⟨"\x7b\x7bb\x7d\x7d-\x7b\x7ba\x7d\x7d", [], [("b", ['-']), ("a", [])]⟩
    let both : Composite := ⟨[slash, dash], ["a", "b"]⟩
    let pair : Command := ⟨"pair", "pair", [], Operator.all, [], none, false, [], .composite both, none⟩
    let m : Model := ⟨"cards", [number "a", number "b", pair], pair⟩
    let t : Token := ⟨[], some "pair", none, some .equals, .text "1-2"⟩
    let a : Argument :=
      ⟨⟨pair, none, .text "1-2", .equals, []⟩, some [("a", "2"), ("b", "1")],
        [⟨number "a", none, .text "2", .equals, []⟩, ⟨number "b", none, .text "1", .equals, []⟩]⟩
    Model.ofCommands "cards" "pair" [number "a", number "b", pair] = .ok m ∧ m.resolve t = .ok a ∧
      ∃ texts, Template.IsShortest dash.opening dash.places texts "1-2".toList ∧
        KeyedList.keys (dash.written texts) = ["b", "a"] ∧ [("a", "2"), ("b", "1")] ≠ dash.written texts := by
  intro number slash dash both pair m t a
  have hm : Model.ofCommands "cards" "pair" [number "a", number "b", pair] = .ok m := by
    dsimp only [m, number, pair, both, slash, dash]
    rfl
  have hresolve : m.resolve t = .ok a := by
    dsimp only [m, t, a, number, pair, both, slash, dash]
    rfl
  have hread : Composite.read [slash.source, dash.source] = .ok both := by decide +kernel
  obtain ⟨earlier, template, later, texts, fields, htemplates, -, hshortest, hfields, -, -, -, horder, -⟩ :=
    parts_in_order hresolve rfl hread
  cases hfields
  have hlist : [slash, dash] = earlier ++ template :: later := htemplates
  have htemplate : template = dash := by
    rcases earlier with _ | ⟨_, _ | ⟨_, earlier⟩⟩
    · obtain rfl := (List.cons.inj hlist).1
      have hnone : slash.split? "1-2".toList = none := by decide +kernel
      exact absurd hshortest.fills (Template.split?_eq_none_iff.1 hnone texts)
    · exact (List.cons.inj (List.cons.inj hlist).2).1.symm
    · have hlength := congrArg List.length hlist
      simp at hlength
  subst htemplate
  obtain ⟨_, -, hfills⟩ := hshortest.fills
  have hnot : ¬dash.names.Sublist (both.templates.flatMap Template.names).eraseDups := by decide +kernel
  exact ⟨hm, hresolve, texts, hshortest, Template.keys_written hfills.length_eq, fun h => hnot (horder.1 h)⟩

end Model

end CardQuery
