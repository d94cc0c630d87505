/-
**Filling in values.**

A message holds names in braces, and is used with values for names.  Where it is cut depends on the names
alone: from the left, an opening brace begins a place if the characters up to the next closing brace are one of
the names, and any other character is kept as it is.  A text can be cut in one way only.  Filling in then puts
the first value of its name into each place, and what has been put in is not looked at again, so that braces
in a value are characters like any other.

Main definitions:

* `Segment` — a character that is kept, or a place with its name;
* `OpensPlace` — a place stands at the head of a text;
* `Cut` — the segments of a text for some names;
* `Segment.Fills` — what a segment becomes with some values.

Main results:

* `placeholder?_eq_some_iff`, `placeholder?_eq_none_iff` — the reader of places finds what stands there;
* `Cut.unique` — **a text is cut in one way**;
* `interpolate_single_pass` — **filling in values is one pass over the cut text**.
-/

import CardQuery.Catalog.Basic
import Mathlib.Data.List.Forall2
import Mathlib.Data.List.TakeWhile

set_option autoImplicit false

namespace CardQuery

/-! ### Places -/

/-- The text begins with one of the names in braces: the characters between the opening brace and the next
closing one are the name. -/
inductive OpensPlace (names : List String) : List Char → String → List Char → Prop where
  | mk {name : String} {rest : List Char} (hname : name ∈ names) (hclosed : '\x7d' ∉ name.toList) :
      OpensPlace names ('\x7b' :: (name.toList ++ '\x7d' :: rest)) name rest

/-- The value is the first of its name. -/
def IsFirstValue (params : List (String × String)) (name value : String) : Prop :=
  ∃ before after, params = before ++ (name, value) :: after ∧ name ∉ before.map Prod.fst

section Braces

variable {s inside rest : List Char}

theorem all_ne_brace (h : '\x7d' ∉ s) : ∀ c ∈ s, (c != '\x7d') = true := by
  intro c hc
  rw [bne_iff_ne]
  rintro rfl
  exact h hc

theorem takeWhile_to_brace (h : '\x7d' ∉ inside) :
    (inside ++ '\x7d' :: rest).takeWhile (· != '\x7d') = inside := by
  rw [List.takeWhile_append_of_pos (all_ne_brace h)]
  exact List.append_nil _

theorem dropWhile_to_brace (h : '\x7d' ∉ inside) :
    (inside ++ '\x7d' :: rest).dropWhile (· != '\x7d') = '\x7d' :: rest := by
  rw [List.dropWhile_append_of_pos (all_ne_brace h)]
  rfl

/-- The first closing brace of a text is in one place. -/
theorem eq_of_append_brace {inside' rest' : List Char} (h : '\x7d' ∉ inside) (h' : '\x7d' ∉ inside')
    (heq : inside ++ '\x7d' :: rest = inside' ++ '\x7d' :: rest') : inside = inside' ∧ rest = rest' := by
  have hinside : inside = inside' := by
    calc inside = (inside ++ '\x7d' :: rest).takeWhile (· != '\x7d') := (takeWhile_to_brace h).symm
      _ = (inside' ++ '\x7d' :: rest').takeWhile (· != '\x7d') := by rw [heq]
      _ = inside' := takeWhile_to_brace h'
  subst hinside
  exact ⟨rfl, (List.cons.inj (List.append_cancel_left heq)).2⟩

end Braces

section Reading

variable {params : List (String × String)} {s inside rest : List Char}

/-- Up to a closing brace a name is looked up. -/
theorem placeholder?_closed (params : List (String × String)) (h : '\x7d' ∉ inside) (rest : List Char) :
    placeholder? params (inside ++ '\x7d' :: rest) =
      (params.find? fun p => p.1.toList == inside).map fun p => (p.2.toList, rest) := by
  rw [placeholder?, takeWhile_to_brace h, dropWhile_to_brace h]
  cases params.find? fun p => p.1.toList == inside <;> rfl

/-- Without a closing brace there is no name. -/
theorem placeholder?_open (params : List (String × String)) (h : '\x7d' ∉ s) :
    placeholder? params s = none := by
  rw [placeholder?, List.dropWhile_eq_nil_iff.2 (all_ne_brace h)]

/-- The look-up of a name finds its first value. -/
theorem find?_name_iff {name value : String} :
    (params.find? fun p => p.1.toList == name.toList) = some (name, value) ↔
      IsFirstValue params name value := by
  rw [List.find?_eq_some_iff_append, IsFirstValue, and_iff_right (beq_self_eq_true name.toList)]
  refine exists_congr fun before => exists_congr fun after => and_congr_right fun _ => ?_
  rw [List.mem_map, not_exists]
  refine forall_congr' fun p => ?_
  rw [not_and, Bool.not_eq_true', beq_eq_false_iff_ne, ne_eq, String.toList_inj]

theorem exists_isFirstValue {name : String} (h : name ∈ params.map Prod.fst) :
    ∃ value, IsFirstValue params name value := by
  obtain ⟨before, after, heq, hfirst⟩ := List.eq_append_cons_of_mem h
  obtain ⟨earlier, later, rfl, rfl, hlater⟩ := List.map_eq_append_iff.1 heq
  obtain ⟨⟨found, value⟩, rest, rfl, rfl, -⟩ := List.map_eq_cons_iff.1 hlater
  exact ⟨value, earlier, rest, rfl, hfirst⟩

/-- **The reader of places finds what stands there**: a place of a name, and the first value of the name. -/
theorem placeholder?_eq_some_iff {value : List Char} :
    placeholder? params s = some (value, rest) ↔
      ∃ name first, OpensPlace (params.map Prod.fst) ('\x7b' :: s) name rest ∧
        IsFirstValue params name first ∧ value = first.toList := by
  constructor
  · intro h
    have hbrace : '\x7d' ∈ s := by
      by_contra hopen
      rw [placeholder?_open params hopen] at h
      contradiction
    obtain ⟨inside, behind, rfl, hclosed⟩ := List.eq_append_cons_of_mem hbrace
    rw [placeholder?_closed params hclosed, Option.map_eq_some_iff] at h
    obtain ⟨⟨name, first⟩, hfind, heq⟩ := h
    obtain ⟨rfl, rfl⟩ := Prod.mk.inj heq
    have hsame : (name.toList == inside) = true :=
      List.find?_some (p := fun p : String × String => p.1.toList == inside) hfind
    obtain rfl : name.toList = inside := eq_of_beq hsame
    have hname : name ∈ params.map Prod.fst :=
      List.mem_map_of_mem (f := Prod.fst) (List.mem_of_find?_eq_some hfind)
    exact ⟨name, first, .mk hname hclosed, find?_name_iff.1 hfind, rfl⟩
  · rintro ⟨name, first, hopens, hfirst, rfl⟩
    cases hopens with
    | mk hname hclosed => rw [placeholder?_closed params hclosed, find?_name_iff.2 hfirst, Option.map_some]

/-- Where it finds none there is no place. -/
theorem placeholder?_eq_none_iff :
    placeholder? params s = none ↔
      ∀ name rest, ¬OpensPlace (params.map Prod.fst) ('\x7b' :: s) name rest := by
  rw [Option.eq_none_iff_forall_ne_some]
  constructor
  · intro h name rest hopens
    have hname : name ∈ params.map Prod.fst := by
      cases hopens with
      | mk hname hclosed => exact hname
    obtain ⟨first, hfirst⟩ := exists_isFirstValue hname
    exact h _ (placeholder?_eq_some_iff.2 ⟨name, first, hopens, hfirst, rfl⟩)
  · rintro h ⟨value, rest⟩ hplace
    obtain ⟨name, first, hopens, -, -⟩ := placeholder?_eq_some_iff.1 hplace
    exact h name rest hopens

end Reading

/-! ### Segments -/

/-- A character that is kept, or a place with its name. -/
inductive Segment where
  | kept (c : Char)
  | place (name : String)
deriving DecidableEq, Repr

namespace Segment

/-- A segment as it is written in the text. -/
def written : Segment → List Char
  | kept c => [c]
  | place name => '\x7b' :: (name.toList ++ ['\x7d'])

/-- What a segment becomes: a character stays, and a place becomes the first value of its name. -/
inductive Fills (params : List (String × String)) : Segment → List Char → Prop where
  | kept (c : Char) : Fills params (kept c) [c]
  | place {name value : String} (h : IsFirstValue params name value) :
      Fills params (place name) value.toList

end Segment

/-- The segments of a text, cut from the left: a place where one begins, and a character where none does. -/
inductive Cut (names : List String) : List Char → List Segment → Prop where
  | nil : Cut names [] []
  | place {name : String} {s rest : List Char} {segments : List Segment}
      (hopens : OpensPlace names s name rest) (h : Cut names rest segments) :
      Cut names s (.place name :: segments)
  | kept {c : Char} {s : List Char} {segments : List Segment}
      (hnone : ∀ name rest, ¬OpensPlace names (c :: s) name rest) (h : Cut names s segments) :
      Cut names (c :: s) (.kept c :: segments)

namespace OpensPlace

variable {names : List String} {s rest : List Char} {name : String}

/-- A text begins with one place only. -/
theorem unique {name' : String} {rest' : List Char} (h : OpensPlace names s name rest)
    (h' : OpensPlace names s name' rest') : name = name' ∧ rest = rest' := by
  cases h with
  | mk hname hclosed =>
      generalize hs : '\x7b' :: (name.toList ++ '\x7d' :: rest) = s at h'
      cases h' with
      | mk hname' hclosed' =>
          obtain ⟨hsame, hrest⟩ := eq_of_append_brace hclosed hclosed' (List.cons.inj hs).2
          exact ⟨String.toList_inj.1 hsame, hrest⟩

theorem eq_written_append (h : OpensPlace names s name rest) : s = (Segment.place name).written ++ rest := by
  cases h
  simp [Segment.written]

end OpensPlace

namespace Cut

variable {names : List String} {s : List Char} {segments : List Segment}

/-- Nothing of the text is lost. -/
theorem flatMap_written (h : Cut names s segments) : segments.flatMap Segment.written = s := by
  induction h with
  | nil => rfl
  | place hopens h ih => rw [List.flatMap_cons, ih, ← hopens.eq_written_append]
  | kept hnone h ih =>
      rw [List.flatMap_cons, ih]
      rfl

/-- **A text is cut in one way.** -/
theorem unique {segments' : List Segment} (h : Cut names s segments) (h' : Cut names s segments') :
    segments = segments' := by
  induction h generalizing segments' with
  | nil =>
      cases h' with
      | nil => rfl
      | place hopens' h' => cases hopens'
  | place hopens h ih =>
      cases h' with
      | nil => cases hopens
      | place hopens' h' =>
          obtain ⟨rfl, rfl⟩ := hopens.unique hopens'
          rw [ih h']
      | kept hnone' h' => exact absurd hopens (hnone' _ _)
  | kept hnone h ih =>
      cases h' with
      | place hopens' h' => exact absurd hopens' (hnone _ _)
      | kept hnone' h' => rw [ih h']

end Cut

/-! ### Filling in -/

theorem interpolate_of_place {params : List (String × String)} {rest value after : List Char}
    (h : placeholder? params rest = some (value, after)) :
    interpolate params ('\x7b' :: rest) = value ++ interpolate params after := by
  rw [interpolate, if_pos rfl]
  split
  · next hplace =>
    rw [h] at hplace
    cases hplace
    rfl
  · next hplace =>
    rw [h] at hplace
    contradiction

theorem interpolate_of_no_place {params : List (String × String)} {c : Char} {rest : List Char}
    (h : c = '\x7b' → placeholder? params rest = none) :
    interpolate params (c :: rest) = c :: interpolate params rest := by
  rw [interpolate]
  split
  · next hbrace =>
    split
    · next hplace =>
      rw [h hbrace] at hplace
      contradiction
    · rfl
  · rfl

/-- A text is cut, and its segments are filled one by one. -/
theorem exists_cut_filled (params : List (String × String)) (s : List Char) :
    ∃ segments texts, Cut (params.map Prod.fst) s segments ∧
      List.Forall₂ (Segment.Fills params) segments texts ∧ interpolate params s = texts.flatten := by
  -- the recursion goes on behind a place, or behind one character
  induction s using interpolate.induct params with
  | case1 => exact ⟨[], [], .nil, .nil, by rw [interpolate]; rfl⟩
  | case2 rest value after hplace ih =>
      obtain ⟨name, first, hopens, hfirst, rfl⟩ := placeholder?_eq_some_iff.1 hplace
      obtain ⟨segments, texts, hcut, hfills, htext⟩ := ih
      refine ⟨.place name :: segments, first.toList :: texts, .place hopens hcut,
        .cons (.place hfirst) hfills, ?_⟩
      rw [interpolate_of_place hplace, htext, List.flatten_cons]
  | case3 rest hplace ih =>
      obtain ⟨segments, texts, hcut, hfills, htext⟩ := ih
      refine ⟨.kept '\x7b' :: segments, ['\x7b'] :: texts,
        .kept (placeholder?_eq_none_iff.1 hplace) hcut, .cons (.kept _) hfills, ?_⟩
      rw [interpolate_of_no_place fun _ => hplace, htext, List.flatten_cons, List.singleton_append]
  | case4 c rest hbrace ih =>
      obtain ⟨segments, texts, hcut, hfills, htext⟩ := ih
      have hnone : ∀ name after, ¬OpensPlace (params.map Prod.fst) (c :: rest) name after := by
        rintro name after hopens
        cases hopens
        exact hbrace rfl
      refine ⟨.kept c :: segments, [c] :: texts, .kept hnone hcut, .cons (.kept c) hfills, ?_⟩
      rw [interpolate_of_no_place fun h => absurd h hbrace, htext, List.flatten_cons,
        List.singleton_append]

/-- **Filling in values is one pass over the cut text.**

For some names a text is cut into segments in one way, and they are written as the text.  With any values for
these names, what comes of filling in is the segments one after the other, the characters that are kept as they
are and the first value of its name for each place. -/
theorem interpolate_single_pass (names : List String) (template : List Char) :
    ∃ segments, Cut names template segments ∧ segments.flatMap Segment.written = template ∧
      (∀ other, Cut names template other → other = segments) ∧
      ∀ params : List (String × String), params.map Prod.fst = names →
        ∃ texts, List.Forall₂ (Segment.Fills params) segments texts ∧
          interpolate params template = texts.flatten := by
  obtain ⟨segments, -, hcut, -, -⟩ := exists_cut_filled (names.map fun name => (name, "")) template
  have hnames : (names.map fun name => (name, "")).map Prod.fst = names := by
    rw [List.map_map]
    exact List.map_id names
  rw [hnames] at hcut
  refine ⟨segments, hcut, hcut.flatMap_written, fun other hother => hother.unique hcut, ?_⟩
  rintro params rfl
  obtain ⟨segments', texts, hcut', hfills, htext⟩ := exists_cut_filled params template
  obtain rfl := hcut'.unique hcut
  exact ⟨texts, hfills, htext⟩

/-- A value in braces is not looked at again, the first value of a name counts, and braces around no name
stay. -/
theorem interpolate_single_pass_value_in_braces :
    let template := "\x7bx\x7bfield\x7d \x7bvalue\x7d \x7bother\x7d".toList
    let params := [("field", "\x7bvalue\x7d"), ("value", "1"), ("field", "2")]
    params.map Prod.fst = ["field", "value", "field"] ∧
      ∃ segments texts, Cut ["field", "value", "field"] template segments ∧
        List.Forall₂ (Segment.Fills params) segments texts ∧
        texts.flatten = "\x7bx\x7bvalue\x7d 1 \x7bother\x7d".toList := by
  intro template params
  have hnames : params.map Prod.fst = ["field", "value", "field"] := rfl
  obtain ⟨segments, hcut, -, -, hfilled⟩ := interpolate_single_pass ["field", "value", "field"] template
  obtain ⟨texts, hfills, htext⟩ := hfilled params hnames
  have hvalue : interpolate params template = "\x7bx\x7bvalue\x7d 1 \x7bother\x7d".toList := by
    decide +kernel
  exact ⟨hnames, segments, texts, hcut, hfills, htext.symm.trans hvalue⟩

end CardQuery
