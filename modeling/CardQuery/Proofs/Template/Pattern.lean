/-
**The pattern of a template.**

A template can also be read as a pattern: the characters of its literal texts are escaped where they have a
meaning of their own, every placeholder becomes a group with its name that takes one character or more, and an
anchor stands at either end.  Whatever characters stand in the literal texts, this is a pattern, and it is found
in exactly the values that the template splits.  The texts at the placeholders are the pieces that the groups
take; that they are as short as possible, the first ones first, is the choice among these.

Main definitions:

* `Template.patternText` — the pattern that is pasted together from a template;
* `Template.pattern` — what it is read as.

Main results:

* `Template.IsRead.parse?_patternText` — **the pattern of a template** is well formed;
* `Template.spans_places_iff` — the pieces that its groups take are texts at the placeholders;
* `Template.occursIn_pattern` — **it is found in the values that fill the template**, and nowhere else;
* `Template.isSome_split?` — **a template splits the values in which its pattern is found**.
-/

import CardQuery.Proofs.Regex.Literal
import CardQuery.Proofs.Template.Captures

set_option autoImplicit false

namespace CardQuery.Template

open Regex

/-! ### The pattern -/

/-- The group for a placeholder: one character or more, and as few as possible. -/
def groupChars (name : List Char) : List Char :=
  ['(', '?', 'P', '<'] ++ (name ++ ['>', '.', '+', '?', ')'])

/-- The groups for the placeholders, each with the literal text behind it. -/
def placesChars (places : List (String × List Char)) : List Char :=
  places.flatMap fun place => groupChars place.1.toList ++ escapeChars place.2

/-- The pattern that is pasted together from a template. -/
def patternText (t : Template) : String :=
  String.ofList ('^' :: (escapeChars t.opening ++ (placesChars t.places ++ ['$'])))

/-- The point takes a literal text literally. -/
example : patternText ⟨"\x7b\x7ba\x7d\x7d.\x7b\x7bb\x7d\x7d", [], [("a", ['.']), ("b", [])]⟩ =
    "^(?P<a>.+?)\\.(?P<b>.+?)$" := by
  decide

/-- One character or more, and no line end. -/
def groupPattern : Pattern := .repeated (.one (.complement (.single '\n'))) 1 none

/-- What the placeholders and the literal texts behind them are read as. -/
def placesPatterns (places : List (String × List Char)) : List Pattern :=
  places.flatMap fun place => groupPattern :: place.2.map fun c => .one (.single c)

/-- What the pattern of a template is read as. -/
def pattern (t : Template) : Pattern :=
  Regex.sequence (.anchor .textStart ::
    ((t.opening.map fun c => .one (.single c)) ++ (placesPatterns t.places ++ [.anchor .textEnd])))

/-! ### Reading -/

/-- The state outside of groups when case counts. -/
def plainState (items : List Item) (names : List (List Char)) : State :=
  ⟨[], [], items, Flags.initial false, names⟩

/-- The items that the placeholders and the literal texts behind them are read as. -/
def placesItems (places : List (String × List Char)) : List Item :=
  places.flatMap fun place =>
    .atom groupPattern 2 :: place.2.map fun c => .atom (.one (.single c)) 0

/-- What the tables say of the characters of names. -/
theorem nameChars_fact : lowChars.all (fun c =>
    (!isNameStart c || Regex.isNameChar true c) &&
      (!isNameChar c || (Regex.isNameChar false c && c != '>'))) = true := by
  decide +kernel

theorem nameChar_spec {c : Char} (h : isNameChar c = true) :
    Regex.isNameChar false c = true ∧ c ≠ '>' := by
  have hfact := List.all_eq_true.1 nameChars_fact c (mem_lowChars h)
  simp only [h, Bool.and_eq_true, Bool.not_true, Bool.false_or, bne_iff_ne] at hfact
  exact hfact.2

theorem nameStart_spec {c : Char} (h : isNameStart c = true) : Regex.isNameChar true c = true := by
  have hfact := List.all_eq_true.1 nameChars_fact c (mem_lowChars (isNameChar_of_isNameStart h))
  simp only [h, Bool.and_eq_true, Bool.not_true, Bool.false_or] at hfact
  exact hfact.1

/-- The name of a part may be the name of a group. -/
theorem scanGroupName_eq {name : List Char} (h : IsName name) (s : List Char) :
    scanGroupName (name ++ '>' :: s) = some (name, s) := by
  have hinside : ∀ c ∈ name, decide (c ≠ '>') = true := fun c hc =>
    decide_eq_true (nameChar_spec (h.all c hc)).2
  have htake : (name ++ '>' :: s).takeWhile (· ≠ '>') = name := by
    rw [List.takeWhile_append_of_pos hinside, List.takeWhile_cons_of_neg (by decide), List.append_nil]
  have hdrop : (name ++ '>' :: s).dropWhile (· ≠ '>') = '>' :: s := by
    rw [List.dropWhile_append_of_pos hinside, List.dropWhile_cons_of_neg (by decide)]
  cases h with
  | @mk c rest hc hrest =>
      have hall : rest.all (Regex.isNameChar false) = true :=
        List.all_eq_true.2 fun d hd => (nameChar_spec (hrest d hd)).1
      simp only [scanGroupName, htake, hdrop, nameStart_spec hc, hall, Bool.and_self, if_true]

theorem groupChars_append (name s : List Char) : groupChars name ++ s =
    '(' :: '?' :: 'P' :: '<' :: (name ++ '>' :: '.' :: '+' :: '?' :: ')' :: s) := by
  simp [groupChars]

/-- The group for a placeholder is read. -/
theorem reads_group {name : List Char} (hname : IsName name) {names : List (List Char)}
    (hnew : name ∉ names) (items : List Item) (s : List Char) :
    Reads (plainState items names) (groupChars name ++ s)
      (plainState (.atom groupPattern 2 :: items) (name :: names)) s := by
  let opened : State :=
    ⟨[⟨[], items, Flags.initial false⟩], [], [], Flags.initial false, name :: names⟩
  have hstep : step (plainState items names)
      ('(' :: '?' :: 'P' :: '<' :: (name ++ '>' :: '.' :: '+' :: '?' :: ')' :: s)) =
      some (opened, '.' :: '+' :: '?' :: ')' :: s) := by
    have hgroup : step (plainState items names)
        ('(' :: '?' :: 'P' :: '<' :: (name ++ '>' :: '.' :: '+' :: '?' :: ')' :: s)) =
        openNamed (plainState items names) (name ++ '>' :: '.' :: '+' :: '?' :: ')' :: s) := rfl
    have hfresh : (!(plainState items names).names.contains name) = true := by
      simpa [plainState] using hnew
    simp only [hgroup, openNamed, scanGroupName_eq hname, bind, Option.bind, hfresh, guard, if_true]
    rfl
  have hopen : Reads (plainState items names) (groupChars name ++ s) opened
      ('.' :: '+' :: '?' :: ')' :: s) := by
    rw [groupChars_append]
    refine .step rfl hstep rfl ?_
    simp only [List.length_cons, List.length_append]
    omega
  have hpoint : Reads opened ('.' :: '+' :: '?' :: ')' :: s)
      (opened.pushAtom (.one (.complement (.single '\n')))) ('+' :: '?' :: ')' :: s) :=
    .step rfl rfl rfl (Nat.le_refl _)
  have hrepeat : Reads (opened.pushAtom (.one (.complement (.single '\n')))) ('+' :: '?' :: ')' :: s)
      (opened.push (.atom groupPattern 1)) (')' :: s) :=
    .step rfl rfl rfl (Nat.le_succ _)
  have hclose : Reads (opened.push (.atom groupPattern 1)) (')' :: s)
      (plainState (.atom groupPattern 2 :: items) (name :: names)) s :=
    .step rfl rfl rfl (Nat.le_refl _)
  exact ((hopen.trans hpoint).trans hrepeat).trans hclose

/-- The groups for the placeholders are read one after another, with the literal texts behind them. -/
theorem reads_places {places : List (String × List Char)} (hnames : ∀ place ∈ places, IsName place.1.toList)
    (hnodup : (places.map (·.1)).Nodup) {names : List (List Char)}
    (hnew : ∀ place ∈ places, place.1.toList ∉ names) (items : List Item) (s : List Char) :
    ∃ names', Reads (plainState items names) (placesChars places ++ s)
      (plainState ((placesItems places).reverse ++ items) names') s := by
  induction places generalizing names items with
  | nil => exact ⟨names, .refl _ s⟩
  | cons place places ih =>
      rw [List.forall_mem_cons] at hnames hnew
      rw [List.map_cons, List.nodup_cons] at hnodup
      have hgroup := reads_group hnames.1 hnew.1 items (escapeChars place.2 ++ (placesChars places ++ s))
      have hliteral : Reads (plainState (.atom groupPattern 2 :: items) (place.1.toList :: names))
          (escapeChars place.2 ++ (placesChars places ++ s))
          (plainState ((place.2.map fun c => .atom (.one (.single c)) 0).reverse ++
            .atom groupPattern 2 :: items) (place.1.toList :: names)) (placesChars places ++ s) :=
        reads_escapeChars rfl (fun _ => rfl) place.2 (placesChars places ++ s)
      have hfresh : ∀ other ∈ places, other.1.toList ∉ place.1.toList :: names := by
        intro other hother
        rw [List.mem_cons, not_or]
        refine ⟨fun heq => hnodup.1 ?_, hnew.2 other hother⟩
        rw [← String.toList_inj.1 heq]
        exact List.mem_map_of_mem hother
      obtain ⟨names', hrest⟩ := ih hnames.2 hnodup.2 hfresh
        ((place.2.map fun c => .atom (.one (.single c)) 0).reverse ++ .atom groupPattern 2 :: items)
      have hitems : (placesItems (place :: places)).reverse ++ items =
          (placesItems places).reverse ++
            ((place.2.map fun c => .atom (.one (.single c)) 0).reverse ++
              .atom groupPattern 2 :: items) := by
        simp [placesItems]
      have hchars : placesChars (place :: places) ++ s =
          groupChars place.1.toList ++ (escapeChars place.2 ++ (placesChars places ++ s)) := by
        simp [placesChars]
      refine ⟨names', ?_⟩
      rw [hitems, hchars]
      exact (hgroup.trans hliteral).trans hrest

theorem Parts.isName {s opening : List Char} {places : List (String × List Char)}
    (h : Parts s opening places) : ∀ place ∈ places, IsName place.1.toList := by
  induction h with
  | nil => exact List.forall_mem_nil _
  | literal _ _ ih => exact ih
  | place hplace _ ih =>
      refine List.forall_mem_cons.2 ⟨?_, ih⟩
      cases hplace with
      | mk _ hname _ =>
          rw [String.toList_ofList]
          exact hname

theorem depth_placesItem_le {places : List (String × List Char)} {item : Item}
    (h : item ∈ placesItems places) : item.depth ≤ 2 := by
  obtain ⟨place, -, hitem⟩ := List.mem_flatMap.1 h
  rcases List.mem_cons.1 hitem with rfl | hitem
  · exact Nat.le_refl 2
  · exact depth_charItem_le hitem

/-- **The pattern of a template** is well formed, whatever characters stand in the literal texts. -/
theorem IsRead.parse?_patternText {t : Template} (h : t.IsRead) :
    parse? false t.patternText = some t.pattern := by
  let opening : List Item := (t.opening.map fun c => .atom (.one (.single c)) 0).reverse ++
    [.atom (.anchor .textStart) 0]
  have htext : t.patternText.toList =
      '^' :: (escapeChars t.opening ++ (placesChars t.places ++ ['$'])) := String.toList_ofList
  have hstart : Reads (start false) t.patternText.toList (plainState [.atom (.anchor .textStart) 0] [])
      (escapeChars t.opening ++ (placesChars t.places ++ ['$'])) := by
    rw [htext]
    exact .step rfl rfl rfl (Nat.le_refl _)
  have hopening : Reads (plainState [.atom (.anchor .textStart) 0] [])
      (escapeChars t.opening ++ (placesChars t.places ++ ['$'])) (plainState opening [])
      (placesChars t.places ++ ['$']) :=
    reads_escapeChars rfl (fun _ => rfl) t.opening _
  obtain ⟨names, hplaces⟩ := reads_places h.parts.isName h.nodup (fun _ _ => List.not_mem_nil) opening ['$']
  have hclose : Reads (plainState ((placesItems t.places).reverse ++ opening) names) ['$']
      (plainState (.atom (.anchor .textEnd) 0 :: ((placesItems t.places).reverse ++ opening)) names) [] :=
    .step rfl rfl rfl (Nat.le_refl _)
  have hreads := ((hstart.trans hopening).trans hplaces).trans hclose
  refine parse?_eq_some_iff.2 ⟨_, hreads.run_eq, rfl, depth_content_le _ ?_, ?_⟩
  · intro item hitem
    rcases List.mem_cons.1 hitem with rfl | hitem
    · exact Nat.zero_le 2
    · rcases List.mem_append.1 hitem with hitem | hitem
      · exact depth_placesItem_le (List.mem_reverse.1 hitem)
      · rcases List.mem_append.1 hitem with hitem | hitem
        · exact depth_charItem_le (List.mem_reverse.1 hitem)
        · rw [List.mem_singleton.1 hitem]
          exact Nat.zero_le 2
  · have hpattern (items : List Item) :
        (plainState items names).content.pattern = Regex.sequence (items.reverse.map (·.pattern)) := rfl
    rw [hpattern, pattern]
    simp [opening, placesItems, placesPatterns, Item.pattern, List.map_flatMap, Function.comp_def]

/-! ### Matching -/

section Spans

variable {t : List Char}

theorem drop_eq_cons_iff {c : Char} {rest : List Char} {i : Nat} :
    t.drop i = c :: rest ↔ t[i]? = some c ∧ t.drop (i + 1) = rest := by
  rw [← List.head?_drop, ← List.tail_drop]
  cases t.drop i <;> simp

/-- A number of characters out of a set is a text of that length. -/
theorem rounds_one_iff {set : CharSet} {n i k : Nat} :
    Rounds (Spans t (.one set)) n i k ↔ k = i + n ∧
      ∃ text, text.length = n ∧ (∀ c ∈ text, set.has c = true) ∧ t.drop i = text ++ t.drop k := by
  induction n generalizing i with
  | zero =>
      simp only [Rounds, Nat.add_zero, List.length_eq_zero_iff, exists_eq_left, List.nil_append]
      constructor
      · rintro rfl
        exact ⟨rfl, List.forall_mem_nil _, rfl⟩
      · exact fun h => h.1.symm
  | succ n ih =>
      simp only [Rounds, spans_one_iff, ih]
      constructor
      · rintro ⟨_, ⟨rfl, c, hc, hmember⟩, rfl, text, hlength, hall, hdrop⟩
        refine ⟨by omega, c :: text, by rw [List.length_cons, hlength],
          List.forall_mem_cons.2 ⟨hmember, hall⟩, ?_⟩
        rw [List.cons_append, ← hdrop]
        exact drop_eq_cons_iff.2 ⟨hc, rfl⟩
      · rintro ⟨rfl, text, hlength, hall, hdrop⟩
        obtain ⟨c, text, rfl⟩ := List.exists_cons_of_length_eq_add_one hlength
        rw [List.forall_mem_cons] at hall
        obtain ⟨hc, hrest⟩ := drop_eq_cons_iff.1 hdrop
        exact ⟨i + 1, ⟨rfl, c, hc, hall.1⟩, by omega, text, Nat.succ.inj hlength, hall.2, hrest⟩

/-- **The pieces that a group takes** are not empty and hold no line end. -/
theorem spans_group_iff {i k : Nat} : Spans t groupPattern i k ↔
    ∃ text, text ≠ [] ∧ '\n' ∉ text ∧ k = i + text.length ∧ t.drop i = text ++ t.drop k := by
  have hline (c : Char) : (CharSet.complement (.single '\n')).has c = true ↔ c ≠ '\n' := by
    rw [CharSet.has, Bool.not_eq_true', ← Bool.not_eq_true, single_has]
  have hall (text : List Char) :
      (∀ c ∈ text, (CharSet.complement (.single '\n')).has c = true) ↔ '\n' ∉ text := by
    simp only [hline]
    exact ⟨fun h hmem => h _ hmem rfl, fun h c hc heq => h (heq ▸ hc)⟩
  rw [groupPattern, spans_repeated_iff]
  simp only [rounds_one_iff, hall]
  constructor
  · rintro ⟨_, hleast, -, rfl, text, rfl, hno, hdrop⟩
    exact ⟨text, List.ne_nil_of_length_pos hleast, hno, rfl, hdrop⟩
  · rintro ⟨text, hpos, hno, rfl, hdrop⟩
    refine ⟨text.length, List.length_pos_of_ne_nil hpos, ?_, rfl, text, rfl, hno, hdrop⟩
    intro m h
    cases h

theorem drop_add_length {v rest : List Char} {i : Nat} (h : t.drop i = v ++ rest) :
    t.drop (i + v.length) = rest := by
  rw [← List.drop_drop, h, List.drop_left]

/-- **The pieces that a literal text takes** are the text. -/
theorem spans_literal_iff {literal : List Char} {ps : List Pattern} {i k : Nat} :
    Spans t (Regex.sequence ((literal.map fun c => .one (.single c)) ++ ps)) i k ↔
      t.drop i = literal ++ t.drop (i + literal.length) ∧
        Spans t (Regex.sequence ps) (i + literal.length) k := by
  have hchars : Spans t (Regex.sequence ((literal.map fun c => .one (.single c)) ++ ps)) i k ↔
      literal.map id <+: (t.drop i).map id ∧ Spans t (Regex.sequence ps) (i + literal.length) k :=
    spans_chars_iff fun _ _ => single_has
  rw [hchars, List.map_id, List.map_id, List.prefix_iff_eq_append, List.drop_drop, eq_comm]

theorem spans_textEnd_iff {i k : Nat} :
    Spans t (.anchor .textEnd) i k ↔ i = k ∧ t.length ≤ i := by
  rw [spans_anchor_iff, Anchor.holds, Option.isNone_iff_eq_none, List.getElem?_eq_none_iff]

/-- **The pieces that the groups take** are texts at the placeholders. -/
theorem spans_places_iff {places : List (String × List Char)} {i : Nat} (hi : i ≤ t.length) :
    (∃ k, Spans t (Regex.sequence (placesPatterns places ++ [.anchor .textEnd])) i k) ↔
      ∃ texts, FillsPlaces places texts (t.drop i) := by
  induction places generalizing i with
  | nil =>
      rw [placesPatterns, List.flatMap_nil, List.nil_append, Regex.sequence]
      simp only [spans_textEnd_iff, exists_eq_left']
      rw [← List.drop_eq_nil_iff]
      constructor
      · intro h
        rw [h]
        exact ⟨[], .nil⟩
      · rintro ⟨texts, hfills⟩
        generalize t.drop i = s at hfills ⊢
        cases hfills
        rfl
  | cons place places ih =>
      obtain ⟨name, literal⟩ := place
      have hpatterns : placesPatterns ((name, literal) :: places) ++ [.anchor .textEnd] =
          groupPattern :: ((literal.map fun c => .one (.single c)) ++
            (placesPatterns places ++ [.anchor .textEnd])) := by
        simp [placesPatterns]
      rw [hpatterns]
      simp only [spans_sequence_cons, spans_group_iff, spans_literal_iff]
      constructor
      · rintro ⟨k, _, ⟨text, hpos, hline, rfl, hdrop⟩, hliteral, hrest⟩
        have hend : i + text.length + literal.length ≤ t.length := by
          have hlength := congrArg List.length hdrop
          have hlength' := congrArg List.length hliteral
          simp only [List.length_append, List.length_drop] at hlength hlength'
          omega
        obtain ⟨texts, hfills⟩ := (ih hend).1 ⟨k, hrest⟩
        rw [hdrop, hliteral]
        exact ⟨text :: texts, .cons hpos hline hfills⟩
      · rintro ⟨texts, hfills⟩
        generalize hs : t.drop i = s at hfills
        cases hfills with
        | @cons _ _ text rest _ texts hpos hline hfills =>
            have hbehind := drop_add_length hs
            have hrest := drop_add_length hbehind
            have hend : i + text.length + literal.length ≤ t.length := by
              have hlength := congrArg List.length hs
              simp only [List.length_append, List.length_drop] at hlength
              omega
            rw [← hrest] at hfills hbehind
            obtain ⟨k, hspans⟩ := (ih hend).2 ⟨texts, hfills⟩
            refine ⟨k, _, ⟨text, hpos, hline, rfl, ?_⟩, hbehind, hspans⟩
            rw [hbehind, hrest]

end Spans

/-- **The pattern of a template is found in the values that fill the template**, and nowhere else. -/
theorem occursIn_pattern (t : Template) (value : List Char) :
    t.pattern.occursIn value = true ↔ ∃ texts, Fills t.opening t.places texts value := by
  have hspans (i k : Nat) : Spans value t.pattern i k ↔ charBefore? value i = none ∧
      value.drop i = t.opening ++ value.drop (i + t.opening.length) ∧
      Spans value (Regex.sequence (placesPatterns t.places ++ [.anchor .textEnd])) (i + t.opening.length) k := by
    simp only [pattern, spans_sequence_cons, spans_anchor_iff, spans_literal_iff, Anchor.holds,
      Option.isNone_iff_eq_none, and_assoc, exists_eq_left']
  rw [occursIn_iff, Occurs]
  simp only [hspans]
  constructor
  · rintro ⟨i, k, hi, hfirst, hopening, hplaces⟩
    obtain rfl : i = 0 := (charBefore?_eq_none_iff hi).1 hfirst
    rw [List.drop_zero, Nat.zero_add] at hopening
    rw [Nat.zero_add] at hplaces
    have hend : t.opening.length ≤ value.length := by
      rw [hopening, List.length_append]
      exact Nat.le_add_right _ _
    obtain ⟨texts, hfills⟩ := (spans_places_iff hend).1 ⟨k, hplaces⟩
    exact ⟨texts, _, hopening, hfills⟩
  · rintro ⟨texts, rest, rfl, hfills⟩
    have hend : t.opening.length ≤ (t.opening ++ rest).length := by
      rw [List.length_append]
      exact Nat.le_add_right _ _
    have hdrop : (t.opening ++ rest).drop t.opening.length = rest := List.drop_left
    obtain ⟨k, hplaces⟩ := (spans_places_iff hend).2 ⟨texts, by rwa [hdrop]⟩
    exact ⟨0, k, Nat.zero_le _, rfl, by rw [Nat.zero_add, hdrop, List.drop_zero], by rwa [Nat.zero_add]⟩

/-- **A template splits the values in which its pattern is found.** -/
theorem isSome_split? (t : Template) (value : List Char) :
    (t.split? value).isSome = t.pattern.occursIn value := by
  rw [Bool.eq_iff_iff, occursIn_pattern, ← not_iff_not, Bool.not_eq_true, Option.isSome_eq_false_iff,
    Option.isNone_iff_eq_none, split?_eq_none_iff, not_exists]

end CardQuery.Template
