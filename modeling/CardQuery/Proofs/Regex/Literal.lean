/-
**Patterns of literal texts.**

A text that is escaped is read as its characters one after another: every character with a meaning of its
own has a backslash before it, and no other has one.  With case ignored such a pattern is found in the
texts that have a piece which is folded like it, and between the two anchors it describes the whole texts
that are folded like it.

Main definitions:

* `Reads` — the reader comes from one state to another with a part of the text;
* `State.pushChars` — the state after characters that stand for themselves;
* `ignoringState` — the state of a pattern that ignores case, outside of groups.

Main results:

* `reads_escapeChars` — **an escaped text is read character by character**;
* `spans_chars_iff` — the pieces that a sequence of characters describes;
* `search_literal`, `search_whole` — **the patterns for a text**, to be found anywhere or as a whole.
-/

import CardQuery.Proofs.Regex.Search
import CardQuery.Proofs.Regex.Whole
import CardQuery.Proofs.Unicode.Folding
import CardQuery.Sql.Condition
import Mathlib.Data.List.Infix

set_option autoImplicit false

namespace CardQuery.Regex

open CardQuery.Unicode
open Sql (exactText ignoringCase)

/-! ### Reading -/

/-- The reader comes from one state to another and has the rest of the text left to read; it takes at most
as many steps as it reads characters. -/
def Reads (st : State) (s : List Char) (st' : State) (rest : List Char) : Prop :=
  ∃ n, n + rest.length ≤ s.length ∧ ∀ fuel, run (n + fuel) st s = run fuel st' rest

namespace Reads

variable {st st' last : State} {s s' rest : List Char}

theorem refl (st : State) (s : List Char) : Reads st s st s :=
  ⟨0, Nat.le_of_eq (Nat.zero_add _), fun fuel => by rw [Nat.zero_add]⟩

theorem trans (h : Reads st s st' s') (h' : Reads st' s' last rest) : Reads st s last rest := by
  obtain ⟨n, hlength, hrun⟩ := h
  obtain ⟨n', hlength', hrun'⟩ := h'
  refine ⟨n + n', by omega, fun fuel => ?_⟩
  rw [Nat.add_assoc, hrun, hrun']

/-- One construct is read. -/
theorem step {c : Char} (hskip : skipLayout st.flags s = s) (hstep : step st s = some (st', rest))
    (hs : s = c :: s') (hlength : rest.length ≤ s'.length) : Reads st s st' rest := by
  subst hs
  refine ⟨1, by rw [List.length_cons]; omega, fun fuel => ?_⟩
  rw [Nat.add_comm]
  exact run_next fuel hskip hstep

/-- What is read to the end is the whole pattern. -/
theorem run_eq (h : Reads st s last []) : run (s.length + 1) st s = some last := by
  obtain ⟨n, hlength, hrun⟩ := h
  rw [List.length_nil, Nat.add_zero] at hlength
  obtain ⟨extra, hextra⟩ := Nat.exists_eq_add_of_le hlength
  rw [hextra, Nat.add_assoc, hrun, run_nil (Nat.succ_pos extra)]

end Reads

/-- The state after characters that stand for themselves, each for a set of characters. -/
def State.pushChars (set : Char → CharSet) (v : List Char) (st : State) : State :=
  { st with items := (v.map fun c => .atom (.one (set c)) 0).reverse ++ st.items }

theorem State.pushChars_cons (set : Char → CharSet) (c : Char) (v : List Char) (st : State) :
    st.pushChars set (c :: v) = (st.pushAtom (.one (set c))).pushChars set v := by
  simp [pushChars, pushAtom, push]

/-- A character with a meaning of its own stands for itself after a backslash. -/
theorem scanEscape_meta (f : Flags) {c : Char} (h : isMeta c = true) (s : List Char) :
    scanEscape f (c :: s) = some (.literal c false, s) := by
  have hmem : c ∈ metaCharacters := List.contains_iff_mem.1 h
  simp only [metaCharacters, List.mem_cons, List.not_mem_nil, or_false] at hmem
  rcases hmem with rfl | rfl | rfl | rfl | rfl | rfl | rfl | rfl | rfl | rfl | rfl | rfl | rfl | rfl |
    rfl | rfl | rfl | rfl <;> rfl

/-- Every construct begins with a character that has a meaning of its own. -/
theorem not_mem_constructs {c : Char} (h : isMeta c = false) : c ∉ constructs := by
  have hall : constructs.all isMeta = true := by decide
  intro hmem
  rw [List.all_eq_true.1 hall c hmem] at h
  contradiction

section Escaped

variable {st : State} {set : Char → CharSet} (hverbose : st.flags.verbose = false)
  (hset : ∀ c, st.flags.literal? c false = some (set c))

include hverbose in
theorem skipLayout_of_not_verbose (s : List Char) : skipLayout st.flags s = s := by
  rw [skipLayout, hverbose]
  rfl

include hset in
theorem step_escaped {c : Char} (h : isMeta c = true) (s : List Char) :
    step st ('\\' :: c :: s) = some (st.pushAtom (.one (set c)), s) := by
  have hstep : step st ('\\' :: c :: s) =
      (scanEscape st.flags (c :: s)).bind fun read =>
        (pushEscape st read.1).bind fun st' => some (st', read.2) := rfl
  rw [hstep, scanEscape_meta _ h, Option.bind_some, pushEscape, hset]
  rfl

include hset in
/-- Every other character stands for itself. -/
theorem step_plain {c : Char} (h : isMeta c = false) (s : List Char) :
    step st (c :: s) = some (st.pushAtom (.one (set c)), s) := by
  rw [step_literal (not_mem_constructs h), hset]
  rfl

include hverbose hset in
/-- **An escaped text is read character by character.** -/
theorem reads_escapeChars (v s : List Char) :
    Reads st (escapeChars v ++ s) (st.pushChars set v) s := by
  induction v generalizing st with
  | nil => exact .refl st s
  | cons c v ih =>
      have hrest : Reads (st.pushAtom (.one (set c))) (escapeChars v ++ s) (st.pushChars set (c :: v)) s := by
        rw [State.pushChars_cons]
        exact ih hverbose hset
      rw [escapeChars, List.flatMap_cons, ← escapeChars]
      refine Reads.trans ?_ hrest
      have hskip := skipLayout_of_not_verbose hverbose
      cases h : isMeta c with
      | true => exact .step (hskip _) (step_escaped hset h _) rfl (Nat.le_succ _)
      | false => exact .step (hskip _) (step_plain hset h _) rfl (Nat.le_refl _)

end Escaped

/-! ### Contents -/

theorem foldl_max_le {n : Nat} {depths : List Nat} (h : ∀ d ∈ depths, d ≤ n) {d : Nat} (hd : d ≤ n) :
    depths.foldl max d ≤ n := by
  induction depths generalizing d with
  | nil => exact hd
  | cons e depths ih =>
      rw [List.forall_mem_cons] at h
      exact ih h.2 (Nat.max_le.2 ⟨hd, h.1⟩)

theorem joinedDepth_le {n : Nat} {depths : List Nat} (h : ∀ d ∈ depths, d ≤ n) :
    joinedDepth depths ≤ n + 1 := by
  unfold joinedDepth
  split
  · exact Nat.zero_le _
  · exact Nat.le_succ_of_le (h _ (List.mem_singleton_self _))
  · rw [Nat.add_comm]
    exact Nat.succ_le_succ (foldl_max_le h (Nat.zero_le n))

/-- A pattern of simple groups and constructs is never too deep. -/
theorem depth_content_le {items : List Item} {names : List (List Char)} (f : Flags)
    (h : ∀ item ∈ items, item.depth ≤ 2) :
    (State.content ⟨[], [], items, f, names⟩).depth ≤ depthLimit := by
  have hdepth : (State.content ⟨[], [], items, f, names⟩).depth = joinedDepth (items.map (·.depth)) := rfl
  rw [hdepth]
  exact Nat.le_trans (joinedDepth_le (List.forall_mem_map.2 h)) (by decide)

/-- The state of a pattern that ignores case, outside of groups. -/
def ignoringState (items : List Item) : State := ⟨[], [], items, Flags.initial true, []⟩

/-- The set of the characters that differ from one only in case. -/
def literalSet (c : Char) : CharSet := .anyCase (.single c)

/-- The pattern that a text writes after the directive to ignore case. -/
theorem parse?_ignoringCase {source : String} {items : List Item}
    (hitems : ∀ item ∈ items, item.depth ≤ 2)
    (hreads : Reads (ignoringState [.directive]) source.toList (ignoringState items) []) :
    parse? false (ignoringCase source) = some (sequence (items.reverse.map (·.pattern))) := by
  have hdepth : (ignoringState items).content.depth ≤ depthLimit := depth_content_le _ hitems
  have htext : (ignoringCase source).toList = '(' :: '?' :: 'i' :: ')' :: source.toList := by
    rw [ignoringCase, String.toList_append]
    rfl
  have hdirective : Reads (start false) (ignoringCase source).toList (ignoringState [.directive])
      source.toList := by
    rw [htext]
    exact .step rfl rfl rfl (Nat.le_add_right _ 3)
  exact parse?_eq_some_iff.2 ⟨ignoringState items, (hdirective.trans hreads).run_eq, rfl, hdepth, rfl⟩

theorem depth_charItem_le {set : Char → CharSet} {v : List Char} {item : Item}
    (h : item ∈ v.map fun c => Item.atom (.one (set c)) 0) : item.depth ≤ 2 := by
  obtain ⟨c, -, rfl⟩ := List.mem_map.1 h
  exact Nat.zero_le 2

/-- **The pattern for a text** that is to be found anywhere. -/
theorem parse?_literal (v : String) :
    parse? false (ignoringCase (escape v)) =
      some (sequence (.empty :: v.toList.map fun c => .one (literalSet c))) := by
  have hreads : Reads (ignoringState [.directive]) (escapeChars v.toList ++ [])
      (ignoringState ((v.toList.map fun c => .atom (.one (literalSet c)) 0).reverse ++ [.directive])) [] :=
    reads_escapeChars rfl (fun _ => rfl) v.toList []
  rw [List.append_nil, ← String.toList_ofList (l := escapeChars v.toList), ← escape] at hreads
  rw [parse?_ignoringCase ?_ hreads]
  · simp [Item.pattern, Function.comp_def]
  · intro item hitem
    rcases List.mem_append.1 hitem with hitem | hitem
    · exact depth_charItem_le (List.mem_reverse.1 hitem)
    · rw [List.mem_singleton.1 hitem]
      exact Nat.zero_le 2

/-- **The pattern for a text** that is to be found as a whole. -/
theorem parse?_exactText (v : String) :
    parse? false (exactText v) =
      some (sequence (.empty :: .anchor .textStart ::
        ((v.toList.map fun c => .one (literalSet c)) ++ [.anchor .textEnd]))) := by
  have hsource : exactText v = ignoringCase ("^" ++ escape v ++ "$") := by
    rw [exactText, ignoringCase, ← String.append_assoc, ← String.append_assoc]
    rfl
  have htext : ("^" ++ escape v ++ "$").toList = '^' :: (escapeChars v.toList ++ ['$']) := by
    simp [escape]
  have hopen : Reads (ignoringState [.directive]) ('^' :: (escapeChars v.toList ++ ['$']))
      (ignoringState [.atom (.anchor .textStart) 0, .directive]) (escapeChars v.toList ++ ['$']) :=
    .step rfl rfl rfl (Nat.le_refl _)
  have hchars : Reads (ignoringState [.atom (.anchor .textStart) 0, .directive])
      (escapeChars v.toList ++ ['$'])
      (ignoringState ((v.toList.map fun c => .atom (.one (literalSet c)) 0).reverse ++
        [.atom (.anchor .textStart) 0, .directive])) ['$'] :=
    reads_escapeChars rfl (fun _ => rfl) v.toList ['$']
  have hclose : Reads (ignoringState ((v.toList.map fun c => .atom (.one (literalSet c)) 0).reverse ++
        [.atom (.anchor .textStart) 0, .directive])) ['$']
      (ignoringState (.atom (.anchor .textEnd) 0 ::
        ((v.toList.map fun c => .atom (.one (literalSet c)) 0).reverse ++
          [.atom (.anchor .textStart) 0, .directive]))) [] :=
    .step rfl rfl rfl (Nat.le_refl _)
  have hreads := (hopen.trans hchars).trans hclose
  rw [← htext] at hreads
  rw [hsource, parse?_ignoringCase ?_ hreads]
  · simp [Item.pattern, Function.comp_def]
  · intro item hitem
    rcases List.mem_cons.1 hitem with rfl | hitem
    · exact Nat.zero_le 2
    · rcases List.mem_append.1 hitem with hitem | hitem
      · exact depth_charItem_le (List.mem_reverse.1 hitem)
      · rcases List.mem_pair.1 hitem with rfl | rfl <;> exact Nat.zero_le 2

/-! ### Pieces -/

theorem single_has {c d : Char} : (CharSet.single c).has d = true ↔ d = c := by
  simp only [CharSet.single, CharSet.has, Bool.and_eq_true, decide_eq_true_eq]
  constructor
  · rintro ⟨hle, hge⟩
    exact Char.toNat_inj.1 (Nat.le_antisymm hge hle)
  · rintro rfl
    exact ⟨Nat.le_refl _, Nat.le_refl _⟩

theorem literalSet_has {c d : Char} : (literalSet c).has d = true ↔ folded d = folded c := by
  rw [literalSet, CharSet.has, List.any_eq_true]
  simp only [single_has, exists_eq_right, mem_orbit_iff]
  exact eq_comm

variable {t : List Char}

theorem spans_sequence_nil {i k : Nat} : Spans t (sequence []) i k ↔ i = k := spans_empty_iff

theorem spans_sequence_cons {p : Pattern} {ps : List Pattern} {i k : Nat} :
    Spans t (sequence (p :: ps)) i k ↔ ∃ j, Spans t p i j ∧ Spans t (sequence ps) j k := by
  cases ps with
  | nil => simp [sequence, spans_empty_iff]
  | cons q ps => exact spans_seq_iff

section Chars

variable {α : Type} {set : Char → CharSet} {f : Char → α}

theorem prefix_drop_iff {c : Char} {v : List Char} {i : Nat} :
    (c :: v).map f <+: (t.drop i).map f ↔
      (∃ d, t[i]? = some d ∧ f d = f c) ∧ v.map f <+: (t.drop (i + 1)).map f := by
  rw [← List.head?_drop, ← List.tail_drop]
  cases t.drop i with
  | nil => simp
  | cons d rest => simp [List.cons_prefix_cons, eq_comm]

/-- **The pieces that a sequence of characters describes**, when each of them stands for all characters
that are alike. -/
theorem spans_chars_iff (hset : ∀ c d, (set c).has d = true ↔ f d = f c) {v : List Char}
    {ps : List Pattern} {i k : Nat} :
    Spans t (sequence ((v.map fun c => .one (set c)) ++ ps)) i k ↔
      v.map f <+: (t.drop i).map f ∧ Spans t (sequence ps) (i + v.length) k := by
  induction v generalizing i with
  | nil => simp
  | cons c v ih =>
      have hplace : i + (c :: v).length = i + 1 + v.length := by
        rw [List.length_cons, Nat.add_comm v.length, Nat.add_assoc]
      rw [List.map_cons, List.cons_append, spans_sequence_cons, prefix_drop_iff, hplace]
      simp only [spans_one_iff, hset, ih]
      constructor
      · rintro ⟨_, ⟨rfl, hchar⟩, hpre, hspan⟩
        exact ⟨⟨hchar, hpre⟩, hspan⟩
      · rintro ⟨⟨hchar, hpre⟩, hspan⟩
        exact ⟨i + 1, ⟨rfl, hchar⟩, hpre, hspan⟩

end Chars

/-- The characters of a text are found where a piece is folded like them. -/
theorem occursIn_literal {v : List Char} :
    (sequence (.empty :: v.map fun c => .one (literalSet c))).occursIn t = true ↔
      v.map folded <:+: t.map folded := by
  have hspan (i k : Nat) : Spans t (sequence (.empty :: v.map fun c => .one (literalSet c))) i k ↔
      v.map folded <+: (t.drop i).map folded ∧ i + v.length = k := by
    have hliteral : Spans t (sequence ((v.map fun c => .one (literalSet c)) ++ [])) i k ↔ _ :=
      spans_chars_iff fun _ _ => literalSet_has
    rw [List.append_nil] at hliteral
    simp only [spans_sequence_cons, spans_empty_iff, exists_eq_left', hliteral, spans_sequence_nil]
  rw [occursIn_iff, Occurs, List.infix_iff_prefix_suffix]
  simp only [hspan]
  constructor
  · rintro ⟨i, -, -, hpre, -⟩
    exact ⟨_, hpre, by rw [List.map_drop]; exact List.drop_suffix _ _⟩
  · rintro ⟨s, hpre, before, hbefore⟩
    have hlength := congrArg List.length hbefore
    rw [List.length_append, List.length_map] at hlength
    have hdrop : (t.drop before.length).map folded = s := by
      rw [List.map_drop, ← hbefore, List.drop_left]
    exact ⟨before.length, _, by omega, by rwa [hdrop], rfl⟩

/-- Between the anchors they describe the whole texts that are folded like them. -/
theorem occursIn_exactText {v : List Char} :
    (sequence (.empty :: .anchor .textStart ::
      ((v.map fun c => .one (literalSet c)) ++ [.anchor .textEnd]))).occursIn t = true ↔
      t.map folded = v.map folded := by
  have hspan (i k : Nat) : Spans t (sequence (.empty :: .anchor .textStart ::
      ((v.map fun c => .one (literalSet c)) ++ [.anchor .textEnd]))) i k ↔
      charBefore? t i = none ∧ v.map folded <+: (t.drop i).map folded ∧ t.length ≤ i + v.length ∧
        i + v.length = k := by
    simp only [spans_sequence_cons, spans_empty_iff, exists_eq_left',
      spans_chars_iff fun _ _ => literalSet_has, spans_anchor_iff, spans_sequence_nil, Anchor.holds,
      Option.isNone_iff_eq_none, List.getElem?_eq_none_iff, and_assoc]
  rw [occursIn_iff, Occurs]
  simp only [hspan]
  constructor
  · rintro ⟨i, -, hi, hfirst, hpre, hlast, -⟩
    obtain rfl : i = 0 := (charBefore?_eq_none_iff hi).1 hfirst
    rw [List.drop_zero] at hpre
    refine (hpre.eq_of_length_le ?_).symm
    simpa using hlast
  · intro heq
    have hlength := congrArg List.length heq
    rw [List.length_map, List.length_map] at hlength
    exact ⟨0, _, Nat.zero_le _, rfl, by rw [List.drop_zero, heq], by omega, rfl⟩

end CardQuery.Regex
