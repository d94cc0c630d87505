/-
**Patterns for whole texts.**

A pattern is made to describe whole texts by putting it into a group between the two anchors.  The
result is a pattern unless the closing parenthesis is lost in a comment at the end, or the group makes
the pattern too deep; and if it is one, it is the pattern in the group, between the two anchors.

Whether case is ignored has no say in this.

Main definitions:

* `start`, `depth` — the state before a pattern is read, and how deep it turns out to be;
* `LosesClosing` — the pattern ends in a comment that takes in what is put after it.

Main results:

* `isSome_parse?` — **a text that writes a pattern writes one with case ignored too**;
* `parse?_wholeText` — **the pattern for whole texts** of a pattern;
* `parse?_wholeText_eq_none_iff` — **when there is none**, though the text writes a pattern.
-/

import CardQuery.Meaning
import CardQuery.Proofs.Regex.Cased

set_option autoImplicit false

namespace CardQuery.Regex

/-- The state before a pattern is read. -/
def start (ignoreCase : Bool) : State := ⟨[], [], [], Flags.initial ignoreCase, []⟩

/-- How deep a pattern is that can be read. -/
def depth (s : String) : Nat :=
  match run (s.toList.length + 1) (start false) s.toList with
  | some st => st.content.depth
  | none => 0

/-- What is put after the pattern to close a group belongs to a comment that is open at its end, so
that it stays a pattern. -/
def LosesClosing (s : String) : Prop := isValid (s ++ ")$") = true

/-- A text that is read to its end, with all groups closed and not too deep, writes a pattern. -/
theorem parse?_eq_some_iff {ignoreCase : Bool} {s : String} {p : Pattern} :
    parse? ignoreCase s = some p ↔
      ∃ st, run (s.toList.length + 1) (start ignoreCase) s.toList = some st ∧ st.frames = [] ∧
        st.content.depth ≤ depthLimit ∧ st.content.pattern = p := by
  rw [parse?, parseChars?, ← start]
  cases run (s.toList.length + 1) (start ignoreCase) s.toList with
  | none => simp
  | some st =>
      simp only [Option.some.injEq, exists_eq_left']
      split
      · next h =>
        rw [Bool.and_eq_true, List.isEmpty_iff, decide_eq_true_eq] at h
        simp [h]
      · next h =>
        rw [Bool.and_eq_true, List.isEmpty_iff, decide_eq_true_eq] at h
        simp only [reduceCtorEq, false_iff, not_and]
        exact fun hframes hdepth => absurd ⟨hframes, hdepth⟩ h

/-! ### Case ignored -/

theorem start_alike (ignoreCase ignoreCase' : Bool) :
    State.Alike (start ignoreCase) (start ignoreCase') :=
  ⟨.nil, .nil, .nil, ⟨ignoreCase', rfl⟩, rfl⟩

/-- States that are alike have closed all groups together, and are equally deep. -/
theorem State.Alike.closed {st st' : State} (h : State.Alike st st') (hframes : st.frames = []) :
    st'.frames = [] ∧ st'.content.depth = st.content.depth := by
  have hall := h.frames
  rw [hframes] at hall
  generalize st'.frames = frames at hall ⊢
  cases hall
  exact ⟨rfl, h.content.depth_eq.symm⟩

/-- A pattern that is read with case or without is read in the other way too, and is equally deep. -/
theorem run_cased (ignoreCase' : Bool) {ignoreCase : Bool} {fuel : Nat} {last : State}
    {s : List Char} (hrun : run fuel (start ignoreCase) s = some last) (hframes : last.frames = []) :
    ∃ other, run fuel (start ignoreCase') s = some other ∧ other.frames = [] ∧
      other.content.depth = last.content.depth := by
  obtain ⟨other, hal, hother⟩ := run_alike fuel (start_alike ignoreCase ignoreCase') s last hrun
  exact ⟨other, hother, hal.closed hframes⟩

theorem exists_parse?_cased (ignoreCase' : Bool) {ignoreCase : Bool} {s : String} {p : Pattern}
    (h : parse? ignoreCase s = some p) : ∃ p', parse? ignoreCase' s = some p' := by
  obtain ⟨st, hrun, hframes, hdepth, -⟩ := parse?_eq_some_iff.1 h
  obtain ⟨other, hother, hframes', hdepth'⟩ := run_cased ignoreCase' hrun hframes
  exact ⟨_, parse?_eq_some_iff.2 ⟨other, hother, hframes', hdepth'.symm ▸ hdepth, rfl⟩⟩

/-- **A text that writes a pattern writes one with case ignored too.** -/
theorem isSome_parse? (ignoreCase : Bool) (s : String) :
    (parse? ignoreCase s).isSome = isValid s := by
  rw [isValid, Bool.eq_iff_iff, Option.isSome_iff_exists, Option.isSome_iff_exists]
  constructor
  · rintro ⟨p, hp⟩
    exact exists_parse?_cased false hp
  · rintro ⟨p, hp⟩
    exact exists_parse?_cased ignoreCase hp

theorem exists_parse?_of_isValid (ignoreCase : Bool) {s : String} (h : isValid s = true) :
    ∃ p, parse? ignoreCase s = some p := by
  rwa [← Option.isSome_iff_exists, isSome_parse?]

/-! ### The group around a pattern -/

/-- What stands before the group around a pattern for whole texts. -/
def wholeFrame (ignoreCase : Bool) : Frame :=
  ⟨[], [.atom (.anchor .textStart) 0], Flags.initial ignoreCase⟩

theorem toList_wholeText (source : String) :
    (wholeText source).toList = '^' :: '(' :: '?' :: ':' :: (source.toList ++ closing) := by
  simp [wholeText, closing]

theorem run_opening (ignoreCase : Bool) (fuel : Nat) (s : List Char) :
    run (fuel + 2) (start ignoreCase) ('^' :: '(' :: '?' :: ':' :: s) =
      run fuel ((start ignoreCase).under [wholeFrame ignoreCase]) s := rfl

/-- The state after the group and the anchor behind it. -/
def wholeState (ignoreCase : Bool) (st : State) : State where
  frames := []
  branches := []
  items := [.atom (.anchor .textEnd) 0, .atom st.content.pattern (st.content.depth + 1),
    .atom (.anchor .textStart) 0]
  flags := Flags.initial ignoreCase
  names := st.names

theorem run_closing (ignoreCase : Bool) {fuel : Nat} (hfuel : 2 < fuel) {st : State}
    (hframes : st.frames = []) :
    run fuel (st.under [wholeFrame ignoreCase]) closing = some (wholeState ignoreCase st) := by
  obtain ⟨fuel, rfl⟩ := Nat.exists_eq_add_of_le' hfuel
  cases st with
  | mk frames branches items flags names =>
      cases hframes
      have hclose : run (fuel + 3) (State.under [wholeFrame ignoreCase]
          ⟨[], branches, items, flags, names⟩) closing =
          run (fuel + 2) ⟨[], [], [.atom (State.content ⟨[], branches, items, flags, names⟩).pattern
            ((State.content ⟨[], branches, items, flags, names⟩).depth + 1),
            .atom (.anchor .textStart) 0], Flags.initial ignoreCase, names⟩ ['$'] := by
        rw [run, skipLayout_closing _ extended_closing]
        rfl
      rw [hclose]
      rfl

/-- Without a group to close, what stands after a pattern is at fault. -/
theorem run_closing_start {fuel : Nat} {st : State} (hframes : st.frames = []) :
    run fuel st closing = none := by
  cases fuel with
  | zero => rfl
  | succ fuel =>
      have hstep : step st closing = none := by
        show st.closeGroup?.map _ = none
        rw [State.closeGroup?, hframes]
        rfl
      exact run_refused fuel (skipLayout_closing _ extended_closing) hstep

theorem run_nil {fuel : Nat} (hfuel : 0 < fuel) (st : State) : run fuel st [] = some st := by
  obtain ⟨fuel, rfl⟩ := Nat.exists_eq_add_of_le' hfuel
  exact run_finished fuel (skipLayout_closing _ .hidden)

/-- The group around a pattern is one deeper than the pattern, and the sequence that it stands in is
one deeper again. -/
theorem content_wholeState (ignoreCase : Bool) (st : State) :
    (wholeState ignoreCase st).content =
      .atom (.seq (.anchor .textStart) (.seq st.content.pattern (.anchor .textEnd)))
        (st.content.depth + 2) := by
  unfold wholeState
  generalize st.content.pattern = p
  generalize st.content.depth = d
  simp [State.content, alternative, sequence, choiceOf, joinedDepth, Item.pattern, Item.depth]
  omega

/-! ### Patterns for whole texts -/

/-- **The pattern for whole texts** is the pattern between the two anchors, unless the closing
parenthesis is lost in a comment or the group makes the pattern too deep. -/
theorem parse?_wholeText {ignoreCase : Bool} {source : String} {p : Pattern}
    (h : parse? ignoreCase source = some p) (whole : Pattern) :
    parse? ignoreCase (wholeText source) = some whole ↔
      ¬LosesClosing source ∧ depth source + 2 ≤ depthLimit ∧
        whole = .seq (.anchor .textStart) (.seq p (.anchor .textEnd)) := by
  obtain ⟨st, hrun, hframes, hdepth, rfl⟩ := parse?_eq_some_iff.1 h
  obtain ⟨r, hr, hall⟩ := run_extended (.kept source.toList) hrun
  obtain ⟨k, hk, hclosing⟩ := hall [] 2
  obtain ⟨l, hl, hwhole⟩ := hall [wholeFrame ignoreCase] 4
  have hwhole : run ((wholeText source).toList.length + 1) (start ignoreCase)
      (wholeText source).toList = run l (st.under [wholeFrame ignoreCase]) r := by
    rw [toList_wholeText, ← hwhole, ← run_opening]
    simp [closing]
  have hclosing : run ((source ++ ")$").toList.length + 1) (start ignoreCase)
      (source ++ ")$").toList = run k st r := by
    have htext : (source ++ ")$").toList = source.toList ++ closing := by simp [closing]
    rw [htext, ← State.under_nil st, ← hclosing]
    simp [closing, State.under_nil]
  have hread : depth source = st.content.depth := by
    obtain ⟨other, hother, -, hequal⟩ := run_cased false hrun hframes
    rw [depth, hother]
    exact hequal
  rw [parse?_eq_some_iff, LosesClosing, ← isSome_parse? ignoreCase, Option.isSome_iff_exists]
  simp only [parse?_eq_some_iff, hwhole, hclosing, hread]
  rcases hr.nil_inv with rfl | rfl
  · -- the closing parenthesis is left, and closes the group
    rw [run_closing_start hframes, run_closing ignoreCase (by omega) hframes]
    constructor
    · rintro ⟨st', hst', -, hdepth', rfl⟩
      cases hst'
      rw [content_wholeState] at hdepth' ⊢
      exact ⟨by simp, hdepth', rfl⟩
    · rintro ⟨-, hdepth', rfl⟩
      refine ⟨_, rfl, rfl, ?_, ?_⟩
      · rw [content_wholeState]
        exact hdepth'
      · rw [content_wholeState]
        rfl
  · -- a comment has taken it in, and the group stays open
    rw [run_nil (by omega), run_nil (by omega)]
    constructor
    · rintro ⟨st', hst', hframes', -⟩
      cases hst'
      simp [State.under, hframes] at hframes'
    · rintro ⟨hloses, -⟩
      exact absurd ⟨_, st, rfl, hframes, hdepth, rfl⟩ hloses

/-- **There is no pattern for whole texts**, though the text writes a pattern, when the closing
parenthesis is lost in a comment, and when the group makes the pattern too deep. -/
theorem parse?_wholeText_eq_none_iff (ignoreCase : Bool) {source : String}
    (hvalid : isValid source = true) :
    parse? ignoreCase (wholeText source) = none ↔
      LosesClosing source ∨ depthLimit < depth source + 2 := by
  obtain ⟨p, hp⟩ := exists_parse?_of_isValid ignoreCase hvalid
  rw [Option.eq_none_iff_forall_ne_some]
  simp only [ne_eq, parse?_wholeText hp]
  constructor
  · intro hall
    by_cases hloses : LosesClosing source
    · exact Or.inl hloses
    · exact Or.inr (Nat.lt_of_not_le fun hdepth => hall _ ⟨hloses, hdepth, rfl⟩)
  · rintro (hloses | hdeep) whole ⟨hkept, hdepth, -⟩
    · exact hkept hloses
    · omega

/-- With a pattern for whole texts there is the pattern that it is made of. -/
theorem exists_parse?_wholeText (ignoreCase : Bool) {source : String} (hvalid : isValid source = true)
    (hwhole : isValid (wholeText source) = true) :
    ∃ p, parse? ignoreCase source = some p ∧
      parse? ignoreCase (wholeText source) =
        some (.seq (.anchor .textStart) (.seq p (.anchor .textEnd))) := by
  obtain ⟨p, hp⟩ := exists_parse?_of_isValid ignoreCase hvalid
  obtain ⟨whole, hread⟩ := exists_parse?_of_isValid ignoreCase hwhole
  obtain ⟨-, -, rfl⟩ := (parse?_wholeText hp whole).1 hread
  exact ⟨p, hp, hread⟩

end CardQuery.Regex
