/-
**Patterns before a closing parenthesis.**

Main results:

* `step_extended` — **a construct is read before `closing` as at the end of the pattern**;
* `run_extended` — so is a whole pattern, up to `closing` itself.
-/

import CardQuery.Proofs.Regex.Extended.Class

set_option autoImplicit false

namespace CardQuery.Regex

open CardQuery.Unicode

variable {f : Flags} {c : Char} {s s' r : List Char}

/-! ### Groups -/

theorem scanGroupName_extended (h : Extended s s') :
    Transfers (Both Eq Extended) (scanGroupName s) (scanGroupName s') := by
  cases h with
  | hidden => exact .none
  | kept =>
      cases hs : s.dropWhile (· ≠ '>') with
      | nil =>
          simp only [scanGroupName, hs]
          exact .none
      | cons c rest =>
          obtain ⟨happend, htake⟩ := dropWhile_append_of_cons hs closing
          by_cases hc : c = '>'
          · subst hc
            simp only [scanGroupName, hs, happend, htake]
            cases s.takeWhile (· ≠ '>') with
            | nil => exact .none
            | cons first others => exact .ite (.leaves _ (.kept rest)) .none
          · simp only [scanGroupName, hs, List.cons.injEq, hc, false_and, false_implies,
              implies_true]
            exact .none

theorem openNamed_extended (st : State) (h : Extended s s') :
    Transfers (Both Eq Extended) (openNamed st s) (openNamed st s') := by
  refine .bind (scanGroupName_extended h) ?_
  rintro ⟨name, rest⟩ ⟨_, rest'⟩ ⟨rfl, hrest⟩
  exact .guarded (fun hname => hname) (.leaves _ hrest)

theorem scanFlags_extended (items : List Char) (h : Extended s s') :
    Transfers (Both Eq Extended) (scanFlags f items s) (scanFlags f items s') := by
  induction s generalizing f items s' with
  | nil => exact .none
  | cons c s ih =>
      obtain ⟨s', rfl, hrest⟩ := h.cons_inv
      rw [scanFlags, scanFlags]
      refine .ite (.ite .none (.leaves _ h)) (.ite .none (.ite (ih _ hrest) ?_))
      cases f.set? c (!items.contains '-') with
      | none => exact .none
      | some f => exact ih _ hrest

theorem isPrefixOf_extended {opening : List Char} (hno : ')' ∉ opening) (h : Extended s s') :
    opening.isPrefixOf s' = opening.isPrefixOf s := by
  induction opening generalizing s s' with
  | nil => rw [List.isPrefixOf_nil_left, List.isPrefixOf_nil_left]
  | cons d opening ih =>
      simp only [List.mem_cons, not_or] at hno
      cases s with
      | nil =>
          rcases h.nil_inv with rfl | rfl
          · simp [closing, List.isPrefixOf, Ne.symm hno.1]
          · rfl
      | cons c s =>
          obtain ⟨s', rfl, hrest⟩ := h.cons_inv
          rw [List.isPrefixOf, List.isPrefixOf, ih hno.2 hrest]

theorem after?_extended {opening : List Char} (hno : ')' ∉ opening) (h : Extended s s') :
    (after? opening s = none ∧ after? opening s' = none) ∨
      ∃ r r', Extended r r' ∧ after? opening s = some r ∧ after? opening s' = some r' := by
  have hsame := isPrefixOf_extended hno h
  cases hp : opening.isPrefixOf s with
  | false => exact Or.inl ⟨by simp [after?, hp], by simp [after?, hsame, hp]⟩
  | true =>
      refine Or.inr ⟨s.drop opening.length, s'.drop opening.length, ?_, by simp [after?, hp],
        by simp [after?, hsame, hp]⟩
      cases h with
      | hidden =>
          rw [List.drop_nil]
          exact .hidden
      | kept =>
          obtain ⟨r, rfl⟩ := List.isPrefixOf_iff_prefix.1 hp
          rw [List.append_assoc, List.drop_left, List.drop_left]
          exact .kept r

/-- A directive or a group with flags, after the question mark. -/
def flagGroup (st : State) (s : List Char) : Option (State × List Char) :=
  match scanFlags st.flags [] s with
  | some (list, ':' :: rest) => some (st.openGroup list.flags, rest)
  | some (list, _ :: rest) =>
    if list.items.isEmpty then none
    else some ({ st with flags := list.flags }.push .directive, rest)
  | _ => none

theorem flagGroup_extended (st : State) (h : Extended s s') :
    Transfers (Both Eq Extended) (flagGroup st s) (flagGroup st s') := by
  unfold flagGroup
  cases hf : scanFlags st.flags [] s with
  | none => exact .none
  | some read =>
      obtain ⟨list, after⟩ := read
      obtain ⟨⟨_, after'⟩, ⟨rfl, hafter⟩, hf'⟩ := scanFlags_extended [] h _ hf
      rw [hf']
      cases after with
      | nil => exact .none
      | cons c rest =>
          obtain ⟨rest', heq, hrest⟩ := hafter.cons_inv
          cases heq
          by_cases hc : c = ':'
          · subst hc
            exact .leaves _ hrest
          · simp only
            exact .ite .none (.leaves _ hrest)

theorem scanGroup_extended (st : State) (h : Extended s s') :
    Transfers (Both Eq Extended) (scanGroup st s) (scanGroup st s') := by
  have hlayout := skipLayout_extended st.flags h
  unfold scanGroup
  generalize skipLayout st.flags s = s at hlayout ⊢
  generalize skipLayout st.flags s' = s' at hlayout ⊢
  simp only [List.any_cons, List.any_nil, isPrefixOf_extended (show ')' ∉ ['?', '='] by decide) hlayout,
    isPrefixOf_extended (show ')' ∉ ['?', '!'] by decide) hlayout,
    isPrefixOf_extended (show ')' ∉ ['?', '<', '='] by decide) hlayout,
    isPrefixOf_extended (show ')' ∉ ['?', '<', '!'] by decide) hlayout]
  -- looking around is refused; then the openings are told apart, the longest first
  refine .ite .none ?_
  rcases after?_extended (show ')' ∉ ['?', 'P', '<'] by decide) hlayout with
    ⟨hp, hp'⟩ | ⟨r, r', hr, hp, hp'⟩
  · simp only [hp, hp']
    rcases after?_extended (show ')' ∉ ['?', '<'] by decide) hlayout with
      ⟨ha, ha'⟩ | ⟨r, r', hr, ha, ha'⟩
    · simp only [ha, ha']
      rcases after?_extended (show ')' ∉ ['?'] by decide) hlayout with
        ⟨hq, hq'⟩ | ⟨r, r', hr, hq, hq'⟩
      · simp only [hq, hq']
        exact .leaves _ hlayout
      · simp only [hq, hq']
        exact flagGroup_extended st hr
    · simp only [ha, ha']
      exact openNamed_extended st hr
  · simp only [hp, hp']
    exact openNamed_extended st hr

theorem scanCountDigits_extended {fuel fuel' : Nat} (hle : fuel ≤ fuel') (value : Option Nat)
    (h : Extended s s') :
    Transfers (Both Eq Extended) (scanCountDigits f fuel value s)
      (scanCountDigits f fuel' value s') := by
  induction fuel generalizing value fuel' s s' with
  | zero => exact .none
  | succ fuel ih =>
      obtain ⟨fuel', rfl⟩ := Nat.exists_eq_succ_of_ne_zero (show fuel' ≠ 0 by omega)
      cases s with
      | nil =>
          rcases h.nil_inv with rfl | rfl
          · exact .map_value value fun _ => ⟨rfl, h⟩
          · exact .map_value value fun _ => ⟨rfl, h⟩
      | cons c s =>
          obtain ⟨s', rfl, hrest⟩ := h.cons_inv
          rw [scanCountDigits, scanCountDigits]
          exact .ite (ih (by omega) _ (skipLayout_extended f hrest))
            (.map_value value fun _ => ⟨rfl, h⟩)

theorem scanCount_extended (h : Extended s s') :
    Transfers (Both Eq Extended) (scanCount f s) (scanCount f s') := by
  have hblank := dropWhile_extended (show isBlank ')' = false by decide) h
  refine .bind (scanCountDigits_extended (Nat.succ_le_succ hblank.length_le) none hblank) ?_
  rintro ⟨value, rest⟩ ⟨_, rest'⟩ ⟨rfl, hrest⟩
  refine .guarded (fun hfits => hfits) (.leaves _ ?_)
  exact skipLayout_extended f (dropWhile_extended (by decide) hrest)

theorem scanBounds_extended (h : Extended s s') :
    Transfers (Both Eq (Both Eq Extended)) (scanBounds f s) (scanBounds f s') := by
  refine .bind (scanCount_extended (skipLayout_extended f h)) ?_
  rintro ⟨least, rest⟩ ⟨_, rest'⟩ ⟨rfl, hrest⟩
  simp only
  cases rest with
  | nil => exact .none
  | cons c rest =>
      obtain ⟨rest', rfl, hext⟩ := hrest.cons_inv
      by_cases hc : c = '\x7d'
      · subst hc
        exact .some ⟨rfl, rfl, hext⟩
      · by_cases hcomma : c = ','
        · subst hcomma
          have hlayout := skipLayout_extended f hext
          cases hs : skipLayout f rest with
          | nil =>
              -- a count that is missing altogether is none
              rw [hs] at hlayout
              simp only [hs]
              intro a ha
              simp [scanCount, scanCountDigits] at ha
          | cons d inner =>
              rw [hs] at hlayout
              obtain ⟨inner', hs', hinner⟩ := hlayout.cons_inv
              rw [hs'] at hlayout
              by_cases hd : d = '\x7d'
              · subst hd
                simp only [hs, hs']
                exact .some ⟨rfl, rfl, hinner⟩
              · simp only [hs, hs', List.cons.injEq, hd, false_and, false_implies, implies_true]
                refine .bind (scanCount_extended hlayout) ?_
                rintro ⟨most, after⟩ ⟨_, after'⟩ ⟨rfl, hafter⟩
                refine .guarded (fun hle => hle) ?_
                cases after with
                | nil => exact .none
                | cons e after =>
                    obtain ⟨after', heq, hrest⟩ := hafter.cons_inv
                    cases heq
                    by_cases he : e = '\x7d'
                    · subst he
                      exact .some ⟨rfl, rfl, hrest⟩
                    · simp only [List.cons.injEq, he, false_and, false_implies, implies_true]
                      exact .none
        · simp only [List.cons.injEq, hc, hcomma, false_and, false_implies, implies_true]
          exact .none

/-! ### Constructs -/

theorem skipLazy_extended (h : Extended s s') : Extended (skipLazy s) (skipLazy s') := by
  cases s with
  | nil =>
      rcases h.nil_inv with rfl | rfl
      · exact h
      · exact h
  | cons c s =>
      obtain ⟨s', rfl, hrest⟩ := h.cons_inv
      by_cases hc : c = '?'
      · subst hc
        exact hrest
      · simp only [skipLazy, List.cons.injEq, hc, false_and, false_implies, implies_true]
        exact h

/-- **A construct is read before `closing` as at the end of the pattern.** -/
theorem step_extended (st : State) (h : Extended s s') :
    Transfers (Both Eq Extended) (step st s) (step st s') := by
  cases s with
  | nil => exact .none
  | cons c rest =>
      obtain ⟨rest', rfl, hrest⟩ := h.cons_inv
      have hlazy := skipLazy_extended hrest
      -- one reader for each construct, in the order in which `step` tries them
      unfold step
      refine .ite (scanGroup_extended st hrest) (.ite (.map_value _ fun _ => ⟨rfl, hrest⟩)
        (.ite (.leaves _ hrest) (.ite ?_ (.ite (.map_value _ fun _ => ⟨rfl, hlazy⟩)
          (.ite (.map_value _ fun _ => ⟨rfl, hlazy⟩) (.ite (.map_value _ fun _ => ⟨rfl, hlazy⟩)
            (.ite ?_ (.ite ?_ (.ite (.map_value _ fun _ => ⟨rfl, hrest⟩)
              (.ite (.leaves _ hrest) (.ite (.leaves _ hrest)
                (.map_value _ fun _ => ⟨rfl, hrest⟩))))))))))))
      · -- a class
        refine .map (scanBrackets_extended hrest) ?_
        rintro ⟨members, after⟩ ⟨_, after'⟩ ⟨rfl, hafter⟩
        exact ⟨rfl, hafter⟩
      · -- bounds of a repetition
        refine .bind (scanBounds_extended hrest) ?_
        rintro ⟨least, most, after⟩ ⟨_, _, after'⟩ ⟨rfl, rfl, hafter⟩
        exact .bind_value _ fun st' =>
          .leaves st' (skipLazy_extended (skipLayout_extended st'.flags hafter))
      · -- an escape
        refine .bind (scanEscape_extended hrest) ?_
        rintro ⟨e, after⟩ ⟨_, after'⟩ ⟨rfl, hafter⟩
        exact .bind_value _ fun st' => .leaves st' hafter

/-! ### Groups around a pattern -/

/-- The state with further groups around those that are open. -/
def State.under (base : List Frame) (st : State) : State := { st with frames := st.frames ++ base }

/-- The second state is the first with further groups around. -/
def Under (base : List Frame) (st st' : State) : Prop := st' = st.under base

@[simp] theorem State.flags_under (base : List Frame) (st : State) :
    (st.under base).flags = st.flags := rfl

theorem State.under_nil (st : State) : st.under [] = st := by
  rw [under, List.append_nil]

theorem closeGroup?_under (base : List Frame) (st : State) :
    Transfers (Under base) st.closeGroup? (st.under base).closeGroup? := by
  cases st with
  | mk frames branches items flags names =>
      cases frames with
      | nil => exact .none
      | cons frame frames => exact .some rfl

theorem openNamed_under (base : List Frame) (st : State) (s : List Char) :
    Transfers (Both (Under base) Eq) (openNamed st s) (openNamed (st.under base) s) :=
  .bind_value (scanGroupName s) fun _ => .guarded (fun hname => hname) (.some ⟨rfl, rfl⟩)

theorem flagGroup_under (base : List Frame) (st : State) (s : List Char) :
    Transfers (Both (Under base) Eq) (flagGroup st s) (flagGroup (st.under base) s) := by
  unfold flagGroup
  rw [State.flags_under]
  cases scanFlags st.flags [] s with
  | none => exact .none
  | some read =>
      obtain ⟨list, after⟩ := read
      cases after with
      | nil => exact .none
      | cons c rest =>
          by_cases hc : c = ':'
          · subst hc
            exact .some ⟨rfl, rfl⟩
          · simp only
            exact .ite .none (.some ⟨rfl, rfl⟩)

theorem scanGroup_under (base : List Frame) (st : State) (s : List Char) :
    Transfers (Both (Under base) Eq) (scanGroup st s) (scanGroup (st.under base) s) := by
  unfold scanGroup
  rw [State.flags_under]
  refine .ite .none ?_
  cases after? ['?', 'P', '<'] (skipLayout st.flags s) with
  | some rest => exact openNamed_under base st rest
  | none =>
      cases after? ['?', '<'] (skipLayout st.flags s) with
      | some rest => exact openNamed_under base st rest
      | none =>
          cases after? ['?'] (skipLayout st.flags s) with
          | some rest => exact flagGroup_under base st rest
          | none => exact .some ⟨rfl, rfl⟩

theorem repeatLast?_under (base : List Frame) (st : State) (least : Nat) (most : Option Nat) :
    Transfers (Under base) (st.repeatLast? least most) ((st.under base).repeatLast? least most) := by
  cases st with
  | mk frames branches items flags names =>
      cases items with
      | nil => exact .none
      | cons item items =>
          cases item with
          | atom p depth => exact .some rfl
          | directive => exact .none

theorem pushEscape_under (base : List Frame) (st : State) (e : Escape) :
    Transfers (Under base) (pushEscape st e) (pushEscape (st.under base) e) := by
  cases e with
  | literal c byte => exact .map_value (st.flags.literal? c byte) fun _ => rfl
  | anchor a => exact .some rfl
  | charSet s => exact .some rfl

/-- A construct that closes none of the groups around is read as without them. -/
theorem step_under (base : List Frame) (st : State) (s : List Char) :
    Transfers (Both (Under base) Eq) (step st s) (step (st.under base) s) := by
  cases s with
  | nil => exact .none
  | cons c rest =>
      have hrepeat (least : Nat) (most : Option Nat) (after : List Char) :
          Transfers (Both (Under base) Eq)
            ((st.repeatLast? least most).map fun st => (st, skipLazy after))
            (((st.under base).repeatLast? least most).map fun st => (st, skipLazy after)) :=
        .map (repeatLast?_under base st least most) fun _ _ hunder => ⟨hunder, rfl⟩
      unfold step
      refine .ite (scanGroup_under base st rest)
        (.ite (.map (closeGroup?_under base st) fun _ _ hunder => ⟨hunder, rfl⟩)
          (.ite (.some ⟨rfl, rfl⟩) (.ite (.map_value (scanBrackets st.flags rest) fun _ => ⟨rfl, rfl⟩)
            (.ite (hrepeat 0 (some 1) rest) (.ite (hrepeat 0 none rest) (.ite (hrepeat 1 none rest)
              (.ite ?_ (.ite ?_ (.ite (.map_value st.flags.anyChar? fun _ => ⟨rfl, rfl⟩)
                (.ite (.some ⟨rfl, rfl⟩) (.ite (.some ⟨rfl, rfl⟩)
                  (.map_value (st.flags.literal? c false) fun _ => ⟨rfl, rfl⟩))))))))))))
      · -- bounds of a repetition
        refine .bind_value (scanBounds st.flags rest) fun bounds => ?_
        refine .bind (repeatLast?_under base st bounds.1 bounds.2.1) ?_
        rintro st' _ rfl
        exact .some ⟨rfl, rfl⟩
      · -- an escape
        refine .bind_value (scanEscape st.flags rest) fun read => ?_
        refine .bind (pushEscape_under base st read.1) ?_
        rintro st' _ rfl
        exact .some ⟨rfl, rfl⟩

/-! ### Runs -/

theorem run_finished {st : State} (fuel : Nat) (h : skipLayout st.flags s = []) :
    run (fuel + 1) st s = some st := by
  rw [run, h]

theorem run_next {st st' : State} (fuel : Nat) {c : Char} {rest after : List Char}
    (h : skipLayout st.flags s = c :: rest) (hstep : step st (c :: rest) = some (st', after)) :
    run (fuel + 1) st s = run fuel st' after := by
  simp only [run, h, hstep]

theorem run_refused {st : State} (fuel : Nat) {c : Char} {rest : List Char}
    (h : skipLayout st.flags s = c :: rest) (hstep : step st (c :: rest) = none) :
    run (fuel + 1) st s = none := by
  simp only [run, h, hstep]

/-- A run that succeeds is over, or it reads one construct and goes on. -/
theorem run_cases {fuel : Nat} {st last : State} (h : run (fuel + 1) st s = some last) :
    (skipLayout st.flags s = [] ∧ st = last) ∨
      ∃ c rest st' after, skipLayout st.flags s = c :: rest ∧
        step st (c :: rest) = some (st', after) ∧ run fuel st' after = some last := by
  cases hs : skipLayout st.flags s with
  | nil =>
      rw [run_finished fuel hs] at h
      cases h
      exact Or.inl ⟨rfl, rfl⟩
  | cons c rest =>
      refine Or.inr ⟨c, rest, ?_⟩
      cases hstep : step st (c :: rest) with
      | none =>
          rw [run_refused fuel hs hstep] at h
          contradiction
      | some read =>
          obtain ⟨st', after⟩ := read
          rw [run_next fuel hs hstep] at h
          exact ⟨st', after, rfl, rfl, h⟩

/-! ### Whole patterns -/

theorem extended_closing : Extended [] closing := .kept []

theorem skipLayout_closing (f : Flags) (h : Extended [] s) : skipLayout f s = s := by
  rcases h.nil_inv with rfl | rfl
  · cases hv : f.verbose <;> simp only [skipLayout, hv] <;> rfl
  · cases hv : f.verbose <;> simp only [skipLayout, hv] <;> rfl

/-- **A whole pattern is read before `closing` as at the end of the text**, up to `closing` itself
unless a comment has taken it in; and so it is with groups around. -/
theorem run_extended {fuel : Nat} {st last : State} (h : Extended s s')
    (hrun : run fuel st s = some last) :
    ∃ r', Extended [] r' ∧ ∀ (base : List Frame) (extra : Nat), ∃ k, extra < k ∧
      run (fuel + extra) (st.under base) s' = run k (last.under base) r' := by
  induction fuel generalizing st s s' with
  | zero => contradiction
  | succ fuel ih =>
      have hlayout := skipLayout_extended st.flags h
      rcases run_cases hrun with ⟨hs, rfl⟩ | ⟨c, rest, st', after, hs, hstep, hrun⟩
      · -- the pattern is over, and only `closing` may be left of the longer text
        rw [hs] at hlayout
        refine ⟨_, hlayout, fun base extra => ⟨fuel + extra + 1, by omega, ?_⟩⟩
        rw [Nat.add_right_comm, run, run, State.flags_under, skipLayout_closing _ hlayout]
      · rw [hs] at hlayout
        obtain ⟨rest', hs', hrest⟩ := hlayout.cons_inv
        rw [hs'] at hlayout
        obtain ⟨⟨_, after'⟩, ⟨rfl, hafter⟩, hstep'⟩ := step_extended st hlayout _ hstep
        obtain ⟨r', hr', hall⟩ := ih hafter hrun
        refine ⟨r', hr', fun base extra => ?_⟩
        obtain ⟨⟨_, _⟩, ⟨rfl, rfl⟩, hunder⟩ := step_under base st _ _ hstep'
        obtain ⟨k, hk, heq⟩ := hall base extra
        refine ⟨k, hk, ?_⟩
        have hskip : skipLayout (st.under base).flags s' = c :: rest' := by
          rw [State.flags_under, hs']
        rw [Nat.add_right_comm, run_next _ hskip hunder]
        exact heq

end CardQuery.Regex
