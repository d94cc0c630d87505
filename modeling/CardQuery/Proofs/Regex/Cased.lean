/-
**Reading a pattern with case ignored.**

Whether case is ignored changes the sets of characters in a pattern, and nothing about how the pattern is
read: where constructs end, how deep they are and which flags follow.

Main definitions:

* `Flags.cased` — flags with or without case;
* `State.Alike` — states that differ only in characters and in whether case is ignored.

Main results:

* `step_alike` — **a construct is read alike whether or not case is ignored**;
* `run_alike` — so is a whole pattern.
-/

import CardQuery.Proofs.Regex.Extended.Step
import Mathlib.Data.List.Basic

set_option autoImplicit false

namespace CardQuery.Regex

open CardQuery.Unicode

/-- The flags with case ignored or not. -/
def Flags.cased (f : Flags) (ignoreCase : Bool) : Flags := { f with ignoreCase }

variable {f : Flags} (b : Bool)

/-! ### Readers that do not look at case -/

@[simp] theorem verbose_cased : (f.cased b).verbose = f.verbose := rfl

@[simp] theorem allScripts_cased : (f.cased b).allScripts = f.allScripts := rfl

@[simp] theorem skipLayout_cased (s : List Char) : skipLayout (f.cased b) s = skipLayout f s := rfl

@[simp] theorem peekAfter_cased (s : List Char) : peekAfter (f.cased b) s = peekAfter f s := rfl

@[simp] theorem scanHexDigits_cased (n value : Nat) (s : List Char) :
    scanHexDigits (f.cased b) n value s = scanHexDigits f n value s := by
  induction n generalizing value s with
  | zero => rfl
  | succ n ih =>
      cases s with
      | nil => rfl
      | cons c s => simp only [scanHexDigits, skipLayout_cased, ih]

@[simp] theorem scanHexBraces_cased (fuel : Nat) (value : Option Nat) (s : List Char) :
    scanHexBraces (f.cased b) fuel value s = scanHexBraces f fuel value s := by
  induction fuel generalizing value s with
  | zero => rfl
  | succ fuel ih =>
      cases s with
      | nil => rfl
      | cons c s => simp only [scanHexBraces, skipLayout_cased, ih]

@[simp] theorem scanCode_cased (digits : Nat) (s : List Char) :
    scanCode (f.cased b) digits s = scanCode f digits s := by
  simp only [scanCode, skipLayout_cased, scanHexBraces_cased, scanHexDigits_cased]

@[simp] theorem scanName_cased (fuel : Nat) (seen s : List Char) :
    scanName (f.cased b) fuel seen s = scanName f fuel seen s := by
  induction fuel generalizing seen s with
  | zero => rfl
  | succ fuel ih =>
      cases s with
      | nil => rfl
      | cons c s => simp only [scanName, skipLayout_cased, ih]

@[simp] theorem scanWord_cased (fuel : Nat) (seen s : List Char) :
    scanWord (f.cased b) fuel seen s = scanWord f fuel seen s := by
  induction fuel generalizing seen s with
  | zero => rfl
  | succ fuel ih =>
      cases s with
      | nil => rfl
      | cons c s => simp only [scanWord, skipLayout_cased, ih]

@[simp] theorem scanBoundary_cased (s : List Char) :
    scanBoundary (f.cased b) s = scanBoundary f s := by
  simp only [scanBoundary, skipLayout_cased, scanWord_cased, allScripts_cased]

@[simp] theorem scanHyphens_cased (fuel : Nat) (items : List Class) (s : List Char) :
    scanHyphens (f.cased b) fuel items s = scanHyphens f fuel items s := by
  induction fuel generalizing items s with
  | zero => rfl
  | succ fuel ih => simp only [scanHyphens, skipLayout_cased, ih]

@[simp] theorem scanOpening_cased (s : List Char) :
    scanOpening (f.cased b) s = scanOpening f s := by
  simp only [scanOpening, skipLayout_cased, scanHyphens_cased]
  rfl

@[simp] theorem scanCountDigits_cased (fuel : Nat) (value : Option Nat) (s : List Char) :
    scanCountDigits (f.cased b) fuel value s = scanCountDigits f fuel value s := by
  induction fuel generalizing value s with
  | zero => rfl
  | succ fuel ih => simp only [scanCountDigits, skipLayout_cased, ih]

@[simp] theorem scanCount_cased (s : List Char) : scanCount (f.cased b) s = scanCount f s := by
  simp only [scanCount, skipLayout_cased, scanCountDigits_cased]

@[simp] theorem scanBounds_cased (s : List Char) : scanBounds (f.cased b) s = scanBounds f s := by
  simp only [scanBounds, skipLayout_cased, scanCount_cased]

/-! ### Readers of characters and sets -/

/-- Escapes that differ at most in a set. -/
inductive Escape.Alike : Escape → Escape → Prop
  | literal (c : Char) (byte : Bool) : Alike (.literal c byte) (.literal c byte)
  | anchor (a : Anchor) : Alike (.anchor a) (.anchor a)
  | charSet (s t : CharSet) : Alike (.charSet s) (.charSet t)

/-- A set that there is, whatever it has. -/
def AnySet (_ _ : CharSet) : Prop := True

theorem literal?_cased (c : Char) (byte : Bool) :
    Transfers AnySet (f.literal? c byte) ((f.cased b).literal? c byte) :=
  .ite (.some trivial) (.ite (.some trivial) (.ite .none (.some trivial)))

theorem property?_cased (p : Property) (negated : Bool) :
    Transfers AnySet (f.property? p negated) ((f.cased b).property? p negated) :=
  .ite (.some trivial) .none

theorem letterClass?_cased (name : Char) : (f.cased b).letterClass? name = f.letterClass? name := rfl

theorem named?_cased (ranges : List (Char × Char)) (negated : Bool) :
    Transfers AnySet (f.named? ranges negated) ((f.cased b).named? ranges negated) := by
  unfold Flags.named?
  refine .ite (.some trivial) (.ite .none ?_)
  cases f.ignoreCase <;> cases b <;> exact .some trivial

theorem range?_cased (low high : Char) :
    Transfers AnySet (f.range? low high) ((f.cased b).range? low high) :=
  .ite (.some trivial) (.ite (.some trivial) .none)

theorem bracketed?_cased (s t : CharSet) (negated : Bool) :
    Transfers AnySet (f.bracketed? s negated) ((f.cased b).bracketed? t negated) :=
  .ite (.some trivial) (.ite .none (.some trivial))

theorem scanProperty_cased (negated : Bool) (s : List Char) :
    Transfers (Both Escape.Alike Eq) (scanProperty f negated s)
      (scanProperty (f.cased b) negated s) := by
  unfold scanProperty
  rw [skipLayout_cased]
  cases skipLayout f s with
  | nil => exact .none
  | cons c rest =>
      by_cases hc : c = '\x7b'
      · subst hc
        simp only [skipLayout_cased, scanName_cased]
        refine .bind_value _ fun name => .bind_value _ fun p => .bind (property?_cased b p.1 _) ?_
        intro s t _
        exact .some ⟨.charSet s t, rfl⟩
      · simp only [skipLayout_cased]
        refine .ite .none (.bind_value _ fun p => .bind (property?_cased b p negated) ?_)
        intro s t _
        exact .some ⟨.charSet s t, rfl⟩

theorem Escape.Alike.refl (e : Escape) : Alike e e := by
  cases e with
  | literal c byte => exact .literal c byte
  | anchor a => exact .anchor a
  | charSet s => exact .charSet s s

theorem scanEscape_cased (s : List Char) :
    Transfers (Both Escape.Alike Eq) (scanEscape f s) (scanEscape (f.cased b) s) := by
  have hrefl (x : Option (Escape × List Char)) : Transfers (Both Escape.Alike Eq) x x :=
    fun read hread => ⟨read, ⟨.refl read.1, rfl⟩, hread⟩
  cases s with
  | nil => exact .none
  | cons c rest =>
      unfold scanEscape
      simp only [scanCode_cased, letterClass?_cased, scanBoundary_cased, allScripts_cased]
      exact .ite .none (.ite (hrefl _) (.ite (hrefl _) (.ite (hrefl _)
        (.ite (scanProperty_cased b false rest) (.ite (scanProperty_cased b true rest)
          (.ite (hrefl _) (hrefl _)))))))

theorem scanClassItem_cased (s : List Char) :
    Transfers (Both Escape.Alike Eq) (scanClassItem f s) (scanClassItem (f.cased b) s) := by
  cases s with
  | nil => exact .none
  | cons c rest =>
      by_cases hc : c = '\\'
      · subst hc
        exact scanEscape_cased b rest
      · simp only [scanClassItem]
        exact .some ⟨.literal c false, rfl⟩

theorem classItem?_cased {e e' : Escape} (h : Escape.Alike e e') :
    Transfers AnySet (classItem? f e) (classItem? (f.cased b) e') := by
  cases h with
  | literal c byte => exact .ite .none (range?_cased b c c)
  | anchor a => exact .none
  | charSet s t => exact .some trivial

/-! ### Classes -/

/-- Classes that are written equally deep. -/
def Class.Alike (c c' : Class) : Prop := c.depth = c'.depth

/-- Frames of a class that differ only in sets. -/
inductive ClassFrame.Alike : ClassFrame → ClassFrame → Prop
  | opened {items items' : List Class} (negated : Bool) (h : List.Forall₂ Class.Alike items items') :
      Alike (.opened items negated) (.opened items' negated)
  | operation (op : ClassOp) {left left' : Class} (h : Class.Alike left left') :
      Alike (.operation op left) (.operation op left')

theorem scanClassRange_cased (s : List Char) :
    Transfers (Both AnySet Eq) (scanClassRange f s) (scanClassRange (f.cased b) s) := by
  unfold scanClassRange
  refine .bind (scanClassItem_cased b s) ?_
  rintro ⟨first, rest⟩ ⟨first', _⟩ ⟨hfirst, rfl⟩
  simp only [skipLayout_cased, peekAfter_cased]
  cases skipLayout f rest with
  | nil => exact .none
  | cons c after =>
      refine .ite (.bind (classItem?_cased b hfirst) fun _ _ _ => .some ⟨trivial, rfl⟩) ?_
      refine .guarded (fun hne => hne) (.bind (scanClassItem_cased b _) ?_)
      rintro ⟨last, rest⟩ ⟨last', _⟩ ⟨hlast, rfl⟩
      cases hfirst with
      | anchor a => exact .none
      | charSet s t => exact .none
      | literal low byte =>
          cases hlast with
          | anchor a => exact .none
          | charSet s t => exact .none
          | literal high byte =>
              refine .guarded (fun hle => hle) ?_
              exact .bind (range?_cased b low high) fun _ _ _ => .some ⟨trivial, rfl⟩

theorem depths_alike {items items' : List Class} (h : List.Forall₂ Class.Alike items items') :
    items.map (·.depth) = items'.map (·.depth) := by
  induction h with
  | nil => rfl
  | cons h _ ih => rw [List.map_cons, List.map_cons, ih, h]

theorem unionClass_alike {items items' : List Class} (h : List.Forall₂ Class.Alike items items') :
    Class.Alike (unionClass items) (unionClass items') := by
  cases h with
  | nil => rfl
  | cons h₁ h =>
      cases h with
      | nil => exact h₁
      | cons h₂ h =>
          have hdepths := depths_alike (.cons h₁ (.cons h₂ h))
          simp only [Class.Alike, unionClass, hdepths]

theorem finishOperation_alike {stack stack' : List ClassFrame}
    (h : List.Forall₂ ClassFrame.Alike stack stack') {right right' : Class}
    (hright : Class.Alike right right') :
    Both Class.Alike (List.Forall₂ ClassFrame.Alike) (finishOperation f stack right)
      (finishOperation (f.cased b) stack' right') := by
  cases h with
  | nil => exact ⟨hright, .nil⟩
  | cons hframe h =>
      cases hframe with
      | opened negated hitems => exact ⟨hright, .cons (.opened negated hitems) h⟩
      | operation op hleft =>
          refine ⟨?_, h⟩
          simp only [finishOperation, ClassOp.apply, Class.Alike]
          rw [hleft, hright]

theorem alike_refl (items : List Class) : List.Forall₂ Class.Alike items items := by
  induction items with
  | nil => exact .nil
  | cons item items ih => exact .cons rfl ih

theorem scanClass_cased (fuel : Nat) {stack stack' : List ClassFrame} {items items' : List Class}
    (hstack : List.Forall₂ ClassFrame.Alike stack stack')
    (hitems : List.Forall₂ Class.Alike items items') (s : List Char) :
    Transfers (Both Class.Alike Eq) (scanClass f fuel stack items s)
      (scanClass (f.cased b) fuel stack' items' s) := by
  induction fuel generalizing stack stack' items items' s with
  | zero => exact .none
  | succ fuel ih =>
      have hset (members members' : CharSet) : Class.Alike ⟨members, 0⟩ ⟨members', 0⟩ := rfl
      rw [scanClass, scanClass, skipLayout_cased]
      have hfinish := finishOperation_alike (f := f) b hstack (unionClass_alike hitems)
      generalize finishOperation f stack (unionClass items) = finished at hfinish ⊢
      generalize finishOperation (f.cased b) stack' (unionClass items') = finished' at hfinish ⊢
      obtain ⟨left, stack₁⟩ := finished
      obtain ⟨left', stack₁'⟩ := finished'
      obtain ⟨hwhole, hrest⟩ := hfinish
      split
      · exact .none
      · next rest _ =>
        -- an opening bracket, of a named class or of a class inside this one
        rw [scanOpening_cased]
        cases scanNamedClass rest with
        | some named =>
            obtain ⟨ranges, negated, after⟩ := named
            intro r hr
            cases hnamed : f.named? ranges negated with
            | none => simp [hnamed] at hr
            | some members =>
                obtain ⟨members', -, hnamed'⟩ := named?_cased b ranges negated _ hnamed
                simp only [hnamed] at hr
                simp only [hnamed']
                exact ih hstack (.cons (hset members members') hitems) after r hr
        | none =>
            cases scanOpening f rest with
            | none => exact .none
            | some opening =>
                obtain ⟨negated, inner, after⟩ := opening
                exact ih (.cons (.opened negated hitems) hstack) (alike_refl inner) after
      · next rest _ =>
        -- a closing bracket ends the innermost class, and perhaps the whole of it
        cases hrest with
        | nil => exact .none
        | cons hframe hrest =>
            cases hframe with
            | operation op hleft => exact .none
            | @opened outer outer' negated houter =>
                intro r hr
                simp only at hr ⊢
                cases hclosed : f.bracketed? left.members negated with
                | none => simp [hclosed] at hr
                | some members =>
                    obtain ⟨members', -, hclosed'⟩ :=
                      bracketed?_cased b left.members left'.members negated _ hclosed
                    simp only [hclosed] at hr
                    simp only [hclosed']
                    have hclass : Class.Alike ⟨members, left.depth + 1⟩ ⟨members', left'.depth + 1⟩ :=
                      congrArg (· + 1) hwhole
                    cases hrest with
                    | nil =>
                        cases hr
                        exact ⟨(⟨members', left'.depth + 1⟩, rest), ⟨hclass, rfl⟩, rfl⟩
                    | cons hframe hrest =>
                        exact ih (.cons hframe hrest) (.cons hclass houter) rest r hr
      -- the three operations wait for what stands on their right
      · exact ih (.cons (.operation _ hwhole) hrest) .nil _
      · exact ih (.cons (.operation _ hwhole) hrest) .nil _
      · exact ih (.cons (.operation _ hwhole) hrest) .nil _
      · intro r hr
        cases hrange : scanClassRange f (skipLayout f s) with
        | none => simp [hrange] at hr
        | some read =>
            obtain ⟨members, after⟩ := read
            obtain ⟨⟨members', _⟩, ⟨-, rfl⟩, hrange'⟩ := scanClassRange_cased b _ _ hrange
            simp only [hrange] at hr
            simp only [hrange']
            exact ih hstack (.cons (hset members members') hitems) after r hr

theorem scanBrackets_cased (s : List Char) :
    Transfers (Both Class.Alike Eq) (scanBrackets f s) (scanBrackets (f.cased b) s) := by
  unfold scanBrackets
  rw [scanOpening_cased]
  refine .bind_value _ fun opening => ?_
  exact scanClass_cased b _ (.cons (.opened opening.1 .nil) .nil) (alike_refl _) _

/-! ### States -/

/-- Flags that differ at most in whether case is ignored. -/
def Flags.Alike (f f' : Flags) : Prop := ∃ b, f' = f.cased b

/-- Items that are written equally deep. -/
inductive Item.Alike : Item → Item → Prop
  | atom (p p' : Pattern) (d : Nat) : Alike (.atom p d) (.atom p' d)
  | directive : Alike .directive .directive

/-- Groups that were opened in states that are alike. -/
structure Frame.Alike (a a' : Frame) : Prop where
  branches : List.Forall₂ Item.Alike a.branches a'.branches
  items : List.Forall₂ Item.Alike a.items a'.items
  flags : a.flags.Alike a'.flags

/-- States that differ only in characters and in whether case is ignored. -/
structure State.Alike (st st' : State) : Prop where
  frames : List.Forall₂ Frame.Alike st.frames st'.frames
  branches : List.Forall₂ Item.Alike st.branches st'.branches
  items : List.Forall₂ Item.Alike st.items st'.items
  flags : st.flags.Alike st'.flags
  names : st.names = st'.names

variable {st st' : State}

theorem Item.Alike.depth_eq {i i' : Item} (h : Item.Alike i i') : i.depth = i'.depth := by
  cases h <;> rfl

theorem depths_items {items items' : List Item} (h : List.Forall₂ Item.Alike items items') :
    items.map Item.depth = items'.map Item.depth := by
  induction h with
  | nil => rfl
  | cons h _ ih => rw [List.map_cons, List.map_cons, ih, h.depth_eq]

theorem alternative_alike {items items' : List Item} (h : List.Forall₂ Item.Alike items items') :
    Item.Alike (alternative items) (alternative items') := by
  unfold alternative
  rw [depths_items h]
  exact .atom _ _ _

namespace State.Alike

theorem content (h : State.Alike st st') : Item.Alike st.content st'.content := by
  have hdepths := depths_items (.cons (alternative_alike h.items) h.branches)
  unfold State.content
  simp only [List.map_reverse, hdepths]
  exact .atom _ _ _

theorem push (h : State.Alike st st') {i i' : Item} (hi : Item.Alike i i') :
    State.Alike (st.push i) (st'.push i') :=
  ⟨h.frames, h.branches, .cons hi h.items, h.flags, h.names⟩

theorem openGroup (h : State.Alike st st') {inside inside' : Flags} (hf : inside.Alike inside') :
    State.Alike (st.openGroup inside) (st'.openGroup inside') :=
  ⟨.cons ⟨h.branches, h.items, h.flags⟩ h.frames, .nil, .nil, hf, h.names⟩

theorem nextBranch (h : State.Alike st st') : State.Alike st.nextBranch st'.nextBranch :=
  ⟨h.frames, .cons (alternative_alike h.items) h.branches, .nil, h.flags, h.names⟩

theorem closeGroup? (h : State.Alike st st') :
    Transfers State.Alike st.closeGroup? st'.closeGroup? := by
  have hcontent := h.content
  have hframes := h.frames
  unfold State.closeGroup?
  cases hst : st.frames with
  | nil => exact .none
  | cons frame frames =>
      rw [hst] at hframes
      cases hst' : st'.frames with
      | nil =>
          rw [hst'] at hframes
          contradiction
      | cons frame' frames' =>
          rw [hst'] at hframes
          cases hframes with
          | cons hframe hframes =>
              refine .some ⟨hframes, hframe.branches, .cons ?_ hframe.items, hframe.flags, h.names⟩
              rw [hcontent.depth_eq]
              exact .atom _ _ _

theorem repeatLast? (h : State.Alike st st') (least : Nat) (most : Option Nat) :
    Transfers State.Alike (st.repeatLast? least most) (st'.repeatLast? least most) := by
  have hitems := h.items
  unfold State.repeatLast?
  cases hst : st.items with
  | nil => exact .none
  | cons i items =>
      cases i with
      | directive => exact .none
      | atom p d =>
          rw [hst] at hitems
          cases hst' : st'.items with
          | nil =>
              rw [hst'] at hitems
              contradiction
          | cons i' items' =>
              rw [hst'] at hitems
              cases hitems with
              | cons hi hitems =>
                  cases hi
                  exact .some ⟨h.frames, h.branches, .cons (.atom _ _ _) hitems, h.flags, h.names⟩

end State.Alike

/-! ### Groups -/

theorem set?_cased (letter : Char) (value : Bool) :
    Transfers Flags.Alike (f.set? letter value) ((f.cased b).set? letter value) := by
  unfold Flags.set?
  split
  case h_1 => exact .some ⟨value, rfl⟩
  case h_8 => exact .none
  all_goals exact .some ⟨b, rfl⟩

/-- Directives with the same letters and flags that are alike. -/
def FlagList.Alike (l l' : FlagList) : Prop := l.items = l'.items ∧ l.flags.Alike l'.flags

theorem scanFlags_alike {f f' : Flags} (h : f.Alike f') (items s : List Char) :
    Transfers (Both FlagList.Alike Eq) (scanFlags f items s) (scanFlags f' items s) := by
  induction s generalizing f f' items with
  | nil => exact .none
  | cons c s ih =>
      rw [scanFlags, scanFlags]
      refine .ite (.ite .none (.some ⟨⟨rfl, h⟩, rfl⟩)) (.ite .none (.ite (ih h _) ?_))
      obtain ⟨b, rfl⟩ := h
      intro read hread
      cases hset : f.set? c (!items.contains '-') with
      | none =>
          rw [hset] at hread
          contradiction
      | some g =>
          obtain ⟨g', hg, hset'⟩ := set?_cased b c _ g hset
          simp only [hset] at hread
          simp only [hset']
          exact ih hg _ read hread

theorem openNamed_alike (h : State.Alike st st') (s : List Char) :
    Transfers (Both State.Alike Eq) (openNamed st s) (openNamed st' s) := by
  refine .bind_value (scanGroupName s) fun read => ?_
  refine .guarded (fun hnew => by rwa [← h.names]) (.some ⟨?_, rfl⟩)
  have hopened := h.openGroup h.flags
  exact ⟨hopened.frames, hopened.branches, hopened.items, hopened.flags, by rw [h.names]⟩

theorem flagGroup_alike (h : State.Alike st st') (s : List Char) :
    Transfers (Both State.Alike Eq) (flagGroup st s) (flagGroup st' s) := by
  intro read hread
  unfold flagGroup at hread ⊢
  cases hf : scanFlags st.flags [] s with
  | none => simp [hf] at hread
  | some flagged =>
      obtain ⟨list, after⟩ := flagged
      obtain ⟨⟨list', _⟩, ⟨⟨hitems, hflags⟩, rfl⟩, hf'⟩ := scanFlags_alike h.flags [] s _ hf
      rw [hf] at hread
      rw [hf']
      cases after with
      | nil => contradiction
      | cons c rest =>
          by_cases hc : c = ':'
          · subst hc
            cases hread
            exact ⟨(st'.openGroup list'.flags, rest), ⟨h.openGroup hflags, rfl⟩, rfl⟩
          · simp only at hread hitems ⊢
            rw [← hitems]
            split at hread
            · contradiction
            · next hne =>
              cases hread
              rw [if_neg hne]
              have hset : State.Alike { st with flags := list.flags }
                  { st' with flags := list'.flags } :=
                ⟨h.frames, h.branches, h.items, hflags, h.names⟩
              exact ⟨({ st' with flags := list'.flags }.push .directive, rest),
                ⟨hset.push .directive, rfl⟩, rfl⟩

theorem scanGroup_alike (h : State.Alike st st') (s : List Char) :
    Transfers (Both State.Alike Eq) (scanGroup st s) (scanGroup st' s) := by
  have hlayout : skipLayout st'.flags s = skipLayout st.flags s := by
    obtain ⟨b, hb⟩ := h.flags
    rw [hb, skipLayout_cased]
  unfold scanGroup
  rw [hlayout]
  refine .ite .none ?_
  cases after? ['?', 'P', '<'] (skipLayout st.flags s) with
  | some rest => exact openNamed_alike h rest
  | none =>
      cases after? ['?', '<'] (skipLayout st.flags s) with
      | some rest => exact openNamed_alike h rest
      | none =>
          cases after? ['?'] (skipLayout st.flags s) with
          | some rest => exact flagGroup_alike h rest
          | none => exact .some ⟨h.openGroup h.flags, rfl⟩

/-! ### Constructs -/

/-- The characters that do not stand for themselves. -/
def constructs : List Char := ['(', ')', '|', '[', '?', '*', '+', '\x7b', '\\', '.', '^', '$']

theorem step_literal {c : Char} (hc : c ∉ constructs) (st : State) (s : List Char) :
    step st (c :: s) = (st.flags.literal? c false).map fun set => (st.pushAtom (.one set), s) := by
  simp only [constructs, List.mem_cons, List.not_mem_nil, or_false, not_or] at hc
  simp only [step, hc, if_false]

theorem literal?_alike {f f' : Flags} (h : f.Alike f') (c : Char) (byte : Bool) :
    Transfers AnySet (f.literal? c byte) (f'.literal? c byte) := by
  obtain ⟨b, rfl⟩ := h
  exact literal?_cased b c byte

theorem pushEscape_alike (h : State.Alike st st') {e e' : Escape} (he : Escape.Alike e e') :
    Transfers State.Alike (pushEscape st e) (pushEscape st' e') := by
  cases he with
  | literal c byte => exact .map (literal?_alike h.flags c byte) fun _ _ _ => h.push (.atom _ _ 0)
  | anchor a => exact .some (h.push (.atom _ _ 0))
  | charSet s t => exact .some (h.push (.atom _ _ 0))

theorem step_escape_alike (h : State.Alike st st') (rest : List Char) :
    Transfers (Both State.Alike Eq) (step st ('\\' :: rest)) (step st' ('\\' :: rest)) := by
  have hescape (st : State) (rest : List Char) : step st ('\\' :: rest) =
      scanEscape st.flags rest >>= fun r => pushEscape st r.1 >>= fun st' => some (st', r.2) := rfl
  obtain ⟨b, hb⟩ := h.flags
  rw [hescape, hescape, hb]
  refine .bind (scanEscape_cased b rest) ?_
  rintro ⟨e, after⟩ ⟨e', _⟩ ⟨he, rfl⟩
  exact .bind (pushEscape_alike h he) fun _ _ hal => .some ⟨hal, rfl⟩

theorem skipLayout_alike {f f' : Flags} (h : f.Alike f') (s : List Char) :
    skipLayout f' s = skipLayout f s := by
  obtain ⟨b, rfl⟩ := h
  exact skipLayout_cased b s

theorem anyChar?_cased : (f.cased b).anyChar? = f.anyChar? := rfl

theorem step_bounds_alike (h : State.Alike st st') (rest : List Char) :
    Transfers (Both State.Alike Eq) (step st ('\x7b' :: rest)) (step st' ('\x7b' :: rest)) := by
  have hbounds (st : State) (rest : List Char) : step st ('\x7b' :: rest) =
      scanBounds st.flags rest >>= fun r => st.repeatLast? r.1 r.2.1 >>= fun st =>
        some (st, skipLazy (skipLayout st.flags r.2.2)) := rfl
  obtain ⟨b, hb⟩ := h.flags
  rw [hbounds, hbounds, hb, scanBounds_cased]
  refine .bind_value _ fun bounds => .bind (h.repeatLast? bounds.1 bounds.2.1) ?_
  intro st₁ st₁' hal
  rw [skipLayout_alike hal.flags]
  exact .some ⟨hal, rfl⟩

/-- **A construct is read alike whether or not case is ignored.** -/
theorem step_alike (h : State.Alike st st') (s : List Char) :
    Transfers (Both State.Alike Eq) (step st s) (step st' s) := by
  obtain ⟨b, hb⟩ := h.flags
  cases s with
  | nil => exact .none
  | cons c rest =>
      by_cases hc : c ∈ constructs
      · have hrepeat (least : Nat) (most : Option Nat) :
            Transfers (Both State.Alike Eq)
              ((st.repeatLast? least most).map fun st => (st, skipLazy rest))
              ((st'.repeatLast? least most).map fun st => (st, skipLazy rest)) :=
          .map (h.repeatLast? least most) fun _ _ hal => ⟨hal, rfl⟩
        simp only [constructs, List.mem_cons, List.not_mem_nil, or_false] at hc
        rcases hc with rfl | rfl | rfl | rfl | rfl | rfl | rfl | rfl | rfl | rfl | rfl | rfl
        · exact scanGroup_alike h rest
        · exact .map h.closeGroup? fun _ _ hal => ⟨hal, rfl⟩
        · exact .some ⟨h.nextBranch, rfl⟩
        · have hclass := scanBrackets_cased (f := st.flags) b rest
          rw [← hb] at hclass
          refine .map hclass fun r r' hr => ⟨h.push ?_, hr.2⟩
          rw [show r.1.depth = r'.1.depth from hr.1]
          exact .atom _ _ _
        · exact hrepeat 0 (some 1)
        · exact hrepeat 0 none
        · exact hrepeat 1 none
        · exact step_bounds_alike h rest
        · exact step_escape_alike h rest
        · show Transfers _ (st.flags.anyChar?.map _) (st'.flags.anyChar?.map _)
          rw [hb, anyChar?_cased]
          exact .map_value _ fun set => ⟨h.push (.atom _ _ 0), rfl⟩
        · exact .some ⟨h.push (.atom _ _ 0), rfl⟩
        · exact .some ⟨h.push (.atom _ _ 0), rfl⟩
      · rw [step_literal hc, step_literal hc]
        exact .map (literal?_alike h.flags c false) fun _ _ _ => ⟨h.push (.atom _ _ 0), rfl⟩

/-- **A pattern is read alike whether or not case is ignored.** -/
theorem run_alike (fuel : Nat) (h : State.Alike st st') (s : List Char) :
    Transfers State.Alike (run fuel st s) (run fuel st' s) := by
  intro last hrun
  induction fuel generalizing st st' s with
  | zero => contradiction
  | succ fuel ih =>
      rcases run_cases hrun with ⟨hskip, rfl⟩ | ⟨c, rest, st₁, after, hskip, hstep, hrun⟩
      · exact ⟨st', h, run_finished fuel ((skipLayout_alike h.flags s).trans hskip)⟩
      · obtain ⟨⟨st₁', _⟩, ⟨hal, rfl⟩, hstep'⟩ := step_alike h _ _ hstep
        rw [run_next fuel ((skipLayout_alike h.flags s).trans hskip) hstep']
        exact ih hal _ hrun

end CardQuery.Regex
