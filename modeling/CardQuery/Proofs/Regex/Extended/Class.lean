/-
**Classes before a closing parenthesis.**

Main results:

* `scanNamedClass_append` — whether a named class follows does not depend on what stands after the
  pattern;
* `scanBrackets_extended` — **a class is read before `closing` as at the end of the pattern**.
-/

import CardQuery.Proofs.Regex.Extended.Layout

set_option autoImplicit false

namespace CardQuery.Regex

open CardQuery.Unicode

variable {f : Flags} {c : Char} {s s' r : List Char}

/-! ### Items -/

theorem scanClassItem_extended (h : Extended s s') :
    Transfers (Both Eq Extended) (scanClassItem f s) (scanClassItem f s') := by
  cases s with
  | nil => exact .none
  | cons c rest =>
      obtain ⟨rest', rfl, hrest⟩ := h.cons_inv
      by_cases hc : c = '\\'
      · subst hc
        exact scanEscape_extended hrest
      · simp only [scanClassItem]
        exact .leaves _ hrest

theorem scanClassRange_extended (h : Extended s s') :
    Transfers (Both Eq Extended) (scanClassRange f s) (scanClassRange f s') := by
  unfold scanClassRange
  refine .bind (scanClassItem_extended h) ?_
  rintro ⟨first, rest⟩ ⟨_, rest'⟩ ⟨rfl, hrest⟩
  rcases skipLayout_cases f hrest with hs | ⟨c, after, after', hlayout, hafter, hs, hs'⟩
  · simp only [hs]
    exact .none
  · have hlayout' := skipLayout_extended f hafter
    -- a hyphen and what stands after it belong to the pattern, being no closing parenthesis
    simp only [hs, hs', peekAfter_extended hafter (show ']' ≠ ')' by decide),
      peekAfter_extended hafter (show '-' ≠ ')' by decide)]
    refine .ite (.bind_value (classItem? f first) fun _ => .leaves _ hlayout) ?_
    refine .guarded (fun hne => by simp [hlayout'.isEmpty_eq (by simpa using hne)]) ?_
    refine .bind (scanClassItem_extended hlayout') ?_
    rintro ⟨last, rest⟩ ⟨_, rest'⟩ ⟨rfl, hrest⟩
    cases first with
    | literal low _ =>
        cases last with
        | literal high _ =>
            refine .guarded (fun hle => hle) ?_
            exact .bind_value (f.range? low high) fun _ => .leaves _ hrest
        | _ => exact .none
    | _ => exact .none

/-- The named class after the colon and the negation. -/
def namedClass? (negated : Bool) (s : List Char) : Option (List (Char × Char) × Bool × List Char) :=
  match s.dropWhile (· ≠ ':') with
  | ':' :: ']' :: after =>
    (plainClass? (s.takeWhile (· ≠ ':'))).map fun ranges => (ranges, negated, after)
  | _ => none

/-- Neither the colon nor the bracket that ends the name of a class stands in `closing`. -/
theorem namedClass?_append (negated : Bool) (s : List Char) :
    namedClass? negated (s ++ closing) =
      (namedClass? negated s).map fun r => (r.1, r.2.1, r.2.2 ++ closing) := by
  cases hs : s.dropWhile (· ≠ ':') with
  | nil =>
      have happend : (s ++ closing).dropWhile (· ≠ ':') = [] := by
        rw [List.dropWhile_append, hs]
        rfl
      simp only [namedClass?, hs, happend, Option.map_none]
  | cons c after =>
      have hc : c = ':' := by
        have hhead := List.head?_dropWhile_not (fun d => decide (d ≠ ':')) s
        rw [hs] at hhead
        simpa using hhead
      obtain ⟨happend, htake⟩ := dropWhile_append_of_cons hs closing
      subst hc
      cases after with
      | nil =>
          simp only [namedClass?, hs, happend]
          rfl
      | cons d after =>
          by_cases hd : d = ']'
          · subst hd
            simp only [namedClass?, hs, happend, htake, List.cons_append, Option.map_map]
            rfl
          · simp only [namedClass?, hs, happend, List.cons_append, List.cons.injEq, hd, false_and,
              and_false, false_implies, implies_true, Option.map_none]

theorem scanNamedClass_colon (s : List Char) :
    scanNamedClass (':' :: s) =
      match s with
      | '^' :: s => namedClass? true s
      | s => namedClass? false s := by
  cases s with
  | nil => rfl
  | cons c s =>
      by_cases hc : c = '^'
      · subst hc
        rfl
      · simp only [scanNamedClass, List.cons.injEq, hc, false_and, false_implies, implies_true]
        rfl

/-- Whether a named class follows does not depend on what stands after the pattern. -/
theorem scanNamedClass_append (s : List Char) :
    scanNamedClass (s ++ closing) =
      (scanNamedClass s).map fun r => (r.1, r.2.1, r.2.2 ++ closing) := by
  cases s with
  | nil => rfl
  | cons c s =>
      by_cases hc : c = ':'
      · subst hc
        rw [List.cons_append, scanNamedClass_colon, scanNamedClass_colon]
        cases s with
        | nil => rfl
        | cons c s =>
            by_cases hc : c = '^'
            · subst hc
              exact namedClass?_append true s
            · simp only [List.cons_append, List.cons.injEq, hc, false_and, false_implies,
                implies_true]
              exact namedClass?_append false (c :: s)
      · simp only [List.cons_append, scanNamedClass, List.cons.injEq, hc, false_and, false_implies,
          implies_true, Option.map_none]

theorem Extended.namedClass (h : Extended s s') :
    (scanNamedClass s = none ∧ scanNamedClass s' = none) ∨
      ∃ ranges negated r r', Extended r r' ∧ scanNamedClass s = some (ranges, negated, r) ∧
        scanNamedClass s' = some (ranges, negated, r') := by
  cases h with
  | hidden => exact Or.inl ⟨rfl, rfl⟩
  | kept =>
      rw [scanNamedClass_append]
      cases hs : scanNamedClass s with
      | none => exact Or.inl ⟨rfl, rfl⟩
      | some named =>
          obtain ⟨ranges, negated, r⟩ := named
          exact Or.inr ⟨ranges, negated, r, _, .kept r, rfl, rfl⟩

theorem scanHyphens_extended {fuel fuel' : Nat} (hle : fuel ≤ fuel') (items : List Class)
    (h : Extended s s') :
    Transfers (Both Eq Extended) (scanHyphens f fuel items s) (scanHyphens f fuel' items s') := by
  induction fuel generalizing items fuel' s s' with
  | zero => exact .none
  | succ fuel ih =>
      obtain ⟨fuel', rfl⟩ := Nat.exists_eq_succ_of_ne_zero (show fuel' ≠ 0 by omega)
      cases s with
      | nil =>
          rcases h.nil_inv with rfl | rfl
          · exact .leaves items h
          · exact .leaves items h
      | cons c rest =>
          obtain ⟨rest', rfl, hrest⟩ := h.cons_inv
          by_cases hc : c = '-'
          · subst hc
            have hlayout := skipLayout_extended f hrest
            simp only [scanHyphens]
            cases hempty : (skipLayout f rest).isEmpty with
            | true => exact .none
            | false =>
                simp only [hlayout.isEmpty_eq hempty]
                exact ih (by omega) _ hlayout
          · simp only [scanHyphens, List.cons.injEq, hc, false_and, false_implies, implies_true]
            exact .leaves items h

/-- The items that open a class after its negation. -/
def openingItems (f : Flags) (negated : Bool) (s : List Char) :
    Option (Bool × List Class × List Char) := do
  guard (!s.isEmpty)
  let (items, s) ← scanHyphens f (s.length + 1) [] s
  match items, s with
  | [], ']' :: rest =>
    let rest := skipLayout f rest
    guard (!rest.isEmpty)
    return (negated, [⟨.single ']', 0⟩], rest)
  | items, s => return (negated, items, s)

theorem openingItems_extended (negated : Bool) (h : Extended s s') :
    Transfers (Both Eq (Both Eq Extended)) (openingItems f negated s)
      (openingItems f negated s') := by
  unfold openingItems
  refine .guarded (fun hne => by simp [h.isEmpty_eq (by simpa using hne)]) ?_
  refine .bind (scanHyphens_extended (Nat.succ_le_succ h.length_le) [] h) ?_
  rintro ⟨items, rest⟩ ⟨_, rest'⟩ ⟨rfl, hrest⟩
  cases items with
  | cons item items => exact .some ⟨rfl, rfl, hrest⟩
  | nil =>
      cases rest with
      | nil =>
          rcases hrest.nil_inv with hnil | hnil
          · cases hnil
            exact .some ⟨rfl, rfl, hrest⟩
          · cases hnil
            exact .some ⟨rfl, rfl, hrest⟩
      | cons c rest =>
          obtain ⟨rest', heq, hext⟩ := hrest.cons_inv
          cases heq
          by_cases hc : c = ']'
          · subst hc
            have hlayout := skipLayout_extended f hext
            refine .guarded (fun hne => by simp [hlayout.isEmpty_eq (by simpa using hne)]) ?_
            exact .some ⟨rfl, rfl, hlayout⟩
          · simp only [List.cons.injEq, hc, false_and, false_implies, implies_true]
            exact .some ⟨rfl, rfl, hrest⟩

theorem scanOpening_eq (f : Flags) (s : List Char) :
    scanOpening f s =
      match skipLayout f s with
      | [] => none
      | '^' :: rest => openingItems f true (skipLayout f rest)
      | s => openingItems f false s := by
  unfold scanOpening
  split
  · next hs =>
    rw [hs]
    rfl
  · next hs =>
    rw [hs]
    rfl
  · next hnil hcaret =>
    cases hs : skipLayout f s with
    | nil => exact absurd hs hnil
    | cons c rest =>
        have hc : c ≠ '^' := fun hc => hcaret rest (by rw [hs, hc])
        simp only [List.cons.injEq, hc, false_and, false_implies, implies_true]
        rfl

theorem scanOpening_extended (h : Extended s s') :
    Transfers (Both Eq (Both Eq Extended)) (scanOpening f s) (scanOpening f s') := by
  rw [scanOpening_eq, scanOpening_eq]
  rcases skipLayout_cases f h with hs | ⟨c, rest, rest', hlayout, hext, hs, hs'⟩
  · rw [hs]
    exact .none
  · rw [hs, hs']
    by_cases hc : c = '^'
    · subst hc
      exact openingItems_extended true (skipLayout_extended f hext)
    · simp only [List.cons.injEq, hc, false_and, false_implies, implies_true]
      exact openingItems_extended false hlayout

theorem scanClass_extended {fuel fuel' : Nat} (hle : fuel ≤ fuel') (stack : List ClassFrame)
    (items : List Class) (h : Extended s s') :
    Transfers (Both Eq Extended) (scanClass f fuel stack items s)
      (scanClass f fuel' stack items s') := by
  induction fuel generalizing stack items fuel' s s' with
  | zero => exact .none
  | succ fuel ih =>
      obtain ⟨fuel', rfl⟩ := Nat.exists_eq_succ_of_ne_zero (show fuel' ≠ 0 by omega)
      have hle : fuel ≤ fuel' := by omega
      rw [scanClass, scanClass]
      rcases skipLayout_cases f h with hs | ⟨c, rest, rest', hlayout, hext, hs, hs'⟩
      · rw [hs]
        exact .none
      · rw [hs, hs']
        split
        · exact .none
        · next heq =>
          -- an opening bracket, of a named class or of a class inside this one
          obtain ⟨rfl, rfl⟩ := List.cons.inj heq
          rcases hext.namedClass with ⟨hn, hn'⟩ | ⟨ranges, negated, r, r', hr, hn, hn'⟩
          · simp only [hn, hn']
            intro a ha
            cases ho : scanOpening f rest with
            | none => simp [ho] at ha
            | some opening =>
                obtain ⟨negated, inner, after⟩ := opening
                obtain ⟨⟨_, _, after'⟩, ⟨rfl, rfl, hafter⟩, ho'⟩ := scanOpening_extended hext _ ho
                simp only [ho] at ha
                simp only [ho']
                exact ih hle _ _ hafter a ha
          · simp only [hn, hn']
            cases f.named? ranges negated with
            | none => exact .none
            | some members => exact ih hle _ _ hr
        · next heq =>
          -- a closing bracket ends the innermost class, and perhaps the whole of it
          obtain ⟨rfl, rfl⟩ := List.cons.inj heq
          rcases finishOperation f stack (unionClass items) with ⟨whole, stack⟩
          cases stack with
          | nil => exact .none
          | cons frame stack =>
              cases frame with
              | operation op left => exact .none
              | opened outer negated =>
                  simp only
                  cases f.bracketed? whole.members negated with
                  | none => exact .none
                  | some members => exact .ite (.leaves _ hext) (ih hle _ _ hext)
        · next heq =>
          obtain ⟨rfl, rfl⟩ := List.cons.inj heq
          obtain ⟨after', rfl, hafter⟩ := hext.cons_inv
          exact ih hle _ _ hafter
        · next heq =>
          obtain ⟨rfl, rfl⟩ := List.cons.inj heq
          obtain ⟨after', rfl, hafter⟩ := hext.cons_inv
          exact ih hle _ _ hafter
        · next heq =>
          obtain ⟨rfl, rfl⟩ := List.cons.inj heq
          obtain ⟨after', rfl, hafter⟩ := hext.cons_inv
          exact ih hle _ _ hafter
        · next hopen hclose hand hminus htilde =>
          -- an item or a range: the longer text has no other construct there either
          intro a ha
          cases hr : scanClassRange f (c :: rest) with
          | none => simp [hr] at ha
          | some read =>
              obtain ⟨members, after⟩ := read
              obtain ⟨⟨_, after'⟩, ⟨rfl, hafter⟩, hr'⟩ := scanClassRange_extended hlayout _ hr
              simp only [hr] at ha
              split
              · contradiction
              · next heq => exact absurd heq (hlayout.no_head (by decide) hopen _)
              · next heq => exact absurd heq (hlayout.no_head (by decide) hclose _)
              · next heq => exact absurd heq (hlayout.no_pair (by decide) (by decide) hand _)
              · next heq => exact absurd heq (hlayout.no_pair (by decide) (by decide) hminus _)
              · next heq => exact absurd heq (hlayout.no_pair (by decide) (by decide) htilde _)
              · simp only [hr']
                exact ih hle _ _ hafter a ha

theorem scanBrackets_extended (h : Extended s s') :
    Transfers (Both Eq Extended) (scanBrackets f s) (scanBrackets f s') := by
  refine .bind (scanOpening_extended h) ?_
  rintro ⟨negated, items, rest⟩ ⟨_, _, rest'⟩ ⟨rfl, rfl, hrest⟩
  exact scanClass_extended (Nat.succ_le_succ hrest.length_le) _ _ hrest

end CardQuery.Regex
