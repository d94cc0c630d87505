/-
**The heads of tokens.**

The field, the modifier and the operator of a token are described here without the scanner.  An
operator takes in as many characters as it can, and an identifier with an operator after a colon is a
modifier.

Main definitions:

* `IsIdentifier`, `EndsSign` — identifiers, and what may follow the sign of an operator;
* `OpensHead` — a text that begins with an identifier and an operator;
* `HeadText` — the texts of heads.

Main results:

* `Token.scanModifier_eq_some_iff`, `Token.scanModifier_eq_none_iff` — what is read of an identifier
  with an operator, and when nothing is;
* `Token.scanHead_eq_some_iff`, `Token.scanHead_eq_none_iff` — **heads are read exactly where there is
  the text of one**;
* `Token.opensHead_append_iff` — no head reaches over white space.
-/

import CardQuery.Proofs.Token.Boundary

set_option autoImplicit false

namespace CardQuery

namespace Token

/-! ### Identifiers and operators -/

/-- A letter or an underscore, and then characters of identifiers. -/
def IsIdentifier : List Char → Prop
  | [] => False
  | c :: rest => isIdentifierStart c = true ∧ ∀ d ∈ rest, isIdentifierChar d = true

/-- The text begins with an identifier and an operator. -/
def OpensHead (s : List Char) : Prop :=
  ∃ (name : List Char) (op : Operator) (rest : List Char),
    IsIdentifier name ∧ s = name ++ (op.sign.toList ++ rest)

/-- The sign of the operator is not lengthened by what follows it. -/
def EndsSign (op : Operator) (rest : List Char) : Prop :=
  op = .less ∨ op = .greater → rest.head? ≠ some '='

theorem sign_toList (op : Operator) :
    op.sign.toList =
      match op with
      | .has => [':']
      | .equals => ['=']
      | .less => ['<']
      | .atMost => ['<', '=']
      | .greater => ['>']
      | .atLeast => ['>', '='] := by
  cases op <;> rfl

theorem scanOperator_eq_some_iff {s rest : List Char} {op : Operator} :
    scanOperator s = some (op, rest) ↔ s = op.sign.toList ++ rest ∧ EndsSign op rest := by
  constructor
  · intro h
    unfold scanOperator at h
    split at h <;> simp only [Option.some.injEq, Prod.mk.injEq, reduceCtorEq] at h
    all_goals
      obtain ⟨rfl, rfl⟩ := h
      simp_all [sign_toList, EndsSign, List.head?_eq_some_iff]
  · rintro ⟨rfl, h⟩
    cases op <;> simp_all [sign_toList, EndsSign, scanOperator_cons]

/-- A sign begins with no character of an identifier. -/
theorem sign_head (op : Operator) (rest : List Char) :
    ∃ c tail, op.sign.toList ++ rest = c :: tail ∧ isIdentifierChar c = false := by
  cases op <;> exact ⟨_, _, rfl, by decide⟩

theorem scanIdentifier_append_of_sign {name : List Char} (h : IsIdentifier name) {c : Char}
    (hc : isIdentifierChar c = false) (rest : List Char) :
    scanIdentifier (name ++ c :: rest) = some (name, c :: rest) := by
  cases name with
  | nil => exact h.elim
  | cons d name =>
      obtain ⟨hd, hname⟩ := h
      have htake : (name ++ c :: rest).takeWhile isIdentifierChar = name := by
        rw [List.takeWhile_append_of_pos hname]
        simp [hc]
      have hdrop : (name ++ c :: rest).dropWhile isIdentifierChar = c :: rest := by
        rw [List.dropWhile_append_of_pos hname]
        simp [hc]
      simp [scanIdentifier, hd, htake, hdrop]

theorem scanIdentifier_eq_some {s name rest : List Char} (h : scanIdentifier s = some (name, rest)) :
    s = name ++ rest ∧ IsIdentifier name := by
  cases s with
  | nil => contradiction
  | cons c s =>
      rw [scanIdentifier] at h
      split at h
      · next hc =>
        obtain ⟨rfl, rfl⟩ := Prod.mk.inj (Option.some.inj h)
        refine ⟨by simp, hc, fun d hd => ?_⟩
        exact List.all_eq_true.1 (List.all_takeWhile (p := isIdentifierChar)) d hd
      · contradiction

/-- An identifier with an operator after it is read so, and nothing else is. -/
theorem scanModifier_eq_some_iff {s name rest : List Char} {op : Operator} :
    scanModifier s = some (name, op, rest) ↔
      s = name ++ (op.sign.toList ++ rest) ∧ IsIdentifier name ∧ EndsSign op rest := by
  constructor
  · intro h
    rw [scanModifier] at h
    cases hi : scanIdentifier s with
    | none => simp [hi] at h
    | some r =>
        cases ho : scanOperator r.2 with
        | none => simp [hi, ho] at h
        | some q =>
            simp only [hi, ho, Option.some.injEq, Prod.mk.injEq] at h
            obtain ⟨rfl, rfl, rfl⟩ := h
            obtain ⟨hs, hname⟩ := scanIdentifier_eq_some hi
            obtain ⟨hr, hend⟩ := scanOperator_eq_some_iff.1 ho
            exact ⟨by rw [hs, hr], hname, hend⟩
  · rintro ⟨rfl, hname, hend⟩
    obtain ⟨c, tail, hsign, hc⟩ := sign_head op rest
    have hop := scanOperator_eq_some_iff.2 ⟨rfl, hend⟩
    rw [hsign] at hop ⊢
    simp [scanModifier, scanIdentifier_append_of_sign hname hc, hop]

theorem scanModifier_eq_none_iff {s : List Char} : scanModifier s = none ↔ ¬OpensHead s := by
  constructor
  · rintro h ⟨name, op, rest, hname, rfl⟩
    obtain ⟨c, tail, hsign, hc⟩ := sign_head op rest
    rw [hsign, scanModifier, scanIdentifier_append_of_sign hname hc, ← hsign] at h
    -- a sign is read, be it that of the operator or a longer one
    have hread : scanOperator (op.sign.toList ++ rest) ≠ none := by
      cases op <;> simp [sign_toList, scanOperator_cons]
      all_goals split <;> simp
    cases ho : scanOperator (op.sign.toList ++ rest) with
    | none => exact hread ho
    | some q => simp [ho] at h
  · intro h
    cases hm : scanModifier s with
    | none => rfl
    | some r =>
        obtain ⟨hs, hname, -⟩ := scanModifier_eq_some_iff.1 hm
        exact (h ⟨r.1, r.2.1, r.2.2, hname, hs⟩).elim

/-- No head reaches over a separator. -/
theorem opensHead_append_iff {s rest : List Char} (hrest : atSeparator rest = true) :
    OpensHead (s ++ rest) ↔ OpensHead s := by
  cases rest with
  | nil => rw [List.append_nil]
  | cons w t =>
      rw [← not_iff_not, ← scanModifier_eq_none_iff, ← scanModifier_eq_none_iff,
        scanModifier_append t hrest, Option.map_eq_none_iff]

/-! ### Heads -/

/-- A head is an identifier with an operator, and perhaps another one after a colon. -/
theorem scanHead_eq (s : List Char) :
    scanHead s =
      match scanModifier s with
      | none => none
      | some (field, op, rest) =>
        match if op = .has then scanModifier rest else none with
        | some (modifier, inner, rest) => some (⟨field, some modifier, inner⟩, rest)
        | none => some (⟨field, none, op⟩, rest) := by
  rw [scanHead, scanModifier.eq_def s]
  cases scanIdentifier s with
  | none => rfl
  | some r =>
      obtain ⟨field, rest⟩ := r
      dsimp only
      cases scanOperator rest with
      | none => rfl
      | some q => rfl

theorem scanHead_eq_none_iff {s : List Char} : scanHead s = none ↔ ¬OpensHead s := by
  rw [← scanModifier_eq_none_iff, scanHead_eq]
  cases scanModifier s with
  | none => simp
  | some r =>
      simp only [reduceCtorEq, iff_false]
      split <;> simp

/-- The texts of a head before a text: the longest head counts. -/
inductive HeadText (rest : List Char) : List Char → Head → Prop
  | plain {field : List Char} {op : Operator} (hfield : IsIdentifier field)
      (hend : EndsSign op rest) (hmodifier : op = .has → ¬OpensHead rest) :
      HeadText rest (field ++ op.sign.toList) ⟨field, none, op⟩
  | modified {field modifier : List Char} {op : Operator} (hfield : IsIdentifier field)
      (hmodifier : IsIdentifier modifier) (hend : EndsSign op rest) :
      HeadText rest (field ++ ':' :: (modifier ++ op.sign.toList)) ⟨field, some modifier, op⟩

theorem scanHead_eq_some_iff {s rest : List Char} {head : Head} :
    scanHead s = some (head, rest) ↔ ∃ text, s = text ++ rest ∧ HeadText rest text head := by
  constructor
  · intro h
    rw [scanHead_eq] at h
    cases hm : scanModifier s with
    | none => simp [hm] at h
    | some r =>
        obtain ⟨field, op, after⟩ := r
        obtain ⟨hs, hfield, hend⟩ := scanModifier_eq_some_iff.1 hm
        simp only [hm] at h
        -- behind the operator a modifier is read, or there is none
        cases hi : (if op = .has then scanModifier after else none) with
        | none =>
            simp only [hi, Option.some.injEq, Prod.mk.injEq] at h
            obtain ⟨rfl, rfl⟩ := h
            refine ⟨_, by rw [hs, List.append_assoc], HeadText.plain hfield hend fun hop => ?_⟩
            rw [if_pos hop] at hi
            exact scanModifier_eq_none_iff.1 hi
        | some q =>
            obtain ⟨modifier, inner, last⟩ := q
            have hop : op = .has := by
              by_contra hop
              simp [hop] at hi
            rw [if_pos hop] at hi
            obtain ⟨hafter, hmodifier, hinner⟩ := scanModifier_eq_some_iff.1 hi
            simp only [hop, if_true, hi, Option.some.injEq, Prod.mk.injEq] at h
            obtain ⟨rfl, rfl⟩ := h
            refine ⟨_, ?_, HeadText.modified hfield hmodifier hinner⟩
            rw [hs, hop, hafter]
            simp [sign_toList]
  · rintro ⟨text, rfl, h⟩
    rw [scanHead_eq]
    cases h with
    | @plain field op hfield hend hmodifier =>
        have hm : scanModifier (field ++ op.sign.toList ++ rest) = some (field, op, rest) :=
          scanModifier_eq_some_iff.2 ⟨List.append_assoc .., hfield, hend⟩
        have hi : (if op = .has then scanModifier rest else none) = none := by
          split
          · next hop => exact scanModifier_eq_none_iff.2 (hmodifier hop)
          · rfl
        simp only [hm, hi]
    | @modified field modifier op hfield hmodifier hend =>
        -- the colon ends the field, and what stands behind it is a head of its own
        have hi : scanModifier (modifier ++ (op.sign.toList ++ rest)) = some (modifier, op, rest) :=
          scanModifier_eq_some_iff.2 ⟨rfl, hmodifier, hend⟩
        have hm : scanModifier (field ++ ':' :: (modifier ++ op.sign.toList) ++ rest) =
            some (field, .has, modifier ++ (op.sign.toList ++ rest)) :=
          scanModifier_eq_some_iff.2 ⟨by simp [sign_toList], hfield, by simp [EndsSign]⟩
        simp only [hm, if_true, hi]

end Token

end CardQuery
