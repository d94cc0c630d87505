/-
**Operands of tokens, and the limit of statements.**

A statement takes 32766 operands.  The two statements of a search have up to three of their own, and
the others belong to the condition.  How many a token contributes is decided by its command and its value.
Texts and numbers have one, masks up to three.  A number of letters, however, has one for each set of
letters of such a size, and a comparison of labels one for each label that is listed; a search at several
keys has one for each of them, and a composite value has those of all its parts.  The builder of commands
admits sixteen letters, any bounds and any number of keys, and nothing looks at the sum, so that a wide
command has tokens that no statement takes.  Conditions that are too high for a statement are another
matter.

Main definitions:

* `Binding.operandCount`, `Argument.operandCount` — how many operands a binding and a token have;
* `CommandKind.width` — how many the bindings of a command have at most.

Main results:

* `Binding.length_operands` — **the number of operands of a condition**;
* `Binding.operandCount_le_width` — it is bounded by the command;
* `Argument.operands_fit_iff` — **when the statements for a token take its operands**.
-/

import CardQuery.Proofs.HalfNumber.Comparison
import CardQuery.Proofs.Letters.Count
import CardQuery.Proofs.Predicate.Operands
import CardQuery.Proofs.Search.Keys
import CardQuery.Proofs.Store.Agreement

set_option autoImplicit false

namespace CardQuery

open Sql

/-! ### Operands of combined predicates -/

namespace Predicate

theorem operands_eq_flatMap (p : Predicate) : p.operands = p.leaves.flatMap operands :=
  eq_flatMap_leaves rfl operands_not operands_allOf operands_anyOf p

theorem operands_conjunction (ps : List Predicate) : (conjunction ps).operands = ps.flatMap operands :=
  flatMap_conjunction operands_eq_flatMap ps

theorem operands_disjunction (ps : List Predicate) : (disjunction ps).operands = ps.flatMap operands :=
  flatMap_disjunction operands_eq_flatMap ps

theorem operands_negate (p : Predicate) : p.negate.operands = p.operands :=
  flatMap_negate operands_eq_flatMap p

theorem length_flatMap_operands {α : Type} {count : α → Nat} {as : List α} {ps : List Predicate}
    (h : List.Forall₂ (fun a p => p.operands.length = count a) as ps) :
    (ps.flatMap operands).length = (as.map count).sum := by
  induction h with
  | nil => rfl
  | cons hcount _ ih =>
      rw [List.flatMap_cons, List.length_append, hcount, ih, List.map_cons, List.sum_cons]

end Predicate

/-! ### Operands of bindings -/

/-- How many operands ask for the sets of letters in relation to a mask. -/
def maskOperands (mask : Nat) : Operator → Nat
  | .equals => 1
  | .has => if mask = 0 then 1 else 2
  | .atLeast => 2
  | .greater => 3
  | .atMost => 1
  | .less => 2

/-- How many operands ask for some letters, or for a number of letters. -/
def Alphabet.operandCount (a : Alphabet) (op : Operator) : LetterQuery → Nat
  | .mask mask => maskOperands mask op
  | .count count => numberOfSets a.letters.length count op

/-- How many operands ask for the labels in relation to a value. -/
def HalfRange.operandCount (r : HalfRange) (op : Operator) (raw : String) : Nat :=
  if raw = varyingLabel then if op = .has then r.ladder.length else 1
  else if (r.sentinel? raw).isSome then 1
  else
    match HalfNumber.read? raw with
    | some t => (r.standing op t).length
    | none => 0

/-- How many operands the condition of a binding has. -/
def Binding.operandCount (b : Binding) : Nat :=
  match b.command.kind, b.literal with
  | .bitset alphabet, .ok raw =>
    match alphabet.read raw with
    | .ok query => alphabet.operandCount b.operator query
    | .error _ => 0
  | .halfNumber range, .ok raw => range.operandCount b.operator raw
  | .unrestricted targets, _ => targets.length
  | .composite _, _ => 0
  | _, _ => 1

/-- How many operands the condition of a binding of such a command has at most. -/
def CommandKind.width : CommandKind → Nat
  | .bitset alphabet => max 3 (2 ^ alphabet.letters.length)
  | .halfNumber range => range.ladder.length
  | .unrestricted targets => targets.length
  | .composite _ => 0
  | _ => 1

namespace Binding

variable {b : Binding} {p : Predicate}

theorem length_operands_text {key : String} (h : b.textCondition key = .ok p) :
    p.operands.length = 1 := by
  unfold textCondition at h
  split at h <;> cases h <;> rfl

theorem length_operands_number {allowReal : Bool} {raw : String}
    (h : b.numberCondition allowReal raw = .ok p) : p.operands.length = 1 := by
  unfold numberCondition at h
  split at h
  · cases h
    rfl
  · contradiction

theorem length_operands_set {values : ValueSet} {raw : String}
    (h : b.setCondition values raw = .ok p) : p.operands.length = 1 := by
  obtain ⟨-, -, ⟨-, rfl⟩ | ⟨-, rfl⟩⟩ := setCondition_eq_ok_iff.1 h
  · rfl
  · rfl

theorem length_operands_mask (key : String) (full mask : Nat) (op : Operator) :
    (maskCondition key full mask op).operands.length = maskOperands mask op := by
  have hboth (p q : Predicate) : (Predicate.conjunction [p, q.negate]).operands.length =
      p.operands.length + q.operands.length := by
    rw [Predicate.operands_conjunction, List.flatMap_cons, List.flatMap_singleton, List.length_append,
      Predicate.operands_negate]
  cases op with
  | has =>
      rw [maskCondition, maskOperands]
      split <;> rfl
  | less => exact hboth _ _
  | greater => exact hboth _ _
  | _ => rfl

theorem length_operands_bitset {alphabet : Alphabet} (ha : alphabet.letters.length ≤ Alphabet.mostLetters)
    {raw : String} (h : b.bitsetCondition alphabet raw = .ok p) :
    ∃ query, alphabet.read raw = .ok query ∧
      p.operands.length = alphabet.operandCount b.operator query := by
  unfold bitsetCondition at h
  split at h
  · contradiction
  · next mask hread =>
    cases h
    exact ⟨_, hread, length_operands_mask _ _ _ _⟩
  · next count hread =>
    cases h
    refine ⟨_, hread, ?_⟩
    rw [countCondition_eq, Predicate.operands, List.length_map, List.length_map,
      length_countedMasks (Alphabet.fullMask_succ ha), Alphabet.operandCount]

theorem length_operands_oneOf (key : String) (labels : List String) :
    (oneOf key labels).operands.length = labels.length := by
  rw [oneOf, Predicate.operands, List.length_map, List.length_map]

theorem length_operands_offLadder (key : String) (steps : List Step) :
    (offLadder key steps).operands.length = steps.length := by
  rw [offLadder, Predicate.operands_conjunction, List.flatMap_cons, List.flatMap_singleton,
    Predicate.operands_negate, List.length_append, length_operands_oneOf, List.length_map]
  exact Nat.zero_add _

theorem length_operands_halfNumber {range : HalfRange} {raw : String}
    (h : b.halfNumberCondition range raw = .ok p) :
    p.operands.length = range.operandCount b.operator raw := by
  unfold halfNumberCondition at h
  unfold HalfRange.operandCount
  split at h
  · next hvarying =>
    rw [if_pos hvarying]
    obtain ⟨hop, rfl⟩ | ⟨hop, rfl⟩ := wordCondition_eq_ok_iff.1 h
    · rw [if_pos hop]
      exact length_operands_offLadder _ _
    · rw [hop, if_neg (by decide)]
      rfl
  · next hvarying =>
    rw [if_neg hvarying]
    split at h
    · next word hword =>
      rw [hword, Option.isSome_some, if_pos rfl]
      obtain ⟨-, rfl⟩ | ⟨-, rfl⟩ := wordCondition_eq_ok_iff.1 h
      · rfl
      · rfl
    · next hword =>
      rw [hword, Option.isSome_none, if_neg Bool.false_ne_true]
      split at h
      · contradiction
      · next t hread =>
        cases h
        rw [hread]
        exact length_operands_oneOf _ _

theorem length_operands_unrestricted {targets : List String} {ps : List Predicate}
    (h : targets.mapM b.textCondition = .ok ps) :
    (Predicate.disjunction ps).operands.length = targets.length := by
  have hone := (mapM_eq_ok_iff.1 h).imp fun _ _ => length_operands_text
  rw [Predicate.operands_disjunction, Predicate.length_flatMap_operands hone]
  simp

/-- **The number of operands of a condition.** -/
theorem length_operands (hb : b.IsSound) (h : b.condition = .ok p) :
    p.operands.length = b.operandCount := by
  unfold condition at h
  unfold operandCount
  cases hkind : b.command.kind with
  | text =>
      rw [hkind] at h
      exact length_operands_text h
  | number allowReal =>
      rw [hkind] at h
      obtain ⟨raw, -, h⟩ := bind_eq_ok_iff.1 h
      exact length_operands_number h
  | set values =>
      rw [hkind] at h
      obtain ⟨raw, -, h⟩ := bind_eq_ok_iff.1 h
      exact length_operands_set h
  | bitset alphabet =>
      rw [hkind] at h
      obtain ⟨raw, hraw, h⟩ := bind_eq_ok_iff.1 h
      obtain ⟨query, hread, hlength⟩ :=
        length_operands_bitset (hb.command.letters alphabet hkind) h
      simp only [hraw, hread, hlength]
  | halfNumber range =>
      rw [hkind] at h
      obtain ⟨raw, hraw, h⟩ := bind_eq_ok_iff.1 h
      simp only [hraw, length_operands_halfNumber h]
  | composite templates =>
      rw [hkind] at h
      cases h
      rfl
  | unrestricted targets =>
      rw [hkind] at h
      obtain ⟨ps, hps, rfl⟩ := map_eq_ok_iff.1 h
      exact length_operands_unrestricted hps
  | order keys =>
      rw [hkind] at h
      cases h

/-! ### Widths of commands -/

theorem maskOperands_le (mask : Nat) (op : Operator) : maskOperands mask op ≤ 3 := by
  cases op with
  | has =>
      rw [maskOperands]
      split <;> decide
  | _ => simp [maskOperands]

/-- Every ladder has a label for infinity. -/
theorem ladder_length_pos (r : HalfRange) : 0 < r.ladder.length := by
  rw [r.ladder_eq_steps, stepsBetween, List.length_append]
  exact Nat.succ_pos _

theorem numberOfSets_le (letters count : Nat) (op : Operator) :
    numberOfSets letters count op ≤ 2 ^ letters := by
  have hfull : 2 ^ letters - 1 + 1 = 2 ^ letters := Nat.sub_add_cancel (Nat.two_pow_pos _)
  rw [← length_countedMasks hfull, ← hfull]
  exact length_countedMasks_le _ _ _

/-- The operands of a binding are no more than the width of its command. -/
theorem operandCount_le_width (b : Binding) : b.operandCount ≤ b.command.kind.width := by
  unfold operandCount
  cases b.command.kind with
  | bitset alphabet =>
      cases b.literal with
      | error e => exact Nat.le_trans (by decide : 1 ≤ 3) (Nat.le_max_left _ _)
      | ok raw =>
          dsimp only
          cases alphabet.read raw with
          | error e => exact Nat.zero_le _
          | ok query =>
              cases query with
              | mask mask => exact Nat.le_trans (maskOperands_le mask _) (Nat.le_max_left _ _)
              | count count => exact Nat.le_trans (numberOfSets_le _ _ _) (Nat.le_max_right _ _)
  | halfNumber range =>
      cases b.literal with
      | error e => exact ladder_length_pos range
      | ok raw =>
          have hpos := ladder_length_pos range
          dsimp only [CommandKind.width]
          unfold HalfRange.operandCount
          split
          · split
            · exact Nat.le_refl _
            · exact hpos
          · split
            · exact hpos
            · split
              · rw [HalfRange.standing, List.length_map]
                exact List.length_filter_le _ _
              · exact Nat.zero_le _
  | _ => exact Nat.le_refl _

end Binding

/-! ### Tokens -/

namespace Argument

/-- How many operands the condition of a token has: those of all bindings that are read for it. -/
def operandCount (a : Argument) : Nat := (a.readings.map Binding.operandCount).sum

/-- How many operands the condition of a token can have by the commands of its bindings. -/
def width (a : Argument) : Nat := (a.readings.map fun b => b.command.kind.width).sum

theorem operandCount_le_width (a : Argument) : a.operandCount ≤ a.width :=
  List.sum_le_sum fun b _ => b.operandCount_le_width

variable {m : Model} {t : Token} {a : Argument} {p : Predicate}

theorem length_operands (hm : m.Built) (ha : m.resolve t = .ok a) (hp : a.meaning = .ok (.filter p)) :
    p.operands.length = a.operandCount := by
  obtain ⟨hwhole, hparts⟩ := hm.binding_isSound ha
  obtain ⟨-, q, hq, rfl⟩ := meaning_eq_filter_iff.1 hp
  have hmarked : (if a.isNegated then q.negate else q).operands = q.operands := by
    split
    · exact q.operands_negate
    · rfl
  rw [hmarked, operandCount]
  rcases a.condition_eq with ⟨hreadings, heq⟩ | ⟨hreadings, heq⟩
  · rw [heq] at hq
    obtain ⟨ps, hps, rfl⟩ := map_eq_ok_iff.1 hq
    have hall := (List.forall₂_and_left _ _).2 ⟨hparts, mapM_eq_ok_iff.1 hps⟩
    rw [hreadings, Predicate.operands_conjunction]
    exact Predicate.length_flatMap_operands (hall.imp fun b p h => b.length_operands h.1 h.2)
  · rw [heq] at hq
    rw [hreadings, List.map_singleton, List.sum_singleton]
    exact Binding.length_operands hwhole hq

end Argument

/-! ### Statements -/

theorem Predicate.fitsParams_iff (p : Predicate) (column : String) (further : Nat) :
    fitsParams column p.toSql further = true ↔ p.operands.length + further ≤ mostParams := by
  rw [fitsParams, p.params_toSql, decide_eq_true_eq]

/-- A search fails when the statement that reads the cards cannot be prepared, or before. -/
theorem TableStore.fetch_of_not_prepared (s : TableStore) {p : Predicate}
    (h : canPrepare s.names.dataColumn p.toSql 3 = false) (id : String) (r : PageRequest) :
    s.fetch id p r = .error countFailed ∨ s.fetch id p r = .error fetchFailed := by
  cases hcount : canPrepare s.names.dataColumn p.toSql 1 with
  | false => exact .inl (fetch_of_count_not_prepared hcount id r)
  | true =>
      rw [fetch, hcount]
      cases s.hits id p.toSql with
      | error e => exact .inl rfl
      | ok hits => exact .inr (by rw [h]; rfl)

namespace Argument

/-- **When the statements for a token take its operands.**

The condition of a token has as many operands as its bindings ask for, and no more than the width of their
commands.  Both statements of a search take them exactly when these operands and three more are within the
limit; they can be prepared then if the condition is not too high.  A search with more operands fails. -/
theorem operands_fit_iff {m : Model} (hm : m.Built) {t : Token} {a : Argument} (ha : m.resolve t = .ok a)
    {p : Predicate} (hp : a.meaning = .ok (.filter p)) :
    (∀ column, (p.toSql.params column).length = a.operandCount) ∧ a.operandCount ≤ a.width ∧
      (∀ column, fitsParams column p.toSql 1 = true ∧ fitsParams column p.toSql 3 = true ↔
        a.operandCount + 3 ≤ mostParams) ∧
      (∀ column, canPrepare column p.toSql 1 = true ∧ canPrepare column p.toSql 3 = true ↔
        a.operandCount + 3 ≤ mostParams ∧ statementHeight p.toSql ≤ mostDepth) ∧
      ∀ (table : TableStore) (id : String) (r : PageRequest), mostParams < a.operandCount + 3 →
        ∃ error, table.fetch id p r = .error (.failed error) := by
  have hlength := length_operands hm ha hp
  have hkeys : ∀ key ∈ p.keys, isContained key = true := fun key hkey =>
    isContained_of_isPlainKey (((Model.names_of_meaning hm ha hp).1 p rfl key hkey).isPlainKey hm)
  have hparams (column : String) : (p.toSql.params column).length = a.operandCount := by
    rw [p.params_toSql, hlength]
  have hprepare := Predicate.canPrepare_iff hkeys
  refine ⟨hparams, a.operandCount_le_width, fun column => ?_, fun column => ?_,
    fun table id r hmany => ?_⟩
  · rw [p.fitsParams_iff, p.fitsParams_iff, hlength]
    omega
  · rw [hprepare, hprepare, hparams]
    omega
  · have hfails : canPrepare table.names.dataColumn p.toSql 3 = false := by
      rw [Bool.eq_false_iff, Ne, hprepare, hparams]
      omega
    rcases table.fetch_of_not_prepared hfails id r with hfailed | hfailed
    · exact ⟨_, hfailed⟩
    · exact ⟨_, hfailed⟩

/-- With fifteen letters, every set has at least none of them: the condition has an operand for each, and
the search fails. -/
theorem operands_fit_iff_fifteen_letters :
    let letters := Alphabet.ofText "abcdefghijklmno"
    let c : Command := ⟨"color", "color", [], Operator.all, [.negation], none, false, [], .bitset letters, none⟩
    let m : Model := ⟨"magic", [c], c⟩
    let t : Token := ⟨[], some "color", none, some .atLeast, .text "0"⟩
    m.Built ∧ ∃ a p, m.resolve t = .ok a ∧ a.meaning = .ok (.filter p) ∧
      (p.toSql.params "data").length = 2 ^ 15 ∧
      ∀ table : TableStore, ∃ error, table.fetch "magic" p ⟨1, 10, none⟩ = .error (.failed error) := by
  intro letters c m t
  have hm : m.Built :=
    ⟨"magic", "color", [CommandDraft.bitset "color" "abcdefghijklmno"], [c], rfl, by
      dsimp only [m, c, letters]; rfl⟩
  let a : Argument := ⟨⟨c, none, .text "0", .atLeast, []⟩, none, []⟩
  have hget : m.get? "color" = some c := Model.get?_first (c := c) rfl
  have ha : m.resolve t = .ok a := by
    simp only [t, Model.resolve, Model.addressed, hget, bind, Except.bind]
    rfl
  have hvalue : Unicode.trimmed "0" = "0" := by decide +kernel
  have hread : letters.read "0" = .ok (.count 0) := by decide +kernel
  let p : Predicate := countCondition "color" letters.fullMask 0 .atLeast
  have hcondition : a.condition = .ok p := by
    simp only [condition, Binding.condition, a, c, Binding.literal, hvalue, bind, Except.bind,
      Binding.bitsetCondition, hread]
    rfl
  have hp : a.meaning = .ok (.filter p) := by
    simp only [meaning, hcondition, a, c]
    rfl
  have hcount : a.operandCount = 2 ^ 15 := by
    simp only [operandCount, readings, a, c, List.map_singleton, List.sum_singleton,
      Binding.operandCount, Binding.literal, hvalue, hread, Alphabet.operandCount]
    decide +kernel
  obtain ⟨hparams, -, -, -, hfails⟩ := operands_fit_iff hm ha hp
  refine ⟨hm, a, p, ha, hp, (hparams "data").trans hcount, fun table => hfails table _ _ ?_⟩
  rw [hcount]
  decide

end Argument

end CardQuery
