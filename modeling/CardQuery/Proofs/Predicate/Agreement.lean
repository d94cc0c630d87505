/-
**Predicates and their conditions on one card.**

Whether a card meets a predicate, and whether the condition of the predicate is true of it, are decided
by two evaluators that know nothing of each other.  If they agree about the leaves of a predicate, they
agree about the whole, however deep it is: where the value of a leaf is unknown, it counts as false
before it is negated.  They do agree about a leaf that asks for something that its key can hold.

Main definitions:

* `Predicate.leaves` — the leaves of a predicate;
* `Predicate.Agrees` — the condition of a predicate is true of a card that meets it, and of no other;
* `Content`, `Content.Fits` — what a key is supposed to hold, and cards that keep to it;
* `Content.Asks` — leaves that suit such a key.

Main results:

* `Predicate.agrees_of_leaves` — **agreement about the leaves is agreement about the whole**;
* `Content.Asks.agrees` — **agreement about a leaf** that suits its key.
-/

import CardQuery.Proofs.Predicate.Structure
import CardQuery.Proofs.Sql.Path
import Mathlib.Algebra.Group.Nat.Defs

set_option autoImplicit false

namespace CardQuery

open CommandDraft (isPlainKey)
open Sql

namespace Predicate

/-! ### Leaves -/

mutual

/-- The leaves of a predicate; that every card meets is none. -/
def leaves : Predicate → List Predicate
  | everything => []
  | not p => p.leaves
  | allOf ps => leavesAll ps
  | anyOf ps => leavesAll ps
  | p => [p]

/-- The leaves of the predicates of a list. -/
def leavesAll : List Predicate → List Predicate
  | [] => []
  | p :: ps => p.leaves ++ leavesAll ps

end

theorem leavesAll_eq (ps : List Predicate) : leavesAll ps = ps.flatMap leaves := by
  induction ps with
  | nil => rw [leavesAll, List.flatMap_nil]
  | cons p ps ih => rw [leavesAll, ih, List.flatMap_cons]

@[simp] theorem leaves_not (p : Predicate) : (not p).leaves = p.leaves := by rw [leaves]

@[simp] theorem leaves_allOf (ps : List Predicate) : (allOf ps).leaves = ps.flatMap leaves := by
  rw [leaves, leavesAll_eq]

@[simp] theorem leaves_anyOf (ps : List Predicate) : (anyOf ps).leaves = ps.flatMap leaves := by
  rw [leaves, leavesAll_eq]

theorem leaves_conjuncts (p : Predicate) : p.leaves = p.conjuncts.flatMap leaves := by
  unfold conjuncts
  split <;> simp [leaves, leavesAll_eq]

/-- Combining predicates in the form without superfluous nesting keeps their leaves. -/
@[simp] theorem leaves_conjunction (ps : List Predicate) :
    (conjunction ps).leaves = ps.flatMap leaves := by
  have hof (ps : List Predicate) : (ofConjuncts ps).leaves = ps.flatMap leaves := by
    unfold ofConjuncts
    split <;> simp [leaves, leavesAll_eq]
  rw [conjunction, hof, List.flatMap_assoc]
  congr 1
  funext p
  rw [← leaves_conjuncts p]

@[simp] theorem leaves_negate (p : Predicate) : p.negate.leaves = p.leaves := by
  unfold negate
  split <;> simp

/-- What is collected from the parts of a predicate is collected from its leaves. -/
theorem eq_flatMap_leaves {α : Type} {f : Predicate → List α} (heverything : f everything = [])
    (hnot : ∀ p, f (not p) = f p) (hall : ∀ ps, f (allOf ps) = ps.flatMap f)
    (hany : ∀ ps, f (anyOf ps) = ps.flatMap f) (p : Predicate) : f p = p.leaves.flatMap f := by
  induction p using Predicate.induction with
  | leaf p hp =>
      cases p with
      | everything => exact heverything
      | not | allOf | anyOf => contradiction
      | _ => exact (List.flatMap_singleton f _).symm
  | neg p ih => rw [hnot, leaves_not, ih]
  | all ps ih =>
      rw [hall, leaves_allOf, List.flatMap_assoc]
      exact List.flatMap_congr ih
  | any ps ih =>
      rw [hany, leaves_anyOf, List.flatMap_assoc]
      exact List.flatMap_congr ih

/-- The regular expressions of a predicate are those of its leaves. -/
theorem patterns_eq_flatMap (p : Predicate) : p.patterns = p.leaves.flatMap patterns :=
  eq_flatMap_leaves rfl patterns_not patterns_allOf patterns_anyOf p

/-- The keys that a predicate names are those of its leaves. -/
theorem keys_eq_flatMap (p : Predicate) : p.keys = p.leaves.flatMap keys := by
  have hgroup (ps : List Predicate) : keysAll ps = ps.flatMap keys := keysAll_eq ps
  exact eq_flatMap_leaves rfl (fun _ => rfl) hgroup hgroup p

section Collected

variable {α : Type} {f : Predicate → List α} (hf : ∀ p, f p = p.leaves.flatMap f)

include hf

/-- What is collected from the leaves of a conjunction is collected from its members. -/
theorem flatMap_conjunction (ps : List Predicate) : f (conjunction ps) = ps.flatMap f := by
  rw [hf, leaves_conjunction, List.flatMap_assoc]
  exact List.flatMap_congr fun p _ => (hf p).symm

theorem flatMap_disjunction (ps : List Predicate) : f (disjunction ps) = ps.flatMap f := by
  unfold disjunction
  split
  · exact (List.flatMap_singleton f _).symm
  · rw [hf, leaves_anyOf, List.flatMap_assoc]
    exact List.flatMap_congr fun p _ => (hf p).symm

theorem flatMap_negate (p : Predicate) : f p.negate = f p := by rw [hf, leaves_negate, ← hf]

end Collected

/-- The truth value of a predicate is decided by those of its leaves. -/
theorem boolean_congr {f g : Predicate → Bool} {p : Predicate} (h : ∀ q ∈ p.leaves, f q = g q) :
    p.boolean f = p.boolean g := by
  induction p using Predicate.induction with
  | leaf p hp =>
      cases p with
      | everything => rfl
      | not | allOf | anyOf => contradiction
      | _ => exact h _ (List.mem_singleton_self _)
  | neg p ih => rw [boolean_not, boolean_not, ih (by simpa using h)]
  | all ps ih =>
      rw [leaves_allOf, List.forall_mem_flatMap] at h
      rw [boolean_allOf, boolean_allOf, Bool.eq_iff_iff, List.all_eq_true, List.all_eq_true]
      exact forall₂_congr fun p hp => by rw [ih p hp (h p hp)]
  | any ps ih =>
      rw [leaves_anyOf, List.forall_mem_flatMap] at h
      rw [boolean_anyOf, boolean_anyOf, Bool.eq_iff_iff, List.any_eq_true, List.any_eq_true]
      exact exists_congr fun p => and_congr_right fun hp => by rw [ih p hp (h p hp)]

/-! ### Conditions -/

theorem leaves_foldl {op : BinaryOp} (hop : op = .and ∨ op = .or) (e : Expr) (es : List Expr) :
    (es.foldl (.binary op) e).leaves = e.leaves ++ es.flatMap Expr.leaves := by
  induction es generalizing e with
  | nil => simp
  | cons e' es ih =>
      have hbinary : (Expr.binary op e e').leaves = e.leaves ++ e'.leaves := by
        rcases hop with rfl | rfl <;> rw [Expr.leaves]
      rw [List.foldl_cons, ih, hbinary, List.flatMap_cons, List.append_assoc]

theorem leaves_joined {op : BinaryOp} (hop : op = .and ∨ op = .or) {empty : Expr}
    (hempty : empty.leaves = []) {es : List Expr} (h : ∀ e ∈ es, e.isNoneOther = false) :
    (joined op empty es).leaves = es.flatMap Expr.leaves := by
  match es with
  | [] => exact hempty
  | [e] => rw [joined, List.flatMap_singleton]
  | e :: e' :: es =>
      have hsole : ((e' :: es).foldl (.binary op) e).isSoleTest = false :=
        isSoleTest_foldl e (List.cons_ne_nil e' es) fun e he => h e (List.mem_cons_of_mem _ he)
      rw [joined, Expr.leaves, hsole, if_neg Bool.false_ne_true, leaves_foldl hop, List.flatMap_cons]
      all_goals simp

/-- The leaves of the condition of a predicate are the conditions of its leaves. -/
theorem mem_leaves_toSql {p : Predicate} {l : Expr} (h : l ∈ p.toSql.leaves) :
    ∃ q ∈ p.leaves, l = q.toSql := by
  have hgroup {op : BinaryOp} (hop : op = .and ∨ op = .or) {empty : Expr}
      (hempty : empty.leaves = []) {ps : List Predicate}
      (ih : ∀ p ∈ ps, l ∈ p.toSql.leaves → ∃ q ∈ p.leaves, l = q.toSql)
      (h : l ∈ (joined op empty (ps.map toSql)).leaves) :
      ∃ q ∈ ps.flatMap leaves, l = q.toSql := by
    rw [leaves_joined hop hempty (List.forall_mem_map.2 fun p _ => p.plain_toSql.2),
      List.flatMap_map, List.mem_flatMap] at h
    obtain ⟨p, hp, hl⟩ := h
    obtain ⟨q, hq, rfl⟩ := ih p hp hl
    exact ⟨q, List.mem_flatMap.2 ⟨p, hp, hq⟩, rfl⟩
  induction p using Predicate.induction with
  | leaf p hp =>
      cases p with
      | everything => contradiction
      | inList key values =>
          cases values with
          | nil => contradiction
          | cons => exact ⟨_, List.mem_singleton_self _, List.mem_singleton.1 h⟩
      | compare key c value =>
          cases c <;> exact ⟨_, List.mem_singleton_self _, List.mem_singleton.1 h⟩
      | not | allOf | anyOf => contradiction
      | _ => exact ⟨_, List.mem_singleton_self _, List.mem_singleton.1 h⟩
  | neg p ih =>
      rw [leaves_not]
      refine ih ?_
      simpa [toSql, Expr.leaves, p.plain_toSql.1] using h
  | all ps ih =>
      rw [toSql_allOf] at h
      rw [leaves_allOf]
      exact hgroup (.inl rfl) rfl ih h
  | any ps ih =>
      rw [toSql_anyOf] at h
      rw [leaves_anyOf]
      exact hgroup (.inr rfl) rfl ih h

/-- The condition of the predicate has a value on the card; it is true if the card meets the predicate,
and otherwise false or unknown. -/
def Agrees (card : Json) (p : Predicate) : Prop :=
  ∃ t, p.toSql.HasTruth ⟨card, .null⟩ t ∧ (t == some true) = p.holds card

/-- The truth values that conditions have on a card. -/
def truthOn (card : Json) (e : Expr) : Option Bool :=
  match e.eval ⟨card, .null⟩ with
  | .ok x => x.truth?
  | .error _ => none

theorem truthOn_eq {card : Json} {e : Expr} {t : Option Bool} (h : e.HasTruth ⟨card, .null⟩ t) :
    truthOn card e = t := by
  obtain ⟨x, hx, rfl⟩ := h
  rw [truthOn, hx]

theorem leafTrue_eq {card : Json} {q : Predicate} (h : q.Agrees card) :
    leafTrue (truthOn card) q = q.holds card := by
  obtain ⟨t, ht, heq⟩ := h
  unfold leafTrue
  split
  · simp only [holds, storedTest]
    split <;> rfl
  · rw [truthOn_eq ht, heq]

/-- **Agreement about the leaves is agreement about the whole.**  The leaves are put together by the same
connectives on both sides, and what is unknown is false before it is negated. -/
theorem agrees_of_leaves {card : Json} {p : Predicate} (h : ∀ q ∈ p.leaves, q.Agrees card) :
    p.Agrees card := by
  refine ⟨p.toSql.truth (truthOn card), Expr.eval_truth _ fun l hl => ?_, ?_⟩
  · obtain ⟨q, hq, rfl⟩ := mem_leaves_toSql hl
    obtain ⟨t, ht, -⟩ := h q hq
    rwa [truthOn_eq ht]
  · have hleaves : p.boolean (leafTrue (truthOn card)) = p.boolean fun q => q.holds card :=
      boolean_congr fun q hq => leafTrue_eq (h q hq)
    rw [Bool.eq_iff_iff, beq_iff_eq, truth_toSql, hleaves, boolean_holds]

/-- A condition that agrees is evaluated to whether the card meets the predicate. -/
theorem holds_toSql {card : Json} {p : Predicate} (h : p.Agrees card) :
    p.toSql.holds card = .ok (p.holds card) := by
  obtain ⟨t, ht, heq⟩ := h
  rw [ht.holds, heq]

@[simp] theorem holds_toSql_everything (card : Json) : everything.toSql.holds card = .ok true := by
  rw [holds_toSql (agrees_of_leaves (by simp [leaves])), holds_everything]

end Predicate

/-! ### What keys hold -/

/-- What a key is supposed to hold: a whole number, a set of letters, or a label. -/
inductive Content where
  | number
  | letters
  | label
deriving DecidableEq, Repr

namespace Content

/-- Values of this sort: whole numbers of 64 bits, natural ones among them, and texts. -/
def Admits : Content → Json → Prop
  | number, j => ∃ i, fitsInt64 i = true ∧ j = .number (.integer i)
  | letters, j => ∃ i, 0 ≤ i ∧ fitsInt64 i = true ∧ j = .number (.integer i)
  | label, j => ∃ s, j = .text s

/-- The key holds nothing on the card, or null, or a value of this sort. -/
def Fits (c : Content) (key : String) (card : Json) : Prop :=
  ∀ j, card.stored? (Json.pathOf key) = some j → c.Admits j

/-- A leaf that asks for something that the key can hold. -/
inductive Asks (key : String) : Content → Predicate → Prop where
  | compare (c : Comparison) (i : Int) : Asks key number (.compare key c (.integer i))
  | exactly (i : Int) : Asks key letters (.compare key .equal (.integer i))
  | allSet {mask : Nat} (h : mask < 2 ^ 64) : Asks key letters (.bitsAllSet key mask)
  | allClear {mask : Nat} (h : mask < 2 ^ 64) : Asks key letters (.bitsAllClear key mask)
  | masks (is : List Int) : Asks key letters (.inList key (is.map .integer))
  | labels (texts : List String) : Asks key label (.inList key (texts.map .text))
  | present : Asks key label (.present key)

/-- Operands that compare with values of this sort. -/
inductive Compares : Content → Scalar → Prop where
  | number (i : Int) : Compares number (.integer i)
  | letters (i : Int) : Compares letters (.integer i)
  | label (s : String) : Compares label (.text s)

variable {key : String} {card : Json} {c : Content}

/-- The value at a key, in SQL. -/
theorem eval_extract (hkey : isPlainKey key = true) (card : Json) :
    (Expr.extract key).eval ⟨card, .null⟩ =
      .ok (((card.stored? (Json.pathOf key)).map Value.ofJson).getD .null) := by
  rw [Expr.eval_part, Row.part_of_isPlainKey hkey]
  simp only [Except.map, Json.stored?]
  split
  · next hnull => rw [hnull]; rfl
  · rfl

/-- A whole number of 64 bits, in SQL. -/
theorem ofJson_integer {i : Int} (hi : fitsInt64 i = true) :
    Value.ofJson (.number (.integer i)) = .integer i := by
  simp only [Value.ofJson, Value.ofNumber, Json.Number.int64?, if_pos hi]

/-- Values of a sort are ordered alike against operands that compare with them. -/
theorem compared_ofJson {j : Json} (hj : c.Admits j) {value : Scalar} (hvalue : c.Compares value) :
    (Value.ofJson j).compared (.ofParam value.toSql) = value.order? j := by
  have hinteger {i : Int} (hi : fitsInt64 i = true) (k : Int) :
      (Value.ofJson (.number (.integer i))).compared (.ofParam (Scalar.integer k).toSql) =
        (Scalar.integer k).order? (.number (.integer i)) := by
    simp only [ofJson_integer hi, Scalar.order?, Json.Number.int64?, if_pos hi]
    exact compared_integer i k
  cases hvalue with
  | number k =>
      obtain ⟨i, hi, rfl⟩ := hj
      exact hinteger hi k
  | letters k =>
      obtain ⟨i, -, hi, rfl⟩ := hj
      exact hinteger hi k
  | label t =>
      obtain ⟨s, rfl⟩ := hj
      simp [Value.ofJson, Scalar.toSql, Value.ofParam, Value.compared, Value.order, Scalar.order?]

theorem meets_eq (op : Comparison) (value : Scalar) (j : Json) :
    value.meets j op = ((value.order? j).map op.holds == some true) := by
  rw [Scalar.meets]
  cases value.order? j with
  | none => rfl
  | some ordering => simp

/-- An operator of comparison, applied. -/
theorem hasTruth_comparison {row : Row} {left right : Expr} {a b : Value} (op : Comparison)
    (hleft : left.eval row = .ok a) (hright : right.eval row = .ok b) :
    (Expr.binary op.toSql left right).HasTruth row ((a.compared b).map op.holds) := by
  have heval : (Expr.binary op.toSql left right).eval row = .ok (compareBy op.holds a b) := by
    rw [Expr.eval_binary hleft hright]
    cases op <;> rfl
  rw [← truth?_ofTruth ((a.compared b).map op.holds)]
  exact Expr.hasTruth_of_eval heval

/-- **Comparisons agree** where the key holds what the operand compares with. -/
theorem agrees_compare (hkey : isPlainKey key = true) (hfits : c.Fits key card) (op : Comparison)
    {value : Scalar} (hvalue : c.Compares value) :
    (Predicate.compare key op value).Agrees card := by
  refine ⟨_, hasTruth_comparison op (eval_extract hkey card) rfl, ?_⟩
  simp only [Predicate.holds, Predicate.storedTest]
  cases hj : card.stored? (Json.pathOf key) with
  | none => rfl
  | some j =>
      rw [Option.map_some, Option.getD_some, compared_ofJson (hfits j hj) hvalue]
      exact (meets_eq op value j).symm

/-- A value is known to be among others when it is equal to one of them. -/
theorem isAmong_eq_true (a : Value) (items : List Value) :
    ((isAmong a items).truth? == some true) = items.any fun b => a.compared b == some .eq := by
  have hcontains : (items.map fun b => a.compared b).contains (some .eq) =
      items.any fun b => a.compared b == some .eq := by
    rw [Bool.eq_iff_iff, List.contains_iff_mem, List.mem_map, List.any_eq_true]
    simp only [beq_iff_eq]
  rw [isAmong, truth?_ofTruth, ← hcontains]
  cases (items.map fun b => a.compared b).contains (some .eq) with
  | true => rfl
  | false => cases (items.map fun b => a.compared b).contains none <;> rfl

/-- **Memberships agree** where the key holds what the operands compare with. -/
theorem agrees_inList (hkey : isPlainKey key = true) (hfits : c.Fits key card)
    {values : List Scalar} (hvalues : ∀ value ∈ values, c.Compares value) :
    (Predicate.inList key values).Agrees card := by
  by_cases hempty : values = []
  · subst hempty
    refine ⟨some false, Expr.hasTruth_equal_numbers 1 0, ?_⟩
    simp only [Predicate.holds, Predicate.storedTest]
    split <;> rfl
  · have hsql : (Predicate.inList key values).toSql =
        .isIn (.extract key) ((values.map Scalar.toSql).map .param) := by
      rw [Predicate.toSql, if_neg (by simpa using hempty), List.map_map]
      rfl
    have heval : (Predicate.inList key values).toSql.eval ⟨card, .null⟩ =
        .ok (isAmong (((card.stored? (Json.pathOf key)).map Value.ofJson).getD .null)
          ((values.map Scalar.toSql).map .ofParam)) := by
      rw [hsql, Expr.eval_isIn (eval_extract hkey card)]
    refine ⟨_, Expr.hasTruth_of_eval heval, ?_⟩
    rw [isAmong_eq_true, List.any_map, List.any_map]
    simp only [Predicate.holds, Predicate.storedTest]
    cases hj : card.stored? (Json.pathOf key) with
    | none => simp [Value.compared]
    | some j =>
        rw [Option.map_some, Option.getD_some, Bool.eq_iff_iff, List.any_eq_true, List.any_eq_true]
        refine exists_congr fun value => and_congr_right fun hvalue => ?_
        rw [Function.comp_apply, Function.comp_apply,
          compared_ofJson (hfits j hj) (hvalues value hvalue), meets_eq]
        rcases value.order? j with _ | _ | _ | _ <;> decide

/-- **Presence agrees** where the key holds labels. -/
theorem agrees_present (hkey : isPlainKey key = true) (hfits : label.Fits key card) :
    (Predicate.present key).Agrees card := by
  have heval : (Predicate.present key).toSql.eval ⟨card, .null⟩ =
      .ok (.ofBool (((card.stored? (Json.pathOf key)).map Value.ofJson).getD .null != .null)) := by
    rw [Predicate.toSql, Expr.eval_isNotNull, eval_extract hkey]
    rfl
  refine ⟨_, Expr.hasTruth_of_eval heval, ?_⟩
  simp only [Predicate.holds, Predicate.storedTest]
  cases hj : card.stored? (Json.pathOf key) with
  | none => rfl
  | some j =>
      obtain ⟨s, rfl⟩ := hfits j hj
      rfl

/-! ### Sets of letters -/

/-- The bits of a mask in a number. -/
theorem bitAnd_mask (n mask : Nat) :
    (Value.integer n).bitAnd (.ofParam (maskParam mask)) =
      .integer (BitVec.ofNat 64 (n &&& mask)).toInt := by
  simp only [Value.bitAnd, Value.bits?, Value.ofParam, maskParam, BitVec.ofInt_toInt,
    BitVec.ofInt_natCast, BitVec.ofNat_and]

theorem toInt_ofNat_inj {m n : Nat} (hm : m < 2 ^ 64) (hn : n < 2 ^ 64) :
    (BitVec.ofNat 64 m).toInt = (BitVec.ofNat 64 n).toInt ↔ m = n := by
  rw [BitVec.toInt_inj, ← BitVec.toNat_inj, BitVec.toNat_ofNat, BitVec.toNat_ofNat,
    Nat.mod_eq_of_lt hm, Nat.mod_eq_of_lt hn]

theorem bitsTest_none {passes : Nat → Bool} (h : card.stored? (Json.pathOf key) = none) :
    Predicate.bitsTest key passes card = false := by
  simp only [Predicate.bitsTest, Json.bitsAt?, h]

theorem bitsTest_some {passes : Nat → Bool} {n : Nat} (hfit : fitsInt64 n = true)
    (h : card.stored? (Json.pathOf key) = some (.number (.integer n))) :
    Predicate.bitsTest key passes card = passes n := by
  have hnat : fitsNat64 n = true := by
    rw [fitsInt64_iff, int64Bound] at hfit
    rw [fitsNat64_iff]
    omega
  simp only [Predicate.bitsTest, Json.bitsAt?, h, Json.Number.nat64?, if_pos hnat, Int.toNat_natCast]

theorem eval_bitAnd {row : Row} {left right : Expr} {a b : Value} (hleft : left.eval row = .ok a)
    (hright : right.eval row = .ok b) :
    (Expr.binary .bitAnd left right).eval row = .ok (a.bitAnd b) := by
  rw [Expr.eval_binary hleft hright]
  rfl

/-- **Tests of bits agree** where the key holds letters: the condition compares the bits of the mask with
a number, and the test of a stored number asks the same. -/
theorem agrees_bits (hkey : isPlainKey key = true) (hfits : letters.Fits key card) {mask : Nat}
    (hmask : mask < 2 ^ 64) {p : Predicate} {passes : Nat → Bool} {expected : Expr} {bits : Nat}
    (hsql : p.toSql = .binary .equal (maskedBits key mask) expected)
    (hholds : p.holds = Predicate.bitsTest key passes)
    (hexpected : expected.eval ⟨card, .null⟩ = .ok (.integer (BitVec.ofNat 64 bits).toInt))
    (hbits : bits < 2 ^ 64) (hpasses : ∀ n, passes n = (n &&& mask == bits)) : p.Agrees card := by
  have hmasked : (maskedBits key mask).eval ⟨card, .null⟩ =
      .ok ((((card.stored? (Json.pathOf key)).map Value.ofJson).getD .null).bitAnd
        (.ofParam (maskParam mask))) := by
    rw [maskedBits, Expr.eval_paren]
    exact eval_bitAnd (eval_extract hkey card) rfl
  have htruth := hasTruth_comparison .equal hmasked hexpected
  rw [Comparison.toSql, ← hsql] at htruth
  refine ⟨_, htruth, ?_⟩
  rw [hholds]
  cases hj : card.stored? (Json.pathOf key) with
  | none =>
      rw [bitsTest_none hj]
      simp [Value.bitAnd, Value.bits?, Value.compared]
  | some j =>
      obtain ⟨i, hi, hfit, rfl⟩ := hfits j hj
      obtain ⟨n, rfl⟩ := Int.eq_ofNat_of_zero_le hi
      have hand : n &&& mask < 2 ^ 64 := Nat.lt_of_le_of_lt Nat.and_le_right hmask
      rw [Option.map_some, Option.getD_some, ofJson_integer hfit, bitAnd_mask, compared_integer,
        Option.map_some, bitsTest_some hfit hj, hpasses, Bool.eq_iff_iff]
      simp only [Comparison.holds, beq_iff_eq, Option.some.injEq, compare_eq_iff_eq,
        toInt_ofNat_inj hand hbits]

theorem agrees_allSet (hkey : isPlainKey key = true) (hfits : letters.Fits key card) {mask : Nat}
    (hmask : mask < 2 ^ 64) : (Predicate.bitsAllSet key mask).Agrees card :=
  agrees_bits hkey hfits hmask rfl rfl rfl hmask fun _ => rfl

theorem agrees_allClear (hkey : isPlainKey key = true) (hfits : letters.Fits key card) {mask : Nat}
    (hmask : mask < 2 ^ 64) : (Predicate.bitsAllClear key mask).Agrees card :=
  agrees_bits hkey hfits hmask rfl rfl rfl (Nat.two_pow_pos 64) fun _ => rfl

/-- **Agreement about a leaf** that suits what its key holds. -/
theorem Asks.agrees {q : Predicate} (h : Asks key c q) (hkey : isPlainKey key = true)
    (hfits : c.Fits key card) : q.Agrees card := by
  cases h with
  | compare op i => exact agrees_compare hkey hfits op (.number i)
  | exactly i => exact agrees_compare hkey hfits .equal (.letters i)
  | allSet hmask => exact agrees_allSet hkey hfits hmask
  | allClear hmask => exact agrees_allClear hkey hfits hmask
  | masks is => exact agrees_inList hkey hfits (List.forall_mem_map.2 fun i _ => .letters i)
  | labels texts => exact agrees_inList hkey hfits (List.forall_mem_map.2 fun s _ => .label s)
  | present => exact agrees_present hkey hfits

end Content

end CardQuery
