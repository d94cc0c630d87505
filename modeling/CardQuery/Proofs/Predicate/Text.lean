/-
**Conditions on texts that ignore case.**

Four conditions ask for a text and ignore case.  In memory texts are compared in lower case; SQL searches
for a pattern, which compares them as they are folded.  Both verdicts are the same function of the texts
that a card holds, for different forms of texts.  The forms part at the final sigma, at the dotted capital
I, and at characters that are folded alike but have lower cases of their own, so that the stores agree
about all cards exactly when the text that is asked for has none of them.

Main definitions:

* `TextCondition` — the four conditions;
* `TextCondition.Suits`, `TextCondition.Finds` — the values that they are meant for, and cards that hold
  such a value at a key;
* `TextCondition.Holds` — when a condition holds of texts, for a form in which they are compared.

Main results:

* `TextCondition.holds_iff` — **in memory texts are compared in lower case**;
* `TextCondition.toSql_holds_iff` — **in SQL they are compared as they are folded**;
* `TextCondition.holds_folded_of_lowered` — what is found in lower case is found by folding;
* `TextCondition.stores_compare_texts` — **both stores**, and when they agree.
-/

import CardQuery.Proofs.Predicate.Agreement
import CardQuery.Proofs.Regex.Literal
import CardQuery.Proofs.Unicode.Lower

set_option autoImplicit false

namespace CardQuery

open CommandDraft (isPlainKey)
open Sql
open Unicode (folded isSteady lowered)

/-! ### Conditions -/

/-- The conditions that ask for a text and ignore case. -/
inductive TextCondition where
  | contains
  | equals
  | hasElement
  | soleElement (distinct : Bool)
deriving DecidableEq, Repr

namespace TextCondition

/-- The predicate that asks for a text at a key. -/
def predicate (key value : String) : TextCondition → Predicate
  | contains => .contains key value
  | equals => .textEquals key value
  | hasElement => .hasElement key value
  | soleElement distinct => .soleElement key value distinct

/-- A condition is meant for a value that holds some texts: a single text or, when the condition is about
elements, a list of texts. -/
inductive Suits : TextCondition → Json → List String → Prop where
  | single (k : TextCondition) (s : String) : Suits k (.text s) [s]
  | hasElement (texts : List String) : Suits hasElement (.list (texts.map .text)) texts
  | soleElement (distinct : Bool) (texts : List String) :
    Suits (soleElement distinct) (.list (texts.map .text)) texts

/-- The condition holds of some texts, if texts are compared in a form. -/
def Holds (form : List Char → List Char) (value : String) (texts : List String) : TextCondition → Prop
  | contains => ∃ s ∈ texts, form value.toList <:+: form s.toList
  | equals => ∃ s ∈ texts, form s.toList = form value.toList
  | hasElement => ∃ s ∈ texts, form s.toList = form value.toList
  | soleElement distinct =>
    (if distinct then texts ≠ [] else texts.length = 1) ∧
      ∀ s ∈ texts, form s.toList = form value.toList

variable {k : TextCondition} {key value : String} {card stored : Json} {texts : List String}

/-- A finer form makes fewer texts alike. -/
theorem Holds.mono {form form' : List Char → List Char}
    (hequal : ∀ s ∈ texts, form s.toList = form value.toList → form' s.toList = form' value.toList)
    (hfind : ∀ s ∈ texts, form value.toList <:+: form s.toList →
      form' value.toList <:+: form' s.toList)
    (h : k.Holds form value texts) : k.Holds form' value texts := by
  cases k with
  | contains =>
      obtain ⟨s, hs, hfound⟩ := h
      exact ⟨s, hs, hfind s hs hfound⟩
  | equals =>
      obtain ⟨s, hs, heq⟩ := h
      exact ⟨s, hs, hequal s hs heq⟩
  | hasElement =>
      obtain ⟨s, hs, heq⟩ := h
      exact ⟨s, hs, hequal s hs heq⟩
  | soleElement distinct => exact ⟨h.1, fun s hs => hequal s hs (h.2 s hs)⟩

/-- A single text meets every condition when it is the value in its form. -/
theorem holds_single {form : List Char → List Char} {s : String}
    (h : form s.toList = form value.toList) : k.Holds form value [s] := by
  cases k with
  | contains => exact ⟨s, List.mem_singleton_self s, h ▸ List.infix_refl _⟩
  | equals => exact ⟨s, List.mem_singleton_self s, h⟩
  | hasElement => exact ⟨s, List.mem_singleton_self s, h⟩
  | soleElement distinct => cases distinct <;> simpa [Holds] using h

/-- A single text that meets a condition contains the value in its form. -/
theorem infix_of_holds_single {form : List Char → List Char} {s : String} (h : k.Holds form value [s]) :
    form value.toList <:+: form s.toList := by
  cases k with
  | contains => simpa [Holds] using h
  | equals =>
      have heq : form s.toList = form value.toList := by simpa [Holds] using h
      rw [heq]
  | hasElement =>
      have heq : form s.toList = form value.toList := by simpa [Holds] using h
      rw [heq]
  | soleElement distinct =>
      rw [h.2 s (List.mem_singleton_self s)]

/-! ### In memory -/

theorem beginsWith_iff {s needle : List Char} : beginsWith s needle = true ↔ needle <+: s := by
  induction needle generalizing s with
  | nil => cases s <;> simp [beginsWith]
  | cons d needle ih =>
      cases s with
      | nil => simp [beginsWith]
      | cons c s =>
          rw [beginsWith, Bool.and_eq_true, beq_iff_eq, ih, List.cons_prefix_cons]
          exact and_congr_left' eq_comm

theorem containsText_iff {s needle : List Char} : containsText needle s = true ↔ needle <:+: s := by
  induction s with
  | nil => simp [containsText]
  | cons c s ih => rw [containsText, Bool.or_eq_true, beginsWith_iff, ih, List.infix_cons_iff]

theorem texts_of_suits (h : k.Suits stored texts) : stored.texts = texts := by
  have hlist (texts : List String) : (Json.list (texts.map .text)).texts = texts := by
    rw [Json.texts, List.filterMap_map]
    exact List.filterMap_some
  cases h with
  | single s => rfl
  | hasElement => exact hlist texts
  | soleElement => exact hlist texts

theorem textsAt_of_suits (hstored : card.at? (Json.pathOf key) = some stored)
    (h : k.Suits stored texts) : card.textsAt (Json.pathOf key) = texts := by
  have hfound : card.stored? (Json.pathOf key) = some stored := by
    rw [Json.stored?, hstored]
    cases h <;> rfl
  rw [Json.textsAt, hfound]
  exact texts_of_suits h

/-- **In memory texts are compared in lower case.** -/
theorem holds_iff (hstored : card.at? (Json.pathOf key) = some stored) (h : k.Suits stored texts) :
    (k.predicate key value).holds card = true ↔ k.Holds lowered value texts := by
  have htexts := textsAt_of_suits hstored h
  cases k with
  | contains =>
      simp [predicate, Predicate.holds, Predicate.textTest, Predicate.containsNeedle, htexts, Holds,
        containsText_iff]
  | equals =>
      simp [predicate, Predicate.holds, Predicate.textTest, Predicate.equalsText, htexts, Holds]
  | hasElement =>
      simp [predicate, Predicate.holds, Predicate.textTest, Predicate.equalsText, htexts, Holds]
  | soleElement distinct =>
      cases distinct <;>
        simp [predicate, Predicate.holds, Predicate.soleTest, Predicate.equalsText, htexts, Holds]

/-- No regular expression is searched for. -/
theorem test?_eq (k : TextCondition) (key value : String) :
    (k.predicate key value).test? = .ok (k.predicate key value).holds := by
  refine Predicate.test?_eq_ok_iff.2 ⟨?_, rfl⟩
  cases k <;> simp [predicate, Predicate.patterns]

end TextCondition

/-! ### In SQL -/

namespace Sql

theorem truth?_ofBool (b : Bool) : (Value.ofBool b).truth? = some b := by cases b <;> rfl

theorem eval_matching {row : Row} {e : Expr} {s source : String} {p : Regex.Pattern} {b : Bool}
    (he : e.eval row = .ok (.text s)) (hp : Regex.parse? false source = some p)
    (hb : p.occursIn s.toList = b) : (matching e source).eval row = .ok (.ofBool b) := by
  have hmatch : matchRegex (.text s) (.text source) = .ok (.ofBool b) := by
    rw [matchRegex, hp]
    simp only [hb]
  rw [matching, Expr.eval_binary he (Expr.eval_param row _)]
  exact hmatch

/-- A text is found in a value. -/
theorem eval_literal {row : Row} {e : Expr} {s : String} (he : e.eval row = .ok (.text s))
    (value : String) :
    (matching e (ignoringCase (Regex.escape value))).eval row =
      .ok (.ofBool (decide (value.toList.map folded <:+: s.toList.map folded))) := by
  refine eval_matching he (Regex.parse?_literal value) ?_
  rw [Bool.eq_iff_iff, decide_eq_true_eq, Regex.occursIn_literal]

/-- A text is a value. -/
theorem eval_exactText {row : Row} {e : Expr} {s : String} (he : e.eval row = .ok (.text s))
    (value : String) :
    (matching e (exactText value)).eval row =
      .ok (.ofBool (decide (s.toList.map folded = value.toList.map folded))) := by
  refine eval_matching he (Regex.parse?_exactText value) ?_
  rw [Bool.eq_iff_iff, decide_eq_true_eq, Regex.occursIn_exactText]

theorem someTrue_texts {test : Value → Except EvalError Value} {passes : String → Bool}
    {texts : List String} (h : ∀ s ∈ texts, test (.text s) = .ok (.ofBool (passes s))) :
    someTrue test (texts.map .text) = .ok (texts.any passes) := by
  induction texts with
  | nil => rfl
  | cons s texts ih =>
      rw [List.forall_mem_cons] at h
      have hfirst : test (.ofJson (.text s)) = .ok (.ofBool (passes s)) := h.1
      rw [List.map_cons, someTrue, hfirst]
      simp only [truth?_ofBool, Option.some.injEq]
      rw [ih h.2, List.any_cons]
      cases passes s <;> rfl

/-- A text is a fixed one. -/
theorem hasTruth_label {row : Row} {e : Expr} {s : String} (he : e.eval row = .ok (.text s))
    (label : String) : (Expr.binary .equal e (.label label)).HasTruth row (some (s == label)) := by
  have heval : (Expr.binary .equal e (.label label)).eval row =
      .ok (compareBy (· == .eq) (.text s) (.text label)) := Expr.eval_binary he rfl
  have htruth : (compareBy (· == .eq) (.text s) (.text label)).truth? = some (s == label) := by
    have hcompared : Value.compared (.text s) (.text label) = some (compare s label) := rfl
    rw [compareBy, truth?_ofTruth, hcompared, Option.map_some, Option.some.injEq, Bool.eq_iff_iff,
      beq_iff_eq, beq_iff_eq, Std.LawfulEqCmp.compare_eq_iff_eq]
  rw [← htruth]
  exact Expr.hasTruth_of_eval heval

/-- A condition that is true decides between results. -/
theorem evalBranches_cons {row : Row} {condition result : Expr} {t : Option Bool}
    (h : condition.HasTruth row t) (otherwise : Except EvalError Value) (rest : List (Expr × Expr)) :
    Expr.evalBranches row otherwise ((condition, result) :: rest) =
      if t = some true then result.eval row else Expr.evalBranches row otherwise rest := by
  obtain ⟨x, hx, rfl⟩ := h
  rw [Expr.evalBranches, hx]

end Sql

namespace TextCondition

variable {k : TextCondition} {key value : String} {card stored : Json} {texts : List String}

theorem elementsOf_suits (h : k.Suits stored texts) : elementsOf stored = texts.map .text := by
  cases h <;> rfl

/-- Some of the texts meets a condition. -/
theorem eval_exists {row : Row} {condition : Expr} {passes : String → Bool}
    (hpart : row.part key = .ok (some stored)) (h : k.Suits stored texts)
    (hpasses : ∀ s, condition.eval { row with element := .text s } = .ok (.ofBool (passes s))) :
    (Expr.exists key condition).eval row = .ok (.ofBool (texts.any passes)) := by
  rw [Expr.eval, hpart]
  simp only [elementsOf_suits h]
  rw [someTrue_texts fun s _ => hpasses s]
  rfl

/-- The texts are counted. -/
theorem eval_elementCount {row : Row} (hpart : row.part key = .ok (some stored))
    (h : k.Suits stored texts) : (elementCount key).eval row = .ok (.integer texts.length) := by
  have htype : (Expr.typeOf key).eval row = .ok (.text (typeName stored)) := by
    rw [Expr.eval, hpart]
    rfl
  have hlength : (Expr.lengthOf key).eval row = .ok (.integer (listLength stored)) := by
    rw [Expr.eval, hpart]
    rfl
  have harray := hasTruth_label htype "array"
  rw [elementCount, Expr.eval_paren, Expr.eval, evalBranches_cons harray]
  cases h with
  | single s =>
      have hscalar : (Expr.isIn (.typeOf key) [.label "text", .label "integer", .label "real"]).HasTruth
          row (some true) := by
        refine ⟨isAmong (.text "text") [.text "text", .text "integer", .text "real"], ?_,
          by decide +kernel⟩
        rw [Expr.eval, htype]
        rfl
      rw [typeName, if_neg (by decide), evalBranches_cons hscalar, if_pos rfl]
      rfl
  | hasElement => rw [typeName, if_pos (by decide), hlength, listLength, List.length_map]
  | soleElement => rw [typeName, if_pos (by decide), hlength, listLength, List.length_map]

/-- Every text is the value. -/
theorem hasTruth_noOtherThan {row : Row} (hpart : row.part key = .ok (some stored))
    (h : k.Suits stored texts) (value : String) :
    (noOtherThan key value).HasTruth row
      (some (texts.all fun s => decide (s.toList.map folded = value.toList.map folded))) := by
  have hother (s : String) : (Expr.not (.coalesce (matching .element (exactText value)) (.number 0))).eval
      { row with element := .text s } =
      .ok (.ofBool !decide (s.toList.map folded = value.toList.map folded)) := by
    have hmatch : (matching .element (exactText value)).eval { row with element := .text s } = _ :=
      eval_exactText rfl value
    rw [Expr.eval_not, Expr.eval_coalesce hmatch, if_neg nofun, Except.map, truth?_ofBool]
    rfl
  have hnot := (Expr.hasTruth_of_eval (eval_exists hpart h hother)).not
  rw [truth?_ofBool, Option.map_some, ← List.all_eq_not_any_not] at hnot
  exact hnot

/-- The number of texts is as it should be. -/
theorem hasTruth_count {row : Row} (hpart : row.part key = .ok (some stored))
    (h : k.Suits stored texts) (distinct : Bool) :
    (if distinct then Expr.binary .greater (elementCount key) (.number 0)
      else .binary .equal (elementCount key) (.number 1)).HasTruth row
      (some (decide (if distinct then texts ≠ [] else texts.length = 1))) := by
  have hcount := eval_elementCount hpart h
  cases distinct with
  | false =>
      have hone := Content.hasTruth_comparison .equal hcount (Expr.eval_number row 1)
      have hiff : Comparison.equal.holds (compare (texts.length : Int) 1) =
          decide (texts.length = 1) := by
        rw [Bool.eq_iff_iff, Comparison.holds, beq_iff_eq, compare_eq_iff_eq, decide_eq_true_eq]
        omega
      rw [compared_integer, Option.map_some, Int.natCast_one, hiff] at hone
      exact hone
  | true =>
      have hsome := Content.hasTruth_comparison .greater hcount (Expr.eval_number row 0)
      have hiff : Comparison.greater.holds (compare (texts.length : Int) 0) =
          decide (texts ≠ []) := by
        rw [Bool.eq_iff_iff, Comparison.holds, beq_iff_eq, compare_gt_iff_gt, decide_eq_true_eq,
          ← List.length_pos_iff]
        omega
      rw [compared_integer, Option.map_some, Int.natCast_zero, hiff] at hsome
      exact hsome

/-- **In SQL texts are compared as they are folded.** -/
theorem toSql_holds_iff (hpart : partAt key card = .ok (some stored)) (h : k.Suits stored texts) :
    ∃ b, (k.predicate key value).toSql.holds card = .ok b ∧
      (b = true ↔ k.Holds (List.map folded) value texts) := by
  have hrow : (Row.mk card .null).part key = .ok (some stored) := by rw [Row.part, hpart]
  have hextract (s : String) (hs : stored = .text s) :
      (Expr.extract key).eval ⟨card, .null⟩ = .ok (.text s) := by
    rw [Expr.eval_part, hrow, hs]
    rfl
  cases k with
  | contains =>
      cases h with
      | single _ s =>
          have heval := eval_literal (hextract s rfl) value
          refine ⟨_, (Expr.hasTruth_of_eval heval).holds, ?_⟩
          simp [truth?_ofBool, Holds]
  | equals =>
      cases h with
      | single _ s =>
          have heval := eval_exactText (hextract s rfl) value
          refine ⟨_, (Expr.hasTruth_of_eval heval).holds, ?_⟩
          simp [truth?_ofBool, Holds]
  | hasElement =>
      have hmatch (s : String) : (matching .element (exactText value)).eval ⟨card, .text s⟩ = _ :=
        eval_exactText rfl value
      have heval := eval_exists hrow h hmatch
      refine ⟨_, (Expr.hasTruth_of_eval heval).holds, ?_⟩
      simp [truth?_ofBool, Holds]
  | soleElement distinct =>
      have hboth := (hasTruth_count hrow h distinct).and (hasTruth_noOtherThan hrow h value)
      refine ⟨_, hboth.holds, ?_⟩
      rw [beq_iff_eq, and3_eq_true]
      simp [Holds]

/-! ### Both forms -/

/-- **What is found in lower case is found by folding**, where there is no dotted capital I. -/
theorem holds_folded_of_lowered (hvalue : 'İ' ∉ value.toList) (htexts : ∀ s ∈ texts, 'İ' ∉ s.toList)
    (h : k.Holds lowered value texts) : k.Holds (List.map folded) value texts := by
  refine h.mono (fun s hs heq => ?_) fun s hs hfound => ?_
  · rw [← Unicode.map_folded_lowered (htexts s hs), heq, Unicode.map_folded_lowered hvalue]
  · rw [← Unicode.map_folded_lowered (htexts s hs), ← Unicode.map_folded_lowered hvalue]
    exact hfound.map folded

/-- Steady texts are found in lower case wherever they are found by folding. -/
theorem holds_lowered_of_folded (hvalue : value.toList.all isSteady = true)
    (htexts : ∀ s ∈ texts, 'İ' ∉ s.toList) (h : k.Holds (List.map folded) value texts) :
    k.Holds lowered value texts :=
  h.mono (fun _ _ heq => Unicode.lowered_eq_of_steady hvalue heq)
    fun s hs hfound => Unicode.infix_lowered_of_steady hvalue (htexts s hs) hfound

/-- Texts that are not steady are found in one form and not in the other. -/
theorem exists_text_apart (k : TextCondition) (h : value.toList.all isSteady = false) :
    ∃ s : String, 'İ' ∉ s.toList ∧
      ¬(k.Holds lowered value [s] ↔ k.Holds (List.map folded) value [s]) := by
  by_cases hdotted : 'İ' ∈ value.toList
  · -- in lower case the value is found as it is, but folded it keeps a character of its own
    have hplain : 'İ' ∉ lowered value.toList := fun hmem => (Unicode.of_mem_loweredAfter hmem).1.2 rfl
    refine ⟨String.ofList (lowered value.toList), by simpa using hplain, fun hiff => ?_⟩
    have hlowered : k.Holds lowered value [String.ofList (lowered value.toList)] :=
      holds_single (by rw [String.toList_ofList, Unicode.lowered_lowered])
    have hfound := infix_of_holds_single (hiff.1 hlowered)
    rw [String.toList_ofList] at hfound
    obtain ⟨c, hc, hfolded⟩ := List.mem_map.1 (hfound.subset (List.mem_map_of_mem hdotted))
    rw [Unicode.eq_dotted_of_folded hfolded] at hc
    exact hplain hc
  · obtain ⟨t, ht, hfolded, hunlike⟩ := Unicode.exists_text_unlike hdotted h
    refine ⟨String.ofList t, by simpa using ht, fun hiff => ?_⟩
    have hholds : k.Holds (List.map folded) value [String.ofList t] :=
      holds_single (by rw [String.toList_ofList, hfolded])
    have hfound := infix_of_holds_single (hiff.2 hholds)
    rw [String.toList_ofList] at hfound
    exact hunlike hfound

/-! ### Both stores -/

/-- The document that holds a value at a path and nothing else. -/
def nested : List String → Json → Json
  | [], j => j
  | name :: path, j => .object [(name, nested path j)]

theorem at?_nested (path : List String) (j : Json) : (nested path j).at? path = some j := by
  induction path with
  | nil => rfl
  | cons name path ih =>
      have hfield : (nested (name :: path) j).field? name = some (nested path j) := by
        simp [nested, Json.field?, KeyedList.find?]
      rw [Json.at?, hfield]
      exact ih

/-- Both stores find the texts at a key, and the condition is meant for them. -/
def Finds (k : TextCondition) (key : String) (card : Json) (texts : List String) : Prop :=
  ∃ stored, k.Suits stored texts ∧ card.at? (Json.pathOf key) = some stored ∧
    partAt key card = .ok (some stored)

/-- A plain key finds a text that is put there. -/
theorem exists_finds (hkey : isPlainKey key = true) (k : TextCondition) (s : String) :
    ∃ card, k.Finds key card [s] := by
  have hstored : (nested (Json.pathOf key) (.text s)).at? (Json.pathOf key) = some (.text s) :=
    at?_nested _ _
  refine ⟨nested (Json.pathOf key) (.text s), .text s, .single k s, hstored, ?_⟩
  rw [partAt_of_isPlainKey hkey, hstored]

/-- **Both stores compare the texts that they find at a key**, in memory in lower case and in SQL as they
are folded. -/
theorem stores_compare_texts (k : TextCondition) (key value : String) :
    ∃ test, (k.predicate key value).test? = .ok test ∧
      (∀ card texts, k.Finds key card texts →
        (test card = true ↔ k.Holds lowered value texts) ∧
          ∃ b, (k.predicate key value).toSql.holds card = .ok b ∧
            (b = true ↔ k.Holds (List.map folded) value texts) ∧
            -- without a dotted capital I nothing is found in memory that is not found in SQL
            ('İ' ∉ value.toList → (∀ s ∈ texts, 'İ' ∉ s.toList) → test card = true → b = true)) ∧
      -- about all texts without it the stores agree exactly when the value is steady
      (isPlainKey key = true →
        ((∀ card texts, k.Finds key card texts → (∀ s ∈ texts, 'İ' ∉ s.toList) →
            (k.predicate key value).toSql.holds card = .ok (test card)) ↔
          value.toList.all isSteady = true)) := by
  have hmemory {card : Json} {texts : List String} (h : k.Finds key card texts) :
      (k.predicate key value).holds card = true ↔ k.Holds lowered value texts := by
    obtain ⟨stored, hsuits, hstored, -⟩ := h
    exact holds_iff hstored hsuits
  have hsql {card : Json} {texts : List String} (h : k.Finds key card texts) :
      ∃ b, (k.predicate key value).toSql.holds card = .ok b ∧
        (b = true ↔ k.Holds (List.map folded) value texts) := by
    obtain ⟨stored, hsuits, -, hpart⟩ := h
    exact toSql_holds_iff hpart hsuits
  refine ⟨_, test?_eq k key value, fun card texts h => ⟨hmemory h, ?_⟩, fun hkey => ⟨?_, ?_⟩⟩
  · obtain ⟨b, hb, hiff⟩ := hsql h
    refine ⟨b, hb, hiff, fun hvalue htexts hholds => ?_⟩
    exact hiff.2 (holds_folded_of_lowered hvalue htexts ((hmemory h).1 hholds))
  · -- texts that are not steady are told apart on some card
    intro hagree
    by_contra hunsteady
    obtain ⟨s, hs, hapart⟩ := exists_text_apart k (Bool.eq_false_iff.2 hunsteady)
    obtain ⟨card, hfinds⟩ := exists_finds hkey k s
    obtain ⟨b, hb, hiff⟩ := hsql hfinds
    have hsame := hagree card [s] hfinds (by simpa using hs)
    rw [hb, Except.ok.injEq] at hsame
    exact hapart ((hmemory hfinds).symm.trans (by rw [← hsame, hiff]))
  · intro hsteady card texts h htexts
    have hvalue : 'İ' ∉ value.toList := fun hmem =>
      (Unicode.isSteady_iff.1 (List.all_eq_true.1 hsteady _ hmem)).1 rfl
    obtain ⟨b, hb, hiff⟩ := hsql h
    rw [hb, Except.ok.injEq, Bool.eq_iff_iff, hiff, hmemory h]
    exact ⟨holds_lowered_of_folded hsteady htexts, holds_folded_of_lowered hvalue htexts⟩

/-- A sigma at the end of the needle keeps its final form apart from the one inside a word. -/
theorem stores_compare_texts_final_sigma :
    let card := Json.object [("name", .text "ΟΔΥΣΣΕΥΣ")]
    let p : Predicate := .contains "name" "ΟΔΥΣ"
    let q : Predicate := .contains "name" "οδ"
    isPlainKey "name" = true ∧ contains.Finds "name" card ["ΟΔΥΣΣΕΥΣ"] ∧
      (∃ test, p.test? = .ok test ∧ test card = false) ∧ p.toSql.holds card = .ok true ∧
      ∃ test, q.test? = .ok test ∧ test card = true ∧ q.toSql.holds card = .ok true := by
  intro card p q
  have hfinds : contains.Finds "name" card ["ΟΔΥΣΣΕΥΣ"] :=
    ⟨.text "ΟΔΥΣΣΕΥΣ", .single _ _, rfl, rfl⟩
  have hp : ¬contains.Holds lowered "ΟΔΥΣ" ["ΟΔΥΣΣΕΥΣ"] := by
    simp only [Holds, List.mem_singleton, exists_eq_left]
    decide +kernel
  have hp' : contains.Holds (List.map folded) "ΟΔΥΣ" ["ΟΔΥΣΣΕΥΣ"] := by
    simp only [Holds, List.mem_singleton, exists_eq_left]
    decide +kernel
  have hq : contains.Holds lowered "οδ" ["ΟΔΥΣΣΕΥΣ"] := by
    simp only [Holds, List.mem_singleton, exists_eq_left]
    decide +kernel
  obtain ⟨test, htest, hcards, -⟩ := stores_compare_texts contains "name" "ΟΔΥΣ"
  obtain ⟨hmemory, b, hb, hsql, -⟩ := hcards card _ hfinds
  obtain ⟨test', htest', hcards', hagree⟩ := stores_compare_texts contains "name" "οδ"
  have hsteady : "οδ".toList.all isSteady = true := by decide +kernel
  have htrue : test' card = true := (hcards' card _ hfinds).1.2 hq
  refine ⟨rfl, hfinds, ⟨test, htest, ?_⟩, ?_, test', htest', htrue, ?_⟩
  · exact Bool.eq_false_iff.2 (mt hmemory.1 hp)
  · have hfound : b = true := hsql.2 hp'
    rwa [hfound] at hb
  · have hsame := (hagree rfl).2 hsteady card _ hfinds (by decide)
    rwa [htrue] at hsame

end TextCondition

end CardQuery
