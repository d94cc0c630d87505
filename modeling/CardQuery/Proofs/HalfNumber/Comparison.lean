/-
**Listing the labels of a ladder compares numbers.**

A token for a whole or half number asks for one of the labels whose numbers stand in the relation of its
operator.  As every label displays the number that stands beside it, and no other, the cards that it finds are
those whose label displays a number in that relation.

Main definitions:

* `HalfRange.standing` — the labels whose numbers stand in a relation to a number.

Main results:

* `holds_oneOf`, `holds_offLadder` — conditions on labels;
* `HalfRange.mem_standing` — **a label is listed when the number that it displays stands in the relation**;
* `Argument.halfNumber_compares` — **what tokens for whole and half numbers ask for**.
-/

import CardQuery.Command.Draft
import CardQuery.Proofs.Comparison
import CardQuery.Proofs.Filtering
import CardQuery.Proofs.HalfNumber.Ladder

set_option autoImplicit false

namespace CardQuery

open HalfNumber (Displays infinityLabel)
open Unicode (trimmed)

/-! ### Conditions on labels -/

theorem meets_text_iff {stored : Json} {t : String} :
    Scalar.meets stored .equal (.text t) = true ↔ stored = .text t := by
  cases stored with
  | text s =>
      simp only [Scalar.meets, Scalar.order?, Comparison.holds, beq_iff_eq, Json.text.injEq,
        Std.compare_eq_iff_eq]
  | _ => simp [Scalar.meets, Scalar.order?]

/-- The sign of what varies displays no number. -/
theorem HalfNumber.Displays.ne_varyingLabel {label : String} {v : HalfNumber} (h : Displays label v) :
    label ≠ varyingLabel := by
  cases h with
  | infinity => decide
  | decimal hsign hpos hdigits hfraction => exact HalfNumber.decimal_ne hpos hdigits (by decide)

/-- A card meets a list of labels when it stores one of them. -/
theorem holds_oneOf {key : String} {labels : List String} {card : Json} :
    (oneOf key labels).holds card = true ↔
      ∃ label ∈ labels, card.stored? (Json.pathOf key) = some (.text label) := by
  simp only [oneOf, Predicate.holds_inList, List.mem_map, exists_exists_and_eq_and, meets_text_iff]
  constructor
  · rintro ⟨_, hstored, label, hlabel, rfl⟩
    exact ⟨label, hlabel, hstored⟩
  · rintro ⟨label, hlabel, hstored⟩
    exact ⟨_, hstored, label, hlabel, rfl⟩

/-- What is off the ladder is present and has none of the labels. -/
theorem holds_offLadder {key : String} {steps : List Step} {card : Json}
    (hcard : (card.stored? (Json.pathOf key)).isSome) :
    (offLadder key steps).holds card = !(oneOf key (steps.map (·.label))).holds card := by
  obtain ⟨stored, hstored⟩ := Option.isSome_iff_exists.1 hcard
  have hpresent : (Predicate.present key).holds card = true := by
    simp only [Predicate.holds, Predicate.storedTest, hstored]
  rw [offLadder, Predicate.holds_conjunction, List.all_cons, List.all_cons, List.all_nil, hpresent,
    Predicate.holds_negate, Bool.true_and, Bool.and_true]

/-! ### Labels in a relation -/

namespace HalfRange

variable {r : HalfRange} {op : Operator} {t : HalfNumber} {label : String}

/-- The labels of the ladder whose numbers stand in the relation to a number. -/
def standing (r : HalfRange) (op : Operator) (t : HalfNumber) : List String :=
  (r.ladder.filter fun step => op.comparison.holds (step.value.order t)).map (·.label)

theorem mem_standing_iff_step :
    label ∈ r.standing op t ↔
      ∃ step ∈ r.ladder, op.Stands step.value.measure t.measure ∧ step.label = label := by
  simp only [standing, List.mem_map, List.mem_filter, and_assoc]
  refine exists_congr fun step => and_congr_right fun _ => and_congr_left fun _ => ?_
  exact op.holds_comparison_iff (step.value.order_compares t)

/-- **A label is listed when the number that it displays stands in the relation.** -/
theorem mem_standing :
    label ∈ r.standing op t ↔
      label ∈ r.ladder.map (·.label) ∧ ∃ v, Displays label v ∧ op.Stands v.measure t.measure := by
  rw [mem_standing_iff_step]
  constructor
  · rintro ⟨step, hstep, hstands, rfl⟩
    exact ⟨List.mem_map_of_mem hstep, step.value, displays_of_mem_ladder hstep, hstands⟩
  · rintro ⟨hlabel, v, hdisplays, hstands⟩
    obtain ⟨step, hstep, rfl⟩ := List.mem_map.1 hlabel
    obtain rfl := (displays_of_mem_ladder hstep).unique hdisplays
    exact ⟨step, hstep, hstands, rfl⟩

/-- No number is above infinity. -/
theorem standing_atMost_infinity : r.standing .atMost .infinity = r.ladder.map (·.label) := by
  have hall (step : Step) : Operator.atMost.comparison.holds (step.value.order .infinity) = true := by
    cases step.value <;> rfl
  rw [standing, List.filter_eq_self.2 fun step _ => hall step]

/-- A word that a label is up to case is the label itself. -/
theorem eq_of_sentinel? {word : String} {v : HalfNumber} (hdisplays : Displays label v)
    (h : r.sentinel? label = some word) : word = label := by
  have hequal : Unicode.equalUpToAsciiCase word label = true := by
    rw [sentinel?] at h
    exact List.find?_some (p := fun word => Unicode.equalUpToAsciiCase word label) h
  have hsame : Unicode.SameLetters word label := Unicode.equalUpToAsciiCase_iff.1 hequal
  exact (hsame.symm.eq_of_no_letters fun c hc => (hdisplays.plain c hc).2).symm

theorem sentinel?_eq_none {v : HalfNumber} (hdisplays : Displays label v) (h : label ∉ r.sentinels) :
    r.sentinel? label = none := by
  cases hsentinel : r.sentinel? label with
  | none => rfl
  | some word =>
      have hmem : word ∈ r.sentinels := List.mem_of_find?_eq_some hsentinel
      rw [eq_of_sentinel? hdisplays hsentinel] at hmem
      contradiction

end HalfRange

/-! ### Tokens -/

namespace Binding

variable {b : Binding} {range : HalfRange} {raw : String}

/-- A value that reads as a number asks for the labels in relation to it. -/
theorem halfNumberCondition_of_read {t : HalfNumber} (hvarying : raw ≠ varyingLabel)
    (hsentinel : range.sentinel? raw = none) (hread : HalfNumber.read? raw = some t) :
    b.halfNumberCondition range raw = .ok (oneOf b.key (range.standing b.operator t)) := by
  rw [halfNumberCondition, if_neg hvarying, hsentinel]
  simp only [hread]
  rfl

/-- A value that is one of the words asks for that word. -/
theorem halfNumberCondition_of_sentinel {word : String} (hvarying : raw ≠ varyingLabel)
    (hsentinel : range.sentinel? raw = some word) (hop : b.operator = .has ∨ b.operator = .equals) :
    b.halfNumberCondition range raw = .ok (oneOf b.key [word]) := by
  rw [halfNumberCondition, if_neg hvarying, hsentinel]
  obtain hop | hop := hop <;> simp only [wordCondition, hop, Option.getD_none]

/-- What varies is off the ladder. -/
theorem halfNumberCondition_of_varying (hop : b.operator = .has) :
    b.halfNumberCondition range varyingLabel = .ok (offLadder b.key range.ladder) := by
  rw [halfNumberCondition, if_pos rfl]
  simp only [wordCondition, hop, Option.getD_some]

/-- A label of the ladder asks at least for itself. -/
theorem halfNumberCondition_of_label (hop : b.operator = .has ∨ b.operator = .equals) {step : Step}
    (hstep : step ∈ range.ladder) :
    ∃ labels, b.halfNumberCondition range step.label = .ok (oneOf b.key labels) ∧ step.label ∈ labels := by
  have hdisplays := HalfRange.displays_of_mem_ladder hstep
  have hvarying := hdisplays.ne_varyingLabel
  cases hsentinel : range.sentinel? step.label with
  | some word =>
      refine ⟨[word], halfNumberCondition_of_sentinel hvarying hsentinel hop, ?_⟩
      rw [HalfRange.eq_of_sentinel? hdisplays hsentinel]
      exact List.mem_singleton_self _
  | none =>
      refine ⟨_, halfNumberCondition_of_read hvarying hsentinel (HalfRange.read?_of_mem_ladder hstep), ?_⟩
      rw [HalfRange.mem_standing_iff_step]
      refine ⟨step, hstep, ?_, rfl⟩
      obtain hop | hop := hop <;> rw [hop] <;> rfl

end Binding

/-- **What tokens for whole and half numbers ask for.**  Bounds whose doubles are words are those of a command,
unless they lead through the least word.  A value that reads as a number then finds the cards that store a label
of the ladder whose number stands in the relation of the operator to it.  What is at most infinite and what
varies are opposites on the cards that have a value, and a label finds the cards that store it. -/
theorem Argument.halfNumber_compares {least most : Int} {sentinels : List String}
    (hleast : -int32Bound ≤ 2 * least) (hleast' : 2 * least < int32Bound)
    (hmost : -int32Bound ≤ 2 * most) (hmost' : 2 * most < int32Bound) :
    (HalfRange.between? least most sentinels = none ↔ 2 * least = -int32Bound ∧ least ≤ most) ∧
    ∀ range, HalfRange.between? least most sentinels = some range →
      ∀ a : Argument, a.command.kind = .halfNumber range →
        (∀ (op : Operator) (raw : String) (t : HalfNumber), trimmed raw ≠ varyingLabel →
          range.sentinel? (trimmed raw) = none → HalfNumber.read? (trimmed raw) = some t →
          ∃ p test, (a.asking op raw).FiltersBy p test ∧ ∀ card : Json, test card = true ↔
            ∃ label v, card.stored? (Json.pathOf a.key) = some (.text label) ∧
              label ∈ range.ladder.map (·.label) ∧ Displays label v ∧ op.Stands v.measure t.measure) ∧
        (infinityLabel ∉ sentinels →
          ∃ p test p' test', (a.asking .atMost infinityLabel).FiltersBy p test ∧
            (a.asking .has varyingLabel).FiltersBy p' test' ∧
            ∀ card : Json, (card.stored? (Json.pathOf a.key)).isSome → test' card = !test card) ∧
        ∀ (op : Operator) (label : String), op = .has ∨ op = .equals → label ∈ range.ladder.map (·.label) →
          ∃ p test, (a.asking op label).FiltersBy p test ∧
            ∀ card : Json, card.stored? (Json.pathOf a.key) = some (.text label) → test card = true := by
  refine ⟨HalfRange.between?_eq_none_iff.trans (ladder?_eq_none_iff hleast hleast' hmost hmost'),
    fun range hrange a hkind => ⟨fun op raw t hvarying hsentinel hread => ?_, fun hinfinity => ?_,
      fun op label hop hlabel => ?_⟩⟩
  · refine ⟨_, _, filtersBy_halfNumber hkind rfl
      (Binding.halfNumberCondition_of_read hvarying hsentinel hread), fun card => ?_⟩
    rw [holds_oneOf]
    constructor
    · rintro ⟨label, hlabel, hstored⟩
      obtain ⟨hladder, v, hdisplays, hstands⟩ := HalfRange.mem_standing.1 hlabel
      exact ⟨label, v, hstored, hladder, hdisplays, hstands⟩
    · rintro ⟨label, v, hstored, hladder, hdisplays, hstands⟩
      exact ⟨label, HalfRange.mem_standing.2 ⟨hladder, v, hdisplays, hstands⟩, hstored⟩
  · have htop : Displays infinityLabel .infinity := .infinity
    have hstar : trimmed varyingLabel = varyingLabel := by decide +kernel
    rw [← (HalfRange.between?_eq_some_iff.1 hrange).2.2] at hinfinity
    have hstanding : (a.asking .atMost infinityLabel).halfNumberCondition range infinityLabel =
        .ok (oneOf a.key (range.standing .atMost .infinity)) :=
      Binding.halfNumberCondition_of_read htop.ne_varyingLabel (HalfRange.sentinel?_eq_none htop hinfinity) rfl
    refine ⟨_, _, _, _, filtersBy_halfNumber hkind rfl (by rwa [htop.trimmed_eq]),
      filtersBy_halfNumber hkind rfl (by rw [hstar, Binding.halfNumberCondition_of_varying rfl]),
      fun card hcard => ?_⟩
    rw [HalfRange.standing_atMost_infinity]
    exact holds_offLadder hcard
  · obtain ⟨step, hstep, rfl⟩ := List.mem_map.1 hlabel
    have hdisplays := HalfRange.displays_of_mem_ladder hstep
    obtain ⟨labels, hcondition, hmem⟩ := Binding.halfNumberCondition_of_label
      (b := (a.asking op step.label).toBinding) hop hstep
    refine ⟨_, _, filtersBy_halfNumber hkind rfl (by rwa [hdisplays.trimmed_eq]), fun card hstored => ?_⟩
    exact holds_oneOf.2 ⟨step.label, hmem, hstored⟩

/-- A power of three is at least one and a half, and so is an infinite one; a power of one is not, nor is a
text that is no label of the ladder. -/
theorem Argument.halfNumber_compares_three_halves :
    let c : Command :=
      ⟨"power", "power", [], Operator.all, [.negation], none, false, [], .halfNumber .standard, none⟩
    let a : Argument := ⟨⟨c, none, .text " 1.5", .atLeast, []⟩, none, []⟩
    let card (label : String) := Json.object [("power", .text label)]
    (CommandDraft.halfNumber "power").build = .ok c ∧
      -int32Bound ≤ 2 * -10 ∧ 2 * -10 < int32Bound ∧ -int32Bound ≤ 2 * 100 ∧ 2 * 100 < int32Bound ∧
      HalfRange.between? (-10) 100 ["X"] = some .standard ∧
      ∃ p test, (a.asking .atLeast " 1.5").FiltersBy p test ∧
        test (card "+3") = true ∧ test (card "∞") = true ∧ test (card "1") = false ∧
        test (card "03") = false := by
  intro c a card
  have hrange : HalfRange.between? (-10) 100 ["X"] = some .standard :=
    HalfRange.between?_eq_some_iff.2 ⟨rfl, rfl, rfl⟩
  have hvalue : trimmed " 1.5" = "1.5" := by decide +kernel
  have hpath : Json.pathOf a.key = ["power"] := by decide +kernel
  have hstored (label : String) : (card label).stored? (Json.pathOf a.key) = some (.text label) := by
    rw [hpath]
    rfl
  have hdisplays : Displays "1.5" (.halves 3) := HalfNumber.displays_signed .none 3 rfl
  have hthree : Displays "+3" (.halves 6) := HalfNumber.displays_signed .plus 6 rfl
  have hinfinite : Displays "∞" .infinity := .infinity
  have hone : Displays "1" (.halves 2) := HalfNumber.displays_signed .none 2 rfl
  have hbounds : -int32Bound ≤ 2 * -10 ∧ 2 * -10 < int32Bound ∧ -int32Bound ≤ 2 * 100 ∧ 2 * 100 < int32Bound := by
    decide
  obtain ⟨-, hcompares⟩ := halfNumber_compares hbounds.1 hbounds.2.1 hbounds.2.2.1 hbounds.2.2.2
  obtain ⟨hnumbers, -⟩ := hcompares .standard hrange a rfl
  obtain ⟨p, test, hfilters, htest⟩ := hnumbers .atLeast " 1.5" (.halves 3)
    (by rw [hvalue]; exact hdisplays.ne_varyingLabel)
    (by rw [hvalue]; exact HalfRange.sentinel?_eq_none hdisplays (by decide))
    (by rw [hvalue]; exact hdisplays.read?_eq fun count hcount => by cases hcount; decide +kernel)
  have hfinds {label : String} {v : HalfNumber} (hladder : label ∈ HalfRange.standard.ladder.map (·.label))
      (hlabel : Displays label v) :
      test (card label) = true ↔ Operator.atLeast.Stands v.measure (HalfNumber.halves 3).measure := by
    rw [htest, hstored]
    constructor
    · rintro ⟨_, _, ⟨⟩, -, hv, hstands⟩
      rwa [hlabel.unique hv]
    · exact fun hstands => ⟨label, v, rfl, hladder, hlabel, hstands⟩
  refine ⟨rfl, hbounds.1, hbounds.2.1, hbounds.2.2.1, hbounds.2.2.2, hrange, p, test, hfilters, ?_, ?_, ?_, ?_⟩
  · rw [hfinds (by decide +kernel) hthree]
    exact WithTop.coe_le_coe.2 (by decide)
  · rw [hfinds (by decide +kernel) hinfinite]
    exact le_top
  · rw [Bool.eq_false_iff, Ne, hfinds (by decide +kernel) hone]
    exact fun h => absurd (WithTop.coe_le_coe.1 h) (by decide)
  · rw [Bool.eq_false_iff, Ne, htest, hstored]
    rintro ⟨_, _, ⟨⟩, hladder, -⟩
    exact absurd hladder (by decide +kernel)

end CardQuery
