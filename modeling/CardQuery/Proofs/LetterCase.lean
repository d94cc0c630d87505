/-
**The case of letters in literal queries.**

Names of fields, modifiers and values are read in several ways, and each of them ignores the case of the
letters A to Z on its own: names of commands, words and short forms are looked up in lower case, letters
and closed lists are compared without it, texts are compared in lower case, and numbers are read in any
case.  So two tokens that differ only in the case of these letters either both fail, or ask for the same.

Main definitions:

* `Token.SameLetters` — tokens that differ in the case of the letters A to Z only;
* `Meaning.Same` — meanings that filter alike, or order alike.

Main results:

* `Binding.condition_matched` — **the conditions of two values** with the same letters are met by the same
  cards;
* `Model.resolve_matched` — tokens with the same letters are bound alike;
* `Model.interpret_matched` — **tokens with the same letters** both fail or mean the same.
-/

import CardQuery.Proofs.Meaning
import CardQuery.Proofs.Number.Reading
import CardQuery.Proofs.Search.Patterns

set_option autoImplicit false

namespace CardQuery

open Unicode

/-! ### What is read off a value -/

section Values

variable {s t : String} (h : SameLetters s t)

include h

theorem Predicate.containsNeedle_congr : containsNeedle s = containsNeedle t := by
  simp only [containsNeedle, h.lowered_eq]

theorem Predicate.equalsText_congr : equalsText s = equalsText t := by
  simp only [equalsText, h.lowered_eq]

theorem readScalar?_congr (allowReal : Bool) : readScalar? allowReal s = readScalar? allowReal t := by
  simp only [readScalar?, h.congr readInt64?_map, h.congr Double.read?_map]

/-- Either a short form stands for the same value, or the values have the same letters. -/
theorem ValueSet.canonical_sameLetters (values : ValueSet) :
    SameLetters (values.canonical s) (values.canonical t) := by
  rw [canonical, canonical, h.loweredText_eq]
  cases values.shortForms.find? (loweredText t) with
  | none => exact h
  | some value => rfl

theorem ValueSet.accepts_congr (values : ValueSet) : values.accepts s = values.accepts t := by
  simp only [accepts, h.equalUpToAsciiCase_eq]

theorem HalfRange.sentinel?_congr (range : HalfRange) : range.sentinel? s = range.sentinel? t := by
  simp only [sentinel?, h.equalUpToAsciiCase_eq]

end Values

/-! ### Letters of an alphabet -/

namespace Alphabet

variable {s t : String}

theorem mask_map (alphabet : Alphabet) (s : List Char) :
    Matched Eq (alphabet.mask (s.map asciiLowered)) (alphabet.mask s) := by
  induction s with
  | nil => exact .ok rfl
  | cons c s ih =>
      have hplace : alphabet.place? (asciiLowered c) = alphabet.place? c := by
        simp only [place?, asciiLowered_asciiLowered]
      rw [List.map_cons, mask, mask, hplace]
      cases alphabet.place? c with
      | none => exact .error _ _
      | some i => exact ih.map fun bits bits' hbits => by rw [hbits]

theorem mask_matched (h : SameLetters s t) (alphabet : Alphabet) :
    Matched Eq (alphabet.mask s.toList) (alphabet.mask t.toList) :=
  .of_toOption_eq <|
    h.congr (g := fun u => (alphabet.mask u).toOption) fun u => (alphabet.mask_map u).toOption_eq

/-- Words, numbers of letters and letters are read alike. -/
theorem read_matched (h : SameLetters s t) (alphabet : Alphabet) :
    Matched Eq (alphabet.read s) (alphabet.read t) := by
  have htrimmed := h.trimmed
  have hempty : (trimmed s).toList.isEmpty = (trimmed t).toList.isEmpty :=
    htrimmed.congr (g := List.isEmpty) fun u => List.isEmpty_map
  have hdigits : (trimmed s).toList.all Char.isDigit = (trimmed t).toList.all Char.isDigit :=
    htrimmed.congr (g := fun u => u.all Char.isDigit) all_digits_map
  simp only [read, htrimmed.loweredText_eq, hempty, hdigits]
  split
  · exact .refl (fun _ => rfl) _
  · split
    · exact .error _ _
    · split
      · next hall =>
        have ht : (trimmed t).toList.all Char.isDigit = true := (Bool.and_eq_true_iff.1 hall).1
        have hs : (trimmed s).toList.all Char.isDigit = true := hdigits.trans ht
        have hsame : (trimmed s).toList = (trimmed t).toList := by
          rw [← map_digits (List.all_eq_true.1 hs), ← map_digits (List.all_eq_true.1 ht), htrimmed]
        rw [hsame]
        exact .refl (fun _ => rfl) _
      · exact (mask_matched htrimmed alphabet).map fun bits bits' hbits => by rw [hbits]

end Alphabet

/-! ### Signs of orders -/

section Directions

variable {s t : String}

theorem splitDirection_of_reverse {c : Char} {rest : List Char} (h : s.toList.reverse = c :: rest) :
    splitDirection s =
      if c = '-' then (String.ofList rest.reverse, true)
      else if c = '+' then (String.ofList rest.reverse, false)
      else (s, false) := by
  rw [splitDirection, h]
  split
  · next heq =>
    obtain ⟨rfl, rfl⟩ := List.cons.inj heq
    rfl
  · next heq =>
    obtain ⟨rfl, rfl⟩ := List.cons.inj heq
    rfl
  · next hminus hplus =>
    have hc : c ≠ '-' := fun hc => hminus rest (by rw [hc])
    have hc' : c ≠ '+' := fun hc => hplus rest (by rw [hc])
    rw [if_neg hc, if_neg hc']

/-- A sign at the end is no letter. -/
theorem splitDirection_sameLetters (h : SameLetters s t) :
    SameLetters (splitDirection s).1 (splitDirection t).1 ∧
      (splitDirection s).2 = (splitDirection t).2 := by
  have hreverse : s.toList.reverse.map asciiLowered = t.toList.reverse.map asciiLowered := by
    rw [List.map_reverse, List.map_reverse, h]
  cases hs : s.toList.reverse with
  | nil =>
      rw [hs, List.map_nil, eq_comm, List.map_eq_nil_iff] at hreverse
      rw [splitDirection, splitDirection, hs, hreverse]
      exact ⟨h, rfl⟩
  | cons c rest =>
      rw [hs, List.map_cons] at hreverse
      obtain ⟨d, rest', ht, hd, hrest⟩ := List.map_eq_cons_iff.1 hreverse.symm
      have hsame {sign : Char} (hsign : sign.isAlpha = false) : c = sign ↔ d = sign := by
        rw [← asciiLowered_eq_iff hsign, ← hd, asciiLowered_eq_iff hsign]
      have hminus : c = '-' ↔ d = '-' := hsame (by decide)
      have hplus : c = '+' ↔ d = '+' := hsame (by decide)
      have hname : SameLetters (String.ofList rest.reverse) (String.ofList rest'.reverse) := by
        simp only [SameLetters, String.toList_ofList, List.map_reverse, hrest]
      rw [splitDirection_of_reverse hs, splitDirection_of_reverse ht]
      simp only [hminus, hplus]
      split
      · exact ⟨hname, rfl⟩
      · split
        · exact ⟨hname, rfl⟩
        · exact ⟨h, rfl⟩

end Directions

/-! ### Conditions -/

/-- The same cards meet both predicates. -/
def Predicate.SameCards (p q : Predicate) : Prop := ∀ card, p.holds card = q.holds card

namespace Binding

variable {b : Binding} {s t : String}

/-- Conditions on texts; those that ask for an order take the text as it is. -/
theorem textCondition_matched (h : SameLetters s t) (hop : b.operator.isOrdering = false) (key : String) :
    Matched Predicate.SameCards ({ b with operand := .text s }.textCondition key)
      ({ b with operand := .text t }.textCondition key) := by
  cases hb : b.operator with
  | has =>
      simp only [textCondition]
      exact .ok fun card => by simp only [Predicate.holds, Predicate.containsNeedle_congr h]
  | equals =>
      simp only [textCondition]
      exact .ok fun card => by simp only [Predicate.holds, Predicate.equalsText_congr h]
  | _ =>
      rw [hb] at hop
      contradiction

/-- The condition does not depend on the value that is kept in the binding. -/
theorem numberCondition_operand (b : Binding) (operand : Operand) (allowReal : Bool) (raw : String) :
    { b with operand }.numberCondition allowReal raw = b.numberCondition allowReal raw := rfl

theorem numberCondition_matched (h : SameLetters s t) (allowReal : Bool) :
    Matched Predicate.SameCards (b.numberCondition allowReal s) (b.numberCondition allowReal t) := by
  simp only [numberCondition, readScalar?_congr h]
  cases readScalar? allowReal t with
  | none => exact .error _ _
  | some value => exact .ok fun _ => rfl

theorem setCondition_matched (h : SameLetters s t) (values : ValueSet) :
    Matched Predicate.SameCards (b.setCondition values s) (b.setCondition values t) := by
  have hvalue := values.canonical_sameLetters h
  have htext := Predicate.equalsText_congr hvalue
  simp only [setCondition, h.isEmpty_eq, values.accepts_congr hvalue]
  split
  · exact .error _ _
  · split
    · exact .error _ _
    · split
      · exact .ok fun card => by simp only [Predicate.holds, htext]
      · exact .ok fun card => by simp only [Predicate.holds, Predicate.soleTest, htext]
      · exact .error _ _

theorem bitsetCondition_matched (h : SameLetters s t) (alphabet : Alphabet) :
    Matched Predicate.SameCards (b.bitsetCondition alphabet s) (b.bitsetCondition alphabet t) := by
  have hread := alphabet.read_matched h
  rw [bitsetCondition, bitsetCondition]
  generalize alphabet.read s = x, alphabet.read t = x' at hread ⊢
  cases hread with
  | ok h =>
      subst h
      split
      · contradiction
      · exact .ok fun _ => rfl
      · exact .ok fun _ => rfl
  | error e e' => exact .error _ _

theorem wordCondition_matched (word : String) (varying : Option Predicate) :
    Matched Predicate.SameCards (b.wordCondition s word varying) (b.wordCondition t word varying) := by
  unfold wordCondition
  split
  · exact .ok fun _ => rfl
  · exact .ok fun _ => rfl
  · exact .error _ _

theorem halfNumberCondition_matched (h : SameLetters s t) (range : HalfRange) :
    Matched Predicate.SameCards (b.halfNumberCondition range s) (b.halfNumberCondition range t) := by
  have hvarying : s = varyingLabel ↔ t = varyingLabel := h.eq_label_iff (c := '*') (by decide) (by decide)
  rw [halfNumberCondition, halfNumberCondition, range.sentinel?_congr h, HalfNumber.read?_congr h]
  by_cases hs : s = varyingLabel
  · rw [if_pos hs, if_pos (hvarying.1 hs)]
    exact wordCondition_matched _ _
  · rw [if_neg hs, if_neg (hvarying.not.1 hs)]
    cases range.sentinel? t with
    | some word => exact wordCondition_matched _ _
    | none =>
        cases HalfNumber.read? t with
        | none => exact .error _ _
        | some target => exact .ok fun _ => rfl

/-- A literal value is read without white space at its ends. -/
theorem literal_bind {α : Type} (b : Binding) (s : String) (f : String → Except SearchError α) :
    ({ b with operand := .text s }.literal >>= f) = f (trimmed s) := rfl

/-- **The conditions of two values** with the same letters are met by the same cards. -/
theorem condition_matched (h : SameLetters s t) (hop : b.operator.isOrdering = false) :
    Matched Predicate.SameCards ({ b with operand := .text s }.condition)
      ({ b with operand := .text t }.condition) := by
  have htrimmed := h.trimmed
  cases hkind : b.command.kind with
  | text =>
      simp only [condition, hkind]
      exact textCondition_matched h hop b.key
  | number allowReal =>
      simp only [condition, hkind, literal_bind, numberCondition_operand]
      exact numberCondition_matched htrimmed allowReal
  | set values =>
      simp only [condition, hkind, literal_bind]
      exact setCondition_matched htrimmed values
  | bitset alphabet =>
      simp only [condition, hkind, literal_bind]
      exact bitsetCondition_matched htrimmed alphabet
  | halfNumber range =>
      simp only [condition, hkind, literal_bind]
      exact halfNumberCondition_matched htrimmed range
  | composite templates =>
      simp only [condition, hkind]
      exact .ok fun _ => rfl
  | unrestricted targets =>
      have htargets : Matched (List.Forall₂ Predicate.SameCards)
          (targets.mapM { b with operand := .text s }.textCondition)
          (targets.mapM { b with operand := .text t }.textCondition) :=
        .mapM fun key _ => textCondition_matched h hop key
      simp only [condition, hkind]
      refine htargets.map fun ps qs hpq card => ?_
      rw [Predicate.holds_disjunction, Predicate.holds_disjunction]
      induction hpq with
      | nil => rfl
      | cons hp _ ih => rw [List.any_cons, List.any_cons, hp card, ih]
  | order keys =>
      simp only [condition, hkind]
      exact .error _ _

/-- The orders of two values with the same letters are the same. -/
theorem sortKey_matched (h : SameLetters s t) (keys : KeyedList String) :
    Matched Eq ({ b with operand := .text s }.sortKey keys)
      ({ b with operand := .text t }.sortKey keys) := by
  obtain ⟨hname, hdirection⟩ := splitDirection_sameLetters h.trimmed
  simp only [sortKey, literal_bind, hname.loweredText_eq, hdirection]
  cases KeyedList.find? keys (loweredText (splitDirection (trimmed t)).1) with
  | some key => exact .ok rfl
  | none => exact .error _ _

/-- There are no regular expressions in the condition of a literal value. -/
theorem test?_of_condition (hs : b.operand = .text s) {p : Predicate} (hp : b.condition = .ok p) :
    p.test? = .ok p.holds := by
  have hpatterns : p.patterns = [] := (patterns_condition hp).trans (patterns_of_text hs)
  exact Predicate.test?_eq_ok_iff.2 ⟨by simp [hpatterns], rfl⟩

end Binding

/-! ### Meanings -/

/-- The meanings have the same test for cards, or give the same order. -/
inductive Meaning.Same : Meaning → Meaning → Prop where
  | filter {p q : Predicate} {test : Json → Bool} (hp : p.test? = .ok test) (hq : q.test? = .ok test) :
      Same (.filter p) (.filter q)
  | sort (key : SortKey) : Same (.sort key) (.sort key)

theorem Predicate.test?_negate {p : Predicate} (hp : p.test? = .ok p.holds) :
    p.negate.test? = .ok p.negate.holds := by
  rw [test?_eq_ok_iff, patterns_negate]
  exact ⟨(test?_eq_ok_iff.1 hp).1, rfl⟩

/-- Conditions that the same cards meet mean the same, negated or not. -/
theorem Meaning.same_of_sameCards {p q : Predicate} (hp : p.test? = .ok p.holds)
    (hq : q.test? = .ok q.holds) (h : p.SameCards q) (negated : Bool) :
    Same (.filter (if negated then p.negate else p)) (.filter (if negated then q.negate else q)) := by
  cases negated with
  | false =>
      have hsame : p.holds = q.holds := funext h
      rw [← hsame] at hq
      exact .filter hp hq
  | true =>
      have hsame : p.negate.holds = q.negate.holds := by
        funext card
        rw [Predicate.holds_negate, Predicate.holds_negate, h]
      have hnegate := Predicate.test?_negate hq
      rw [← hsame] at hnegate
      exact .filter (Predicate.test?_negate hp) hnegate

/-- Two values with the same letters mean the same. -/
theorem Argument.meaning_matched {a : Argument} (hop : a.operator.isOrdering = false)
    (hsimple : a.command.kind.isComposite = false) {s t : String} (hs : a.operand = .text s)
    (h : SameLetters s t) : Matched Meaning.Same a.meaning { a with operand := .text t }.meaning := by
  have hself : { a.toBinding with operand := .text s } = a.toBinding := by rw [← hs]
  by_cases horder : a.command.IsOrder
  · obtain ⟨keys, hkeys⟩ := horder
    have hkey := Binding.sortKey_matched (b := a.toBinding) h keys
    rw [hself] at hkey
    simp only [meaning, hkeys]
    refine hkey.map ?_
    rintro key _ rfl
    exact .sort key
  · have hcondition := Binding.condition_matched (b := a.toBinding) h hop
    rw [hself] at hcondition
    rw [meaning_of_not_isOrder horder, condition_of_simple hsimple,
      meaning_of_not_isOrder (a := { a with operand := .text t }) horder,
      condition_of_simple (a := { a with operand := .text t }) hsimple]
    have htests : Matched (fun p q => p.test? = .ok p.holds ∧ q.test? = .ok q.holds ∧ p.SameCards q)
        a.toBinding.condition { a.toBinding with operand := .text t }.condition :=
      hcondition.imp fun p q hp hq hpq =>
        ⟨Binding.test?_of_condition hs hp, Binding.test?_of_condition rfl hq, hpq⟩
    exact htests.map fun p q h => Meaning.same_of_sameCards h.1 h.2.1 h.2.2 a.isNegated

/-! ### Tokens -/

/-- The tokens have literal values and differ in the case of the letters A to Z only. -/
structure Token.SameLetters (t t' : Token) : Prop where
  qualifiers : t.qualifiers = t'.qualifiers
  field : Option.Rel Unicode.SameLetters t.field t'.field
  modifier : Option.Rel Unicode.SameLetters t.modifier t'.modifier
  operator : t.operator = t'.operator
  operand : ∃ s s', t.operand = .text s ∧ t'.operand = .text s' ∧ Unicode.SameLetters s s'

/-- The arguments have literal values with the same letters, and are otherwise the same. -/
def Argument.SameLetters (a a' : Argument) : Prop :=
  ∃ s s', a.operand = .text s ∧ a' = { a with operand := .text s' } ∧ Unicode.SameLetters s s'

namespace Model

variable {m : Model} {t t' : Token}

/-- The name of a command is looked up in lower case. -/
theorem addressed_matched (h : t.SameLetters t') : Matched Eq (m.addressed t) (m.addressed t') := by
  have hfield := h.field
  rw [addressed, addressed]
  generalize t.field = field, t'.field = field' at hfield ⊢
  cases hfield with
  | none => exact .ok rfl
  | some hname =>
      simp only [get?, hname.loweredText_eq]
      split
      · exact .ok rfl
      · exact .error _ _

/-- The word of a modifier is compared without the case of the letters A to Z. -/
theorem checkModifier_matched (h : t.SameLetters t') (c : Command) :
    Matched Eq (c.checkModifier t) (c.checkModifier t') := by
  have hmodifier := h.modifier
  rw [Command.checkModifier, Command.checkModifier]
  generalize t.modifier = modifier, t'.modifier = modifier' at hmodifier ⊢
  cases hmodifier with
  | none => exact .ok rfl
  | some hword =>
      simp only [Command.modifier?, Modifier.isNamed, hword.equalUpToAsciiCase_eq]
      split
      · exact .ok rfl
      · exact .error _ _

theorem checkOperator_matched (h : t.SameLetters t') (c : Command) :
    Matched Eq (c.checkOperator t) (c.checkOperator t') := by
  rw [Command.checkOperator, Command.checkOperator, h.operator]
  exact .refl (fun _ => rfl) _

theorem checkQualifiers_matched (h : t.SameLetters t') (c : Command) (op : Operator) :
    Matched Eq (c.checkQualifiers t op) (c.checkQualifiers t' op) := by
  rw [Command.checkQualifiers, Command.checkQualifiers, h.qualifiers]
  split
  · exact .error _ _
  · exact .ok rfl

/-- Tokens with the same letters are bound alike. -/
theorem resolve_matched (h : t.SameLetters t')
    (hsimple : ∀ c, m.addressed t = .ok c → c.kind.isComposite = false) :
    Matched Argument.SameLetters (m.resolve t) (m.resolve t') := by
  obtain ⟨s, s', hs, hs', hletters⟩ := h.operand
  rw [resolve, resolve, hs, hs']
  refine (addressed_matched h).bind ?_
  rintro c _ hc rfl
  refine (checkModifier_matched h c).bind ?_
  rintro modifier _ - rfl
  refine (checkOperator_matched h c).bind ?_
  rintro op _ - rfl
  -- a literal value is not checked before it is read
  refine (Matched.ok rfl : Matched Eq (.ok ()) (.ok ())).bind ?_
  rintro ⟨⟩ _ - rfl
  refine (checkQualifiers_matched h c op).bind ?_
  rintro ⟨⟩ _ - rfl
  have hkind := hsimple c hc
  dsimp only
  split
  · next templates hcomposite =>
    rw [hcomposite] at hkind
    contradiction
  · exact .ok ⟨s, s', rfl, by rw [h.qualifiers], hletters⟩

/-- **Tokens with the same letters** both fail, or filter or order the results alike: their fields,
modifiers and literal values may be written in any case of the letters A to Z. -/
theorem interpret_matched (m : Model) (h : t.SameLetters t')
    (hoperator : t.operator.getD .has = .has ∨ t.operator.getD .has = .equals)
    (hsimple : ∀ c, m.addressed t = .ok c → c.kind.isComposite = false) :
    Matched Meaning.Same (m.interpret t) (m.interpret t') := by
  refine (resolve_matched h hsimple).bind ?_
  rintro a _ ha ⟨s, s', hs, rfl, hletters⟩
  obtain ⟨hcommand, -, hop, -⟩ := resolve_eq_ok ha
  have hordering : a.operator.isOrdering = false := by
    rw [Command.checkOperator] at hop
    split at hop
    · injection hop with hop
      rw [← hop]
      rcases hoperator with hhas | hequals
      · rw [hhas]
        rfl
      · rw [hequals]
        rfl
    · contradiction
  exact Argument.meaning_matched hordering (hsimple _ hcommand) hs hletters

/-- The field, the modifier and the letters of a value are written in two ways. -/
theorem interpret_matched_color_identity :
    let color : Command :=
      ⟨"color", "color", [], Operator.all, [.negation], none, false,
        [⟨"identity", "i", "colorIdentity"⟩], .bitset (.ofText "wu"), none⟩
    let m : Model := ⟨"cards", [color], color⟩
    let t : Token := ⟨[], some "COLOR", some "Identity", some .has, .text "UW"⟩
    let t' : Token := ⟨[], some "Color", some "identity", some .has, .text "uw"⟩
    t.SameLetters t' ∧ Matched Meaning.Same (m.interpret t) (m.interpret t') ∧
      m.interpret t = .ok (.filter (.bitsAllSet "colorIdentity" 3)) := by
  intro color m t t'
  have hletters : t.SameLetters t' :=
    ⟨rfl, .some (by decide +kernel), .some (by decide +kernel), rfl, _, _, rfl, rfl, by decide +kernel⟩
  have hsimple : ∀ c, m.addressed t = .ok c → c.kind.isComposite = false := by
    have haddressed : m.addressed t = .ok color := by
      dsimp only [m, t, color]
      rfl
    intro c hc
    rw [haddressed] at hc
    cases hc
    rfl
  have hmeaning : m.interpret t = .ok (.filter (.bitsAllSet "colorIdentity" 3)) := by
    dsimp only [m, t, color]
    rfl
  exact ⟨hletters, interpret_matched m hletters (.inl rfl) hsimple, hmeaning⟩

end Model

end CardQuery
