/-
**Composite values and their parts.**

A part of a composite value is found by the id of its command and takes the operator of the whole, or `=`
for `:` where its command only compares.  A token that has the id as its field, this operator and the text
of the part is bound to the same by its own, longer way: its name is looked up regardless of case, and all
checks of its command are made.  So a composite value asks for what its parts ask for together, and what is
wrong with it is what is wrong with the first part that has no meaning.

Main definitions:

* `Command.partToken` — the token that asks for a part alone.

Main results:

* `Model.resolve_partToken` — **a part alone is bound to the same**;
* `Argument.meaning_composite` — the meaning of a composite value by the conditions of its parts;
* `Model.composite_conjoins_parts` — **a composite value means its parts together**.
-/

import CardQuery.Proofs.Contract
import CardQuery.Proofs.Lookup
import CardQuery.Proofs.Meaning

set_option autoImplicit false

namespace CardQuery

open Unicode (loweredText)

/-- The token that asks for a part of a value alone: with the operator of the whole if the command of the
part knows it, and with `=` otherwise. -/
def Command.partToken (c : Command) (op : Operator) (field : String × String) : Token where
  qualifiers := []
  field := some field.1
  modifier := none
  operator := some (if c.supports op then op else .equals)
  operand := .text field.2

/-! ### A part -/

/-- The operator of a part is that of the whole if the command knows it, and else `=` for `:`. -/
theorem Command.partOperator?_eq {c : Command} {op op' : Operator} (h : c.partOperator? op = some op') :
    op' = (if c.supports op then op else .equals) ∧ c.supports op' = true ∧
      (c.supports op = false → op = .has) := by
  unfold partOperator? at h
  split at h
  · next hsupports =>
    cases h
    refine ⟨(if_pos hsupports).symm, hsupports, ?_⟩
    intro hnot
    rw [hsupports] at hnot
    contradiction
  · next hsupports =>
    split at h
    · next hequals =>
      cases h
      exact ⟨(if_neg hsupports).symm, hequals.2, fun _ => hequals.1⟩
    · contradiction

namespace Model

variable {m : Model} {t : Token} {a : Argument} {id raw : String} {commands : List Command}

/-- **A part alone is bound to the same.** -/
theorem resolve_partToken (hm : Model.ofCommands id raw commands = .ok m) {whole : Command}
    {op : Operator} {field : String × String} {b : Binding} (hpart : m.HasPart field.1)
    (h : m.bindPart whole op field = .ok b) :
    m.resolve (b.command.partToken op field) = .ok ⟨b, none, []⟩ := by
  obtain ⟨hcommand, hop, hb⟩ := bindPart_eq_ok h
  obtain ⟨hoperator, hsupports, -⟩ := Command.partOperator?_eq hop
  obtain ⟨c, hfind, hmem, hid, hsimple⟩ := command?_of_hasPart hm hpart
  have hc : b.command = c := Option.some.inj (hcommand.symm.trans hfind)
  -- the id is among the names, and no other command has it
  have hget : m.get? field.1 = some b.command := by
    have hname : loweredText field.1 ∈ c.loweredNames := hid ▸ c.lowered_id_mem
    rw [hc]
    exact (distinctNames_ofCommands hm).find?_eq_some_iff.2 ⟨hmem, hname⟩
  refine resolve_of_checks ?_ ?_ ?_ rfl rfl ?_ ?_ ?_
  · simp only [addressed, Command.partToken, hget]
  · rw [hb]
    rfl
  · simp only [Command.checkOperator, Command.partToken, Option.getD_some, ← hoperator]
    exact if_pos hsupports
  · rw [hb]
    rfl
  · rw [hb]
    rfl
  · unfold PartsOf
    split
    · next templates hkind =>
      rw [← hc] at hsimple
      simp only at hkind
      rw [hkind] at hsimple
      contradiction
    · exact ⟨rfl, rfl⟩

/-- Unless it orders the results, a part alone means its condition. -/
theorem interpret_partToken (hm : Model.ofCommands id raw commands = .ok m) {whole : Command}
    {op : Operator} {field : String × String} {b : Binding} (hpart : m.HasPart field.1)
    (h : m.bindPart whole op field = .ok b) (horder : ¬b.command.IsOrder) :
    m.interpret (b.command.partToken op field) = b.condition.map .filter := by
  obtain ⟨-, -, hb⟩ := bindPart_eq_ok h
  have hsimple := (fitsPart_of_bindPart hm hpart h).simple
  have hplain : (⟨b, none, []⟩ : Argument).isNegated = false := by
    rw [hb]
    rfl
  rw [interpret_of_resolve (resolve_partToken hm hpart h), Argument.meaning_of_not_isOrder horder,
    Argument.condition_of_simple hsimple]
  simp only [hplain, Bool.false_eq_true, if_false]

end Model

/-! ### All parts -/

/-- A composite value that is not negated means the conditions of its parts together. -/
theorem Argument.meaning_composite {a : Argument} (hkind : a.command.kind.isComposite = true)
    (hplain : a.isNegated = false) :
    a.meaning = (a.parts.mapM Binding.condition).map fun ps => .filter (.conjunction ps) := by
  have hcondition : a.condition = (a.parts.mapM Binding.condition).map .conjunction := by
    unfold condition
    split
    · rfl
    · next hnot =>
      cases hk : a.command.kind with
      | composite templates => exact absurd hk (hnot templates)
      | _ =>
          rw [hk] at hkind
          contradiction
  rw [meaning_of_not_isOrder (Command.not_isOrder_of_isComposite hkind), hcondition]
  simp only [hplain, Bool.false_eq_true, if_false]
  cases a.parts.mapM Binding.condition <;> rfl

namespace Model

variable {m : Model} {t : Token} {a : Argument} {id raw : String} {commands : List Command}

/-- The tokens that ask for the parts of a composite value alone, in the order of its fields. -/
theorem exists_partTokens (hm : Model.ofCommands id raw commands = .ok m) (h : m.resolve t = .ok a)
    {fields : KeyedList String} (hfields : a.fields = some fields)
    (horder : ∀ field ∈ fields, ∀ c, m.command? field.1 = some c → ¬c.IsOrder) :
    ∃ tokens : List Token,
      List.Forall₂ (fun field token => ∃ c, m.command? field.1 = some c ∧
        token = c.partToken a.operator field ∧ (c.supports a.operator = false → a.operator = .has))
        fields tokens ∧
      List.Forall₂ (fun token b => m.resolve token = .ok ⟨b, none, []⟩ ∧
        m.interpret token = b.condition.map .filter) tokens a.parts := by
  obtain ⟨hcommand, -, -, -, -, -, -, hparts⟩ := resolve_eq_ok h
  obtain ⟨-, hbound⟩ := bindPart_of_partsOf hm (mem_of_addressed hm hcommand) hparts
  rw [hfields] at hbound
  refine exists_list_between (List.Forall₂.imp ?_
    ((List.forall₂_and_left fields a.parts).2 ⟨horder, hbound⟩))
  rintro field b ⟨hnot, hpart, hb⟩
  obtain ⟨hfind, hop, -⟩ := bindPart_eq_ok hb
  refine ⟨b.command.partToken a.operator field,
    ⟨b.command, hfind, rfl, (Command.partOperator?_eq hop).2.2⟩, ?_⟩
  exact ⟨resolve_partToken hm hpart hb, interpret_partToken hm hpart hb (hnot _ hfind)⟩

/-- **A composite value means its parts together.** -/
theorem composite_conjoins_parts (hm : Model.ofCommands id raw commands = .ok m)
    (h : m.resolve t = .ok a) (hplain : t.isNegated = false) {fields : KeyedList String}
    (hfields : a.fields = some fields)
    (horder : ∀ field ∈ fields, ∀ c, m.command? field.1 = some c → ¬c.IsOrder) :
    ∃ tokens : List Token,
      -- the tokens that ask for the parts alone
      List.Forall₂ (fun field token => ∃ c, m.command? field.1 = some c ∧
        token = c.partToken a.operator field ∧ (c.supports a.operator = false → a.operator = .has))
        fields tokens ∧
      -- they are all bound, and none of them orders the results
      (∀ token ∈ tokens, (∃ b, m.resolve token = .ok b) ∧
        ∀ key, m.interpret token ≠ .ok (.sort key)) ∧
      -- the whole is the conjunction of what they ask for
      (∀ p, a.meaning = .ok (.filter p) ↔ ∃ ps,
        List.Forall₂ (fun token q => m.interpret token = .ok (.filter q)) tokens ps ∧
          p = .conjunction ps) ∧
      -- and fails when one of them does, with the first error
      (∀ e, a.meaning = .error e ↔ ∃ before token after, tokens = before ++ token :: after ∧
        (∀ token' ∈ before, ∃ meaning, m.interpret token' = .ok meaning) ∧
          m.interpret token = .error e) ∧
      ((∃ e, a.meaning = .error e) ↔ ∃ token ∈ tokens, ∃ e, m.interpret token = .error e) ∧
      ∀ key, a.meaning ≠ .ok (.sort key) := by
  obtain ⟨tokens, htokens, hbound⟩ := exists_partTokens hm h hfields horder
  obtain ⟨hcommand, -, -, -, -, -, hmarks, hparts⟩ := resolve_eq_ok h
  have hcomposite : a.command.kind.isComposite = true := by
    rw [← (bindPart_of_partsOf hm (mem_of_addressed hm hcommand) hparts).1, hfields]
    rfl
  have hnot : a.isNegated = false := by
    rw [Binding.isNegated, hmarks]
    exact hplain
  have hmeaning := Argument.meaning_composite hcomposite hnot
  -- all tokens together have the conditions of the parts
  have hall : tokens.mapM m.interpret = (a.parts.mapM Binding.condition).map (List.map .filter) := by
    rw [← mapM_map_eq]
    exact mapM_congr_of_forall₂ (hbound.imp fun token b hb => hb.2)
  have herror (e : SearchError) : a.meaning = .error e ↔ tokens.mapM m.interpret = .error e := by
    rw [hmeaning, hall, map_eq_error_iff, map_eq_error_iff]
  refine ⟨tokens, htokens, ?_, ?_, fun e => (herror e).trans mapM_eq_error_iff, ?_, ?_⟩
  · intro token htoken
    obtain ⟨b, -, hresolve, hinterpret⟩ := exists_rel_of_mem hbound.flip htoken
    refine ⟨⟨_, hresolve⟩, fun key hkey => ?_⟩
    rw [hinterpret] at hkey
    obtain ⟨p, -, hp⟩ := map_eq_ok_iff.1 hkey
    contradiction
  · intro p
    have hfilters (ps : List Predicate) : a.parts.mapM Binding.condition = .ok ps ↔
        List.Forall₂ (fun token q => m.interpret token = .ok (.filter q)) tokens ps := by
      have hinjective : Function.Injective (List.map Meaning.filter) :=
        List.map_injective_iff.2 fun _ _ => Meaning.filter.inj
      have hsplit : tokens.mapM m.interpret = .ok (ps.map .filter) ↔
          List.Forall₂ (fun token q => m.interpret token = .ok (.filter q)) tokens ps := by
        rw [mapM_eq_ok_iff, List.forall₂_map_right_iff]
      rw [← hsplit, hall, map_eq_ok_iff]
      simp only [hinjective.eq_iff, exists_eq_right]
    rw [hmeaning, map_eq_ok_iff]
    simp only [hfilters, Meaning.filter.injEq, @eq_comm _ p]
  · simp only [herror, exists_mapM_eq_error_iff]
  · intro key hkey
    rw [hmeaning] at hkey
    obtain ⟨ps, -, hps⟩ := map_eq_ok_iff.1 hkey
    contradiction

/-- The operator `:` of the whole is kept for the name and becomes `=` for the power. -/
theorem composite_conjoins_parts_name_and_power :
    let name : Command := ⟨"name", "name", [], [.has, .equals], [], none, false, [], .text, none⟩
    let power : Command :=
      ⟨"power", "power", [], CommandDraft.ordering, [], none, false, [], .number false, none⟩
    let both : Composite :=
      ⟨[⟨"\x7b\x7bname\x7d\x7d/\x7b\x7bpower\x7d\x7d", [], [("name", ['/']), ("power", [])]⟩],
        ["name", "power"]⟩
    let card : Command := ⟨"card", "card", [], Operator.all, [], none, false, [], .composite both, none⟩
    let m : Model := ⟨"cards", [name, power, card], card⟩
    let t : Token := ⟨[], some "card", none, some .has, .text "elf/2"⟩
    let elf : Token := ⟨[], some "name", none, some .has, .text "elf"⟩
    let two : Token := ⟨[], some "power", none, some .equals, .text "2"⟩
    Model.ofCommands "cards" "card" [name, power, card] = .ok m ∧
      m.interpret elf = .ok (.filter (.contains "name" "elf")) ∧
      m.interpret two = .ok (.filter (.compare "power" .equal (.integer 2))) ∧
      m.interpret t = .ok (.filter (.allOf
        [.contains "name" "elf", .compare "power" .equal (.integer 2)])) := by
  intro name power both card m t elf two
  have hm : Model.ofCommands "cards" "card" [name, power, card] = .ok m := by
    dsimp only [m, name, power, card, both]
    rfl
  have helf : m.interpret elf = .ok (.filter (.contains "name" "elf")) := by
    dsimp only [m, elf, name, power, card, both]
    rfl
  have htwo : m.interpret two = .ok (.filter (.compare "power" .equal (.integer 2))) := by
    dsimp only [m, two, name, power, card, both]
    rfl
  let a : Argument :=
    ⟨⟨card, none, .text "elf/2", .has, []⟩, some [("name", "elf"), ("power", "2")],
      [⟨name, none, .text "elf", .has, []⟩, ⟨power, none, .text "2", .equals, []⟩]⟩
  have hresolve : m.resolve t = .ok a := by
    dsimp only [m, t, a, name, power, card, both]
    rfl
  have hname : m.command? "name" = some name := rfl
  have hpower : m.command? "power" = some power := rfl
  have horder : ∀ field ∈ [("name", "elf"), ("power", "2")], ∀ c, m.command? field.1 = some c →
      ¬c.IsOrder := by
    simp only [List.forall_mem_cons, List.not_mem_nil, false_implies, implies_true, and_true, hname,
      hpower, Option.some.injEq, forall_eq']
    exact ⟨nofun, nofun⟩
  obtain ⟨tokens, htokens, -, hfilter, -⟩ := composite_conjoins_parts hm hresolve rfl rfl horder
  have hsame : tokens = [elf, two] := by
    cases htokens with
    | cons hfirst hrest =>
        cases hrest with
        | cons hsecond hnil =>
            cases hnil
            obtain ⟨c, hc, rfl, -⟩ := hfirst
            obtain ⟨c', hc', rfl, -⟩ := hsecond
            cases hname.symm.trans hc
            cases hpower.symm.trans hc'
            rfl
  subst hsame
  refine ⟨hm, helf, htwo, (interpret_of_resolve hresolve).trans ?_⟩
  exact (hfilter _).2 ⟨_, .cons helf (.cons htwo .nil), rfl⟩

end Model

end CardQuery
