/-
**What a command is promised about its arguments.**

A token is either refused for one of a few reasons, or it is bound to the only command that has its
name, with nothing in it that the command does not allow.  The builder of a model has looked at the
parts of composite commands, so that the part of a value is always found and has no parts of its own.

Main definitions:

* `Model.Refuses` — the ways in which a token is refused;
* `Model.HasPart` — a command that can be a part of a value;
* `Model.FitsPart`, `Model.Fits` — an argument that keeps the contract of its command.

Main results:

* `Model.refuses_of_resolve` — every token that is not bound is refused in one of these ways;
* `ModelDraft.hasPart_of_build` — **the parts of composite commands** are commands of the model;
* `Model.fits_of_resolve` — every token that is bound keeps the contract;
* `Model.resolve_contract` — **both together**: an argument that fits, or an error that is not about an
  unknown part.
-/

import CardQuery.Proofs.Names

set_option autoImplicit false

namespace CardQuery

open Unicode (loweredText)

/-! ### Checks -/

namespace Command

variable {c : Command} {t : Token} {op : Operator}

theorem modifier_of_check {modifier : Modifier} (h : c.checkModifier t = .ok (some modifier)) :
    modifier ∈ c.modifiers ∧ ∃ word, t.modifier = some word ∧ modifier.isNamed word = true := by
  refine ⟨Model.mem_of_checkModifier h, ?_⟩
  unfold checkModifier at h
  split at h
  · cases h
  · next word hword =>
    split at h
    · next hfind =>
      cases h
      exact ⟨word, hword, List.find?_some (p := fun m : Modifier => m.isNamed word) hfind⟩
    · contradiction

theorem isSome_modifier_of_check {modifier : Option Modifier}
    (h : c.checkModifier t = .ok modifier) : modifier.isSome = t.modifier.isSome := by
  unfold checkModifier at h
  split at h
  · next hnone =>
    cases h
    rw [hnone]
    rfl
  · next word hword =>
    split at h
    · cases h
      rw [hword]
      rfl
    · contradiction

theorem mem_operators_of_check (h : c.checkOperator t = .ok op) :
    op = t.operator.getD .has ∧ op ∈ c.operators := by
  unfold checkOperator at h
  simp only at h
  split at h
  · next hsupports =>
    cases h
    exact ⟨rfl, List.contains_iff_mem.1 hsupports⟩
  · contradiction

theorem allows_of_check (h : c.checkQualifiers t op = .ok ()) :
    ∀ q ∈ t.qualifiers, c.allows q op = true := by
  unfold checkQualifiers at h
  split at h
  · contradiction
  · next hfind =>
    intro q hq
    simpa using List.find?_eq_none.1 hfind q hq

theorem allowRegex_of_check {source : String} (h : c.checkOperand (.regex source) = .ok ()) :
    c.allowRegex = true := by
  simp only [checkOperand] at h
  split at h
  · contradiction
  · next hallow => simpa using hallow

/-- The operator of a part is known to its command: that of the whole, or `=` for `:`. -/
theorem partOperator?_eq_some {op' : Operator} (h : c.partOperator? op = some op') :
    op' ∈ c.operators ∧ (op' = op ∨ op = .has ∧ op' = .equals) := by
  unfold partOperator? at h
  split at h
  · next hsupports =>
    cases h
    exact ⟨List.contains_iff_mem.1 hsupports, .inl rfl⟩
  · split at h
    · next hequals =>
      cases h
      exact ⟨List.contains_iff_mem.1 hequals.2, .inr ⟨hequals.1, rfl⟩⟩
    · contradiction

end Command

/-- The names of the captures are names of parts. -/
theorem Composite.mem_parts_of_captures {templates : Composite} {value : String}
    {fields : KeyedList String} (h : templates.captures value = some fields) {field : String × String}
    (hfield : field ∈ fields) : field.1 ∈ templates.parts := by
  unfold captures at h
  obtain ⟨found, -, rfl⟩ := Option.map_eq_some_iff.1 h
  obtain ⟨part, hpart, hcapture⟩ := List.mem_filterMap.1 hfield
  obtain ⟨_, -, rfl⟩ := Option.map_eq_some_iff.1 hcapture
  exact hpart

namespace Model

variable {m : Model} {t : Token} {a : Argument} {e : SearchError}

/-! ### Tokens that are refused -/

/-- The ways in which a token is refused, by the model or by the command `c` that it addresses. -/
inductive Refuses (m : Model) (t : Token) : SearchError → Prop where
  /-- No command has the name. -/
  | command {field : String} : t.field = some field → m.get? field = none →
      Refuses m t (.unknownCommand field)
  /-- The command has no such modifier. -/
  | modifier {c : Command} {word : String} : m.addressed t = .ok c → t.modifier = some word →
      c.modifier? word = none →
      Refuses m t (.invalid c.id t.operand.content (.unknownModifier word))
  /-- The command does not know the operator. -/
  | operator {c : Command} {op : Operator} : m.addressed t = .ok c → op = t.operator.getD .has →
      c.supports op = false → Refuses m t (.operatorUnsupported c.id op.sign)
  /-- The command takes no regular expressions. -/
  | regexDisabled {c : Command} {source : String} : m.addressed t = .ok c →
      t.operand = .regex source → c.allowRegex = false → Refuses m t (.regexDisabled c.id source)
  /-- The value is no regular expression. -/
  | malformedRegex {c : Command} {source : String} : m.addressed t = .ok c →
      t.operand = .regex source → Regex.isValid source = false →
      Refuses m t (.invalid c.id source .malformedRegex)
  /-- A mark is not allowed with the operator. -/
  | qualifier {c : Command} {q : Qualifier} {op : Operator} : m.addressed t = .ok c →
      op = t.operator.getD .has → q ∈ t.qualifiers → c.allows q op = false →
      Refuses m t (.invalid c.id t.operand.content (.qualifierNotAllowed q op))
  /-- The value fits no template. -/
  | template {c : Command} {templates : Composite} : m.addressed t = .ok c →
      c.kind = .composite templates → templates.captures t.operand.content = none →
      Refuses m t
        (.invalid c.id t.operand.content (.expectedTemplate (templates.templates.map (·.source))))
  /-- No command has the name of a part. -/
  | unknownPart {c : Command} {templates : Composite} {fields : KeyedList String}
      {field : String × String} : m.addressed t = .ok c → c.kind = .composite templates →
      templates.captures t.operand.content = some fields → field ∈ fields →
      m.command? field.1 = none → Refuses m t (.invalid c.id field.2 (.unknownPart field.1))
  /-- The command of a part knows neither the operator nor one for it. -/
  | partOperator {c part : Command} {templates : Composite} {fields : KeyedList String}
      {field : String × String} {op : Operator} : m.addressed t = .ok c →
      c.kind = .composite templates → templates.captures t.operand.content = some fields →
      field ∈ fields → m.command? field.1 = some part → op = t.operator.getD .has →
      part.partOperator? op = none → Refuses m t (.operatorUnsupported field.1 op.sign)

theorem refuses_of_addressed (h : m.addressed t = .error e) : m.Refuses t e := by
  unfold addressed at h
  split at h
  · cases h
  · next field hfield =>
    split at h
    · cases h
    · next hget =>
      cases h
      exact .command hfield hget

variable {c : Command}

theorem refuses_of_checkModifier (hc : m.addressed t = .ok c) (h : c.checkModifier t = .error e) :
    m.Refuses t e := by
  unfold Command.checkModifier at h
  split at h
  · cases h
  · next word hword =>
    split at h
    · cases h
    · next hmodifier =>
      cases h
      exact .modifier hc hword hmodifier

theorem refuses_of_checkOperator (hc : m.addressed t = .ok c) (h : c.checkOperator t = .error e) :
    m.Refuses t e := by
  unfold Command.checkOperator at h
  simp only at h
  split at h
  · cases h
  · next hsupports =>
    cases h
    exact .operator hc rfl (Bool.eq_false_iff.2 hsupports)

theorem refuses_of_checkOperand (hc : m.addressed t = .ok c)
    (h : c.checkOperand t.operand = .error e) : m.Refuses t e := by
  unfold Command.checkOperand at h
  split at h
  · cases h
  · next source hsource =>
    split at h
    · next hallow =>
      cases h
      exact .regexDisabled hc hsource (by simpa using hallow)
    · split at h
      · cases h
      · next hvalid =>
        cases h
        exact .malformedRegex hc hsource (Bool.eq_false_iff.2 hvalid)

theorem refuses_of_checkQualifiers {op : Operator} (hc : m.addressed t = .ok c)
    (hop : c.checkOperator t = .ok op) (h : c.checkQualifiers t op = .error e) : m.Refuses t e := by
  have hop := (Command.mem_operators_of_check hop).1
  unfold Command.checkQualifiers at h
  split at h
  · next q hfind =>
    cases h
    have hnot : c.allows q op = false := by simpa using List.find?_some hfind
    exact .qualifier hc hop (List.mem_of_find?_eq_some hfind) hnot
  · cases h

theorem refuses_of_bindParts {templates : Composite} {op : Operator} (hc : m.addressed t = .ok c)
    (hkind : c.kind = .composite templates) (hop : c.checkOperator t = .ok op)
    (h : m.bindParts c templates op t.operand.content = .error e) : m.Refuses t e := by
  have hop := (Command.mem_operators_of_check hop).1
  unfold bindParts at h
  split at h
  · next hcaptures =>
    cases h
    exact .template hc hkind hcaptures
  · next fields hcaptures =>
    obtain ⟨field, hfield, hbind⟩ := exists_of_mapM_error (map_eq_error_iff.1 h)
    unfold bindPart at hbind
    split at hbind
    · next hcommand =>
      cases hbind
      exact .unknownPart hc hkind hcaptures hfield hcommand
    · next part hcommand =>
      split at hbind
      · next hnone =>
        cases hbind
        exact .partOperator hc hkind hcaptures hfield hcommand hop hnone
      · cases hbind

/-- Every token that is not bound is refused in one of the ways. -/
theorem refuses_of_resolve (h : m.resolve t = .error e) : m.Refuses t e := by
  unfold resolve at h
  rcases bind_eq_error_iff.1 h with hcommand | ⟨c, hc, h⟩
  · exact refuses_of_addressed hcommand
  rcases bind_eq_error_iff.1 h with hmodifier | ⟨modifier, -, h⟩
  · exact refuses_of_checkModifier hc hmodifier
  rcases bind_eq_error_iff.1 h with hoperator | ⟨op, hop, h⟩
  · exact refuses_of_checkOperator hc hoperator
  rcases bind_eq_error_iff.1 h with hoperand | ⟨⟨⟩, -, h⟩
  · exact refuses_of_checkOperand hc hoperand
  rcases bind_eq_error_iff.1 h with hqualifiers | ⟨⟨⟩, -, h⟩
  · exact refuses_of_checkQualifiers hc hop hqualifiers
  simp only at h
  split at h
  · next templates hkind =>
    rcases bind_eq_error_iff.1 h with hparts | ⟨⟨fields, parts⟩, -, h⟩
    · exact refuses_of_bindParts hc hkind hop hparts
    · cases h
  · cases h

end Model

/-! ### Commands that can be parts -/

/-- A command of the model that has the id `part` and is not composite. -/
def Model.HasPart (m : Model) (part : String) : Prop :=
  ∃ c ∈ m.commands, c.id = part ∧ c.kind.isComposite = false

/-- **The parts of composite commands** are commands of the model that are not composite. -/
theorem ModelDraft.hasPart_of_build {d : ModelDraft} {m : Model} (h : d.build = .ok m) {c : Command}
    (hc : c ∈ m.commands) {templates : Composite} (hkind : c.kind = .composite templates) {part : String}
    (hpart : part ∈ templates.parts) : m.HasPart part := by
  rw [(commands_build h).1] at hc
  have hnone : d.unknownPart? c = none := by
    unfold build at h
    split at h
    · contradiction
    split at h
    · contradiction
    split at h
    · contradiction
    · next hall => exact List.findSome?_eq_none_iff.1 hall c hc
  simp only [unknownPart?, hkind, Option.map_eq_none_iff, List.find?_eq_none] at hnone
  have hhas : d.hasPart part = true := by simpa using hnone part hpart
  obtain ⟨p, hp, hid⟩ := List.any_eq_true.1 hhas
  rw [Bool.and_eq_true, beq_iff_eq, Bool.not_eq_true'] at hid
  exact ⟨p, (commands_build h).1 ▸ hp, hid⟩

namespace Model

variable {m : Model} {t : Token} {a : Argument} {e : SearchError} {id raw : String} {commands : List Command}

/-- The only command with the name of a part is found by it. -/
theorem command?_of_hasPart (hm : Model.ofCommands id raw commands = .ok m) {part : String}
    (h : m.HasPart part) : ∃ c, m.command? part = some c ∧ c ∈ m.commands ∧ c.id = part ∧
      c.kind.isComposite = false := by
  obtain ⟨c, hc, rfl, hkind⟩ := h
  exact ⟨c, (distinctNames_ofCommands hm).find?_id hc, hc, rfl, hkind⟩

theorem mem_of_addressed (hm : Model.ofCommands id raw commands = .ok m) {c : Command}
    (h : m.addressed t = .ok c) : c ∈ m.commands := by
  obtain ⟨d, -, hbuild⟩ := bind_eq_ok_iff.1 hm
  obtain ⟨hcommands, hraw⟩ := ModelDraft.commands_build hbuild
  unfold addressed at h
  split at h
  · cases h
    exact hcommands ▸ hraw
  · split at h
    · next hget =>
      cases h
      exact List.mem_of_find?_eq_some hget
    · contradiction

theorem hasPart_of_captures (hm : Model.ofCommands id raw commands = .ok m) {c : Command}
    (hc : c ∈ m.commands) {templates : Composite} (hkind : c.kind = .composite templates)
    {value : String} {fields : KeyedList String} (hcaptures : templates.captures value = some fields)
    {field : String × String} (hfield : field ∈ fields) : m.HasPart field.1 := by
  obtain ⟨d, -, hbuild⟩ := bind_eq_ok_iff.1 hm
  exact ModelDraft.hasPart_of_build hbuild hc hkind
    (Composite.mem_parts_of_captures hcaptures hfield)

/-! ### Arguments that keep the contract -/

/-- A bound part of a composite value that is compared with `op`, for the capture `field`. -/
structure FitsPart (m : Model) (op : Operator) (field : String × String) (b : Binding) : Prop where
  command : b.command ∈ m.commands
  id : b.command.id = field.1
  simple : b.command.kind.isComposite = false
  operator : b.operator ∈ b.command.operators
  fallback : b.operator = op ∨ op = .has ∧ b.operator = .equals
  operand : b.operand = .text field.2
  modifier : b.modifier = none
  qualifiers : b.qualifiers = []

/-- An argument that keeps the contract of its command, for the token `t`. -/
structure Fits (m : Model) (t : Token) (a : Argument) : Prop where
  raw : t.field = none → a.command = m.raw
  /-- The command is the only one that has the name. -/
  named : ∀ field, t.field = some field →
    (m.commands.filter fun c => c.hasLoweredName (loweredText field)) = [a.command]
  operator : a.operator ∈ a.command.operators
  qualifiers : ∀ q ∈ a.qualifiers, a.command.allows q a.operator = true
  regex : ∀ source, a.operand = .regex source → a.command.allowRegex = true
  modifier : ∀ modifier, a.modifier = some modifier → modifier ∈ a.command.modifiers ∧
    ∃ word, t.modifier = some word ∧ modifier.isNamed word = true
  /-- Nothing of the token is lost. -/
  kept : a.operator = t.operator.getD .has ∧ a.operand = t.operand ∧ a.qualifiers = t.qualifiers ∧
    a.modifier.isSome = t.modifier.isSome
  fields : a.fields.isSome = a.command.kind.isComposite
  /-- There is one part for each field. -/
  parts : List.Forall₂ (m.FitsPart a.operator) (a.fields.getD []) a.parts

theorem fitsPart_of_bindPart (hm : Model.ofCommands id raw commands = .ok m) {whole : Command}
    {op : Operator} {field : String × String} {b : Binding} (hpart : m.HasPart field.1)
    (h : m.bindPart whole op field = .ok b) : m.FitsPart op field b := by
  obtain ⟨c, hfind, hc, hid, hsimple⟩ := command?_of_hasPart hm hpart
  obtain ⟨hcommand, hop, hb⟩ := bindPart_eq_ok h
  obtain rfl : c = b.command := Option.some.inj (hfind.symm.trans hcommand)
  obtain ⟨hmem, hfallback⟩ := Command.partOperator?_eq_some hop
  exact ⟨hc, hid, hsimple, hmem, hfallback, hb ▸ rfl, hb ▸ rfl, hb ▸ rfl⟩

/-- There is a part for each field, bound to a command that can be a part; there are fields for a
composite command only. -/
theorem bindPart_of_partsOf (hm : Model.ofCommands id raw commands = .ok m) (hc : a.command ∈ m.commands)
    (h : m.PartsOf t a) : a.fields.isSome = a.command.kind.isComposite ∧
      List.Forall₂ (fun field b => m.HasPart field.1 ∧ m.bindPart a.command a.operator field = .ok b)
        (a.fields.getD []) a.parts := by
  unfold PartsOf at h
  split at h
  · next templates hkind =>
    obtain ⟨fields, hfields, hbind⟩ := h
    obtain ⟨hcaptures, hbound⟩ := bindParts_eq_ok hbind
    rw [hfields, hkind]
    have hall : ∀ field ∈ fields, m.HasPart field.1 := fun field hfield =>
      hasPart_of_captures hm hc hkind hcaptures hfield
    exact ⟨rfl, (List.forall₂_and_left fields _).2 ⟨hall, hbound⟩⟩
  · next hkind =>
    obtain ⟨hfields, hparts⟩ := h
    rw [hfields, hparts]
    refine ⟨?_, .nil⟩
    cases hk : a.command.kind with
    | composite templates => exact absurd hk (hkind templates)
    | _ => rfl

/-- The parts of an argument fit its fields, of which there are some for a composite command only. -/
theorem fitsParts_of_partsOf (hm : Model.ofCommands id raw commands = .ok m) (hc : a.command ∈ m.commands)
    (h : m.PartsOf t a) : a.fields.isSome = a.command.kind.isComposite ∧
      List.Forall₂ (m.FitsPart a.operator) (a.fields.getD []) a.parts := by
  obtain ⟨hfields, hparts⟩ := bindPart_of_partsOf hm hc h
  refine ⟨hfields, List.Forall₂.imp ?_ hparts⟩
  rintro field b ⟨hpart, hb⟩
  exact fitsPart_of_bindPart hm hpart hb

/-- Every token that is bound keeps the contract of its command. -/
theorem fits_of_resolve (hm : Model.ofCommands id raw commands = .ok m) (h : m.resolve t = .ok a) :
    m.Fits t a := by
  obtain ⟨hcommand, hmodifier, hoperator, hoperand, hqualifiers, hsame, hsame', hparts⟩ :=
    resolve_eq_ok h
  have hmem := mem_of_addressed hm hcommand
  obtain ⟨hfields, hparts⟩ := fitsParts_of_partsOf hm hmem hparts
  obtain ⟨hop, hknown⟩ := Command.mem_operators_of_check hoperator
  have hraw (hnone : t.field = none) : a.command = m.raw := by
    rw [addressed, hnone] at hcommand
    injection hcommand with heq
    exact heq.symm
  have hnamed (field : String) (hfield : t.field = some field) :
      (m.commands.filter fun c => c.hasLoweredName (loweredText field)) = [a.command] := by
    rw [addressed, hfield] at hcommand
    simp only at hcommand
    split at hcommand
    · next c hget =>
      injection hcommand with heq
      have hname := List.find?_some
        (p := fun c : Command => c.hasLoweredName (loweredText field)) hget
      rw [heq] at hname
      exact (distinctNames_ofCommands hm).filter_eq hmem (Command.hasLoweredName_iff.1 hname)
    · contradiction
  have hregex (source : String) (hsource : a.operand = .regex source) : a.command.allowRegex = true := by
    rw [← hsame, hsource] at hoperand
    exact Command.allowRegex_of_check hoperand
  have hmodifiers (modifier : Modifier) (hsome : a.modifier = some modifier) :
      modifier ∈ a.command.modifiers ∧
        ∃ word, t.modifier = some word ∧ modifier.isNamed word = true := by
    rw [hsome] at hmodifier
    exact Command.modifier_of_check hmodifier
  exact ⟨hraw, hnamed, hknown, hsame' ▸ Command.allows_of_check hqualifiers, hregex, hmodifiers,
    ⟨hop, hsame, hsame', Command.isSome_modifier_of_check hmodifier⟩, hfields, hparts⟩

/-! ### Both outcomes -/

theorem take_toList_append (s s' : String) {n : Nat} (h : n ≤ s.toList.length) :
    (s ++ s').toList.take n = s.toList.take n := by
  rw [String.toList_append, List.take_append_of_le_length h]

/-- The wording of an unknown part begins like that of no other reason for which a token is refused. -/
theorem text_ne_unknownPart {reason : Reason} {part : String}
    (h : (∃ word, reason = .unknownModifier word) ∨ reason = .malformedRegex ∨
      (∃ q op, reason = .qualifierNotAllowed q op) ∨ ∃ templates, reason = .expectedTemplate templates) :
    reason.text ≠ (Reason.unknownPart part).text := by
  have hpart : (Reason.unknownPart part).text.toList.take 9 = "unknown p".toList :=
    take_toList_append "unknown part " part (n := 9) (by decide)
  intro heq
  rw [← heq] at hpart
  rcases h with ⟨word, rfl⟩ | rfl | ⟨q, op, rfl⟩ | ⟨templates, rfl⟩
  · have hword := take_toList_append "unknown modifier " word (n := 9) (by decide)
    exact absurd (hword.symm.trans hpart) (by decide)
  · exact absurd hpart (by decide)
  · have hsigns := take_toList_append "qualifier "
      (q.sign ++ (" is not allowed with " ++ op.sign)) (n := 9) (by decide)
    rw [← String.append_assoc, ← String.append_assoc] at hsigns
    exact absurd (hsigns.symm.trans hpart) (by decide)
  · have hsources := take_toList_append "expected "
      (String.intercalate " or " templates) (n := 9) (by decide)
    exact absurd (hsources.symm.trans hpart) (by decide)

/-- No token of a model is refused because of an unknown part. -/
theorem ne_unknownPart_of_refuses (hm : Model.ofCommands id raw commands = .ok m) (h : m.Refuses t e)
    (field value part : String) : e ≠ .invalid field value (.unknownPart part) := by
  cases h with
  | command _ _ => exact nofun
  | modifier _ _ _ =>
      intro heq
      injection heq with _ _ htext
      exact text_ne_unknownPart (.inl ⟨_, rfl⟩) htext
  | operator _ _ _ => exact nofun
  | regexDisabled _ _ _ => exact nofun
  | malformedRegex _ _ _ =>
      intro heq
      injection heq with _ _ htext
      exact text_ne_unknownPart (.inr (.inl rfl)) htext
  | qualifier _ _ _ _ =>
      intro heq
      injection heq with _ _ htext
      exact text_ne_unknownPart (.inr (.inr (.inl ⟨_, _, rfl⟩))) htext
  | template _ _ _ =>
      intro heq
      injection heq with _ _ htext
      exact text_ne_unknownPart (.inr (.inr (.inr ⟨_, rfl⟩))) htext
  | unknownPart hc hkind hcaptures hfield hnone =>
      -- The builder of the model has found the part, so there is no such refusal.
      have hpart := hasPart_of_captures hm (mem_of_addressed hm hc) hkind hcaptures hfield
      obtain ⟨c, hfind, -⟩ := command?_of_hasPart hm hpart
      rw [hfind] at hnone
      contradiction
  | partOperator _ _ _ _ _ _ _ => exact nofun

/-- **A token of a model** gives an argument that fits its command, or an error that is not about an
unknown part. -/
theorem resolve_contract (hm : Model.ofCommands id raw commands = .ok m) (t : Token) :
    (∀ a, m.resolve t = .ok a → m.Fits t a) ∧
      ∀ field value part, m.resolve t ≠ .error (.invalid field value (.unknownPart part)) := by
  refine ⟨fun a ha => fits_of_resolve hm ha, fun field value part h => ?_⟩
  exact ne_unknownPart_of_refuses hm (refuses_of_resolve h) field value part rfl

/-- The parts of a composite value that only compare take `=` for the operator `:` of the whole. -/
theorem resolve_contract_power_and_toughness :
    let power : Command := ⟨"power", "power", [], [.equals], [], none, false, [], .number false, none⟩
    let toughness : Command :=
      ⟨"toughness", "toughness", ["tou"], Operator.all, [], none, false, [], .halfNumber .standard, none⟩
    let both : Composite :=
      ⟨[⟨"\x7b\x7bpower\x7d\x7d/\x7b\x7btoughness\x7d\x7d", [], [("power", ['/']), ("toughness", [])]⟩],
        ["power", "toughness"]⟩
    let pt : Command := ⟨"pt", "pt", [], Operator.all, [], none, false, [], .composite both, none⟩
    let m : Model := ⟨"cards", [power, toughness, pt], pt⟩
    let t : Token := ⟨[], some "PT", none, some .has, .text "1/2"⟩
    let a : Argument :=
      ⟨⟨pt, none, .text "1/2", .has, []⟩, some [("power", "1"), ("toughness", "2")],
        [⟨power, none, .text "1", .equals, []⟩, ⟨toughness, none, .text "2", .has, []⟩]⟩
    Model.ofCommands "cards" "pt" [power, toughness, pt] = .ok m ∧ m.resolve t = .ok a ∧ m.Fits t a := by
  intro power toughness both pt m t a
  have hm : Model.ofCommands "cards" "pt" [power, toughness, pt] = .ok m := by
    dsimp only [m, power, toughness, pt, both]
    rfl
  have hresolve : m.resolve t = .ok a := by
    dsimp only [m, t, a, power, toughness, pt, both]
    rfl
  exact ⟨hm, hresolve, (resolve_contract hm t).1 a hresolve⟩

end Model

end CardQuery
