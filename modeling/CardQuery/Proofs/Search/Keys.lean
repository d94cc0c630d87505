/-
**The keys that a query reads.**

The condition of a token names no keys but those that its command reads, or the modifier that the token
has taken.  All of them have passed the checks of the builder, so that nothing but letters, digits and
underscores, with dots between them, gets from a query's plan into the text of a statement; what the user
has written stands at its question marks.

Main definitions:

* `Binding.targets` — the keys that are read for a binding;
* `Model.Names` — the keys that the commands of a model name;
* `IsDotted` — parts of letters, digits and underscores with dots between them.

Main results:

* `Binding.keys_condition` — **the keys of a condition** are those that are read for its binding;
* `Model.names_of_meaning` — the keys of what a token means are named by the model;
* `Model.Names.isDotted` — and the builder of commands has seen to their form;
* `Model.plan_keeps_literals_out` — **no text of a user** gets into the text of a statement.
-/

import CardQuery.Proofs.Contract
import CardQuery.Proofs.Meaning
import CardQuery.Proofs.Search.Contents
import CardQuery.Proofs.Search.Meanings
import CardQuery.Proofs.Sql.Outline

set_option autoImplicit false

namespace CardQuery

open CommandDraft (isPlainKey keysOfKind)

theorem KeyedList.mem_values_of_find? {α : Type} {fields : KeyedList α} {key : String} {value : α}
    (h : fields.find? key = some value) : value ∈ fields.values :=
  List.mem_map_of_mem (f := Prod.snd) (mem_of_find? h)

/-! ### Keys of predicates -/

namespace Predicate

theorem keys_conjunction (ps : List Predicate) : (conjunction ps).keys = ps.flatMap keys :=
  flatMap_conjunction keys_eq_flatMap ps

theorem keys_disjunction (ps : List Predicate) : (disjunction ps).keys = ps.flatMap keys :=
  flatMap_disjunction keys_eq_flatMap ps

theorem keys_negate (p : Predicate) : p.negate.keys = p.keys := flatMap_negate keys_eq_flatMap p

/-- The predicate names no other key. -/
def ReadsOnly (key : String) (p : Predicate) : Prop := ∀ k ∈ p.keys, k = key

variable {key : String}

theorem ReadsOnly.leaf {p : Predicate} (h : p.keys = [key]) : p.ReadsOnly key := by
  intro k hk
  rw [h] at hk
  exact List.mem_singleton.1 hk

theorem ReadsOnly.negate {p : Predicate} (h : p.ReadsOnly key) : p.negate.ReadsOnly key := by
  rwa [ReadsOnly, keys_negate]

theorem ReadsOnly.both {p q : Predicate} (hp : p.ReadsOnly key) (hq : q.ReadsOnly key) :
    (conjunction [p, q]).ReadsOnly key := by
  intro k hk
  rw [keys_conjunction, List.flatMap_cons, List.flatMap_singleton] at hk
  rcases List.mem_append.1 hk with hk | hk
  · exact hp k hk
  · exact hq k hk

end Predicate

open Predicate (ReadsOnly)

/-! ### Conditions -/

namespace Binding

variable {b : Binding} {p : Predicate}

/-- The keys that are read for a binding: those that its command searches at once, or its own. -/
def targets (b : Binding) : List String :=
  match b.command.kind with
  | .unrestricted keys => keys
  | _ => [b.key]

theorem readsOnly_textCondition {key : String} (h : b.textCondition key = .ok p) : p.ReadsOnly key := by
  unfold textCondition at h
  split at h <;> cases h <;> exact .leaf rfl

theorem readsOnly_numberCondition {allowReal : Bool} {raw : String}
    (h : b.numberCondition allowReal raw = .ok p) : p.ReadsOnly b.key := by
  unfold numberCondition at h
  split at h
  · cases h
    exact .leaf rfl
  · contradiction

theorem readsOnly_setCondition {values : ValueSet} {raw : String}
    (h : b.setCondition values raw = .ok p) : p.ReadsOnly b.key := by
  obtain ⟨-, -, ⟨-, rfl⟩ | ⟨-, rfl⟩⟩ := setCondition_eq_ok_iff.1 h
  · exact .leaf rfl
  · exact .leaf rfl

theorem readsOnly_maskCondition (key : String) (full mask : Nat) (op : Operator) :
    (maskCondition key full mask op).ReadsOnly key := by
  have hexactly (mask : Nat) : (exactly key mask).ReadsOnly key := .leaf rfl
  have hsuperset : (supersetOf key mask).ReadsOnly key := .leaf rfl
  have hsubset : (subsetOf key full mask).ReadsOnly key := .leaf rfl
  cases op with
  | has =>
      rw [maskCondition]
      split
      · exact hexactly 0
      · exact hsuperset
  | equals => exact hexactly mask
  | less => exact hsubset.both (hexactly mask).negate
  | atMost => exact hsubset
  | greater => exact hsuperset.both (hexactly mask).negate
  | atLeast => exact hsuperset

theorem readsOnly_bitsetCondition {alphabet : Alphabet} {raw : String}
    (h : b.bitsetCondition alphabet raw = .ok p) : p.ReadsOnly b.key := by
  unfold bitsetCondition at h
  split at h
  · contradiction
  · cases h
    exact readsOnly_maskCondition _ _ _ _
  · cases h
    exact .leaf rfl

theorem readsOnly_oneOf (key : String) (labels : List String) : (oneOf key labels).ReadsOnly key :=
  .leaf rfl

theorem readsOnly_halfNumberCondition {range : HalfRange} {raw : String}
    (h : b.halfNumberCondition range raw = .ok p) : p.ReadsOnly b.key := by
  obtain ⟨labels, rfl⟩ | rfl := halfNumberCondition_cases h
  · exact readsOnly_oneOf b.key labels
  · have hpresent : (Predicate.present b.key).ReadsOnly b.key := .leaf rfl
    exact hpresent.both (readsOnly_oneOf _ _).negate

/-- **The keys of a condition** are those that are read for its binding. -/
theorem keys_condition (h : b.condition = .ok p) : ∀ k ∈ p.keys, k ∈ b.targets := by
  unfold condition at h
  unfold targets
  cases hk : b.command.kind with
  | text =>
      rw [hk] at h
      exact fun k hmem => List.mem_singleton.2 (readsOnly_textCondition h k hmem)
  | number allowReal =>
      rw [hk] at h
      obtain ⟨raw, -, h⟩ := bind_eq_ok_iff.1 h
      exact fun k hmem => List.mem_singleton.2 (readsOnly_numberCondition h k hmem)
  | set values =>
      rw [hk] at h
      obtain ⟨raw, -, h⟩ := bind_eq_ok_iff.1 h
      exact fun k hmem => List.mem_singleton.2 (readsOnly_setCondition h k hmem)
  | bitset alphabet =>
      rw [hk] at h
      obtain ⟨raw, -, h⟩ := bind_eq_ok_iff.1 h
      exact fun k hmem => List.mem_singleton.2 (readsOnly_bitsetCondition h k hmem)
  | halfNumber range =>
      rw [hk] at h
      obtain ⟨raw, -, h⟩ := bind_eq_ok_iff.1 h
      exact fun k hmem => List.mem_singleton.2 (readsOnly_halfNumberCondition h k hmem)
  | composite templates =>
      rw [hk] at h
      cases h
      exact fun k hmem => absurd hmem List.not_mem_nil
  | unrestricted targets =>
      rw [hk] at h
      obtain ⟨ps, hps, rfl⟩ := map_eq_ok_iff.1 h
      rw [Predicate.keys_disjunction, List.forall_mem_flatMap]
      intro q hq k hmem
      obtain ⟨key, hkey, hcondition⟩ := exists_of_mem_mapM hps hq
      rw [readsOnly_textCondition hcondition k hmem]
      exact hkey
  | order keys =>
      rw [hk] at h
      contradiction

/-- The key of an order is one of those of the command. -/
theorem key_sortKey {keys : KeyedList String} {key : SortKey} (h : b.sortKey keys = .ok key) :
    key.key ∈ keys.values := by
  obtain ⟨raw, -, h⟩ := bind_eq_ok_iff.1 h
  simp only at h
  split at h
  · next found hfound =>
    cases h
    exact KeyedList.mem_values_of_find? hfound
  · contradiction

end Binding

/-- The keys of a token's condition are read for its bindings. -/
theorem Argument.exists_reading_of_condition {a : Argument} {p : Predicate} (h : a.condition = .ok p) :
    ∀ k ∈ p.keys, ∃ b ∈ a.readings, k ∈ b.targets := by
  rcases a.condition_eq with ⟨hreadings, hcondition⟩ | ⟨hreadings, hcondition⟩
  · rw [hcondition] at h
    obtain ⟨ps, hps, rfl⟩ := map_eq_ok_iff.1 h
    rw [Predicate.keys_conjunction, List.forall_mem_flatMap]
    intro q hq k hk
    obtain ⟨b, hb, hbcondition⟩ := exists_of_mem_mapM hps hq
    exact ⟨b, hreadings ▸ hb, Binding.keys_condition hbcondition k hk⟩
  · rw [hcondition] at h
    intro k hk
    exact ⟨a.toBinding, hreadings ▸ List.mem_singleton_self _, Binding.keys_condition h k hk⟩

/-! ### Keys of a model -/

/-- A key that a command of the model names: its own, that of a modifier, one of the keys that are
searched at once, or one that results are ordered by. -/
def Model.Names (m : Model) (key : String) : Prop :=
  ∃ c ∈ m.commands, key = c.key ∨ (∃ modifier ∈ c.modifiers, key = modifier.key) ∨
    (∃ targets, c.kind = .unrestricted targets ∧ key ∈ targets) ∨
    ∃ keys, c.kind = .order keys ∧ key ∈ keys.values

/-- Parts of letters, digits and underscores, none of them empty, with dots between them. -/
def IsDotted (key : String) : Prop :=
  ∃ parts : List (List Char), parts ≠ [] ∧ (∀ part ∈ parts, PlainPart part) ∧
    key.toList = ['.'].intercalate parts

theorem dotted_eq_cons {parts : List (List Char)} (h : parts ≠ []) :
    dotted parts = '.' :: ['.'].intercalate parts := by
  induction parts with
  | nil => contradiction
  | cons part parts ih =>
      cases parts with
      | nil => simp [dotted]
      | cons part' parts =>
          have hrest := ih (List.cons_ne_nil _ _)
          rw [dotted, List.flatMap_cons, ← dotted, hrest]
          simp [List.intercalate]

theorem isDotted_of_isPlainKey {key : String} (h : isPlainKey key = true) : IsDotted key := by
  have hne : Json.splitDots key.toList ≠ [] := by
    intro hnil
    have hdotted := dotted_splitDots key.toList
    rw [hnil] at hdotted
    contradiction
  refine ⟨Json.splitDots key.toList, hne, plainPart_of_isPlainKey h, ?_⟩
  have hdotted := dotted_splitDots key.toList
  rw [dotted_eq_cons hne] at hdotted
  exact (List.cons.inj hdotted).2.symm

theorem Model.Names.isPlainKey {m : Model} (hm : m.Built) {key : String} (h : m.Names key) :
    isPlainKey key = true := by
  obtain ⟨c, hc, hkey⟩ := h
  have hsound := hm.isSound.2 c hc
  rcases hkey with rfl | ⟨modifier, hmodifier, rfl⟩ | ⟨targets, hkind, hmem⟩ | ⟨keys, hkind, hmem⟩
  · exact hsound.key
  · exact hsound.modifiers modifier hmodifier
  · refine hsound.kind key ?_
    rw [hkind]
    exact hmem
  · refine hsound.kind key ?_
    rw [hkind]
    exact hmem

/-- The builder of commands takes nothing else for a key. -/
theorem Model.Names.isDotted {m : Model} (hm : m.Built) {key : String} (h : m.Names key) :
    IsDotted key := isDotted_of_isPlainKey (h.isPlainKey hm)

/-! ### Keys of a plan -/

namespace Model

variable {m : Model} {t : Token} {a : Argument}

theorem names_of_mem_targets {b : Binding} (hc : b.command ∈ m.commands)
    (hmodifier : ∀ modifier, b.modifier = some modifier → modifier ∈ b.command.modifiers) :
    ∀ k ∈ b.targets, m.Names k := by
  have hown : m.Names b.key := by
    unfold Binding.key
    split
    · next modifier hsome => exact ⟨b.command, hc, .inr (.inl ⟨modifier, hmodifier _ hsome, rfl⟩)⟩
    · exact ⟨b.command, hc, .inl rfl⟩
  intro k hk
  unfold Binding.targets at hk
  split at hk
  · next targets hkind => exact ⟨b.command, hc, .inr (.inr (.inl ⟨targets, hkind, hk⟩))⟩
  · rwa [List.mem_singleton.1 hk]

/-- The keys that are read for a token are named by the model. -/
theorem names_of_readings (hm : m.Built) (ha : m.resolve t = .ok a) :
    ∀ b ∈ a.readings, ∀ k ∈ b.targets, m.Names k := by
  obtain ⟨id, raw, drafts, commands, -, hcommands⟩ := hm
  have hfits := fits_of_resolve hcommands ha
  have hpart : ∀ b ∈ a.parts, ∀ k ∈ b.targets, m.Names k := by
    intro b hb
    obtain ⟨field, -, hfield⟩ := exists_rel_of_mem hfits.parts hb
    refine names_of_mem_targets hfield.command fun modifier hmodifier => ?_
    rw [hfield.modifier] at hmodifier
    contradiction
  intro b hb
  rcases a.condition_eq with ⟨hreadings, -⟩ | ⟨hreadings, -⟩
  · exact hpart b (hreadings ▸ hb)
  · rw [hreadings, List.mem_singleton] at hb
    subst hb
    have hmem := mem_of_addressed hcommands (resolve_eq_ok ha).1
    exact names_of_mem_targets hmem fun modifier hmodifier => (hfits.modifier modifier hmodifier).1

/-- The keys of a token's condition are named by the model. -/
theorem names_of_condition (hm : m.Built) (ha : m.resolve t = .ok a) {p : Predicate}
    (hp : a.condition = .ok p) : ∀ k ∈ p.keys, m.Names k := by
  intro k hk
  obtain ⟨b, hb, hread⟩ := a.exists_reading_of_condition hp k hk
  exact names_of_readings hm ha b hb k hread

/-- The keys of what a token means are named by the model. -/
theorem names_of_meaning (hm : m.Built) (ha : m.resolve t = .ok a) {meaning : Meaning}
    (h : a.meaning = .ok meaning) :
    (∀ p, meaning = .filter p → ∀ k ∈ p.keys, m.Names k) ∧
      ∀ key, meaning = .sort key → m.Names key.key := by
  unfold Argument.meaning at h
  split at h
  · next keys hkind =>
    obtain ⟨key, hkey, rfl⟩ := map_eq_ok_iff.1 h
    obtain ⟨id, raw, drafts, commands, -, hcommands⟩ := hm
    have hmem := mem_of_addressed hcommands (resolve_eq_ok ha).1
    refine ⟨nofun, ?_⟩
    rintro _ ⟨⟩
    exact ⟨a.command, hmem, .inr (.inr (.inr ⟨keys, hkind, Binding.key_sortKey hkey⟩))⟩
  · obtain ⟨p, hp, rfl⟩ := map_eq_ok_iff.1 h
    refine ⟨?_, nofun⟩
    rintro _ ⟨⟩
    split
    · rw [Predicate.keys_negate]
      exact names_of_condition hm ha hp
    · exact names_of_condition hm ha hp

theorem exists_of_mem_meanings {ps : List Piece} {meaning : Meaning} (h : meaning ∈ m.meanings ps) :
    ∃ t a, m.resolve t = .ok a ∧ a.meaning = .ok meaning := by
  obtain ⟨piece, -, hmeaning⟩ := List.mem_filterMap.1 h
  unfold meaningOf? at hmeaning
  obtain ⟨t, -, hmeaning⟩ := Option.bind_eq_some_iff.1 hmeaning
  unfold meaning? at hmeaning
  split at hmeaning
  · next a ha =>
    cases ha' : a.meaning with
    | error e =>
        rw [ha'] at hmeaning
        contradiction
    | ok meaning' =>
        rw [ha'] at hmeaning
        cases hmeaning
        exact ⟨t, a, ha, ha'⟩
  · contradiction

end Model

theorem EmptyQuery.keys_predicate {e : EmptyQuery} {filters : List Predicate} {p : Predicate}
    (h : e.predicate filters = some p) : p.keys = filters.flatMap Predicate.keys := by
  unfold predicate at h
  split at h
  · next hempty =>
    rw [List.isEmpty_iff.1 hempty]
    cases e with
    | matchAll =>
        cases h
        rfl
    | noPredicates => contradiction
  · cases h
    exact Predicate.keys_conjunction filters

/-- **No text of a user** gets into the text of a statement: every key of a plan comes from its model and
is made of letters, digits, underscores and dots, and predicates that differ in nothing but literals have
the same clause. -/
theorem Model.plan_keeps_literals_out {m : Model} (hm : m.Built) (c : Catalog) (e : EmptyQuery)
    (query : String) :
    (∀ p, (m.plan c e query).predicate = some p → ∀ k ∈ p.keys, m.Names k ∧ IsDotted k) ∧
    (∀ key, (m.plan c e query).sort = some key → m.Names key.key ∧ IsDotted key.key) ∧
    ∀ (p q : Predicate) (column : String), p.outline = q.outline →
      p.toSql.clause column = q.toSql.clause column := by
  refine ⟨?_, ?_, ?_⟩
  · intro p hp k hk
    rw [predicate_plan] at hp
    rw [EmptyQuery.keys_predicate hp] at hk
    obtain ⟨q, hq, hk⟩ := List.mem_flatMap.1 hk
    obtain ⟨meaning, hmem, hfilter⟩ := List.mem_filterMap.1 hq
    obtain ⟨t, a, ha, hmeaning⟩ := exists_of_mem_meanings hmem
    have hsame : meaning = .filter q := by
      cases meaning with
      | filter q' =>
          cases hfilter
          rfl
      | sort key => contradiction
    have hnames := (names_of_meaning hm ha hmeaning).1 q hsame k hk
    exact ⟨hnames, hnames.isDotted hm⟩
  · intro key hkey
    rw [sort_plan] at hkey
    obtain ⟨meaning, hmem, hsort⟩ := List.mem_filterMap.1 (List.mem_of_head? hkey)
    obtain ⟨t, a, ha, hmeaning⟩ := exists_of_mem_meanings hmem
    have hsame : meaning = .sort key := by
      cases meaning with
      | filter q => contradiction
      | sort key' =>
          cases hsort
          rfl
    have hnames := (names_of_meaning hm ha hmeaning).2 key hsame
    exact ⟨hnames, hnames.isDotted hm⟩
  · intro p q column h
    rw [← p.clause_outline, ← q.clause_outline, h]

/-- A quotation mark in a value does not end the quotation that a path stands in. -/
theorem Model.plan_keeps_literals_out_quotation :
    let name : Command :=
      ⟨"name", "name", [], CommandDraft.matching, [.negation], none, true, [], .text, none⟩
    let m : Model := ⟨"cards", [name], name⟩
    m.Built ∧ (m.plan default .matchAll "x\x27").predicate = some (.contains "name" "x\x27") ∧
      m.Names "name" ∧ IsDotted "name" ∧
      ((Predicate.contains "name" "x\x27").toSql.clause "data" =
        (Predicate.contains "name" "y").toSql.clause "data") := by
  intro name m
  have hm : m.Built :=
    ⟨"cards", "name", [CommandDraft.text "name"], [name], rfl, by dsimp only [m, name]; rfl⟩
  have hcontents : contents "x\x27" = [.ok ⟨[], none, none, none, .text "x\x27"⟩] := by decide +kernel
  have hpredicate : (m.plan default .matchAll "x\x27").predicate = some (.contains "name" "x\x27") := by
    rw [predicate_plan, meanings_pieces, hcontents]
    rfl
  obtain ⟨hkeys, -, hclause⟩ := plan_keeps_literals_out hm default .matchAll "x\x27"
  obtain ⟨hnames, hdotted⟩ := hkeys _ hpredicate "name" List.mem_cons_self
  exact ⟨hm, hpredicate, hnames, hdotted, hclause _ _ "data" rfl⟩

end CardQuery
