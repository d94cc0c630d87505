/-
**Models that are built.**

Commands and models come from their builders only, which refuse what they have found wrong.  So every
key that a token of a model is bound to is plain, and no alphabet has more letters than a mask has room
for.

Main definitions:

* `Command.IsSound` — what the checks of a finished command ask for;
* `Model.Built` — models that come from their builder.

Main results:

* `CommandDraft.isSound_of_build` — a finished command has passed the checks;
* `Model.Built.isSound` — so has every command of a model;
* `Model.Built.binding_isSound` — **the bindings of a token** have sound commands and plain keys.
-/

import CardQuery.Command.Draft
import CardQuery.Proofs.Resolve

set_option autoImplicit false

namespace CardQuery

open CommandDraft (isPlainKey keysOfKind)

/-! ### Commands -/

/-- What the checks of a finished command ask for. -/
structure Command.IsSound (c : Command) : Prop where
  key : isPlainKey c.key = true
  modifiers : ∀ m ∈ c.modifiers, isPlainKey m.key = true
  kind : ∀ k ∈ keysOfKind c.kind, isPlainKey k = true
  letters : ∀ a, c.kind = .bitset a → a.letters.length ≤ Alphabet.mostLetters

theorem CommandDraft.letters_le_of_checkWidth {id : String} {kind : CommandKind}
    (h : checkWidth id kind = .ok ()) (a : Alphabet) (ha : kind = .bitset a) :
    a.letters.length ≤ Alphabet.mostLetters := by
  subst ha
  rw [checkWidth] at h
  split at h
  · contradiction
  · omega

/-- **A finished command** has passed the checks. -/
theorem CommandDraft.isSound_of_build {d : CommandDraft} {c : Command} (h : d.build = .ok c) :
    c.IsSound := by
  unfold build at h
  simp only at h
  split at h
  · obtain ⟨_, hthrow, _⟩ := bind_eq_ok_iff.1 h
    cases hthrow
  split at h
  · obtain ⟨_, hthrow, _⟩ := bind_eq_ok_iff.1 h
    cases hthrow
  obtain ⟨⟨⟩, hwidth, h⟩ := bind_eq_ok_iff.1 h
  split at h
  · cases h
  · next hkeys =>
    cases h
    simp only [List.find?_eq_none, List.cons_append, List.forall_mem_cons, List.forall_mem_append,
      List.forall_mem_map, Bool.not_eq_true', Bool.not_eq_false] at hkeys
    exact ⟨hkeys.1, hkeys.2.1, hkeys.2.2, letters_le_of_checkWidth hwidth⟩

/-! ### Models -/

/-- The model comes from its builder, with commands that come from theirs. -/
def Model.Built (m : Model) : Prop :=
  ∃ (id raw : String) (drafts : List CommandDraft) (commands : List Command),
    drafts.mapM CommandDraft.build = .ok commands ∧ Model.ofCommands id raw commands = .ok m

theorem ModelDraft.commands_addAll {d d' : ModelDraft} {commands : List Command}
    (h : d.addAll commands = .ok d') : d'.commands = d.commands ++ commands := by
  induction commands generalizing d with
  | nil =>
      cases h
      rw [List.append_nil]
  | cons c commands ih =>
      obtain ⟨d₁, hadd, hrest⟩ := bind_eq_ok_iff.1 h
      obtain ⟨-, -, rfl⟩ := map_eq_ok_iff.1 hadd
      rw [ih hrest, List.append_assoc, List.singleton_append]

/-- A finished model has the commands of its draft, among them the one for tokens without a field. -/
theorem ModelDraft.commands_build {d : ModelDraft} {m : Model} (h : d.build = .ok m) :
    m.commands = d.commands ∧ m.raw ∈ d.commands := by
  unfold build at h
  split at h
  · contradiction
  split at h
  · contradiction
  · next id _ raw hraw =>
    split at h
    · contradiction
    · cases h
      exact ⟨rfl, List.mem_of_find?_eq_some hraw⟩

namespace Model

variable {m : Model} {t : Token} {a : Argument}

/-- The commands of a model that is built have passed their checks. -/
theorem Built.isSound (h : m.Built) : m.raw.IsSound ∧ ∀ c ∈ m.commands, c.IsSound := by
  obtain ⟨id, raw, drafts, commands, hdrafts, hmodel⟩ := h
  obtain ⟨d, hadd, hbuild⟩ := bind_eq_ok_iff.1 hmodel
  obtain ⟨hcommands, hraw⟩ := ModelDraft.commands_build hbuild
  have hd : d.commands = commands := ModelDraft.commands_addAll hadd
  have hall : ∀ c ∈ commands, c.IsSound := by
    intro c hc
    obtain ⟨draft, -, hdraft⟩ := exists_of_mem_mapM hdrafts hc
    exact CommandDraft.isSound_of_build hdraft
  rw [hcommands, hd]
  exact ⟨hall m.raw (hd ▸ hraw), hall⟩

/-! ### Bindings -/

end Model

/-- The command of a binding is sound, and the key that is read is plain. -/
structure Binding.IsSound (b : Binding) : Prop where
  command : b.command.IsSound
  key : isPlainKey b.key = true

namespace Model

variable {m : Model} {t : Token} {a : Argument}

theorem isSound_of_addressed (h : m.Built) {c : Command} (hc : m.addressed t = .ok c) : c.IsSound := by
  obtain ⟨hraw, hall⟩ := h.isSound
  unfold addressed at hc
  split at hc
  · cases hc
    exact hraw
  · split at hc
    · next hget =>
      cases hc
      exact hall _ (List.mem_of_find?_eq_some hget)
    · contradiction

theorem mem_of_checkModifier {c : Command} {modifier : Modifier}
    (h : c.checkModifier t = .ok (some modifier)) : modifier ∈ c.modifiers := by
  unfold Command.checkModifier at h
  split at h
  · cases h
  · split at h
    · next hmodifier =>
      cases h
      exact List.mem_of_find?_eq_some hmodifier
    · contradiction

theorem isSound_of_bindPart (h : m.Built) {whole : Command} {op : Operator} {part : String × String}
    {b : Binding} (hb : m.bindPart whole op part = .ok b) : b.IsSound := by
  obtain ⟨-, hall⟩ := h.isSound
  obtain ⟨hcommand, -, heq⟩ := bindPart_eq_ok hb
  have hsound : b.command.IsSound := hall _ (List.mem_of_find?_eq_some hcommand)
  exact ⟨hsound, heq ▸ hsound.key⟩

/-- **The bindings of a token** have sound commands and plain keys: that of the whole value, and those of
its parts. -/
theorem Built.binding_isSound (h : m.Built) (ha : m.resolve t = .ok a) :
    a.toBinding.IsSound ∧ ∀ b ∈ a.parts, b.IsSound := by
  obtain ⟨hcommand, hmodifier, -⟩ := resolve_eq_ok ha
  have hsound := isSound_of_addressed h hcommand
  refine ⟨⟨hsound, ?_⟩, ?_⟩
  · unfold Binding.key
    split
    · next modifier hm =>
      rw [hm] at hmodifier
      exact hsound.modifiers modifier (mem_of_checkModifier hmodifier)
    · exact hsound.key
  · intro b hb
    obtain ⟨part, hpart⟩ := exists_bindPart_of_mem_parts ha hb
    exact isSound_of_bindPart h hpart

end Model

end CardQuery
