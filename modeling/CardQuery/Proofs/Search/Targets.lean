/-
**What a token reads of a card.**

What becomes of a card depends on the values at few of its keys.  A modifier points the whole condition of a
token to another key, also where this is made of two halves; a command that searches everywhere reads the keys
of its list, and a composite value those of the commands of its parts.  Cards that have the same values there
pass the test of the token alike, and nothing can be learned from a token about what a card holds elsewhere.

Main definitions:

* `Command.targets` — the keys that a command reads by itself;
* `Argument.targets` — the keys that a token reads.

Main results:

* `Model.mem_targets_of_mem_keys` — the condition of a token names no other keys;
* `Model.token_reads_targets` — **a token reads only the fields that it targets**.
-/

import CardQuery.Proofs.Predicate.Locality
import CardQuery.Proofs.Parts
import CardQuery.Proofs.Search.Keys

set_option autoImplicit false

namespace CardQuery

/-! ### Targets -/

/-- The keys that a command reads by itself: those that it searches at once, or its own. -/
def Command.targets (c : Command) : List String :=
  match c.kind with
  | .unrestricted keys => keys
  | _ => [c.key]

/-- The keys that a token reads: those of the commands of its parts if its value is composite, those of the
list if its command searches everywhere, and otherwise the key of its modifier, or that of its command. -/
def Argument.targets (a : Argument) : List String :=
  match a.command.kind with
  | .composite _ => a.parts.flatMap fun b => b.command.targets
  | .unrestricted keys => keys
  | _ =>
    match a.modifier with
    | some modifier => [modifier.key]
    | none => [a.command.key]

/-- Without a modifier a binding reads what its command reads by itself. -/
theorem Binding.targets_of_no_modifier {b : Binding} (h : b.modifier = none) :
    b.targets = b.command.targets := by
  have hkey : b.key = b.command.key := by rw [key, h]
  rewrite [targets, Command.targets, hkey]
  rfl

namespace Model

variable {m : Model} {t : Token} {a : Argument}

/-- A part of a composite value takes no modifier. -/
theorem modifier_of_mem_parts (ha : m.resolve t = .ok a) {b : Binding} (hb : b ∈ a.parts) :
    b.modifier = none := by
  obtain ⟨part, hpart⟩ := exists_bindPart_of_mem_parts ha hb
  rw [(bindPart_eq_ok hpart).2.2]

/-- The keys that are read for the bindings of a token are its targets. -/
theorem mem_targets_of_reading (ha : m.resolve t = .ok a) {b : Binding} (hb : b ∈ a.readings) {k : String}
    (hk : k ∈ b.targets) : k ∈ a.targets := by
  unfold Argument.readings at hb
  unfold Argument.targets
  cases hkind : a.command.kind with
  | composite templates =>
      rw [hkind] at hb
      rw [Binding.targets_of_no_modifier (modifier_of_mem_parts ha hb)] at hk
      exact List.mem_flatMap.2 ⟨b, hb, hk⟩
  | unrestricted keys =>
      rw [hkind] at hb
      rw [List.mem_singleton.1 hb, Binding.targets, hkind] at hk
      exact hk
  | _ =>
      rw [hkind] at hb
      rw [List.mem_singleton.1 hb, Binding.targets, hkind, Binding.key] at hk
      cases hmodifier : a.modifier with
      | none =>
          rw [hmodifier] at hk
          exact hk
      | some modifier =>
          rw [hmodifier] at hk
          exact hk

/-- The condition of a token names no keys but its targets. -/
theorem mem_targets_of_mem_keys (ha : m.resolve t = .ok a) {p : Predicate}
    (hp : a.meaning = .ok (.filter p)) : ∀ k ∈ p.keys, k ∈ a.targets := by
  obtain ⟨-, q, hq, rfl⟩ := Argument.meaning_eq_filter_iff.1 hp
  have hcondition : ∀ k ∈ q.keys, k ∈ a.targets := by
    intro k hk
    obtain ⟨b, hb, hread⟩ := a.exists_reading_of_condition hq k hk
    exact mem_targets_of_reading ha hb hread
  split
  · rw [Predicate.keys_negate]
    exact hcondition
  · exact hcondition

/-! ### Cards -/

/-- **A token reads only the fields that it targets.**

Whatever the model, a token that filters the cards gives the same verdict about two cards if they have equal
values at each of its targets, or both have none there; null counts as none. -/
theorem token_reads_targets (ha : m.resolve t = .ok a) {p : Predicate}
    (hp : a.meaning = .ok (.filter p)) {test : Json → Bool} (htest : p.test? = .ok test)
    {card card' : Json} (h : ∀ key ∈ a.targets, Json.SameAt key card card') : test card = test card' := by
  obtain ⟨-, rfl⟩ := Predicate.test?_eq_ok_iff.1 htest
  exact Predicate.holds_of_sameAt fun key hkey => h key (mem_targets_of_mem_keys ha hp key hkey)

/-- A modifier points both halves of a condition away from the key of the command. -/
theorem token_reads_targets_modifier :
    let color : Command :=
      ⟨"color", "color", [], Operator.all, [], none, false, [⟨"identity", "i", "identity"⟩],
        .bitset (.ofText "wu"), none⟩
    let m : Model := ⟨"cards", [color], color⟩
    let t : Token := ⟨[], some "color", some "i", some .greater, .text "w"⟩
    let more : Predicate :=
      .allOf [.bitsAllSet "identity" 1, .not (.compare "identity" .equal (.integer 1))]
    let card : Json := .object [("identity", .ofNat 3), ("color", .ofNat 1)]
    let card' : Json := .object [("color", .null), ("identity", .ofNat 3)]
    ∃ a test, m.resolve t = .ok a ∧ a.meaning = .ok (.filter more) ∧ a.targets = ["identity"] ∧
      more.test? = .ok test ∧ test card = true ∧ test card' = true := by
  intro color m t more card card'
  let a : Argument :=
    ⟨⟨color, some ⟨"identity", "i", "identity"⟩, .text "w", .greater, []⟩, none, []⟩
  have hresolve : m.resolve t = .ok a := by
    dsimp only [m, t, a, color]
    rfl
  have hmeaning : a.meaning = .ok (.filter more) := by
    dsimp only [a, color, more]
    rfl
  have htest : more.test? = .ok more.holds := Predicate.test?_eq_ok_iff.2 ⟨by decide, rfl⟩
  have hsame : ∀ key ∈ a.targets, Json.SameAt key card card' := by
    intro key hkey
    obtain rfl := List.mem_singleton.1 hkey
    exact Json.sameAt_of_eq rfl
  have hcard : more.holds card = true := by decide +kernel
  refine ⟨a, more.holds, hresolve, hmeaning, rfl, htest, hcard, ?_⟩
  rw [← token_reads_targets hresolve hmeaning htest hsame, hcard]

end Model

end CardQuery
