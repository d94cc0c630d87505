/-
**Hearthstone.**

A card has a name, a text, a cost, attack and health, classes, runes, a type, keywords and a rarity.
Attack and health can be given together, and are then explained together.

Main definitions:

* `Game.explainStats` — the explanation of attack and health together;
* `Game.hearthstone` — the model of the game.
-/

import CardQuery.Command.Draft
import CardQuery.Game.Vocabulary
import CardQuery.Model

set_option autoImplicit false

namespace CardQuery.Game

open CommandDraft

/-- Equal attack and health read as one summary, and other comparisons part by part. -/
def explainStats : Explainer := fun c e =>
  if e.operator.isOrdering then e.standard
  else do
    let fields ← e.fields
    let attack ← fields.find? "attack"
    let health ← fields.find? "health"
    let summary :=
      c.lookupOr "stats.summary" [("attack", attack), ("health", health)]
        (attack ++ " attack and " ++ health ++ " health")
    return if e.isNegated then
      c.lookupOr "stats.not-summary" [("value", summary)] ("not " ++ summary)
    else summary

/-- Types of cards. -/
def cardTypes : List String := ["minion", "spell", "weapon", "hero", "location"]

/-- Rarities of cards. -/
def rarities : List String := ["free", "common", "rare", "epic", "legendary"]

/-- The commands of the game. -/
def hearthstoneCommands (v : Vocabulary) : List CommandDraft := [
  unrestricted "raw" ["name", "text"],
  (text "name").addAlias "n",
  (text "text").addAlias "o",
  (number "cost").addAlias "mana",
  (number "attack").addAlias "atk",
  (number "health").addAlias "hp",
  (composite "stats" ["\x7b\x7battack\x7d\x7d/\x7b\x7bhealth\x7d\x7d"]).explainedBy explainStats,
  (((set "class").addAlias "cls").withKey "classes").addShortForms (v.entries "hearthstone.class"),
  (((set "rune").withKey "runes").addShortForms (v.entries "hearthstone.rune")).countingDuplicates,
  ((set "type").addAlias "t").withValues cardTypes,
  ((set "keyword").addAlias "kw").withKey "keywords",
  ((set "rarity").addAlias "r").withValues rarities,
  (((((order "order").addAlias "sort").addSortKey "name" "name").addSortKey "cost" "cost").addSortKey
    "attack" "attack").addSortKey "health" "health"]

/-- The model of the game. -/
def hearthstone (v : Vocabulary) : Except ModelError Model := do
  Model.ofCommands "hearthstone" "raw" (← (hearthstoneCommands v).mapM CommandDraft.build)

end CardQuery.Game
