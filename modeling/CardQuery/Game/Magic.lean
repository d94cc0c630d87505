/-
**Magic: The Gathering.**

A card has a name, a type line, rules text as it is and as it was printed, flavor text, the sets of
its colors and of its color identity, a mana value, the labels of power, toughness and loyalty,
keywords, formats, a set, a year and prices.

Main definitions:

* `Game.magic` — the model of the game.
-/

import CardQuery.Command.Draft
import CardQuery.Game.Vocabulary
import CardQuery.Model

set_option autoImplicit false

namespace CardQuery.Game

open CommandDraft

/-- The commands of the game. -/
def magicCommands (v : Vocabulary) : List CommandDraft := [
  unrestricted "raw" ["name"],
  (text "name").addAlias "n",
  (text "type").addAliases ["t", "types"],
  (((text "text").addAliases ["o", "oracle"]).addModifier "unified" "u" "text").addModifier
    "printed" "p" "printed_text",
  (text "flavor").addAlias "ft",
  ((bitset "color" "WUBRG").addAliases ["c", "colors"]).addWords (v.entries "magic.color"),
  ((bitset "identity" "WUBRG").addAliases ["id", "ci"]).addWords (v.entries "magic.color"),
  ((number "cmc").addAliases ["mv", "manavalue"]).withReals,
  (halfNumber "power").addAlias "pow",
  (halfNumber "toughness").addAlias "tou",
  (halfNumber "loyalty").addAlias "loy",
  (composite "pt" ["\x7b\x7bpower\x7d\x7d/\x7b\x7btoughness\x7d\x7d"]).addAlias "powtou",
  ((set "rarity").addAlias "r").addShortForms (v.entries "magic.rarity"),
  ((set "keyword").addAlias "kw").withKey "keywords",
  (((set "format").addAliases ["f", "legal"]).withKey "formats").addShortForms
    (v.entries "magic.format"),
  (set "set").addAliases ["s", "e", "edition"],
  number "year",
  (((((order "order").addAlias "sort").addSortKey "name" "name").addSortKey "cmc" "cmc").addSortKey
    "price" "prices.usd").addSortKey "year" "year"]

/-- The model of the game. -/
def magic (v : Vocabulary) : Except ModelError Model := do
  Model.ofCommands "magic" "raw" (← (magicCommands v).mapM CommandDraft.build)

end CardQuery.Game
