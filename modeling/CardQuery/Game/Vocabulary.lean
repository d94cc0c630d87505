/-
**Word lists of the games.**

Main definitions:

* `Vocabulary`, `Vocabulary.entries` — named lists of short forms with what they stand for;
* `Vocabulary.standard` — the lists that are used where no others are given.
-/

set_option autoImplicit false

namespace CardQuery

/-- Named lists of short forms with what they stand for. -/
structure Vocabulary where
  lists : List (String × List (String × String))
deriving Inhabited

/-- The entries of a list; an unknown list has none. -/
def Vocabulary.entries (v : Vocabulary) (name : String) : List (String × String) :=
  match v.lists.find? fun l => l.1 == name with
  | some l => l.2
  | none => []

namespace Game

/-- Rarities of Magic cards by their first letter. -/
def magicRarities : List (String × String) := [
  ("c", "common"), ("u", "uncommon"), ("r", "rare"), ("m", "mythic"), ("s", "special"),
  ("b", "bonus")]

/-- Colors of Magic cards, and the names of groups of them. -/
def magicColors : List (String × String) := [
  ("white", "W"), ("blue", "U"), ("black", "B"), ("red", "R"), ("green", "G"), ("colorless", ""),
  ("azorius", "WU"), ("dimir", "UB"), ("rakdos", "BR"), ("gruul", "RG"), ("selesnya", "GW"),
  ("orzhov", "WB"), ("izzet", "UR"), ("golgari", "BG"), ("boros", "RW"), ("simic", "GU"),
  ("bant", "GWU"), ("esper", "WUB"), ("grixis", "UBR"), ("jund", "BRG"), ("naya", "RGW"),
  ("abzan", "WBG"), ("jeskai", "URW"), ("sultai", "BGU"), ("mardu", "RWB"), ("temur", "GUR")]

/-- Formats in which Magic cards may be played. -/
def magicFormats : List (String × String) := [
  ("std", "standard"), ("pio", "pioneer"), ("mod", "modern"), ("leg", "legacy"),
  ("vin", "vintage"), ("edh", "commander"), ("pau", "pauper")]

/-- Classes of Hearthstone cards. -/
def hearthstoneClasses : List (String × String) := [
  ("dh", "demonhunter"), ("dk", "deathknight"), ("dr", "druid"), ("hu", "hunter"), ("ma", "mage"),
  ("pa", "paladin"), ("pr", "priest"), ("ro", "rogue"), ("sh", "shaman"), ("wl", "warlock"),
  ("wa", "warrior"), ("ne", "neutral")]

/-- Runes of Hearthstone cards. -/
def hearthstoneRunes : List (String × String) := [("b", "blood"), ("f", "frost"), ("u", "unholy")]

end Game

/-- The usual lists. -/
def Vocabulary.standard : Vocabulary := ⟨[
  ("magic.rarity", Game.magicRarities),
  ("magic.color", Game.magicColors),
  ("magic.format", Game.magicFormats),
  ("hearthstone.class", Game.hearthstoneClasses),
  ("hearthstone.rune", Game.hearthstoneRunes)]⟩

end CardQuery
