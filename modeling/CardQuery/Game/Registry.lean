/-
**All games.**

Main definitions:

* `Registry.withVocabulary` — the models of all games with given word lists;
* `Registry.games` — the models with the usual word lists.
-/

import CardQuery.Game.Hearthstone
import CardQuery.Game.Magic

set_option autoImplicit false

namespace CardQuery.Registry

/-- The models of all games with the given word lists. -/
def withVocabulary (v : Vocabulary) : Except ModelError Registry := do
  let r ← Registry.empty.register (← Game.magic v)
  r.register (← Game.hearthstone v)

/-- The models of all games with the usual word lists. -/
def games : Except ModelError Registry := withVocabulary .standard

end CardQuery.Registry
