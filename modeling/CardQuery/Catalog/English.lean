/-
**The English messages.**

Main definitions:

* `Catalog.english` — the messages that are used where a document gives no others.
-/

import CardQuery.Catalog.Basic

set_option autoImplicit false

namespace CardQuery

/-- The English messages. -/
def Catalog.english : Catalog := ⟨[
  ("operator.is", "\x7bparameter\x7d is \x7bvalue\x7d"),
  ("operator.is-not", "\x7bparameter\x7d is not \x7bvalue\x7d"),
  ("operator.include", "\x7bparameter\x7d includes \x7bvalue\x7d"),
  ("operator.not-include", "\x7bparameter\x7d does not include \x7bvalue\x7d"),
  ("operator.match", "\x7bparameter\x7d matches \x7bvalue\x7d"),
  ("operator.not-match", "\x7bparameter\x7d does not match \x7bvalue\x7d"),
  ("operator.match-exactly", "\x7bparameter\x7d matches exactly \x7bvalue\x7d"),
  ("operator.not-match-exactly", "\x7bparameter\x7d does not match exactly \x7bvalue\x7d"),
  ("operator.less-than", "\x7bparameter\x7d is less than \x7bvalue\x7d"),
  ("operator.not-less-than", "\x7bparameter\x7d is not less than \x7bvalue\x7d"),
  ("operator.less-than-or-equal", "\x7bparameter\x7d is less than or equal to \x7bvalue\x7d"),
  ("operator.not-less-than-or-equal", "\x7bparameter\x7d is not less than or equal to \x7bvalue\x7d"),
  ("operator.greater-than", "\x7bparameter\x7d is greater than \x7bvalue\x7d"),
  ("operator.not-greater-than", "\x7bparameter\x7d is not greater than \x7bvalue\x7d"),
  ("operator.greater-than-or-equal", "\x7bparameter\x7d is greater than or equal to \x7bvalue\x7d"),
  ("operator.not-greater-than-or-equal", "\x7bparameter\x7d is not greater than or equal to \x7bvalue\x7d"),
  ("operator.not-all", "not (\x7bvalue\x7d)"),
  ("conjunction.and", "and"),
  ("order.sorted-by", "sorted by \x7bparameter\x7d, \x7bdirection\x7d"),
  ("order.ascending", "ascending"),
  ("order.descending", "descending"),
  ("modifier.printed", "printed"),
  ("modifier.unified", "unified"),
  ("field.name", "name"),
  ("field.type", "type"),
  ("field.text", "rules text"),
  ("field.flavor", "flavor text"),
  ("field.color", "color"),
  ("field.identity", "color identity"),
  ("field.cmc", "mana value"),
  ("field.power", "power"),
  ("field.toughness", "toughness"),
  ("field.loyalty", "loyalty"),
  ("field.pt", "power/toughness"),
  ("field.rarity", "rarity"),
  ("field.keyword", "keyword"),
  ("field.format", "format"),
  ("field.set", "set"),
  ("field.year", "year"),
  ("field.price", "price"),
  ("field.cost", "cost"),
  ("field.attack", "attack"),
  ("field.health", "health"),
  ("field.stats", "attack/health"),
  ("field.class", "class"),
  ("field.rune", "rune"),
  ("stats.summary", "\x7battack\x7d attack and \x7bhealth\x7d health"),
  ("stats.not-summary", "not \x7bvalue\x7d")]⟩

end CardQuery
