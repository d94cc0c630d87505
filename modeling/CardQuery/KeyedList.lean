/-
**Lists of keyed values in order of first insertion.**

A record whose fields are shown in the order in which they were first written: writing a key that is
present replaces its value in place, and a new key goes to the end.

Main definitions:

* `KeyedList` — pairs of a text key and a value;
* `KeyedList.find?`, `KeyedList.insert`, `KeyedList.insertAll` — look-up and writing;
* `KeyedList.keys`, `KeyedList.values` — its columns.

Main results:

* `KeyedList.find?_insert` — after a write the key has the value written and every other key the
  value it had;
* `KeyedList.keys_insert` — a write adds its key at the end unless it is present;
* `KeyedList.find?_eq_none`, `KeyedList.find?_eq_some_iff` — what keys have values, if none is repeated;
* `KeyedList.insertAll_eq_append` — entries with new keys are put behind one another;
* `KeyedList.find?_insertAll` — of two lists the one that is written later counts.
-/

set_option autoImplicit false

namespace CardQuery

/-- Pairs of a key and a value, in order of first insertion. -/
abbrev KeyedList (α : Type) := List (String × α)

namespace KeyedList

variable {α : Type}

/-- The value of a key. -/
def find? : KeyedList α → String → Option α
  | [], _ => none
  | (k, v) :: rest, key => if k = key then some v else find? rest key

/-- Writes a value: in place when the key is present, at the end otherwise. -/
def insert : KeyedList α → String → α → KeyedList α
  | [], key, value => [(key, value)]
  | (k, v) :: rest, key, value =>
    if k = key then (key, value) :: rest else (k, v) :: insert rest key value

/-- Writes the values of a list in order. -/
def insertAll (fields entries : KeyedList α) : KeyedList α :=
  entries.foldl (fun fields e => insert fields e.1 e.2) fields

/-- The list that holds the entries, later ones replacing earlier ones. -/
def ofEntries (entries : List (String × α)) : KeyedList α := insertAll [] entries

/-- The keys in order. -/
def keys (fields : KeyedList α) : List String := fields.map (·.1)

/-- The values in order. -/
def values (fields : KeyedList α) : List α := fields.map (·.2)

theorem find?_insert (fields : KeyedList α) (key other : String) (value : α) :
    find? (insert fields key value) other = if key = other then some value else find? fields other := by
  induction fields with
  | nil => simp [insert, find?]
  | cons e rest ih =>
    obtain ⟨k, v⟩ := e
    by_cases hk : k = key
    · subst hk
      by_cases ho : k = other <;> simp [insert, find?, ho]
    · by_cases ho : key = other
      · subst ho
        simp [insert, find?, hk, ih]
      · by_cases hko : k = other
        · subst hko
          simp [insert, find?, hk, ho]
        · simp [insert, find?, hk, ho, hko, ih]

theorem keys_insert (fields : KeyedList α) (key : String) (value : α) :
    keys (insert fields key value) =
      if key ∈ keys fields then keys fields else keys fields ++ [key] := by
  induction fields with
  | nil => simp [insert, keys]
  | cons e rest ih =>
    obtain ⟨k, v⟩ := e
    by_cases hk : k = key
    · subst hk
      simp [insert, keys]
    · have hk' : ¬ key = k := fun h => hk h.symm
      simp only [keys] at ih
      by_cases hm : key ∈ List.map (·.1) rest
      · simp only [hm, if_true] at ih
        simp [insert, keys, hk, hk', hm, ih]
      · simp only [hm, if_false] at ih
        simp [insert, keys, hk, hk', hm, ih]

theorem find?_eq_none {fields : KeyedList α} {key : String} (h : key ∉ fields.keys) :
    fields.find? key = none := by
  induction fields with
  | nil => rfl
  | cons e rest ih =>
      rw [keys, List.map_cons, List.mem_cons, not_or] at h
      rw [find?, if_neg (Ne.symm h.1), ih h.2]

theorem mem_of_find? {fields : KeyedList α} {key : String} {value : α} (h : fields.find? key = some value) :
    (key, value) ∈ fields := by
  induction fields with
  | nil => contradiction
  | cons e rest ih =>
      rw [find?] at h
      split at h
      · next hk =>
        cases h
        exact hk ▸ List.mem_cons_self
      · exact List.mem_cons_of_mem _ (ih h)

theorem find?_eq_some_iff {fields : KeyedList α} (hnodup : fields.keys.Nodup) {key : String} {value : α} :
    fields.find? key = some value ↔ (key, value) ∈ fields := by
  refine ⟨mem_of_find?, fun h => ?_⟩
  induction fields with
  | nil => contradiction
  | cons e rest ih =>
      rw [keys, List.map_cons, List.nodup_cons] at hnodup
      rcases List.mem_cons.1 h with rfl | hrest
      · rw [find?, if_pos rfl]
      · have hne : e.1 ≠ key := by
          intro hkey
          exact hnodup.1 (hkey ▸ List.mem_map_of_mem (f := Prod.fst) hrest)
        rw [find?, if_neg hne, ih hnodup.2 hrest]

theorem eq_or_mem_of_mem_insert {fields : KeyedList α} {key : String} {value : α} {e : String × α}
    (h : e ∈ fields.insert key value) : e = (key, value) ∨ e ∈ fields := by
  induction fields with
  | nil => exact .inl (List.mem_singleton.1 h)
  | cons first rest ih =>
      rw [insert] at h
      split at h
      · exact (List.mem_cons.1 h).imp_right (List.mem_cons_of_mem _)
      · rcases List.mem_cons.1 h with rfl | h
        · exact .inr List.mem_cons_self
        · exact (ih h).imp_right (List.mem_cons_of_mem _)

/-! ### Lists without repeated keys -/

theorem nodup_keys_insert {fields : KeyedList α} (h : fields.keys.Nodup) (key : String) (value : α) :
    (fields.insert key value).keys.Nodup := by
  rw [keys_insert]
  split
  · exact h
  · next hnew =>
    refine List.nodup_append.2 ⟨h, List.nodup_cons.2 ⟨nofun, .nil⟩, ?_⟩
    rintro other hother _ hkey rfl
    exact hnew (List.mem_singleton.1 hkey ▸ hother)

theorem nodup_keys_insertAll {fields : KeyedList α} (h : fields.keys.Nodup) (entries : KeyedList α) :
    (fields.insertAll entries).keys.Nodup := by
  induction entries generalizing fields with
  | nil => exact h
  | cons e entries ih => exact ih (nodup_keys_insert h e.1 e.2)

theorem insert_of_not_mem {fields : KeyedList α} {key : String} (h : key ∉ fields.keys) (value : α) :
    fields.insert key value = fields ++ [(key, value)] := by
  induction fields with
  | nil => rfl
  | cons e rest ih =>
      rw [keys, List.map_cons, List.mem_cons, not_or] at h
      rw [insert, if_neg (Ne.symm h.1), ih h.2, List.cons_append]

/-- Entries with new keys are put behind one another. -/
theorem insertAll_eq_append {fields entries : KeyedList α} (h : (keys (fields ++ entries)).Nodup) :
    fields.insertAll entries = fields ++ entries := by
  induction entries generalizing fields with
  | nil => exact (List.append_nil _).symm
  | cons e entries ih =>
      have hsplit : fields ++ e :: entries = fields ++ [e] ++ entries := by
        rw [List.append_assoc, List.singleton_append]
      have hnew : e.1 ∉ fields.keys := by
        rw [keys, List.map_append, List.nodup_append] at h
        exact fun hmem => h.2.2 e.1 hmem e.1 List.mem_cons_self rfl
      have hstep : fields.insertAll (e :: entries) = (fields ++ [e]).insertAll entries :=
        congrArg (insertAll · entries) (insert_of_not_mem hnew e.2)
      rw [hsplit] at h
      rw [hstep, ih h, hsplit]

/-- Of two lists the one that is written later counts. -/
theorem find?_insertAll (fields : KeyedList α) {entries : KeyedList α} (h : entries.keys.Nodup)
    (key : String) :
    (fields.insertAll entries).find? key = (entries.find? key).or (fields.find? key) := by
  induction entries generalizing fields with
  | nil => rfl
  | cons e entries ih =>
      rw [keys, List.map_cons, List.nodup_cons] at h
      have hstep : fields.insertAll (e :: entries) = (fields.insert e.1 e.2).insertAll entries := rfl
      rw [hstep, ih _ h.2, find?_insert, find?]
      split
      · next hkey =>
        subst hkey
        rw [find?_eq_none h.1, Option.none_or, Option.some_or]
      · rfl

end KeyedList

end CardQuery
