/-
**No table that is read has a name twice.**

A table under construction takes a name once.  Lines and tables in braces go down a path of names, change the
table at its end, and put the tables on the way back in their places, so that this stays true of all tables
inside one another, and of the finished table as well.

Main definitions:

* `Toml.Value.Leads` — a path of names leads from a value to one inside it;
* `Toml.Value.Throughout` — something is true of the names of every table of a value;
* `Toml.Value.Distinct`, `Toml.Draft.Distinct` — no table of a value has a name twice.

Main results:

* `Toml.Value.throughout_table_iff`, `Toml.Draft.distinct_iff` — the tables of a table are the table itself and
  those of its values;
* `Toml.Draft.distinct_changeAt` — a change at the end of a path keeps the names of all tables distinct;
* `Toml.distinct_of_read?` — **the names of a table that is read are distinct**, at every depth.
-/

import CardQuery.Toml.Reader
import Mathlib.Data.List.Basic

set_option autoImplicit false

namespace CardQuery.Toml

/-! ### Values inside others -/

/-- The path of names leads from a value through tables to a value inside it. -/
inductive Value.Leads : Value → List String → Value → Prop where
  | here (v : Value) : Leads v [] v
  | inside {fields : List (String × Value)} {key : String} {value target : Value} {path : List String}
      (hmem : (key, value) ∈ fields) (h : Leads value path target) : Leads (.table fields) (key :: path) target

namespace Value

/-- The names of every table of a value, be it the value itself or a table inside, are as said. -/
def Throughout (P : List String → Prop) (v : Value) : Prop :=
  ∀ path fields, v.Leads path (.table fields) → P (KeyedList.keys fields)

/-- No table of a value has a name twice. -/
def Distinct (v : Value) : Prop := v.Throughout List.Nodup

theorem throughout_of_no_table {P : List String → Prop} {v : Value} (h : v.asTable? = none) : v.Throughout P := by
  intro path fields hleads
  cases hleads <;> contradiction

theorem throughout_table_iff {P : List String → Prop} {fields : Table} :
    (table fields).Throughout P ↔ P fields.keys ∧ ∀ e ∈ fields, e.2.Throughout P := by
  constructor
  · intro h
    exact ⟨h [] fields (.here _), fun e he path inner hleads => h (e.1 :: path) inner (.inside he hleads)⟩
  · rintro ⟨hnames, hinside⟩ path inner hleads
    cases hleads with
    | here => exact hnames
    | inside hmem hleads => exact hinside _ hmem _ _ hleads

theorem distinct_of_no_table {v : Value} (h : v.asTable? = none) : v.Distinct := throughout_of_no_table h

theorem distinct_table_iff {fields : Table} :
    (table fields).Distinct ↔ fields.keys.Nodup ∧ ∀ e ∈ fields, e.2.Distinct := throughout_table_iff

end Value

/-! ### Finished tables -/

theorem insertSorted_perm (field : String × Value) (fields : Table) :
    (insertSorted field fields).Perm (field :: fields) := by
  induction fields with
  | nil => exact .refl _
  | cons f fields ih =>
      rw [insertSorted]
      split
      · exact .refl _
      · exact (ih.cons f).trans (.swap field f fields)

theorem sorted_perm (fields : Table) : (sorted fields).Perm fields := by
  induction fields with
  | nil => exact .refl _
  | cons field fields ih => exact (insertSorted_perm field _).trans (ih.cons field)

theorem finishFields_eq (fields : List (String × Entry)) :
    finishFields fields = fields.map fun e => (e.1, e.2.finish) := by
  induction fields with
  | nil => rw [finishFields, List.map_nil]
  | cons e fields ih => rw [finishFields, ih, List.map_cons]

namespace Draft

variable {t t' : Draft} {dotted : Bool}

/-- No table of a table under construction has a name twice. -/
def Distinct (t : Draft) : Prop := (Value.table t.finish).Distinct

theorem distinct_iff : t.Distinct ↔ t.fields.keys.Nodup ∧ ∀ e ∈ t.fields, e.2.finish.Distinct := by
  have hkeys : (KeyedList.keys t.finish).Perm t.fields.keys := by
    have hperm := (sorted_perm (finishFields t.fields)).map Prod.fst
    have hsame : (finishFields t.fields).map Prod.fst = t.fields.keys := by
      rw [finishFields_eq, List.map_map]
      rfl
    rwa [hsame] at hperm
  have hmembers : (∀ e ∈ t.finish, e.2.Distinct) ↔ ∀ e ∈ t.fields, e.2.finish.Distinct := by
    simp only [finish, (sorted_perm _).mem_iff, finishFields_eq, List.forall_mem_map]
  rw [Distinct, Value.distinct_table_iff, hkeys.nodup_iff, hmembers]

theorem distinct_empty (implied dotted : Bool) : Distinct ⟨implied, dotted, []⟩ :=
  distinct_iff.2 ⟨.nil, List.forall_mem_nil _⟩

theorem distinct_put (h : t.Distinct) (key : String) {e : Entry} (he : e.finish.Distinct) :
    (t.put key e).Distinct := by
  rw [distinct_iff] at h ⊢
  refine ⟨KeyedList.nodup_keys_insert h.1 key e, fun e' he' => ?_⟩
  rcases KeyedList.eq_or_mem_of_mem_insert he' with rfl | hmem
  · exact he
  · exact h.2 e' hmem

/-! ### Changes -/

theorem distinct_of_find? (h : t.Distinct) {key : String} {e : Entry} (he : t.fields.find? key = some e) :
    e.finish.Distinct :=
  (distinct_iff.1 h).2 _ (KeyedList.mem_of_find? he)

/-- **A change at the end of a path** keeps the names of all tables distinct if the change itself does. -/
theorem distinct_changeAt {change : Draft → Option Draft}
    (hchange : ∀ t t', t.Distinct → change t = some t' → t'.Distinct) {path : List String}
    (h : t.Distinct) (ht : changeAt dotted change path t = some t') : t'.Distinct := by
  induction path generalizing t t' with
  | nil => exact hchange t t' h ht
  | cons key path ih =>
      rw [changeAt] at ht
      split at ht
      · obtain ⟨child, hchild, rfl⟩ := Option.map_eq_some_iff.1 ht
        exact distinct_put h key (ih (distinct_empty _ _) hchild)
      · contradiction
      · next implied wasDotted fields hfind =>
        split at ht
        · contradiction
        · obtain ⟨child, hchild, rfl⟩ := Option.map_eq_some_iff.1 ht
          -- the fields of an entry are those of the table that it is
          have hentry : Distinct ⟨implied, wasDotted, fields⟩ := distinct_of_find? h hfind
          exact distinct_put h key (ih hentry hchild)
      · split at ht
        · contradiction
        · obtain ⟨child, -, rfl⟩ := Option.map_eq_some_iff.1 ht
          exact distinct_put h key (Value.distinct_of_no_table rfl)

theorem distinct_changeLast {change : List String → String → Draft → Option Draft}
    (hchange : ∀ path name t t', t.Distinct → change path name t = some t' → t'.Distinct)
    {key : List String} (h : t.Distinct) (ht : changeLast dotted change key t = some t') : t'.Distinct := by
  rw [changeLast] at ht
  split at ht
  · contradiction
  · exact distinct_changeAt (hchange _ _) h ht

theorem distinct_assign {key : List String} {v : Value} (h : t.Distinct) (hv : v.Distinct)
    (ht : assign key v t = some t') : t'.Distinct := by
  refine distinct_changeLast (fun path name t t' h ht => ?_) h ht
  split at ht
  · contradiction
  · cases ht
    exact distinct_put h name hv

theorem distinct_openTable {key : List String} (h : t.Distinct) (ht : openTable key t = some t') :
    t'.Distinct := by
  refine distinct_changeLast (fun path name t t' h ht => ?_) h ht
  split at ht
  · cases ht
    exact distinct_put h name (distinct_empty _ _)
  · next fields hfind =>
    cases ht
    have hentry : Distinct ⟨true, false, fields⟩ := distinct_of_find? h hfind
    exact distinct_put h name hentry
  · contradiction

theorem distinct_openItem {key : List String} (h : t.Distinct) (ht : openItem key t = some t') :
    t'.Distinct := by
  refine distinct_changeLast (fun path name t t' h ht => ?_) h ht
  split at ht
  · cases ht
    exact distinct_put h name (Value.distinct_of_no_table rfl)
  · cases ht
    exact distinct_put h name (Value.distinct_of_no_table rfl)
  · contradiction

end Draft

/-! ### Values -/

theorem distinct_of_integer? {i : Int} {v : Value} (h : integer? i = some v) : v.Distinct := by
  rw [integer?] at h
  split at h
  · cases h
    exact Value.distinct_of_no_table rfl
  · contradiction

section Scanning

variable {s rest : List Char} {v : Value}

theorem distinct_of_scanBased {base : Nat} {isDigit : Char → Bool} (h : scanBased base isDigit s = some (v, rest)) :
    v.Distinct := by
  rw [scanBased] at h
  dsimp only at h
  split at h
  · contradiction
  · obtain ⟨i, hi, heq⟩ := Option.map_eq_some_iff.1 h
    cases heq
    exact distinct_of_integer? hi

theorem distinct_of_scanInteger (h : scanInteger s = some (v, rest)) : v.Distinct := by
  unfold scanInteger at h
  split at h
  · exact distinct_of_scanBased h
  · exact distinct_of_scanBased h
  · exact distinct_of_scanBased h
  · dsimp only at h
    split at h
    · contradiction
    · obtain ⟨i, hi, heq⟩ := Option.map_eq_some_iff.1 h
      cases heq
      exact distinct_of_integer? hi

theorem distinct_of_scanReal (h : scanReal s = some (v, rest)) : v.Distinct := by
  rw [scanReal] at h
  dsimp only at h
  split at h
  · cases h
    exact Value.distinct_of_no_table rfl
  · cases h
    exact Value.distinct_of_no_table rfl
  · obtain ⟨whole, -, h⟩ := Option.bind_eq_some_iff.1 h
    -- whatever is scanned of the fraction and the exponent, a double comes of it
    have hreal {α : Type} {scanned : Option α} {x : α → Real} {after : α → List Char} {inRange : α → Bool}
        (h : (scanned.bind fun parts => Option.bind (guard (inRange parts = true)) fun _ =>
          some (Value.real (x parts), after parts)) = some (v, rest)) : v.Distinct := by
      obtain ⟨parts, -, h⟩ := Option.bind_eq_some_iff.1 h
      obtain ⟨-, -, h⟩ := Option.bind_eq_some_iff.1 h
      cases h
      exact Value.distinct_of_no_table rfl
    split at h
    · split at h
      · exact hreal h
      · exact hreal h
    · split at h
      · exact hreal h
      · contradiction

theorem distinct_of_scanNumeral (h : scanNumeral s = some (v, rest)) : v.Distinct := by
  rw [scanNumeral] at h
  split at h
  · cases h
    exact Value.distinct_of_no_table rfl
  · split at h
    · next hreal =>
      cases h
      exact distinct_of_scanReal hreal
    · exact distinct_of_scanInteger h

theorem distinct_of_scanWord (h : scanWord s = some (v, rest)) : v.Distinct := by
  unfold scanWord at h
  split at h
  · cases h
    exact Value.distinct_of_no_table rfl
  · cases h
    exact Value.distinct_of_no_table rfl
  · cases h
    exact Value.distinct_of_no_table rfl
  · cases h
    exact Value.distinct_of_no_table rfl
  · contradiction

/-- What is read as a value, as items up to the end of a list, or as assignments up to the end of a table. -/
theorem distinct_of_scan (fuel : Nat) :
    (∀ depth s v rest, scanValue fuel depth s = some (v, rest) → v.Distinct) ∧
      (∀ depth items s v rest, scanItems fuel depth items s = some (v, rest) → v.Distinct) ∧
      ∀ depth t s v rest, t.Distinct → scanFields fuel depth t s = some (v, rest) → v.Distinct := by
  induction fuel with
  | zero => simp [scanValue, scanItems, scanFields]
  | succ fuel ih =>
      obtain ⟨hvalue, hitems, hfields⟩ := ih
      refine ⟨fun depth s v rest h => ?_, fun depth items s v rest h => ?_, fun depth t s v rest ht h => ?_⟩
      · rw [scanValue.eq_def] at h
        dsimp only at h
        split at h
        · contradiction
        · split at h
          · obtain ⟨text, -, heq⟩ := Option.map_eq_some_iff.1 h
            cases heq
            exact Value.distinct_of_no_table rfl
          · split at h
            · split at h
              · contradiction
              · exact hitems _ _ _ _ _ h
            · split at h
              · split at h
                · contradiction
                · split at h
                  · cases h
                    exact Draft.distinct_empty false false
                  · exact hfields _ _ _ _ _ (Draft.distinct_empty false false) h
              · split at h
                · exact distinct_of_scanNumeral h
                · exact distinct_of_scanWord h
      · rw [scanItems.eq_def] at h
        dsimp only at h
        split at h
        · cases h
          exact Value.distinct_of_no_table rfl
        · split at h
          · contradiction
          · split at h
            · exact hitems _ _ _ _ _ h
            · cases h
              exact Value.distinct_of_no_table rfl
            · contradiction
      · rw [scanFields.eq_def] at h
        dsimp only at h
        split at h
        · split at h
          · contradiction
          · next v' rest' hscan =>
            split at h
            · contradiction
            · next t' hassign =>
              have ht' := Draft.distinct_assign ht (hvalue _ _ _ _ hscan) hassign
              split at h
              · exact hfields _ _ _ _ _ ht' h
              · cases h
                exact ht'
              · contradiction
        · contradiction

end Scanning

/-! ### Documents -/

theorem distinct_of_readLine {p p' : Progress} {s rest : List Char} (hp : p.root.Distinct)
    (h : readLine p s = some (p', rest)) : p'.root.Distinct := by
  unfold readLine at h
  split at h
  · simp only [Option.bind_eq_bind, Option.bind_eq_some_iff] at h
    obtain ⟨_, -, _, -, _, -, _, -, root, hroot, heq⟩ := h
    cases heq
    exact Draft.distinct_openItem hp hroot
  · simp only [Option.bind_eq_bind, Option.bind_eq_some_iff] at h
    obtain ⟨_, -, _, -, _, -, root, hroot, heq⟩ := h
    cases heq
    exact Draft.distinct_openTable hp hroot
  · simp only [Option.bind_eq_bind, Option.bind_eq_some_iff] at h
    obtain ⟨_, -, _, -, ⟨v, _⟩, hscan, _, -, root, hroot, heq⟩ := h
    cases heq
    have hv := (distinct_of_scan _).1 _ _ _ _ hscan
    exact Draft.distinct_changeAt (fun t t' ht => Draft.distinct_assign ht hv) hp hroot

theorem distinct_of_readLines {fuel : Nat} {p : Progress} {s : List Char} {t : Draft} (hp : p.root.Distinct)
    (h : readLines fuel p s = some t) : t.Distinct := by
  induction fuel generalizing p s with
  | zero => contradiction
  | succ fuel ih =>
      rw [readLines] at h
      split at h
      · cases h
        exact hp
      · split at h
        · next hline => exact ih (distinct_of_readLine hp hline) h
        · contradiction

/-- **The names of a table that is read are distinct**, and so are those of the tables inside it. -/
theorem distinct_of_read? {text : String} {table : Table} (h : read? text = some table) :
    (Value.table table).Distinct := by
  obtain ⟨t, ht, rfl⟩ := Option.map_eq_some_iff.1 h
  exact distinct_of_readLines (Draft.distinct_empty false false) ht

end CardQuery.Toml
