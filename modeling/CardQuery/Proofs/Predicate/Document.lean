/-
**Predicates read back from their documents.**

A document keeps everything that a predicate says.  The name of a form tells the fourteen forms apart; the
operand of a comparison has no name, and is tried as a whole number, then as a double and then as a text.  A
double is written as one, also when it is whole, so that the first trial fails on it at every depth.  Whole
numbers keep to the words of the machine: signed ones of 64 bits among the operands, unsigned ones as masks.

Main definitions:

* `Scalar.IsWord`, `Predicate.OfWords` — the whole numbers of an operand and of a predicate are words.

Main results:

* `Scalar.ofJson?_toJson`, `Predicate.ofJson?_toJson_leaf` — operands and leaves are read back;
* `Predicate.ofJson?_form_not`, `Predicate.ofJson?_form_and`, `Predicate.ofJson?_form_or` — reading goes through
  negations and groups;
* `Predicate.document_lossless` — **every predicate is read back from its document**.
-/

import CardQuery.Predicate.Document
import CardQuery.Proofs.Predicate.Agreement

set_option autoImplicit false

namespace CardQuery

/-- What is written item by item is read back item by item. -/
theorem mapM_map_eq_some {α β : Type} {write : α → β} {read : β → Option α} {as : List α}
    (h : ∀ a ∈ as, read (write a) = some a) : (as.map write).mapM read = some as := by
  induction as with
  | nil => rfl
  | cons a as ih =>
      rw [List.forall_mem_cons] at h
      rw [List.map_cons, List.mapM_cons, h.1, ih h.2]
      rfl

/-! ### Operands -/

namespace Scalar

/-- A whole number is a signed one of 64 bits. -/
def IsWord : Scalar → Prop
  | integer i => fitsInt64 i = true
  | real _ => True
  | text _ => True

theorem ofJson?_toJson {value : Scalar} (h : value.IsWord) : ofJson? value.toJson = some value := by
  cases value with
  | integer i =>
      have hword : (Json.Number.integer i).int64? = some i := if_pos h
      simp only [toJson, Json.ofInt, ofJson?, hword]
  | real x => rfl
  | text s => rfl

end Scalar

theorem Comparison.ofJson?_name (c : Comparison) : Comparison.ofJson? (.text c.name) = some c := by
  cases c <;> rfl

namespace Predicate

/-- The whole numbers of a leaf are words: signed ones to compare with, unsigned ones as masks. -/
def LeafOfWords : Predicate → Prop
  | compare _ _ value => value.IsWord
  | inList _ values => ∀ value ∈ values, value.IsWord
  | bitsAllSet _ mask => fitsNat64 mask = true
  | bitsAllClear _ mask => fitsNat64 mask = true
  | _ => True

/-- All whole numbers of a predicate are words. -/
def OfWords (p : Predicate) : Prop := ∀ q ∈ p.leaves, q.LeafOfWords

/-! ### Forms -/

theorem tagged?_form (name : String) (args : Json) :
    Json.tagged? "op" "args" (form name args) = some (name, some args) := rfl

/-- What is written under the name of a form is read by that name. -/
theorem ofJson?_form (name : String) (args : Json) :
    ofJson? (form name args) =
      if name = "all" then if args.isNull then some everything else none
      else if name = "not" then (ofJson? args).map not
      else if name = "and" ∨ name = "or" then
        args.asList?.bind fun items =>
          (items.mapM ofJson?).map fun ps => if name = "and" then allOf ps else anyOf ps
      else leaf? name args := by
  rw [ofJson?]
  split
  · next htagged => cases (tagged?_form name args).symm.trans htagged
  · next htagged => cases (tagged?_form name args).symm.trans htagged
  · next name' args' htagged =>
    cases (tagged?_form name args).symm.trans htagged
    refine if_congr Iff.rfl rfl (if_congr Iff.rfl rfl (if_congr Iff.rfl ?_ rfl))
    cases args with
    | list items =>
        -- the items come with a proof that they are smaller, which the reading does not look at
        have hitems : (items.attach.mapM fun item => ofJson? item.1) = items.mapM ofJson? := by
          rw [List.mapM_subtype fun _ _ => rfl, List.unattach_attach]
        exact congrArg (Option.map fun ps => if name = "and" then allOf ps else anyOf ps) hitems
    | _ => rfl

theorem ofJson?_form_leaf {name : String} (hname : name ∉ ["all", "not", "and", "or"]) (args : Json) :
    ofJson? (form name args) = leaf? name args := by
  simp only [List.mem_cons, List.not_mem_nil, or_false, not_or] at hname
  obtain ⟨hall, hnot, hand, hor⟩ := hname
  rw [ofJson?_form, if_neg hall, if_neg hnot, if_neg (not_or.2 ⟨hand, hor⟩)]

theorem ofJson?_form_not (args : Json) : ofJson? (form "not" args) = (ofJson? args).map not := by
  rw [ofJson?_form, if_neg (by decide), if_pos rfl]

theorem ofJson?_form_and (items : List Json) :
    ofJson? (form "and" (.list items)) = (items.mapM ofJson?).map allOf := by
  rw [ofJson?_form, if_neg (by decide), if_neg (by decide), if_pos (.inl rfl)]
  rfl

theorem ofJson?_form_or (items : List Json) :
    ofJson? (form "or" (.list items)) = (items.mapM ofJson?).map anyOf := by
  rw [ofJson?_form, if_neg (by decide), if_neg (by decide), if_pos (.inr rfl)]
  rfl

theorem toJsonList_eq (ps : List Predicate) : toJsonList ps = ps.map toJson := by
  induction ps with
  | nil => rw [toJsonList, List.map_nil]
  | cons p ps ih => rw [toJsonList, ih, List.map_cons]

/-! ### Leaves -/

theorem keyAndText?_object (name : String) (hname : name ≠ "key") (make : String → String → Predicate)
    (key value : String) :
    keyAndText? name make (.object [("key", .text key), (name, .text value)]) = some (make key value) := by
  have hrecord : Json.record? ["key", name] [] (.object [("key", .text key), (name, .text value)]) =
      some [.text key, .text value] := by
    simp [Json.record?, Json.required?, Json.optional, KeyedList.find?, hname.symm]
  rw [keyAndText?, hrecord]

theorem keyAndMask?_object {mask : Nat} (hmask : fitsNat64 mask = true) (make : String → Nat → Predicate)
    (key : String) :
    keyAndMask? make (.object [("key", .text key), ("mask", .ofNat mask)]) = some (make key mask) := by
  have hword : (Json.ofNat mask).asNat64? = some mask := by
    rw [Json.ofNat, Json.asNat64?, Json.Number.nat64?, if_pos hmask, Int.toNat_natCast]
  have hrecord : Json.record? ["key", "mask"] [] (.object [("key", .text key), ("mask", .ofNat mask)]) =
      some [.text key, .ofNat mask] := rfl
  simp only [keyAndMask?, hrecord, hword, Option.map_some]

theorem compare?_object {value : Scalar} (hvalue : value.IsWord) (key : String) (comparison : Comparison) :
    compare? (.object [("key", .text key), ("cmp", .text comparison.name), ("value", value.toJson)]) =
      some (compare key comparison value) := by
  have hrecord : Json.record? ["key", "cmp", "value"] [] (.object [("key", .text key),
      ("cmp", .text comparison.name), ("value", value.toJson)]) =
        some [.text key, .text comparison.name, value.toJson] := rfl
  simp only [compare?, hrecord, comparison.ofJson?_name, Scalar.ofJson?_toJson hvalue]
  rfl

theorem inList?_object {values : List Scalar} (hvalues : ∀ value ∈ values, value.IsWord) (key : String) :
    inList? (.object [("key", .text key), ("values", .list (values.map Scalar.toJson))]) =
      some (inList key values) := by
  have hread : (values.map Scalar.toJson).mapM Scalar.ofJson? = some values :=
    mapM_map_eq_some fun value hvalue => Scalar.ofJson?_toJson (hvalues value hvalue)
  exact congrArg (Option.map (inList key)) hread

/-- **A leaf is read back from its document.** -/
theorem ofJson?_toJson_leaf {p : Predicate} (hp : p.isLeaf = true) (hwords : p.LeafOfWords) :
    ofJson? p.toJson = some p := by
  cases p with
  | everything =>
    rw [toJson, ofJson?]
    rfl
  | contains key needle =>
      rw [toJson, ofJson?_form_leaf (by decide)]
      exact keyAndText?_object "needle" (by decide) contains key needle
  | regex key pattern =>
      rw [toJson, ofJson?_form_leaf (by decide)]
      exact keyAndText?_object "pattern" (by decide) regex key pattern
  | textEquals key value =>
      rw [toJson, ofJson?_form_leaf (by decide)]
      exact keyAndText?_object "value" (by decide) textEquals key value
  | compare key comparison value =>
      rw [toJson, ofJson?_form_leaf (by decide)]
      exact compare?_object hwords key comparison
  | inList key values =>
      rw [toJson, ofJson?_form_leaf (by decide)]
      exact inList?_object hwords key
  | present key =>
      rw [toJson, ofJson?_form_leaf (by decide)]
      rfl
  | hasElement key value =>
      rw [toJson, ofJson?_form_leaf (by decide)]
      exact keyAndText?_object "value" (by decide) hasElement key value
  | soleElement key value distinct =>
      rw [toJson, ofJson?_form_leaf (by decide)]
      rfl
  | bitsAllSet key mask =>
      rw [toJson, ofJson?_form_leaf (by decide)]
      exact keyAndMask?_object hwords bitsAllSet key
  | bitsAllClear key mask =>
      rw [toJson, ofJson?_form_leaf (by decide)]
      exact keyAndMask?_object hwords bitsAllClear key
  | not | allOf | anyOf => contradiction

/-! ### Predicates -/

/-- **Every predicate is read back from its document.** -/
theorem document_lossless {p : Predicate} (hwords : p.OfWords) : ofJson? p.toJson = some p := by
  induction p using Predicate.induction with
  | leaf p hp =>
      refine ofJson?_toJson_leaf hp ?_
      cases p with
      | everything => exact trivial
      | not | allOf | anyOf => contradiction
      | _ => exact hwords _ (List.mem_singleton_self _)
  | neg p ih =>
      rw [OfWords, leaves_not] at hwords
      rw [toJson, ofJson?_form_not, ih hwords, Option.map_some]
  | all ps ih =>
      rw [OfWords, leaves_allOf, List.forall_mem_flatMap] at hwords
      have hps : (ps.map toJson).mapM ofJson? = some ps :=
        mapM_map_eq_some fun p hp => ih p hp (hwords p hp)
      rw [toJson, toJsonList_eq, ofJson?_form_and, hps, Option.map_some]
  | any ps ih =>
      rw [OfWords, leaves_anyOf, List.forall_mem_flatMap] at hwords
      have hps : (ps.map toJson).mapM ofJson? = some ps :=
        mapM_map_eq_some fun p hp => ih p hp (hwords p hp)
      rw [toJson, toJsonList_eq, ofJson?_form_or, hps, Option.map_some]

/-- A mask with all bits of the word, the least whole number, a whole double beside the whole number that it
equals, negative zero, and lists and groups of nothing. -/
theorem document_lossless_extremes :
    let p : Predicate := .anyOf [.allOf [], .not (.anyOf []), .inList "power" [],
      .allOf [.not (.not (.bitsAllSet "color" 18446744073709551615)),
        .inList "cmc" [.integer (-9223372036854775808), .integer 2, .real (.ofInt 2), .real ⟨true, 0⟩, .text "2"],
        .compare "cmc" .atLeast (.real (.ofInt 2))], .everything]
    p.OfWords ∧ ofJson? p.toJson = some p := by
  intro p
  have hwords : p.OfWords := by
    simp [p, OfWords, leaves, leavesAll, LeafOfWords, Scalar.IsWord, fitsInt64, fitsNat64, int64Bound]
  exact ⟨hwords, document_lossless hwords⟩

end Predicate

end CardQuery
