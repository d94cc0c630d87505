/-
**One bad piece does not hide the rest.**

What is reported of a query is a token or an error for each of its pieces.  With white space between
them, two queries are reported as each of them alone, the second one at places that are further to the
right: an error of the first takes nothing away from the second.  There are two ways in which the end of
a query matters.  A value without its closing delimiter takes in all that follows, so that the first
query must have none; and a query that ends behind an operator is told that its value is missing *after
the operator* only when white space follows.

Main definitions:

* `Piece.result`, `results` — what is reported of a piece, and of a query;
* `endsWithHead` — a query that ends behind the operator of its last piece.

Main results:

* `Token.scan_append_eq` — what a token is read as before white space, exactly;
* `results_append` — **what is reported of two queries with white space between them**.
-/

import CardQuery.Error
import CardQuery.Proofs.Token.Cover

set_option autoImplicit false

namespace CardQuery

open Unicode (isBlank)

/-! ### What is reported -/

/-- What is reported of a piece: the token with its place, or an error. -/
def Piece.result (p : Piece) : Except SearchError (Token × Span) :=
  match p.content with
  | .ok token => .ok (token, p.span)
  | .error fault => .error (.ofFault fault p.span)

/-- What is reported of the pieces of a query. -/
def results (query : String) : List (Except SearchError (Token × Span)) :=
  (pieces query).map Piece.result

/-- The error in a text that has more text before it. -/
def SearchError.shift (k : Nat) : SearchError → SearchError
  | .malformed message span => .malformed message (span.shift k)
  | e => e

/-- What is reported in a text that has more text before it. -/
def shiftResult (k : Nat) : Except SearchError (Token × Span) → Except SearchError (Token × Span)
  | .ok (token, span) => .ok (token, span.shift k)
  | .error e => .error (e.shift k)

theorem Piece.result_shift (k : Nat) (p : Piece) :
    (p.shift k).result = shiftResult k p.result := by
  rcases p with ⟨span, fault | token⟩ <;> rfl

/-- The two faults of a missing delimiter by their wording. -/
theorem Fault.message_of_isUnterminated {fault : Fault} (h : fault.isUnterminated = true) :
    fault.message = "Unterminated quoted string" ∨
      fault.message = "Unterminated regular expression" := by
  cases fault with
  | unterminatedText => exact Or.inl rfl
  | unterminatedRegex => exact Or.inr rfl
  | _ => contradiction

/-! ### Before white space -/

section

variable {w : Char} (t : List Char)

/-- Does the text consist of marks and a head, with nothing behind the operator? -/
def Token.isHeadOnly (s : List Char) : Bool :=
  match scanHead (s.dropWhile (· == '!')) with
  | some (_, []) => true
  | _ => false

theorem Token.scan_of_isHeadOnly {s : List Char} (h : isHeadOnly s = true) :
    scan s = (.error (.missingValue false), []) := by
  unfold isHeadOnly at h
  split at h
  · next head hh => simp only [scan, hh, scanBody_nil]
  · contradiction

/-- **What a token is read as before white space**: the same, unless it is a head without a value. -/
theorem Token.scan_append_eq (hw : isBlank w = true) {s : List Char} (h : (scan s).IsClosed) :
    scan (s ++ w :: t) =
      (if isHeadOnly s then .error (.missingValue true) else (scan s).1, (scan s).2 ++ w :: t) := by
  have hmark : (w == '!') = false := by simpa using ne_of_isBlank hw (by decide)
  unfold isHeadOnly
  unfold scan at h ⊢
  simp only [takeWhile_append_cons (p := (· == '!')) t hmark,
    dropWhile_append_cons (p := (· == '!')) t hmark, scanHead_append t hw] at h ⊢
  cases hh : scanHead (s.dropWhile (· == '!')) with
  | none =>
      simp only [hh, Option.map_none, Bool.false_eq_true, if_false] at h ⊢
      by_cases hs : s.dropWhile (· == '!') = []
      · rw [hs, List.nil_append, scanBody_blank t hw, scanBody_nil]
        rfl
      · exact scanBody_append t hw hs h
  | some r =>
      obtain ⟨head, rest⟩ := r
      simp only [hh, Option.map_some] at h ⊢
      cases rest with
      | nil =>
          rw [List.nil_append, scanBody_blank t hw, scanBody_nil]
          rfl
      | cons c rest => exact scanBody_append t hw (List.cons_ne_nil c rest) h

end

/-- Does the query end behind the operator of a piece, which is then its last one? -/
def endsWithHead (query : String) : Bool :=
  (pieces query).any fun p => Token.isHeadOnly (query.toList.drop p.span.start)

/-- Two lists of pieces that agree but for the wording of a missing value are equal, or they differ in
the last piece. -/
theorem Followed.cases {ps qs : List Piece} (h : Followed ps qs) :
    qs = ps ∨ ∃ before span, ps = before ++ [⟨span, .error (.missingValue false)⟩] ∧
      qs = before ++ [⟨span, .error (.missingValue true)⟩] := by
  induction h with
  | nil => exact Or.inl rfl
  | last span => exact Or.inr ⟨[], span, rfl, rfl⟩
  | cons p _ ih =>
      rcases ih with rfl | ⟨before, span, rfl, rfl⟩
      · exact Or.inl rfl
      · exact Or.inr ⟨p :: before, span, rfl, rfl⟩

section

variable {w : Char} {q : String}

/-- What a piece of a query is read as when the query goes on after white space. -/
theorem content_append (hw : isBlank w = true) (h : AllClosed (pieces q)) (r : String) {p p' : Piece}
    (hp : p ∈ pieces q) (hp' : p' ∈ pieces (q.push w ++ r)) (hspan : p'.span = p.span) :
    p'.content =
      if Token.isHeadOnly (q.toList.drop p.span.start) then .error (.missingValue true)
      else p.content := by
  have hread := readIn_of_mem_pieces hp
  have hread' := readIn_of_mem_pieces hp'
  have hlt : p.span.start ≤ q.toList.length := by
    have := hread.start_lt_stop
    have := hread.stop_le
    omega
  have hdrop : (q.push w ++ r).toList.drop p.span.start =
      q.toList.drop p.span.start ++ w :: r.toList := by
    simp [List.drop_append_of_le_length, hlt]
  have hclosed : (Token.scan (q.toList.drop p.span.start)).IsClosed := by
    intro fault hf
    exact h p hp fault (hread.content.symm.trans hf)
  rw [← hread'.content, hspan, hdrop, Token.scan_append_eq _ hw hclosed, hread.content]

/-- **What is reported of two queries with white space between them** is what is reported of each, with
the places of the second further to the right; a value that is missing at the very end of the first is
reported in other words if an operator asks for it, and in no other case. -/
theorem results_append (hw : isBlank w = true)
    (h : ∀ span, .error (.malformed "Unterminated quoted string" span) ∉ results q ∧
      .error (.malformed "Unterminated regular expression" span) ∉ results q) (r : String) :
    ∃ own, results (q.push w ++ r) = own ++ (results r).map (shiftResult (q.length + 1)) ∧
      (endsWithHead q = false ∧ own = results q ∨
        endsWithHead q = true ∧ ∃ before span,
          results q = before ++ [.error (.malformed "Expected value" span)] ∧
          own = before ++ [.error (.malformed "Expected value after operator" span)]) := by
  have hclosed : AllClosed (pieces q) := by
    intro p hp fault hf
    by_contra hu
    have hmem : p.result ∈ results q := List.mem_map_of_mem hp
    simp only [Piece.result, hf, SearchError.ofFault] at hmem
    rcases Fault.message_of_isUnterminated (by simpa using hu) with hm | hm
    · exact (h p.span).1 (hm ▸ hmem)
    · exact (h p.span).2 (hm ▸ hmem)
  obtain ⟨ps, hps, heq⟩ := pieces_append hw hclosed r
  have hmem : ∀ p ∈ ps, p ∈ pieces (q.push w ++ r) := by
    intro p hp
    rw [heq]
    exact List.mem_append_left _ hp
  refine ⟨ps.map Piece.result, ?_, ?_⟩
  · simp only [results, heq, List.map_append, List.map_map, Function.comp_def, Piece.result_shift]
  rcases hps.cases with rfl | ⟨before, span, hq, rfl⟩
  · -- had the query ended with a head, its missing value would be reported in other words
    refine Or.inl ⟨List.any_eq_false.2 fun p hp hhead => ?_, rfl⟩
    have hcontent := content_append hw hclosed r hp (hmem p hp) rfl
    rw [if_pos hhead, ← (readIn_of_mem_pieces hp).content, Token.scan_of_isHeadOnly hhead] at hcontent
    contradiction
  · have hp : (⟨span, .error (.missingValue false)⟩ : Piece) ∈ pieces q := by simp [hq]
    have hp' : (⟨span, .error (.missingValue true)⟩ : Piece) ∈ pieces (q.push w ++ r) :=
      hmem _ (by simp)
    refine Or.inr ⟨List.any_eq_true.2 ⟨_, hp, ?_⟩, before.map Piece.result, span, ?_, ?_⟩
    · by_contra hhead
      have hcontent := content_append hw hclosed r hp hp' rfl
      rw [if_neg hhead] at hcontent
      cases hcontent
    · rw [results, hq, List.map_append]
      rfl
    · rw [List.map_append]
      rfl

end

/-- A malformed operator and a missing value are reported, and the token after them is read. -/
theorem results_append_missing_power :
    let span (start stop : Nat) : Span := ⟨start, stop⟩
    isBlank ' ' = true ∧
      (∀ s, .error (.malformed "Unterminated quoted string" s) ∉ results "a==b power>" ∧
        .error (.malformed "Unterminated regular expression" s) ∉ results "a==b power>") ∧
      results (("a==b power>" : String).push ' ' ++ "elf") =
        [.error (.malformed "Malformed operator" (span 0 4)),
          .error (.malformed "Expected value after operator" (span 5 11)),
          .ok (⟨[], none, none, none, .text "elf"⟩, span 12 15)] := by
  intro span
  have hfirst : results "a==b power>" =
      [.error (.malformed "Malformed operator" (span 0 4)),
        .error (.malformed "Expected value" (span 5 11))] := by decide +kernel
  have hsecond : results "elf" = [.ok (⟨[], none, none, none, .text "elf"⟩, span 0 3)] := by
    decide +kernel
  have hclosed : ∀ s, .error (.malformed "Unterminated quoted string" s) ∉ results "a==b power>" ∧
      .error (.malformed "Unterminated regular expression" s) ∉ results "a==b power>" := by
    intro s
    simp [hfirst]
  obtain ⟨own, happend, hown⟩ := results_append (w := ' ') (by decide) hclosed "elf"
  refine ⟨by decide, hclosed, ?_⟩
  rcases hown with ⟨hends, -⟩ | ⟨-, before, last, hq, rfl⟩
  · have hhead : endsWithHead "a==b power>" = true := by decide +kernel
    rw [hends] at hhead
    contradiction
  · have hsplit : [.error (.malformed "Malformed operator" (span 0 4))] ++
        [.error (.malformed "Expected value" (span 5 11))] =
          before ++ [.error (.malformed "Expected value" last)] := hfirst.symm.trans hq
    obtain ⟨rfl, hlast⟩ := List.append_inj' hsplit rfl
    cases hlast
    rw [happend, hsecond]
    rfl

end CardQuery
