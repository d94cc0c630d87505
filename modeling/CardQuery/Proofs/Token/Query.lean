/-
**Queries and their tokens.**

A query of tokens is white space with the texts of tokens in it, each of which ends at white space or
at the end.  The pieces of a text are all tokens exactly when it is such a query, and they are its
tokens at their places; in any other text the tokens are those pieces which the grammar admits.

Main definitions:

* `QueryText` — **the texts of queries**, with the tokens and their places.

Main results:

* `queryText_iff` — the pieces of a text that are all tokens are those of the grammar;
* `pieces_grammar` — **a query is read as the grammar says**: the tokens among the pieces are those of
  the grammar, all else is a fault, and every list of writable tokens is read back.
-/

import CardQuery.Proofs.Token.Grammar

set_option autoImplicit false

namespace CardQuery

open Unicode (isBlank)
open Token (TokenText Writable atSeparator)

/-- **The texts of queries**: tokens with white space between them and perhaps around them.  The text
begins at a place, and the tokens stand at theirs. -/
inductive QueryText : Nat → List Char → List Piece → Prop
  | blank {place : Nat} {gap : List Char} (hgap : ∀ c ∈ gap, isBlank c = true) :
      QueryText place gap []
  | token {place : Nat} {gap text rest : List Char} {t : Token} {ps : List Piece}
      (hgap : ∀ c ∈ gap, isBlank c = true) (htext : TokenText text t)
      (hrest : atSeparator rest = true)
      (tail : QueryText (place + gap.length + text.length) rest ps) :
      QueryText place (gap ++ (text ++ rest))
        (⟨⟨place + gap.length, place + gap.length + text.length⟩, .ok t⟩ :: ps)

/-! ### Tokens at their places -/

/-- At white space and at the end there is no token. -/
theorem Token.scan_of_atSeparator {s : List Char} (h : atSeparator s = true) :
    scan s = (.error (.missingValue false), s) := by
  cases s with
  | nil => rfl
  | cons w t =>
      have hmark : (w :: t).head? ≠ some '!' := by
        simpa using ne_of_isBlank h (by decide)
      have hhead : scanHead (w :: t) = none := scanHead_append t h []
      have hscan := scan_marks 0 hmark
      rw [List.replicate_zero, List.nil_append, hhead] at hscan
      exact hscan.trans (scanBody_blank t h [] none)

/-- A token begins with a character that is no white space. -/
theorem Token.TokenText.visible {text : List Char} {t : Token} (h : TokenText text t) :
    ∃ c rest, text = c :: rest ∧ isBlank c = false := by
  have hscan := scan_eq_ok_iff.2 ⟨text, (List.append_nil _).symm, rfl, h⟩
  cases text with
  | nil => rw [scan_of_atSeparator rfl] at hscan; simp at hscan
  | cons c rest =>
      refine ⟨c, rest, rfl, ?_⟩
      by_contra hc
      rw [scan_of_atSeparator (by simpa [atSeparator] using hc)] at hscan
      simp at hscan

theorem afterPiece_of_tokenText {text rest : List Char} {t : Token} (h : TokenText text t)
    (hrest : atSeparator rest = true) :
    (Token.scan (text ++ rest)).1 = .ok t ∧ afterPiece (text ++ rest) = rest := by
  have hscan := Token.scan_eq_ok_iff.2 ⟨text, rfl, hrest, h⟩
  exact ⟨by rw [hscan], by rw [afterPiece, hscan, dropPiece_of_atSeparator hrest]⟩

theorem piecesFrom_gap (place : Nat) {gap : List Char} (hgap : ∀ c ∈ gap, isBlank c = true)
    (s : List Char) : piecesFrom place (gap ++ s) = piecesFrom (place + gap.length) s := by
  induction gap generalizing place with
  | nil => rfl
  | cons c gap ih =>
      rw [List.cons_append, piecesFrom_blank _ (hgap c List.mem_cons_self),
        ih _ fun d hd => hgap d (List.mem_cons_of_mem _ hd), List.length_cons]
      congr 1
      omega

theorem piecesFrom_token (place : Nat) {text rest : List Char} {t : Token} (h : TokenText text t)
    (hrest : atSeparator rest = true) :
    piecesFrom place (text ++ rest) =
      ⟨⟨place, place + text.length⟩, .ok t⟩ :: piecesFrom (place + text.length) rest := by
  obtain ⟨hcontent, hafter⟩ := afterPiece_of_tokenText h hrest
  obtain ⟨c, tail, rfl, hc⟩ := h.visible
  have hlen : (c :: (tail ++ rest)).length - rest.length = (c :: tail).length := by
    simp only [List.length_cons, List.length_append]
    omega
  rw [List.cons_append] at hcontent hafter ⊢
  rw [piecesFrom_visible _ hc, hafter, hcontent, hlen]

theorem QueryText.cons {place : Nat} {c : Char} {s : List Char} {ps : List Piece}
    (hc : isBlank c = true) (h : QueryText (place + 1) s ps) : QueryText place (c :: s) ps := by
  cases h with
  | blank hgap => exact QueryText.blank (by simpa [hc] using hgap)
  | @token _ gap text rest t ps hgap htext hrest tail =>
      have hplace : place + 1 + gap.length = place + (c :: gap).length := by
        rw [List.length_cons]
        omega
      rw [hplace] at tail ⊢
      exact QueryText.token (by simpa [hc] using hgap) htext hrest tail

/-- **The pieces of a text are all tokens exactly when the text is a query of tokens**, and then they
are its tokens at their places. -/
theorem queryText_iff {place : Nat} {s : List Char} {ps : List Piece} :
    QueryText place s ps ↔ piecesFrom place s = ps ∧ ∀ p ∈ ps, ∃ t, p.content = .ok t := by
  constructor
  · -- the tokens of a query are read one after the other
    intro h
    induction h with
    | @blank place gap hgap =>
        have hpieces := piecesFrom_gap place hgap []
        rw [List.append_nil, piecesFrom_nil] at hpieces
        exact ⟨hpieces, by simp⟩
    | @token place gap text rest t ps hgap htext hrest tail ih =>
        rw [piecesFrom_gap place hgap, piecesFrom_token _ htext hrest, ih.1]
        exact ⟨rfl, by simpa using ih.2⟩
  · -- the query is put together as its pieces are read, each with no gap of its own
    rintro ⟨hpieces, hok⟩
    subst hpieces
    fun_induction piecesFrom place s with
    | case1 => exact QueryText.blank (by simp)
    | case2 place c rest hc ih => exact QueryText.cons hc (ih hok)
    | case3 place c rest hc after stop ih =>
        obtain ⟨t, ht⟩ := hok _ List.mem_cons_self
        have ht : (Token.scan (c :: rest)).1 = .ok t := ht
        have hscan : Token.scan (c :: rest) = (.ok t, (Token.scan (c :: rest)).2) := by rw [← ht]
        obtain ⟨text, htext, hsep, htoken⟩ := Token.scan_eq_ok_iff.1 hscan
        have hafter : after = (Token.scan (c :: rest)).2 := dropPiece_of_atSeparator hsep
        rw [← hafter] at htext hsep
        have hstop : stop = place + text.length := by
          simp only [stop, htext, List.length_append]
          omega
        have tail := ih fun p hp => hok p (List.mem_cons_of_mem _ hp)
        rw [hstop] at tail
        rw [ht, hstop, htext]
        have hquery : QueryText place ([] ++ (text ++ after)) _ :=
          QueryText.token (by simp) htoken hsep tail
        exact hquery

/-! ### Slices -/

/-- The slice of a token is its text. -/
theorem tokenText_slice {q : List Char} {p : Piece} (h : p.ReadIn q) {t : Token}
    (ht : p.content = .ok t) : TokenText (p.span.slice q) t := by
  have hcontent : (Token.scan (q.drop p.span.start)).1 = .ok t := h.content.trans ht
  have hsep := Token.atSeparator_of_scan_ok hcontent
  have hscan : Token.scan (q.drop p.span.start) = (.ok t, q.drop p.span.stop) := by
    rw [← h.after, afterPiece, dropPiece_of_atSeparator hsep, ← hcontent]
  obtain ⟨text, htext, -, htoken⟩ := Token.scan_eq_ok_iff.1 hscan
  have hlen : p.span.stop - p.span.start = text.length := by
    have := congrArg List.length htext
    have := h.start_lt_stop
    have := h.stop_le
    simp only [List.length_drop, List.length_append] at *
    omega
  rw [Span.slice, hlen, htext, List.take_left]
  exact htoken

/-- Writable tokens with a blank between each two of them. -/
def writtenQuery (ts : List Token) : List Char := [' '].intercalate (ts.map Token.written)

theorem contents_of_writtenQuery {ts : List Token} (h : ∀ t ∈ ts, Writable t) (place : Nat) :
    (piecesFrom place (writtenQuery ts)).map (·.content) = ts.map .ok := by
  induction ts generalizing place with
  | nil => simp [writtenQuery, piecesFrom_nil]
  | cons t ts ih =>
      have htext := Token.tokenText_written (h t List.mem_cons_self)
      cases ts with
      | nil =>
          have hpieces := piecesFrom_token place htext (show atSeparator [] = true from rfl)
          rw [List.append_nil, piecesFrom_nil] at hpieces
          simp [writtenQuery, hpieces]
      | cons u ts =>
          have hwritten : writtenQuery (t :: u :: ts) = t.written ++ ' ' :: writtenQuery (u :: ts) := by
            simp [writtenQuery, List.intercalate_cons_cons]
          rw [hwritten, piecesFrom_token place htext rfl, piecesFrom_blank _ (by decide),
            List.map_cons, ih fun v hv => h v (List.mem_cons_of_mem _ hv)]
          rfl

/-- **The parser accepts exactly its grammar.**  The slice of a token is a text of it, and at the place
of a fault no token of the grammar ends at a separator; a text whose pieces are all tokens is a query of
the grammar, and every such query is read so; the tokens that have a text are the writable ones, and
any list of them is read back. -/
theorem pieces_grammar :
    (∀ query, ∀ p ∈ pieces query,
      (∀ t, p.content = .ok t → TokenText (p.span.slice query.toList) t) ∧
      ∀ fault, p.content = .error fault → ∀ text rest t,
        query.toList.drop p.span.start = text ++ rest → atSeparator rest = true →
          ¬TokenText text t) ∧
    (∀ query ps, QueryText 0 query.toList ps ↔
      pieces query = ps ∧ ∀ p ∈ ps, ∃ t, p.content = .ok t) ∧
    (∀ t, (∃ text, TokenText text t) ↔ Writable t) ∧
    ∀ ts : List Token, (∀ t ∈ ts, Writable t) →
      (pieces (String.ofList (writtenQuery ts))).map (·.content) = ts.map .ok := by
  refine ⟨fun query p hp => ?_, fun query ps => queryText_iff, fun t => Token.exists_tokenText_iff,
    fun ts h => ?_⟩
  · have hread := readIn_of_mem_pieces hp
    refine ⟨fun t ht => tokenText_slice hread ht, fun fault hf text rest t hdrop hrest htext => ?_⟩
    have hscan := (afterPiece_of_tokenText htext hrest).1
    rw [← hdrop, hread.content, hf] at hscan
    contradiction
  · have hcontents := contents_of_writtenQuery h 0
    rwa [pieces, String.toList_ofList]

end CardQuery
