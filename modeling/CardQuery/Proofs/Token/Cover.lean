/-
**The pieces of a query cover it.**

Every character of a query that is no white space belongs to exactly one piece, and the pieces stand
in the order of the text.  Whatever fault a piece has, it ends at the next white space from the place
where its scanner gave up, so that no text is lost and reading always goes on.

Main definitions:

* `Opens` — a place of a text at which a piece may begin;
* `Piece.ReadIn` — the piece is what the scanner makes of the text at its place;
* `weave` — a text from gaps and the slices between them.

Main results:

* `Token.atSeparator_of_scan_ok` — a token ends where scanning it ended;
* `pieces_cover` — **the spans of the pieces and the gaps between them make up the query**.
-/

import CardQuery.Proofs.Token.Boundary

set_option autoImplicit false

namespace CardQuery

open Unicode (isBlank)

/-! ### Where scanning ends -/

namespace Token

theorem atSeparator_dropWhile (s : List Char) : atSeparator (s.dropWhile (!isBlank ·)) = true := by
  induction s with
  | nil => rfl
  | cons c s ih =>
      by_cases hc : isBlank c = true
      · simp [hc, atSeparator]
      · simpa [hc] using ih

theorem atSeparator_of_delimited_ok {wrap : String → Operand} {r : Scanned (List Char)}
    {operand : Operand} (h : (delimited wrap r).1 = .ok operand) :
    atSeparator (delimited wrap r).2 = true := by
  rcases r with ⟨fault | content, rest⟩
  · contradiction
  · by_cases hs : atSeparator rest = true <;> simp_all [delimited]

theorem atSeparator_of_scanOperand_ok {afterOperator : Bool} {s : List Char} {operand : Operand}
    (h : (scanOperand afterOperator s).1 = .ok operand) :
    atSeparator (scanOperand afterOperator s).2 = true := by
  unfold scanOperand at h ⊢
  split at h
  · contradiction
  · exact atSeparator_of_delimited_ok h
  · exact atSeparator_of_delimited_ok h
  · next hquote hslash =>
    split at h
    · contradiction
    · next hc => simp only [hc]; exact atSeparator_dropWhile _

theorem atSeparator_of_scanBody_ok {qualifiers : List Qualifier} {head : Option Head}
    {s : List Char} {token : Token} (h : (scanBody qualifiers head s).1 = .ok token) :
    atSeparator (scanBody qualifiers head s).2 = true := by
  unfold scanBody at h ⊢
  split at h
  · contradiction
  · next hm =>
    simp only [hm]
    cases ho : (scanOperand head.isSome s).1 with
    | error fault => simp [ho, Except.map] at h
    | ok operand => exact atSeparator_of_scanOperand_ok ho

/-- **A token ends where scanning it ended**: nothing of it has to be skipped. -/
theorem atSeparator_of_scan_ok {s : List Char} {token : Token} (h : (scan s).1 = .ok token) :
    atSeparator (scan s).2 = true := by
  unfold scan at h ⊢
  simp only at h ⊢
  cases hh : scanHead (s.dropWhile (· == '!')) with
  | none =>
      simp only [hh] at h ⊢
      exact atSeparator_of_scanBody_ok h
  | some r =>
      simp only [hh] at h ⊢
      exact atSeparator_of_scanBody_ok h

end Token

theorem dropPiece_of_atSeparator {s : List Char} (h : Token.atSeparator s = true) :
    dropPiece s = s := by
  cases s with
  | nil => rfl
  | cons c s => simp_all [dropPiece, Token.atSeparator]

theorem atSeparator_afterPiece (s : List Char) : Token.atSeparator (afterPiece s) = true :=
  Token.atSeparator_dropWhile _

theorem afterPiece_suffix (s : List Char) : afterPiece s <:+ s :=
  (List.dropWhile_suffix _).trans (Token.scan_suffix s)

/-! ### Pieces at their places -/

/-- A piece may begin at the start of the text, or after white space. -/
def Opens (q : List Char) (place : Nat) : Prop :=
  place = 0 ∨ ∃ b, q[place - 1]? = some b ∧ isBlank b = true

/-- A piece may end at white space, or at the end of the text. -/
def Closes (q : List Char) (place : Nat) : Prop :=
  place = q.length ∨ ∃ b, q[place]? = some b ∧ isBlank b = true

/-- The piece is what the scanner makes of the text at its place: it begins with a character that is
no white space, and it takes in what the scanner read and the rest up to the next white space. -/
structure Piece.ReadIn (q : List Char) (p : Piece) : Prop where
  visible : ∃ c rest, q.drop p.span.start = c :: rest ∧ isBlank c = false
  content : (Token.scan (q.drop p.span.start)).1 = p.content
  after : afterPiece (q.drop p.span.start) = q.drop p.span.stop
  start_lt_stop : p.span.start < p.span.stop
  stop_le : p.span.stop ≤ q.length
  opens : Opens q p.span.start

theorem drop_add_one {q : List Char} {place : Nat} {c : Char} {rest : List Char}
    (h : q.drop place = c :: rest) : q.drop (place + 1) = rest := by
  rw [← List.drop_drop, h, List.drop_one, List.tail_cons]

theorem getElem?_of_drop {q : List Char} {place : Nat} {c : Char} {rest : List Char}
    (h : q.drop place = c :: rest) : q[place]? = some c := by
  rw [← List.head?_drop, h, List.head?_cons]

theorem closes_of_atSeparator {q : List Char} {place : Nat} (hle : place ≤ q.length)
    (h : Token.atSeparator (q.drop place) = true) : Closes q place := by
  cases hd : q.drop place with
  | nil => exact Or.inl (Nat.le_antisymm hle (List.drop_eq_nil_iff.1 hd))
  | cons c rest =>
      rw [hd] at h
      exact Or.inr ⟨c, getElem?_of_drop hd, h⟩

/-- The place after a piece and what is left of the text there. -/
theorem drop_stop {q : List Char} {place : Nat} {s : List Char} (hq : q.drop place = s) :
    q.drop (place + (s.length - (afterPiece s).length)) = afterPiece s := by
  rw [← List.drop_drop, hq]
  exact (List.suffix_iff_eq_drop.1 (afterPiece_suffix s)).symm

/-- **Every piece is read in place.**  A text is read from a place at which a piece may begin, or from
white space or the end. -/
theorem readIn_of_mem {q : List Char} (place : Nat) (s : List Char) (hq : q.drop place = s)
    (ho : Opens q place ∨ Token.atSeparator s = true) :
    ∀ p ∈ piecesFrom place s, p.ReadIn q ∧ place ≤ p.span.start := by
  fun_induction piecesFrom place s with
  | case1 => simp
  | case2 place c rest hc ih =>
      intro p hp
      have hopens : Opens q (place + 1) := Or.inr ⟨c, getElem?_of_drop hq, hc⟩
      obtain ⟨hread, hle⟩ := ih (drop_add_one hq) (Or.inl hopens) p hp
      exact ⟨hread, by omega⟩
  | case3 place c rest hc after stop ih =>
      have hvisible : isBlank c = false := by simpa using hc
      have hlt : after.length < (c :: rest).length := length_afterPiece_lt hvisible
      have hlen : (c :: rest).length = q.length - place := by rw [← hq, List.length_drop]
      have hstop : q.drop stop = after := drop_stop hq
      -- the piece that begins here, and then those after it
      intro p hp
      rcases List.mem_cons.1 hp with rfl | hp
      · refine ⟨⟨⟨c, rest, hq, hvisible⟩, by rw [hq], by rw [hq, hstop], ?_, ?_, ?_⟩, Nat.le_refl _⟩
        · simp only [stop]; omega
        · simp only [stop]; omega
        · rcases ho with ho | ho
          · exact ho
          · rw [Token.atSeparator, hvisible] at ho
            contradiction
      · obtain ⟨hread, hle⟩ := ih hstop (Or.inr (atSeparator_afterPiece _)) p hp
        exact ⟨hread, by simp only [stop] at hle; omega⟩

theorem readIn_of_mem_pieces {query : String} {p : Piece} (hp : p ∈ pieces query) :
    p.ReadIn query.toList :=
  (readIn_of_mem 0 query.toList rfl (Or.inl (Or.inl rfl)) p hp).1

/-- After a piece, the next one stands behind white space. -/
theorem stop_lt_start {q : List Char} {place : Nat} {p : Piece} (h : p.ReadIn q)
    (hle : place ≤ p.span.start) (hs : Token.atSeparator (q.drop place) = true) :
    place < p.span.start := by
  rcases Nat.lt_or_eq_of_le hle with hlt | rfl
  · exact hlt
  · obtain ⟨c, rest, hd, hc⟩ := h.visible
    rw [hd, Token.atSeparator, hc] at hs
    contradiction

/-! ### Order, gaps and slices -/

theorem pairwise_piecesFrom {q : List Char} (place : Nat) (s : List Char) (hq : q.drop place = s)
    (ho : Opens q place ∨ Token.atSeparator s = true) :
    (piecesFrom place s).Pairwise fun a b => a.span.stop < b.span.start := by
  fun_induction piecesFrom place s with
  | case1 => exact List.Pairwise.nil
  | case2 place c rest hc ih =>
      exact ih (drop_add_one hq) (Or.inl (Or.inr ⟨c, getElem?_of_drop hq, hc⟩))
  | case3 place c rest hc after stop ih =>
      have hstop : q.drop stop = after := drop_stop hq
      have hsep : Token.atSeparator after = true := atSeparator_afterPiece _
      refine List.pairwise_cons.2 ⟨fun p hp => ?_, ih hstop (Or.inr hsep)⟩
      obtain ⟨hread, hle⟩ := readIn_of_mem stop after hstop (Or.inr hsep) p hp
      exact stop_lt_start hread hle (by rw [hstop]; exact hsep)

/-- The character at a place that no piece covers is white space. -/
theorem isBlank_of_uncovered {q : List Char} (place : Nat) (s : List Char)
    (hq : q.drop place = s) (i : Nat) (hi : place ≤ i) (c : Char) (hc : q[i]? = some c)
    (hout : ∀ p ∈ piecesFrom place s, ¬(p.span.start ≤ i ∧ i < p.span.stop)) :
    isBlank c = true := by
  fun_induction piecesFrom place s with
  | case1 place =>
      have hlen : q.length ≤ place := List.drop_eq_nil_iff.1 hq
      rw [List.getElem?_eq_none (by omega)] at hc
      contradiction
  | case2 place d rest hd ih =>
      rcases Nat.lt_or_eq_of_le hi with hlt | rfl
      · exact ih (drop_add_one hq) hlt hout
      · rw [getElem?_of_drop hq] at hc
        obtain rfl := Option.some.inj hc
        exact hd
  | case3 place d rest hd after stop ih =>
      -- the piece that begins here does not cover the place, which is behind it
      have hstop : stop ≤ i := by
        by_contra hlt
        exact hout _ List.mem_cons_self ⟨hi, Nat.lt_of_not_le hlt⟩
      exact ih (drop_stop hq) hstop fun p hp => hout p (List.mem_cons_of_mem _ hp)

/-- A text of gaps, each with a slice after it, and a last gap. -/
def weave (last : List Char) : List (List Char × List Char) → List Char
  | [] => last
  | (gap, slice) :: rest => gap ++ slice ++ weave last rest

/-- The text is woven of white space and the slices of its pieces. -/
theorem exists_weave {q : List Char} (place : Nat) (s : List Char) (hq : q.drop place = s) :
    ∃ gaps : List (List Char), ∃ last : List Char, gaps.length = (piecesFrom place s).length ∧
      (∀ gap ∈ last :: gaps, ∀ c ∈ gap, isBlank c = true) ∧
      s = weave last (gaps.zip ((piecesFrom place s).map (·.span.slice q))) := by
  fun_induction piecesFrom place s with
  | case1 => exact ⟨[], [], rfl, by simp, rfl⟩
  | case2 place c rest hc ih =>
      obtain ⟨gaps, last, hlen, hgaps, heq⟩ := ih (drop_add_one hq)
      -- the white space joins the gap that comes first
      cases gaps with
      | nil =>
          refine ⟨[], c :: last, hlen, ?_, ?_⟩
          · simpa [hc] using hgaps
          · rw [heq]; rfl
      | cons gap gaps =>
          refine ⟨(c :: gap) :: gaps, last, hlen, ?_, ?_⟩
          · simpa [hc] using hgaps
          · cases hp : piecesFrom (place + 1) rest with
            | nil => simp [hp] at hlen
            | cons p ps =>
                rw [hp] at heq
                rw [heq]
                rfl
  | case3 place c rest hc after stop ih =>
      obtain ⟨gaps, last, hlen, hgaps, heq⟩ := ih (drop_stop hq)
      -- the piece begins here, with nothing before it
      refine ⟨[] :: gaps, last, by simp [hlen], ?_, ?_⟩
      · simpa using hgaps
      · rw [List.map_cons, List.zip_cons_cons, weave, ← heq, List.nil_append]
        obtain ⟨piece, hpiece⟩ := afterPiece_suffix (c :: rest)
        have hlen : stop - place = (c :: rest).length - after.length := by
          simp only [stop]
          omega
        rw [Span.slice, hq, hlen, ← hpiece]
        simp [after]

/-- **The pieces of a query cover it.**  The spans are not empty, lie in the text, follow each other
with a gap between them, begin behind white space and end before it; all characters outside them are
white space, so that the query is woven of white space and slices.  What is at the place of a piece is
what the scanner reads there, and a token ends where the scanner ended. -/
theorem pieces_cover (query : String) :
    (∀ p ∈ pieces query, p.span.start < p.span.stop ∧ p.span.stop ≤ query.toList.length ∧
      (∃ c, query.toList[p.span.start]? = some c ∧ isBlank c = false) ∧
      Opens query.toList p.span.start ∧ Closes query.toList p.span.stop ∧
      (Token.scan (query.toList.drop p.span.start)).1 = p.content ∧
      ∀ token, p.content = .ok token →
        (Token.scan (query.toList.drop p.span.start)).2 = query.toList.drop p.span.stop) ∧
    (pieces query).Pairwise (fun a b => a.span.stop < b.span.start) ∧
    (∀ i c, query.toList[i]? = some c →
      (∀ p ∈ pieces query, ¬(p.span.start ≤ i ∧ i < p.span.stop)) → isBlank c = true) ∧
    ∃ gaps : List (List Char), ∃ last : List Char, gaps.length = (pieces query).length ∧
      (∀ gap ∈ last :: gaps, ∀ c ∈ gap, isBlank c = true) ∧
      query.toList = weave last (gaps.zip ((pieces query).map (·.span.slice query.toList))) := by
  refine ⟨fun p hp => ?_, ?_, fun i c hc hout => ?_, exists_weave 0 query.toList rfl⟩
  · have hread := readIn_of_mem_pieces hp
    obtain ⟨c, rest, hd, hc⟩ := hread.visible
    have hsep : Token.atSeparator (query.toList.drop p.span.stop) = true := by
      rw [← hread.after]
      exact atSeparator_afterPiece _
    refine ⟨hread.start_lt_stop, hread.stop_le, ⟨c, getElem?_of_drop hd, hc⟩, hread.opens,
      closes_of_atSeparator hread.stop_le hsep, hread.content, fun token ht => ?_⟩
    rw [← hread.after, afterPiece, dropPiece_of_atSeparator]
    exact Token.atSeparator_of_scan_ok (hread.content.trans ht)
  · exact pairwise_piecesFrom 0 query.toList rfl (Or.inl (Or.inl rfl))
  · exact isBlank_of_uncovered 0 query.toList rfl i (Nat.zero_le i) c hc hout

end CardQuery
