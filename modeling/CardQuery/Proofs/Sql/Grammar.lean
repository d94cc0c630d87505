/-
**One reading for the text of a condition.**

The text of an expression has no parentheses but those that the expression has itself.  Which operand
belongs to which operator is decided by how tightly operators bind: `OR`, `AND`, `NOT`, equality (with
`REGEXP`, `IN` and `IS NOT NULL`), order and `&`, each tighter than the one before, and operators of the
same strength from the left.  An expression whose operands bind tightly enough is the only such
expression with its words: a reader that goes through the words once and keeps what is still open on a
stack gets it back.

Main definitions:

* `Sql.Lexeme`, `Sql.Expr.lexemes` — the words of an expression;
* `Sql.Expr.level`, `Sql.Expr.Tight` — how tightly an expression binds, and expressions that need no
  further parentheses;
* `Sql.Reading`, `Sql.Reading.step` — the reader.

Main results:

* `Sql.Expr.run_lexemes` — what the reader does with the words of an expression inside another one;
* `Sql.Expr.Tight.lexemes_injective` — **an expression that needs no further parentheses is given by
  its words**.
-/

import CardQuery.Sql.Expression
import Mathlib.Data.List.Basic

set_option autoImplicit false

namespace CardQuery.Sql

/-! ### Words -/

/-- A word that is the same in every expression. -/
inductive Word where
  | element
  | operator (op : BinaryOp)
  | isIn
  | isNotNull
  | not
  | coalesce
  | cases
  | when
  | result
  | otherwise
  | finish
  | comma
  | opening
  | closing
deriving DecidableEq, Repr

/-- Does the word end an operand of what stands around it? -/
def Word.isDelimiter : Word → Bool
  | when => true
  | result => true
  | otherwise => true
  | finish => true
  | comma => true
  | closing => true
  | _ => false

/-- A function of the value at a key. -/
inductive Accessor where
  | extract
  | typeOf
  | lengthOf
deriving DecidableEq, Repr

/-- A word of an expression. -/
inductive Lexeme where
  | word (w : Word)
  | value (f : Accessor) (key : String)
  /-- The beginning of a condition on some element at a key. -/
  | someElement (key : String)
  | number (n : Nat)
  | label (text : String)
  | hole (p : Param)
deriving DecidableEq, Repr

/-- The expression that a function of a key is. -/
def Accessor.expr : Accessor → String → Expr
  | extract => .extract
  | typeOf => .typeOf
  | lengthOf => .lengthOf

namespace Expr

open Lexeme

mutual

/-- The words of an expression. -/
def lexemes : Expr → List Lexeme
  | extract key => [value .extract key]
  | typeOf key => [value .typeOf key]
  | lengthOf key => [value .lengthOf key]
  | element => [word .element]
  | number n => [.number n]
  | label text => [.label text]
  | param p => [hole p]
  | binary op left right => left.lexemes ++ word (.operator op) :: right.lexemes
  | isIn e items => e.lexemes ++ word .isIn :: itemLexemes items ++ [word .closing]
  | isNotNull e => e.lexemes ++ [word .isNotNull]
  | not e => word .not :: e.lexemes
  | coalesce e otherwise =>
    word .coalesce :: e.lexemes ++ word .comma :: otherwise.lexemes ++ [word .closing]
  | .exists key condition => someElement key :: condition.lexemes ++ [word .closing]
  | cases branches otherwise =>
    word .cases :: branchLexemes branches ++ word .otherwise :: otherwise.lexemes ++ [word .finish]
  | paren e => word .opening :: e.lexemes ++ [word .closing]

/-- The words of expressions with commas between them. -/
def itemLexemes : List Expr → List Lexeme
  | [] => []
  | [e] => e.lexemes
  | e :: rest => e.lexemes ++ word .comma :: itemLexemes rest

/-- The words of conditions with their results. -/
def branchLexemes : List (Expr × Expr) → List Lexeme
  | [] => []
  | (condition, result) :: rest =>
    word .when :: condition.lexemes ++ word .result :: result.lexemes ++ branchLexemes rest

end

end Expr

/-! ### How tightly operators bind -/

/-- The strength of an operator. -/
def BinaryOp.level : BinaryOp → Nat
  | or => 1
  | and => 2
  | equal => 4
  | regexp => 4
  | less => 5
  | atMost => 5
  | greater => 5
  | atLeast => 5
  | bitAnd => 6

namespace Expr

/-- The strength of negation. -/
def negationLevel : Nat := 3

/-- The strength of `IN` and `IS NOT NULL`. -/
def testLevel : Nat := 4

/-- The strength of the outermost operator; expressions without one bind tightest. -/
def level : Expr → Nat
  | binary op _ _ => op.level
  | isIn _ _ => testLevel
  | isNotNull _ => testLevel
  | not _ => negationLevel
  | _ => 7

mutual

/-- The operands of every operator bind tightly enough to need no further parentheses: as tightly as
the operator, and on its right more tightly.  Lists of items and of branches are not empty. -/
def Tight : Expr → Prop
  | binary op left right =>
    (op.level ≤ left.level ∧ op.level < right.level) ∧ left.Tight ∧ right.Tight
  | isIn e items => testLevel ≤ e.level ∧ items ≠ [] ∧ e.Tight ∧ ItemsTight items
  | isNotNull e => testLevel ≤ e.level ∧ e.Tight
  | not e => negationLevel ≤ e.level ∧ e.Tight
  | coalesce e otherwise => e.Tight ∧ otherwise.Tight
  | .exists _ condition => condition.Tight
  | cases branches otherwise => branches ≠ [] ∧ BranchesTight branches ∧ otherwise.Tight
  | paren e => e.Tight
  | _ => True

/-- Every expression of a list needs no further parentheses. -/
def ItemsTight : List Expr → Prop
  | [] => True
  | e :: rest => e.Tight ∧ ItemsTight rest

/-- Every condition and every result needs no further parentheses. -/
def BranchesTight : List (Expr × Expr) → Prop
  | [] => True
  | (condition, result) :: rest => condition.Tight ∧ result.Tight ∧ BranchesTight rest

end

end Expr

/-! ### The reader -/

/-- A part of an expression that the reader has begun. -/
inductive Frame where
  /-- The left operand and the operator. -/
  | operand (op : BinaryOp) (left : Expr)
  | negation
  | group
  /-- A membership with the items so far. -/
  | items (e : Expr) (before : List Expr)
  | first
  | second (e : Expr)
  | member (key : String)
  /-- A distinction of cases in front of its first condition. -/
  | branching
  | condition (before : List (Expr × Expr))
  | result (before : List (Expr × Expr)) (condition : Expr)
  | otherwise (branches : List (Expr × Expr))
deriving Repr

/-- What the reader has: the parts that it has begun, innermost first, and the operand that it has read
last, unless it waits for one. -/
structure Reading where
  frames : List Frame
  current : Option Expr

/-- The operand becomes part of those begun expressions that bind as tightly as the given level. -/
def reduce (n : Nat) : List Frame → Expr → List Frame × Expr
  | .operand op left :: fs, e =>
    if n ≤ op.level then reduce n fs (.binary op left e) else (.operand op left :: fs, e)
  | .negation :: fs, e =>
    if n < Expr.negationLevel then reduce n fs (.not e) else (.negation :: fs, e)
  | fs, e => (fs, e)

namespace Reading

/-- A word where an operand is expected. -/
def start (fs : List Frame) : Lexeme → Option Reading
  | .value f key => some ⟨fs, some (f.expr key)⟩
  | .number n => some ⟨fs, some (.number n)⟩
  | .label text => some ⟨fs, some (.label text)⟩
  | .hole p => some ⟨fs, some (.param p)⟩
  | .someElement key => some ⟨.member key :: fs, none⟩
  | .word .element => some ⟨fs, some .element⟩
  | .word .not => some ⟨.negation :: fs, none⟩
  | .word .opening => some ⟨.group :: fs, none⟩
  | .word .coalesce => some ⟨.first :: fs, none⟩
  | .word .cases => some ⟨.branching :: fs, none⟩
  | .word .when =>
    match fs with
    | .branching :: fs => some ⟨.condition [] :: fs, none⟩
    | _ => none
  | _ => none

/-- A word that ends an operand of the innermost part. -/
def delimit (fs : List Frame) (e : Expr) (w : Word) : Option Reading :=
  match fs, w with
  | .group :: fs, .closing => some ⟨fs, some (.paren e)⟩
  | .items a before :: fs, .comma => some ⟨.items a (before ++ [e]) :: fs, none⟩
  | .items a before :: fs, .closing => some ⟨fs, some (.isIn a (before ++ [e]))⟩
  | .first :: fs, .comma => some ⟨.second e :: fs, none⟩
  | .second a :: fs, .closing => some ⟨fs, some (.coalesce a e)⟩
  | .member key :: fs, .closing => some ⟨fs, some (.exists key e)⟩
  | .condition before :: fs, .result => some ⟨.result before e :: fs, none⟩
  | .result before c :: fs, .when => some ⟨.condition (before ++ [(c, e)]) :: fs, none⟩
  | .result before c :: fs, .otherwise => some ⟨.otherwise (before ++ [(c, e)]) :: fs, none⟩
  | .otherwise branches :: fs, .finish => some ⟨fs, some (.cases branches e)⟩
  | _, _ => none

/-- A word behind an operand. -/
def proceed (fs : List Frame) (e : Expr) : Lexeme → Option Reading
  | .word (.operator op) =>
    let r := reduce op.level fs e
    some ⟨.operand op r.2 :: r.1, none⟩
  | .word .isIn =>
    let r := reduce Expr.testLevel fs e
    some ⟨.items r.2 [] :: r.1, none⟩
  | .word .isNotNull =>
    let r := reduce Expr.testLevel fs e
    some ⟨r.1, some (.isNotNull r.2)⟩
  | .word w =>
    let r := reduce 0 fs e
    delimit r.1 r.2 w
  | _ => none

/-- The next word. -/
def step : Reading → Lexeme → Option Reading
  | ⟨fs, none⟩, l => start fs l
  | ⟨fs, some e⟩, l => proceed fs e l

/-- All words. -/
def run (r : Reading) (ls : List Lexeme) : Option Reading := ls.foldlM step r

theorem run_append (r : Reading) (ls ls' : List Lexeme) :
    r.run (ls ++ ls') = (r.run ls).bind fun r => r.run ls' := List.foldlM_append

theorem run_cons (r : Reading) (l : Lexeme) (ls : List Lexeme) :
    r.run (l :: ls) = (r.step l).bind fun r => r.run ls := List.foldlM_cons

theorem proceed_of_isDelimiter {w : Word} (hw : w.isDelimiter = true) (fs : List Frame) (e : Expr) :
    proceed fs e (.word w) = delimit (reduce 0 fs e).1 (reduce 0 fs e).2 w := by
  cases w <;> first | rfl | contradiction

end Reading

/-! ### Reading an expression -/

/-- The innermost part has room for an expression of this strength. -/
def Open (n : Nat) : List Frame → Prop
  | .operand op _ :: _ => op.level < n
  | .negation :: _ => Expr.negationLevel ≤ n
  | _ => True

theorem Open.mono {n m : Nat} {fs : List Frame} (h : Open n fs) (hnm : n ≤ m) : Open m fs := by
  unfold Open at h ⊢
  split <;> simp only at h ⊢ <;> omega

/-- What has room for an expression is left as it is by operators that bind as tightly. -/
theorem Open.reduce_eq {n m : Nat} {fs : List Frame} (h : Open n fs) (hnm : n ≤ m) (e : Expr) :
    reduce m fs e = (fs, e) := by
  have hm := h.mono hnm
  unfold Open at hm
  unfold reduce
  split
  · rw [if_neg (by simpa using hm)]
  · rw [if_neg (by simpa using hm)]
  · rfl

/-- The reader has read an expression behind what it had begun: every operator that does not bind
tighter than the expression finds the whole of it. -/
def Reads (fs : List Frame) (ls : List Lexeme) (e : Expr) : Prop :=
  ∃ fs' x, Reading.run ⟨fs, none⟩ ls = some ⟨fs', some x⟩ ∧
    ∀ n ≤ e.level, n ≠ Expr.negationLevel → reduce n fs' x = reduce n fs e

namespace Reads

variable {fs : List Frame} {ls ls' : List Lexeme} {e e' : Expr}

/-- Words that leave the expression as the operand. -/
theorem of_run (h : Reading.run ⟨fs, none⟩ ls = some ⟨fs, some e⟩) : Reads fs ls e :=
  ⟨fs, e, h, fun _ _ _ => rfl⟩

/-- What follows an expression and binds less tightly than it, but more tightly than what stands
before it, finds the whole of it. -/
theorem run_append {n : Nat} (h : Reads fs ls e) (hopen : Open n fs) (hn : n ≤ e.level)
    (hne : n ≠ Expr.negationLevel) (rest : List Lexeme) :
    ∃ fs' x, reduce n fs' x = (fs, e) ∧
      Reading.run ⟨fs, none⟩ (ls ++ rest) = Reading.run ⟨fs', some x⟩ rest := by
  obtain ⟨fs', x, hrun, hreduce⟩ := h
  refine ⟨fs', x, ?_, ?_⟩
  · rw [hreduce n hn hne, hopen.reduce_eq (Nat.le_refl n)]
  · rw [Reading.run_append, hrun]
    rfl

/-- A delimiter behind an expression ends it. -/
theorem run_delimiter {w : Word} {r : Reading} (h : Reads fs ls e) (hopen : Open 0 fs)
    (hw : w.isDelimiter = true) (hr : Reading.delimit fs e w = some r) (rest : List Lexeme) :
    Reading.run ⟨fs, none⟩ (ls ++ .word w :: rest) = r.run rest := by
  obtain ⟨fs', x, hreduce, hrun⟩ :=
    h.run_append hopen (Nat.zero_le _) (by decide) (.word w :: rest)
  rw [hrun, Reading.run_cons, Reading.step, Reading.proceed_of_isDelimiter hw, hreduce, hr]
  rfl

/-- An expression between a word that begins a part and one that finishes it. -/
theorem enclosed {l : Lexeme} {w : Word} {f : Frame} {outer : Expr} (h : Reads (f :: fs) ls e)
    (hopen : Open 0 (f :: fs)) (hl : Reading.start fs l = some ⟨f :: fs, none⟩)
    (hw : w.isDelimiter = true)
    (hr : Reading.delimit (f :: fs) e w = some ⟨fs, some outer⟩) :
    Reads fs (l :: ls ++ [.word w]) outer := by
  refine of_run ?_
  rw [List.cons_append, Reading.run_cons, Reading.step, hl]
  exact h.run_delimiter hopen hw hr []

theorem binary {op : BinaryOp} (hleft : Reads fs ls e) (hright : Reads (.operand op e :: fs) ls' e')
    (hopen : Open op.level fs) (hlevel : op.level ≤ e.level ∧ op.level < e'.level) :
    Reads fs (ls ++ .word (.operator op) :: ls') (.binary op e e') := by
  have hne : op.level ≠ Expr.negationLevel := by cases op <;> decide
  obtain ⟨fs₁, x₁, hreduce₁, hrun₁⟩ :=
    hleft.run_append hopen hlevel.1 hne (.word (.operator op) :: ls')
  obtain ⟨fs₂, x₂, hrun₂, hreduce₂⟩ := hright
  refine ⟨fs₂, x₂, ?_, ?_⟩
  · rw [hrun₁, Reading.run_cons, Reading.step, Reading.proceed, hreduce₁]
    exact hrun₂
  · intro n hn hne
    have hn : n ≤ op.level := hn
    rw [hreduce₂ n (by omega) hne, reduce, if_pos hn]

theorem not (h : Reads (.negation :: fs) ls e) (hlevel : Expr.negationLevel ≤ e.level) :
    Reads fs (.word .not :: ls) (.not e) := by
  obtain ⟨fs', x, hrun, hreduce⟩ := h
  refine ⟨fs', x, ?_, ?_⟩
  · rw [Reading.run_cons]
    exact hrun
  · intro n hn hne
    have hlt : n < Expr.negationLevel := by
      have hn : n ≤ Expr.negationLevel := hn
      omega
    rw [hreduce n (by omega) hne, reduce, if_pos hlt]

theorem isNotNull (h : Reads fs ls e) (hopen : Open Expr.testLevel fs)
    (hlevel : Expr.testLevel ≤ e.level) : Reads fs (ls ++ [.word .isNotNull]) (.isNotNull e) := by
  obtain ⟨fs', x, hreduce, hrun⟩ := h.run_append hopen hlevel (by decide) [.word .isNotNull]
  refine of_run ?_
  rw [hrun, Reading.run_cons, Reading.step, Reading.proceed, hreduce]
  rfl

/-- What follows an expression before the list of its items. -/
theorem run_isIn (h : Reads fs ls e) (hopen : Open Expr.testLevel fs)
    (hlevel : Expr.testLevel ≤ e.level) (rest : List Lexeme) :
    Reading.run ⟨fs, none⟩ (ls ++ .word .isIn :: rest) =
      Reading.run ⟨.items e [] :: fs, none⟩ rest := by
  obtain ⟨fs', x, hreduce, hrun⟩ := h.run_append hopen hlevel (by decide) (.word .isIn :: rest)
  rw [hrun, Reading.run_cons, Reading.step, Reading.proceed, hreduce]
  rfl

end Reads

namespace Expr

theorem branchLexemes_eq_cons {branches : List (Expr × Expr)} (hne : branches ≠ []) :
    branchLexemes branches = .word .when :: (branchLexemes branches).tail := by
  match branches with
  | [] => contradiction
  | (c, e) :: rest => rfl

mutual

/-- The reader reads an expression that needs no further parentheses wherever there is room for one
of its strength.  The induction is on the expression; the operand on the left of an operator stands in
the same place, the one on its right stands behind the operator. -/
theorem reads_lexemes (fs : List Frame) {e : Expr} (h : e.Tight) (hopen : Open e.level fs) :
    Reads fs e.lexemes e := by
  cases e with
  | binary op left right =>
      obtain ⟨hlevel, hleft, hright⟩ := h
      rw [lexemes]
      exact (reads_lexemes fs hleft (hopen.mono hlevel.1)).binary
        (reads_lexemes (.operand op left :: fs) hright hlevel.2) hopen hlevel
  | isIn e items =>
      obtain ⟨hlevel, hne, he, hitems⟩ := h
      refine Reads.of_run ?_
      rw [lexemes, List.append_assoc, List.cons_append,
        (reads_lexemes fs he (hopen.mono hlevel)).run_isIn hopen hlevel]
      exact run_itemLexemes fs [] hitems hne
  | isNotNull e =>
      obtain ⟨hlevel, he⟩ := h
      rw [lexemes]
      exact (reads_lexemes fs he (hopen.mono hlevel)).isNotNull hopen hlevel
  | not e =>
      obtain ⟨hlevel, he⟩ := h
      rw [lexemes]
      exact (reads_lexemes (.negation :: fs) he hlevel).not hlevel
  | coalesce e otherwise =>
      obtain ⟨he, hotherwise⟩ := h
      refine Reads.of_run ?_
      rw [lexemes, List.append_assoc, List.cons_append, List.cons_append, Reading.run_cons]
      refine ((reads_lexemes (.first :: fs) he trivial).run_delimiter trivial rfl rfl _).trans ?_
      exact (reads_lexemes (.second e :: fs) hotherwise trivial).run_delimiter trivial rfl rfl []
  | «exists» key condition =>
      have hcondition : condition.Tight := h
      rw [lexemes]
      exact (reads_lexemes (.member key :: fs) hcondition trivial).enclosed trivial rfl rfl rfl
  | cases branches otherwise =>
      obtain ⟨hne, hbranches, hotherwise⟩ := h
      refine Reads.of_run ?_
      rw [lexemes, List.append_assoc, List.cons_append, List.cons_append, Reading.run_cons,
        branchLexemes_eq_cons hne, List.cons_append]
      refine (run_branchLexemes fs [] hbranches hne _).trans ?_
      exact (reads_lexemes (.otherwise branches :: fs) hotherwise trivial).run_delimiter trivial rfl
        rfl []
  | paren e =>
      have he : e.Tight := h
      rw [lexemes]
      exact (reads_lexemes (.group :: fs) he trivial).enclosed trivial rfl rfl rfl
  | _ => exact Reads.of_run rfl

/-- The items of a membership, behind those that have been read. -/
theorem run_itemLexemes (fs : List Frame) {a : Expr} (before : List Expr) {items : List Expr}
    (h : ItemsTight items) (hne : items ≠ []) :
    Reading.run ⟨.items a before :: fs, none⟩ (itemLexemes items ++ [.word .closing]) =
      some ⟨fs, some (.isIn a (before ++ items))⟩ := by
  match items with
  | [] => contradiction
  | [e] =>
      rw [itemLexemes]
      exact (reads_lexemes (.items a before :: fs) h.1 trivial).run_delimiter trivial rfl rfl []
  | e :: e' :: rest =>
      rw [itemLexemes, List.append_assoc, List.cons_append]
      · refine ((reads_lexemes (.items a before :: fs) h.1 trivial).run_delimiter trivial rfl rfl
          _).trans ?_
        rw [run_itemLexemes fs (before ++ [e]) h.2 (by simp), List.append_assoc,
          List.singleton_append]
      · simp

/-- The branches of a distinction of cases, behind those that have been read and the word that begins
the first of them. -/
theorem run_branchLexemes (fs : List Frame) (before : List (Expr × Expr))
    {branches : List (Expr × Expr)} (h : BranchesTight branches) (hne : branches ≠ [])
    (rest : List Lexeme) :
    Reading.run ⟨.condition before :: fs, none⟩
        ((branchLexemes branches).tail ++ .word .otherwise :: rest) =
      Reading.run ⟨.otherwise (before ++ branches) :: fs, none⟩ rest := by
  match branches with
  | [] => contradiction
  | (c, e) :: more =>
      obtain ⟨hc, he, hmore⟩ := h
      have hresult := reads_lexemes (.result before c :: fs) he trivial
      rw [branchLexemes, List.cons_append, List.cons_append, List.tail_cons, List.append_assoc,
        List.append_assoc, List.cons_append]
      refine ((reads_lexemes (.condition before :: fs) hc trivial).run_delimiter trivial rfl rfl
        _).trans ?_
      by_cases hlast : more = []
      · rw [hlast, branchLexemes]
        exact hresult.run_delimiter trivial rfl rfl rest
      · rw [branchLexemes_eq_cons hlast, List.cons_append]
        refine (hresult.run_delimiter trivial rfl rfl _).trans ?_
        rw [run_branchLexemes fs (before ++ [(c, e)]) hmore hlast rest, List.append_assoc,
          List.singleton_append]

end

/-- **An expression that needs no further parentheses is given by its words.** -/
theorem Tight.lexemes_injective {e e' : Expr} (h : e.Tight) (h' : e'.Tight)
    (heq : e.lexemes = e'.lexemes) : e = e' := by
  obtain ⟨fs, x, hrun, hreduce⟩ := reads_lexemes [] h trivial
  obtain ⟨fs', x', hrun', hreduce'⟩ := reads_lexemes [] h' trivial
  rw [heq, hrun'] at hrun
  cases hrun
  have hwhole := (hreduce 0 (Nat.zero_le _) (by decide)).symm.trans
    (hreduce' 0 (Nat.zero_le _) (by decide))
  cases hwhole
  rfl

end Expr

end CardQuery.Sql
