import ReplEngine.Proofs.Scan.Lookahead

/-!
# Steps of the scanner

`statementsFrom` reads one character at a time.  A character that is no token only
makes the current statement longer; behind a token the statement goes on or ends.
This file names the scanner behind each of the three steps and says what a scan
becomes, so that later proofs do not open the definition.

It also proves that the text since the last newline token, which a scanner carries
over from the statement before, cannot be seen any more once a statement has ended.
-/

namespace ReplEngine.Scan

namespace Scanner

/-- The scanner behind a character that is no token. -/
def pass (s : Scanner) (lexer : Lexer) (c : Char) : Scanner :=
  { s with lexer, statement := c :: s.statement, line := c :: s.line }

/-- The text since the last newline token, behind a token at `c`. -/
def lineAfter (s : Scanner) (kind : Kind) (c : Char) : List Char :=
  if kind = .newline then [] else c :: s.line

/-- The scanner behind a token that does not end the statement. -/
def keep (s : Scanner) (lexer : Lexer) (kind : Kind) (c : Char) (rest : List Char) : Scanner :=
  { lexer, shape := shapeAfter s.shape kind (c :: rest), statement := c :: s.statement,
    line := s.lineAfter kind c }

/-- The scanner behind a token that ends the statement. -/
def cut (s : Scanner) (lexer : Lexer) (kind : Kind) (c : Char) : Scanner :=
  { lexer, line := s.lineAfter kind c }

/-- Whether the statement ends behind a token at `c`. -/
def ends (s : Scanner) (lexer : Lexer) (kind : Kind) (c : Char) (rest : List Char) : Bool :=
  endsAt (shapeAfter s.shape kind (c :: rest)) lexer.state.depth kind s.line.reverse
    (c :: s.statement).reverse rest

variable {s : Scanner} {lexer : Lexer} {kind : Kind} {c : Char} {rest : List Char}

theorem statementsFrom_pass (h : s.lexer.step c rest = (lexer, none)) :
    statementsFrom s (c :: rest) = statementsFrom (s.pass lexer c) rest := by
  simp only [statementsFrom, h, pass]

/-- A token that does not end the statement. -/
theorem statementsFrom_keep (h : s.lexer.step c rest = (lexer, some kind))
    (hends : s.ends lexer kind c rest = false) :
    statementsFrom s (c :: rest) = statementsFrom (s.keep lexer kind c rest) rest := by
  simp only [ends] at hends
  simp only [statementsFrom, h, hends, keep, lineAfter]
  rfl

/-- A token that ends the statement. -/
theorem statementsFrom_cut (h : s.lexer.step c rest = (lexer, some kind))
    (hends : s.ends lexer kind c rest = true) :
    statementsFrom s (c :: rest) =
      ((c :: s.statement).reverse :: (statementsFrom (s.cut lexer kind c) rest).1,
        (statementsFrom (s.cut lexer kind c) rest).2) := by
  simp only [ends] at hends
  simp only [statementsFrom, h, hends, cut, lineAfter]
  rfl

/-- A statement ends only behind a newline or a semicolon outside brackets, where the
    lexer is that of an empty text. -/
theorem lexer_of_ends (h : s.lexer.step c rest = (lexer, some kind))
    (hends : s.ends lexer kind c rest = true) : lexer = {} := by
  simp only [ends, endsAt, Bool.and_eq_true, beq_iff_eq] at hends
  refine Lexer.step_boundary h ?_ hends.1
  revert hends
  -- behind the other kinds of tokens no statement ends
  cases kind <;> simp

/-! ### The line before the first token does not matter -/

/-- Two scanners that differ at most in the text since the last newline token, and from
    the first token of the statement on only in a way that `endsAt` cannot see. -/
structure Agree (s t : Scanner) : Prop where
  lexer : s.lexer = t.lexer
  shape : s.shape = t.shape
  statement : s.statement = t.statement
  line : s.shape ≠ none → Text.isBlank s.line.reverse = Text.isBlank t.line.reverse

theorem isBlank_reverse_cons (c : Char) (cs : List Char) :
    Text.isBlank (c :: cs).reverse = (Text.isSpace c && Text.isBlank cs.reverse) := by
  simp [Text.isBlank, Bool.and_comm]

theorem shapeAfter_newline (shape : Option Shape) (text : List Char) :
    shapeAfter shape .newline text = shape := by
  cases shape <;> rfl

variable {t : Scanner}

/-- A character that is no token goes to both lines. -/
theorem Agree.pass (h : s.Agree t) : (s.pass lexer c).Agree (t.pass lexer c) where
  lexer := rfl
  shape := h.shape
  statement := by simp only [Scanner.pass, h.statement]
  line hs := by simp only [Scanner.pass, isBlank_reverse_cons, h.line hs]

/-- Behind a token the lines are both empty, or both hold its character, which is not
    white space. -/
theorem Agree.keep (h : s.Agree t) (hstep : s.lexer.step c rest = (lexer, some kind)) :
    (s.keep lexer kind c rest).Agree (t.keep lexer kind c rest) where
  lexer := rfl
  shape := by simp only [Scanner.keep, h.shape]
  statement := by simp only [Scanner.keep, h.statement]
  line _ := by
    simp only [Scanner.keep, lineAfter]
    by_cases hk : kind = .newline
    · rw [if_pos hk, if_pos hk]
    · rw [if_neg hk, if_neg hk, isBlank_reverse_cons, isBlank_reverse_cons,
        Lexer.step_nonspace hstep hk, Bool.false_and, Bool.false_and]

/-- `endsAt` sees the line only through its blankness, and only in a compound statement. -/
theorem Agree.ends (h : s.Agree t) :
    s.ends lexer kind c rest = t.ends lexer kind c rest := by
  simp only [Scanner.ends, endsAt, h.shape, h.statement]
  congr 1
  split
  · rfl
  · rfl
  · -- the only branch that reads the line; a newline has not set the shape
    next hshape =>
    rw [shapeAfter_newline] at hshape
    rw [h.line (by simp [h.shape, hshape])]
  · rfl

/-- Behind the end of a statement neither has a shape. -/
theorem Agree.cut : (s.cut lexer kind c).Agree (t.cut lexer kind c) :=
  ⟨rfl, rfl, rfl, fun hs => absurd rfl hs⟩

/-- Scanners that agree find the same statements. -/
theorem Agree.statementsFrom_eq (h : s.Agree t) (cs : List Char) :
    statementsFrom s cs = statementsFrom t cs := by
  -- on the text
  induction cs generalizing s t with
  | nil => simp only [statementsFrom, h.statement]
  | cons c rest ih =>
    cases hs : s.lexer.step c rest with
    | mk lexer token? =>
      -- both scanners take the same step, and the step keeps that they agree
      have ht : t.lexer.step c rest = (lexer, token?) := by rw [← h.lexer, hs]
      cases token? with
      | none => rw [statementsFrom_pass hs, statementsFrom_pass ht, ih h.pass]
      | some kind =>
        cases he : s.ends lexer kind c rest with
        | false =>
          rw [statementsFrom_keep hs he, statementsFrom_keep ht (by rw [← h.ends, he]),
            ih (h.keep hs)]
        | true =>
          rw [statementsFrom_cut hs he, statementsFrom_cut ht (by rw [← h.ends, he]),
            ih Agree.cut, h.statement]

/-- Behind the end of a statement the scanner finds what a fresh one finds. -/
theorem statementsFrom_cut_eq (h : s.lexer.step c rest = (lexer, some kind))
    (hends : s.ends lexer kind c rest = true) (cs : List Char) :
    statementsFrom (s.cut lexer kind c) cs = statements cs := by
  have hlexer := lexer_of_ends h hends
  subst hlexer
  exact Agree.statementsFrom_eq (s := s.cut {} kind c) (t := {})
    ⟨rfl, rfl, rfl, fun hs => absurd rfl hs⟩ cs

end Scanner

end ReplEngine.Scan
