import ReplEngine.Proofs.Scan.Pieces

/-!
# Comments before a statement

A session throws away what is left of its lines when all of it is blank lines and
comments.  This file proves what that does to the scan: a text that starts with such
lines is cut like the text behind them, and its first statement carries them in front.

The session decides by the lines of `Text.splitLines`, which end at more characters than
the newline at which the lexer ends a comment.  The two notions agree in the direction
that matters: what the session takes for commentary is, newline by newline, blank or a
comment for the lexer too (`isPreamble_of_all_isNote`).

## Key results

- `isPreamble_of_all_isNote`: commentary by its lines is a preamble for the lexer
- `statementsFrom_preamble`: a preamble is read without finding anything
- `statements_preamble_append`: a preamble goes to the first statement behind it
-/

namespace ReplEngine.Scan

/-! ### Notes -/

/-- Whether a line is blank or holds only a comment. -/
def isNote (line : List Char) : Bool :=
  Text.isBlank line || (Text.trimLeft line).head? == some '#'

/-- A text of lines that are blank or hold only a comment, each with its newline. -/
inductive IsPreamble : List Char → Prop
  | nil : IsPreamble []
  | line {l p : List Char} : '\n' ∉ l → isNote l = true → IsPreamble p →
      IsPreamble (l ++ '\n' :: p)

/-- Two preambles are one. -/
theorem IsPreamble.append {p q : List Char} (hp : IsPreamble p) (hq : IsPreamble q) :
    IsPreamble (p ++ q) := by
  induction hp with
  | nil => exact hq
  | line hl hnote _ ih =>
    rw [List.append_assoc, List.cons_append]
    exact .line hl hnote ih

/-- White space does not change whether a line is a note, and anything else decides it. -/
theorem isNote_cons (c : Char) (line : List Char) :
    isNote (c :: line) = if Text.isSpace c then isNote line else c == '#' := by
  by_cases hc : Text.isSpace c = true
  · simp [isNote, Text.isBlank, Text.trimLeft, hc]
  · simp [isNote, Text.isBlank, Text.trimLeft, hc]

/-- Whatever stands behind a line break, a note stays one if it was one and what is behind
    the break is one too. -/
theorem isNote_append_break {a b : List Char} {c : Char} (hc : Text.isSpace c = true)
    (ha : isNote a = true) (hb : isNote b = true) : isNote (a ++ c :: b) = true := by
  -- on the first note, up to its first mark
  induction a with
  | nil => rw [List.nil_append, isNote_cons, if_pos hc, hb]
  | cons d a ih =>
    rw [List.cons_append]
    rw [isNote_cons] at ha ⊢
    split
    · next hd => exact ih (by simpa [hd] using ha)
    · next hd => simpa [hd] using ha

/-- What ends a line is white space. -/
theorem isSpace_of_isLineBreak {c : Char} (h : Text.isLineBreak c = true) :
    Text.isSpace c = true := by
  simp only [Text.isLineBreak, Text.isSpace, Text.CodeRange.covers, List.any_cons, List.any_nil,
    Bool.or_false, Bool.or_eq_true, Bool.and_eq_true, decide_eq_true_eq] at h ⊢
  omega

/-! ### Lines of a text -/

/-- The first line with its newline gives lines of its own, and if all of these are notes,
    so is the line: a break before the newline separates notes of one comment, or blanks. -/
private theorem splitLinesFrom_line (line : List Char) {l : List Char} (hl : '\n' ∉ l)
    (rest : List Char) :
    ∃ ls, Text.splitLinesFrom line (l ++ '\n' :: rest) = ls ++ Text.splitLines rest ∧
      (ls.all isNote = true → isNote (line.reverse ++ l) = true) := by
  -- on what is left of the line; its beginning is kept reversed
  induction l generalizing line with
  | nil =>
    refine ⟨[line.reverse], ?_, by simp⟩
    rw [List.nil_append, Text.splitLinesFrom.eq_3 _ _ _ (by simp), if_pos (by decide)]
    rfl
  | cons c l ih =>
    rw [List.mem_cons, not_or] at hl
    by_cases hcr : c = '\r' ∧ l = []
    · -- a carriage return right before the newline belongs to the line end
      obtain ⟨rfl, rfl⟩ := hcr
      refine ⟨[line.reverse], rfl, fun h => ?_⟩
      exact isNote_append_break (by decide) (by simpa using h) (by rfl)
    · have hstep : Text.splitLinesFrom line (c :: (l ++ '\n' :: rest)) =
          if Text.isLineBreak c then line.reverse :: Text.splitLinesFrom [] (l ++ '\n' :: rest)
          else Text.splitLinesFrom (c :: line) (l ++ '\n' :: rest) := by
        refine Text.splitLinesFrom.eq_3 _ _ _ fun rest' hc htail => hcr ⟨hc, ?_⟩
        cases l with
        | nil => rfl
        | cons d l => exact absurd (List.mem_cons.mpr (.inl (List.cons.inj htail).1.symm)) hl.2
      rw [List.cons_append, hstep]
      split
      · -- a break within the line starts another line of the text
        next hbreak =>
        obtain ⟨ls, hls, hnote⟩ := ih [] hl.2
        refine ⟨line.reverse :: ls, by rw [hls]; rfl, fun h => ?_⟩
        rw [List.all_cons, Bool.and_eq_true] at h
        exact isNote_append_break (isSpace_of_isLineBreak hbreak) h.1 (hnote h.2)
      · obtain ⟨ls, hls, hnote⟩ := ih (c :: line) hl.2
        exact ⟨ls, hls, fun h => by simpa using hnote h⟩

/-- A text that ends with a newline starts with a line that has no newline in it. -/
private theorem exists_line {t : List Char} (h : t.getLast? = some '\n') :
    ∃ l rest, '\n' ∉ l ∧ t = l ++ '\n' :: rest ∧ (rest = [] ∨ rest.getLast? = some '\n') := by
  induction t with
  | nil => simp at h
  | cons c t ih =>
    -- the line goes up to the first newline
    by_cases hc : c = '\n'
    · subst hc
      refine ⟨[], t, by simp, rfl, ?_⟩
      cases t with
      | nil => exact .inl rfl
      | cons d t => exact .inr (by rwa [List.getLast?_cons_cons] at h)
    · obtain ⟨d, t, rfl⟩ := List.exists_cons_of_ne_nil (l := t) (by rintro rfl; simp_all)
      obtain ⟨l, rest, hl, ht, hrest⟩ := ih (by rwa [List.getLast?_cons_cons] at h)
      exact ⟨c :: l, rest, by simp [hl, Ne.symm hc], by rw [ht, List.cons_append], hrest⟩

/-- A text of whole lines that are all notes, wherever lines are taken to end, is a
    preamble. -/
theorem isPreamble_of_all_isNote {t : List Char} (ht : t = [] ∨ t.getLast? = some '\n')
    (h : (Text.splitLines t).all isNote = true) : IsPreamble t := by
  -- on the length: each line with its newline makes the text shorter
  induction hn : t.length using Nat.strongRecOn generalizing t with
  | ind n ih =>
    rcases ht with rfl | ht
    · exact .nil
    · obtain ⟨l, rest, hl, rfl, hrest⟩ := exists_line ht
      obtain ⟨ls, hls, hnote⟩ := splitLinesFrom_line [] hl rest
      rw [Text.splitLines, hls, List.all_append, Bool.and_eq_true] at h
      have hlength : rest.length < n := by
        rw [← hn, List.length_append, List.length_cons]
        omega
      exact .line hl (hnote h.1) (ih rest.length hlength hrest h.2 rfl)

/-! ### The scanner over a preamble -/

/-- White space other than a newline is passed over in code. -/
theorem Lexer.codeStep_space {s : State} {c : Char} (hspace : Text.isSpace c = true)
    (hc : c ≠ '\n') (rest : List Char) : Lexer.codeStep s c rest = (⟨s, 0⟩, none) := by
  -- no mark of the language is white space
  have hne : ∀ d : Char, Text.isSpace d = false → c ≠ d := by
    rintro d hd rfl
    rw [hspace] at hd
    cases hd
  have hclosing : isClosing c = false := by
    simp [isClosing, hne ')' rfl, hne ']' rfl, hne '\x7d' rfl]
  simp [Lexer.codeStep, Mark.ofChar?, Bracket.ofOpening?, hclosing, hspace, hc, hne '#' rfl,
    hne '\'' rfl, hne '"' rfl, hne '(' rfl, hne '[' rfl, hne '\x7b' rfl, hne '\\' rfl, hne ';' rfl]

/-- The scanner behind a preamble that stands before the first token of a statement. -/
private theorem statementsFrom_newline (mode : Mode) (hmode : mode = .code ∨ mode = .comment)
    (a line rest : List Char) :
    statementsFrom { lexer := ⟨⟨mode, []⟩, 0⟩, statement := a, line } ('\n' :: rest) =
      statementsFrom { statement := '\n' :: a } rest := by
  rcases hmode with rfl | rfl <;> rfl

/-- A comment is read up to its newline without finding anything. -/
private theorem statementsFrom_comment (a line : List Char) {l : List Char} (hl : '\n' ∉ l)
    (rest : List Char) :
    statementsFrom { lexer := ⟨⟨.comment, []⟩, 0⟩, statement := a, line } (l ++ '\n' :: rest) =
      statementsFrom { statement := '\n' :: (l.reverse ++ a) } rest := by
  induction l generalizing a line with
  | nil => exact statementsFrom_newline .comment (.inr rfl) a line rest
  | cons c l ih =>
    rw [List.mem_cons, not_or] at hl
    have hstep : Lexer.step ⟨⟨.comment, []⟩, 0⟩ c (l ++ '\n' :: rest) =
        (⟨⟨.comment, []⟩, 0⟩, none) := by
      simp [Lexer.step, Lexer.commentStep, Ne.symm hl.1]
    rw [List.cons_append, Scanner.statementsFrom_pass hstep, Scanner.pass, ih _ _ hl.2]
    simp

/-- A note is read without finding anything: it only makes the statement longer. -/
private theorem statementsFrom_note (a line : List Char) {l : List Char} (hl : '\n' ∉ l)
    (hnote : isNote l = true) (rest : List Char) :
    statementsFrom { statement := a, line } (l ++ '\n' :: rest) =
      statementsFrom { statement := '\n' :: (l.reverse ++ a) } rest := by
  induction l generalizing a line with
  | nil => exact statementsFrom_newline .code (.inl rfl) a line rest
  | cons c l ih =>
    rw [List.mem_cons, not_or] at hl
    rw [isNote_cons] at hnote
    rw [List.cons_append]
    split at hnote
    · next hspace =>
      -- white space in front is passed over
      have hstep : Lexer.step {} c (l ++ '\n' :: rest) = ({}, none) :=
        Lexer.codeStep_space hspace (Ne.symm hl.1) _
      rw [Scanner.statementsFrom_pass hstep, Scanner.pass, ih _ _ hl.2 hnote]
      simp
    · -- the comment begins; its mark is a token that does not start a statement
      obtain rfl : c = '#' := eq_of_beq hnote
      have hstep : Lexer.step {} '#' (l ++ '\n' :: rest) =
          (⟨⟨.comment, []⟩, 0⟩, some .comment) := rfl
      rw [Scanner.statementsFrom_keep hstep rfl]
      have hcomment := statementsFrom_comment ('#' :: a) ('#' :: line) hl.2 rest
      simpa [Scanner.keep, Scanner.lineAfter, shapeAfter] using hcomment

/-- A preamble is read without finding anything, and the lexer behind it is that of an empty
    text. -/
theorem statementsFrom_preamble {p : List Char} (hp : IsPreamble p) (a t : List Char) :
    statementsFrom { statement := a } (p ++ t) =
      statementsFrom { statement := p.reverse ++ a } t := by
  induction hp generalizing a with
  | nil => rfl
  | line hl hnote _ ih =>
    rw [List.append_assoc, List.cons_append, statementsFrom_note a [] hl hnote, ih]
    simp

/-! ### Statements behind a preamble -/

/-- Statements and a rest with a text before the first of them. -/
def withLead (p : List Char) : List (List Char) × List Char → List (List Char) × List Char
  | ([], rest) => ([], p ++ rest)
  | (statement :: others, rest) => ((p ++ statement) :: others, rest)

/-- White space in front does not change what a text starts with. -/
theorem blank_append {a : List Char} (h : Text.isBlank a = true) (b : List Char) :
    Text.isBlank (a ++ b) = Text.isBlank b ∧ Text.trimLeft (a ++ b) = Text.trimLeft b := by
  rw [Text.isBlank, List.all_eq_true] at h
  refine ⟨?_, List.dropWhile_append_of_pos h⟩
  rw [Text.isBlank, List.all_append, List.all_eq_true.mpr h, Bool.true_and, Text.isBlank]

/-- What stands behind a text that is not blank does not change what it starts with. -/
theorem trimLeft_append {a : List Char} (h : Text.isBlank a = false) (b : List Char) :
    (Text.trimLeft (a ++ b)).head? = (Text.trimLeft a).head? := by
  -- on the white space in front
  induction a with
  | nil => simp [Text.isBlank] at h
  | cons c a ih =>
    by_cases hc : Text.isSpace c = true
    · simpa [Text.trimLeft, hc] using ih (by simpa [Text.isBlank, hc] using h)
    · simp [Text.trimLeft, hc]

/-- What starts with a character has it as its head. -/
private theorem head_of_isPrefixOf {c : Char} {l : List Char} (h : [c].isPrefixOf l = true) :
    l.head? = some c := by
  cases l with
  | nil => cases h
  | cons d l =>
    rw [List.isPrefixOf_cons_cons, Bool.and_eq_true, beq_iff_eq] at h
    rw [List.head?_cons, h.1]

/-- A text whose lines are all decorators or blank is blank, or starts with a decorator. -/
private theorem starts_of_splitLinesFrom {line cs : List Char}
    (h : ((Text.splitLinesFrom line cs).all fun l =>
      Text.isBlank l || ['@'].isPrefixOf (Text.trimLeft l)) = true) :
    Text.isBlank (line.reverse ++ cs) = true ∨
      (Text.trimLeft (line.reverse ++ cs)).head? = some '@' := by
  -- the first line is blank, and then the lines behind it decide, or it starts with the mark
  have hline : ∀ {a b : List Char}, (Text.isBlank a || ['@'].isPrefixOf (Text.trimLeft a)) = true →
      (Text.isBlank b = true ∨ (Text.trimLeft b).head? = some '@') →
      Text.isBlank (a ++ b) = true ∨ (Text.trimLeft (a ++ b)).head? = some '@' := by
    intro a b ha hb
    cases hblank : Text.isBlank a with
    | true => rwa [(blank_append hblank b).1, (blank_append hblank b).2]
    | false =>
      rw [hblank, Bool.false_or] at ha
      exact .inr (by rw [trimLeft_append hblank, head_of_isPrefixOf ha])
  -- on how the lines are cut
  fun_induction Text.splitLinesFrom line cs with
  | case1 line hempty => simp_all [Text.isBlank]
  | case2 line hempty => exact hline (by simpa using h) (.inl rfl)
  | case3 line rest ih =>
    -- a carriage return and a newline, both of which are white space
    rw [List.all_cons, Bool.and_eq_true] at h
    have hbreak : Text.isBlank ['\r', '\n'] = true := by decide
    have hrest := ih h.2
    rw [List.reverse_nil, List.nil_append, ← (blank_append hbreak rest).1,
      ← (blank_append hbreak rest).2] at hrest
    exact hline h.1 hrest
  | case4 line c rest _ hc ih =>
    -- any other line break
    rw [List.all_cons, Bool.and_eq_true] at h
    have hbreak : Text.isBlank [c] = true := by simp [Text.isBlank, isSpace_of_isLineBreak hc]
    have hrest := ih h.2
    rw [List.reverse_nil, List.nil_append, ← (blank_append hbreak rest).1,
      ← (blank_append hbreak rest).2] at hrest
    exact hline h.1 hrest
  | case5 line c rest _ hc ih => simpa using ih h

/-- A text that starts with something else than a decorator is not all decorators, whatever
    preamble stands before it. -/
private theorem onlyDecorators_preamble {p block : List Char} (hp : IsPreamble p)
    (hblank : Text.isBlank block = false) (hfirst : (Text.trimLeft block).head? ≠ some '@') :
    onlyDecorators (p ++ block) = false := by
  induction hp with
  | nil =>
    rw [List.nil_append, ← Bool.not_eq_true]
    intro h
    rcases starts_of_splitLinesFrom h with h | h
    · simp [hblank] at h
    · exact hfirst h
  | @line l p hl _ _ ih =>
    -- the lines behind the preamble are among the lines of all
    obtain ⟨ls, hls, -⟩ := splitLinesFrom_line [] hl (p ++ block)
    rw [onlyDecorators] at ih ⊢
    rw [List.append_assoc, List.cons_append, Text.splitLines, hls, List.all_append, ih,
      Bool.and_false]

/-- The scanner whose statement has a text in front. -/
def Scanner.withLead (s : Scanner) (p : List Char) : Scanner :=
  { s with statement := s.statement ++ p.reverse }

variable {s : Scanner} {lexer : Lexer} {kind : Kind} {c : Char} {rest p : List Char}

@[simp] theorem Scanner.withLead_shape : (s.withLead p).shape = s.shape := rfl

@[simp] theorem Scanner.withLead_line : (s.withLead p).line = s.line := rfl

/-- A preamble before a statement does not change where it ends, unless the statement
    starts with a decorator, whose block is told by its lines. -/
private theorem Scanner.ends_withLead (hp : IsPreamble p) (hcode : s.HasCode)
    (hfirst : (Text.trimLeft (s.statement.reverse ++ c :: rest)).head? ≠ some '@') :
    (s.withLead p).ends lexer kind c rest = s.ends lexer kind c rest := by
  have hstatement : (c :: (s.withLead p).statement).reverse = p ++ (c :: s.statement).reverse := by
    simp [Scanner.withLead]
  simp only [Scanner.ends, hstatement, endsAt, Scanner.withLead_shape, Scanner.withLead_line]
  congr 1
  split
  · rfl
  · rfl
  · -- the only branch that reads the statement
    next hcompound =>
    rw [Scanner.shapeAfter_newline] at hcompound
    have hblank := hcode (by simp [hcompound])
    have hblock := Scanner.HasCode.cons hblank c
    have hhead : (Text.trimLeft (c :: s.statement).reverse).head? ≠ some '@' := by
      rwa [List.reverse_cons, trimLeft_append hblank, ← trimLeft_append hblank (c :: rest)]
    have hp' := onlyDecorators_preamble hp hblock hhead
    have hnil := onlyDecorators_preamble .nil hblock hhead
    rw [List.nil_append] at hnil
    simp only [closesBlock, hp', hnil]
  · rfl

/-- A preamble before a statement goes with it. -/
private theorem statementsFrom_withLead (hp : IsPreamble p) (hcode : s.HasCode) {cs : List Char}
    (hfirst : (Text.trimLeft (s.statement.reverse ++ cs)).head? ≠ some '@') :
    statementsFrom (s.withLead p) cs = withLead p (statementsFrom s cs) := by
  -- on the text, with the scanner at each character
  induction cs generalizing s with
  | nil => simp [statementsFrom, Scanner.withLead, withLead]
  | cons c rest ih =>
    cases hstep : s.lexer.step c rest with
    | mk lexer token? =>
      have hstep' : (s.withLead p).lexer.step c rest = (lexer, token?) := hstep
      cases token? with
      | none =>
        rw [Scanner.statementsFrom_pass hstep, Scanner.statementsFrom_pass hstep']
        exact ih (s := s.pass lexer c) hcode.pass (by simpa [Scanner.pass] using hfirst)
      | some kind =>
        have hends : (s.withLead p).ends lexer kind c rest = s.ends lexer kind c rest :=
          Scanner.ends_withLead hp hcode hfirst
        cases he : s.ends lexer kind c rest with
        | true =>
          -- the statement ends with the preamble in front, and the next one is the same
          rw [Scanner.statementsFrom_cut hstep he,
            Scanner.statementsFrom_cut hstep' (hends.trans he)]
          simp [withLead, Scanner.withLead, Scanner.cut, Scanner.lineAfter]
        | false =>
          rw [Scanner.statementsFrom_keep hstep he,
            Scanner.statementsFrom_keep hstep' (hends.trans he)]
          exact ih (s := s.keep lexer kind c rest) (hcode.keep hstep)
            (by simpa [Scanner.keep] using hfirst)

/-- A text that starts with a preamble is cut like the text behind it, and the preamble goes
    with the first statement. -/
theorem statements_preamble_append (hp : IsPreamble p) {t : List Char}
    (hfirst : (Text.trimLeft t).head? ≠ some '@') :
    statements (p ++ t) = withLead p (statements t) := by
  rw [statements, statementsFrom_preamble hp, List.append_nil]
  exact statementsFrom_withLead (s := {}) hp (fun h => absurd rfl h) hfirst

end ReplEngine.Scan
