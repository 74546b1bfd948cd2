import Mathlib.Data.List.TakeWhile
import ReplEngine.Proofs.Scan.Boundary
import ReplEngine.Proofs.Scan.Commentary
import ReplEngine.Proofs.Scan.Nesting

/-!
# Decorators and what they decorate

A decorator is a logical line: it goes up to the first newline outside brackets, and comments may
stand below it.  The scanner keeps decorators with the definition behind them, but it knows them by
the lines of `Text.splitLines`, which end at line breaks in brackets too.  This file proves what
follows from that: decorators and comments that are a statement of their own stand before no
definition if every line break is that of a decorator or a blank line, and otherwise the next
definition cuts them off.

## Key results

- `Scanner.cuts_iff`: how the first statement of a scan is read
- `Scanner.Cuts.closesBlock`: decorators end only where the next line closes their block
- `Scanner.Cuts.of_closesBlock`: and they end before every line that does
- `statementsOf_decorators`: when decorators stay with what they decorate
-/

namespace ReplEngine.Scan

variable {s : Scanner} {l next lexer : Lexer} {token? : Option Kind} {kind : Kind} {c : Char}
  {a t u x line rest : List Char}

/-! ### Logical lines -/

/-- The text of a logical line, reversed, behind a character.  A newline token outside brackets
    starts the next one. -/
def lineBehind (line : List Char) (c : Char) (next : Lexer) (token? : Option Kind) : List Char :=
  if token? = some .newline ∧ next.state.depth = 0 then [] else c :: line

/-- The logical lines of a text, from a lexer on, with the first of them started. -/
def logicalLinesFrom (l : Lexer) (line : List Char) : List Char → List (List Char)
  | [] => if line.isEmpty then [] else [line.reverse]
  | c :: rest =>
    if (l.step c rest).2 = some .newline ∧ (l.step c rest).1.state.depth = 0 then
      line.reverse :: logicalLinesFrom (l.step c rest).1 [] rest
    else logicalLinesFrom (l.step c rest).1 (c :: line) rest

/-- The logical lines of a text: what stands between newline tokens outside brackets. -/
def logicalLines (text : List Char) : List (List Char) :=
  logicalLinesFrom {} [] text

/-- Whether a logical line is blank, a comment or a decorator. -/
def isDecoration (line : List Char) : Bool :=
  isNote line || ['@'].isPrefixOf (Text.trimLeft line)

/-- Whether a text starts with a line that can be decorated, or that is a decorator itself. -/
def startsDecorated (text : List Char) : Bool :=
  startsWithWord decoratedWords text || ['@'].isPrefixOf text

/-- The logical lines behind a character are among those before it, at the end. -/
theorem logicalLinesFrom_suffix (hstep : l.step c rest = (next, token?)) (line : List Char) :
    logicalLinesFrom next (lineBehind line c next token?) rest <:+
      logicalLinesFrom l line (c :: rest) := by
  rw [logicalLinesFrom, hstep, lineBehind]
  split
  · exact List.suffix_cons _ _
  · exact List.suffix_rfl

/-- A logical line goes on from where it has been started. -/
theorem exists_mem_logicalLinesFrom (l : Lexer) (hline : line ≠ []) (text : List Char) :
    ∃ first ∈ logicalLinesFrom l line text, line.reverse <+: first := by
  -- on the text; the line grows until a newline token
  induction text generalizing l line with
  | nil =>
    refine ⟨line.reverse, ?_, List.prefix_rfl⟩
    simp [logicalLinesFrom, hline]
  | cons c rest ih =>
    rw [logicalLinesFrom]
    split
    · exact ⟨line.reverse, List.mem_cons_self, List.prefix_rfl⟩
    · obtain ⟨first, hmem, hprefix⟩ := ih (l.step c rest).1 (List.cons_ne_nil c line)
      rw [List.reverse_cons] at hprefix
      exact ⟨first, hmem, (List.prefix_append _ _).trans hprefix⟩

/-- What is not blank starts a comment or a decorator. -/
theorem eq_of_isDecoration {blanks further : List Char} (hblanks : Text.isBlank blanks = true)
    (hc : Text.isSpace c = false) (h : isDecoration (blanks ++ c :: further) = true) :
    c = '#' ∨ c = '@' := by
  -- behind the blanks stands the character
  have htrim : Text.trimLeft (blanks ++ c :: further) = c :: further := by
    rw [Text.trimLeft, List.dropWhile_append_of_pos (by simpa [Text.isBlank] using hblanks),
      List.dropWhile_cons_of_neg (by simp [hc])]
  have hblank : Text.isBlank (blanks ++ c :: further) = false := by
    simp [Text.isBlank, hc]
  rw [isDecoration, isNote, htrim, hblank, Bool.false_or, Bool.or_eq_true] at h
  rcases h with hcomment | hat
  · exact .inl (by simpa using hcomment)
  · exact .inr (Eq.symm (by simpa using hat))

/-- If all logical lines are decorations, the first character of the next one that is not blank
    starts a comment or a decorator. -/
theorem starts_of_isDecoration
    (h : ∀ first ∈ logicalLinesFrom l line (c :: rest), isDecoration first = true)
    (hblank : Text.isBlank line.reverse = true) (hc : Text.isSpace c = false) :
    c = '#' ∨ c = '@' := by
  -- what is not blank does not end the line
  have hnewline : ¬((l.step c rest).2 = some .newline ∧ (l.step c rest).1.state.depth = 0) := by
    rintro ⟨htoken, -⟩
    obtain rfl : c = '\n' := (Lexer.step_newline_iff (Prod.ext rfl htoken)).mp rfl
    exact absurd hc (by decide)
  rw [logicalLinesFrom, if_neg hnewline] at h
  obtain ⟨first, hmem, further, rfl⟩ :=
    exists_mem_logicalLinesFrom (l.step c rest).1 (List.cons_ne_nil c line) rest
  have hfirst : isDecoration (line.reverse ++ c :: further) = true := by
    simpa using h _ hmem
  exact eq_of_isDecoration hblank hc hfirst

/-! ### The first statement -/

/-- With the text `t` behind it, the scanner ends its statement behind `a`, and not before. -/
inductive Scanner.Cuts (t : List Char) : Scanner → List Char → Prop
  | pass {s : Scanner} {lexer : Lexer} {c : Char} {a : List Char}
    (step : s.lexer.step c (a ++ t) = (lexer, none)) (later : Cuts t (s.pass lexer c) a) :
    Cuts t s (c :: a)
  | keep {s : Scanner} {lexer : Lexer} {kind : Kind} {c : Char} {a : List Char}
    (step : s.lexer.step c (a ++ t) = (lexer, some kind))
    (ends : s.ends lexer kind c (a ++ t) = false)
    (later : Cuts t (s.keep lexer kind c (a ++ t)) a) : Cuts t s (c :: a)
  | cut {s : Scanner} {lexer : Lexer} {kind : Kind} {c : Char}
    (step : s.lexer.step c t = (lexer, some kind)) (ends : s.ends lexer kind c t = true) :
    Cuts t s [c]

namespace Scanner

/-- What is read up to the end of a statement is the first statement. -/
theorem Cuts.head?_statementsFrom (h : Cuts t s a) :
    (statementsFrom s (a ++ t)).1.head? = some (s.statement.reverse ++ a) := by
  -- on how the statement is read
  induction h with
  | pass step _ ih =>
    rw [List.cons_append, statementsFrom_pass step, ih]
    simp [Scanner.pass]
  | keep step ends _ ih =>
    rw [List.cons_append, statementsFrom_keep step ends, ih]
    simp [Scanner.keep]
  | cut step ends =>
    rw [List.singleton_append, statementsFrom_cut step ends]
    simp

/-- Every first statement is read so, with the others and the rest behind it. -/
theorem exists_cuts {cs : List Char} {found : List (List Char)}
    (h : statementsFrom s cs = (x :: found, rest)) :
    ∃ a, x = s.statement.reverse ++ a ∧ cs = a ++ (found.flatten ++ rest) ∧
      Cuts (found.flatten ++ rest) s a := by
  -- on the text, with the three steps of the scanner
  induction cs generalizing s with
  | nil => simp [statementsFrom] at h
  | cons c cs ih =>
    cases hstep : s.lexer.step c cs with
    | mk lexer token? =>
      cases token? with
      | none =>
        rw [statementsFrom_pass hstep] at h
        obtain ⟨a, rfl, rfl, hcuts⟩ := ih h
        exact ⟨c :: a, by simp [Scanner.pass], rfl, .pass hstep hcuts⟩
      | some kind =>
        cases hends : s.ends lexer kind c cs with
        | false =>
          rw [statementsFrom_keep hstep hends] at h
          obtain ⟨a, rfl, rfl, hcuts⟩ := ih h
          exact ⟨c :: a, by simp [Scanner.keep], rfl, .keep hstep hends hcuts⟩
        | true =>
          -- the end: what follows is read by a fresh scanner, and nothing of it is lost
          have hflatten : (statementsFrom (s.cut lexer kind c) cs).1.flatten ++
              (statementsFrom (s.cut lexer kind c) cs).2 = cs :=
            flatten_statementsFrom (s.cut lexer kind c) cs
          rw [statementsFrom_cut hstep hends] at h
          simp only [Prod.mk.injEq, List.cons.injEq] at h
          obtain ⟨⟨rfl, rfl⟩, rfl⟩ := h
          rw [hflatten]
          exact ⟨[c], by simp, rfl, .cut hstep hends⟩

/-- The first statement of a scan is read up to where the scanner ends it. -/
theorem cuts_iff :
    Cuts t s a ↔ (statementsFrom s (a ++ t)).1.head? = some (s.statement.reverse ++ a) := by
  refine ⟨Cuts.head?_statementsFrom, fun h => ?_⟩
  obtain ⟨found, hfound⟩ := List.head?_eq_some_iff.mp h
  obtain ⟨b, hstatement, htext, hcuts⟩ :=
    exists_cuts (Prod.ext hfound rfl : statementsFrom s (a ++ t) = (_, _))
  obtain rfl := List.append_cancel_left hstatement
  rwa [← List.append_cancel_left htext] at hcuts

/-- No lookahead goes beyond the end of a statement. -/
theorem Cuts.exists_stop (h : Cuts t s a) : ∃ d ∈ a, stopsLookahead d = true := by
  induction h with
  | pass _ _ ih =>
    obtain ⟨d, hd, hstop⟩ := ih
    exact ⟨d, List.mem_cons_of_mem _ hd, hstop⟩
  | keep _ _ _ ih =>
    obtain ⟨d, hd, hstop⟩ := ih
    exact ⟨d, List.mem_cons_of_mem _ hd, hstop⟩
  | @cut s lexer kind c step ends =>
    -- only a newline or a semicolon ends a statement
    have hkind : kind = .newline ∨ kind = .semicolon := by
      revert ends
      cases kind <;> simp [Scanner.ends, endsAt]
    refine ⟨c, List.mem_cons_self, ?_⟩
    rcases Lexer.step_char step hkind with rfl | rfl <;> decide

/-- A text that a scanner cuts off is read alone as it is before what stands behind it. -/
theorem Cuts.step_alone (h : Cuts t s a) (l : Lexer) (c : Char) :
    l.step c (a ++ t) = l.step c a := by
  obtain ⟨d, hd, hstop⟩ := h.exists_stop
  exact l.step_append_of_mem hstop (List.mem_cons_of_mem c hd) t

/-- A statement is not empty. -/
theorem Cuts.ne_nil (h : Cuts t s a) : a ≠ [] := by
  cases h <;> exact List.cons_ne_nil _ _

/-- Whether a statement ends is decided by the line behind it, if that has an end. -/
theorem ends_append_of_mem (h : '\n' ∈ rest) (b : List Char) :
    s.ends lexer kind c (rest ++ b) = s.ends lexer kind c rest := by
  have hmem : '\n' ∈ c :: rest := List.mem_cons_of_mem c h
  cases hends : s.ends lexer kind c rest with
  | false => exact not_ends_append hmem h hends b
  | true => exact ends_append hmem (.inr h) hends b

/-- A statement that ends at a newline before one text ends there before every text that closes
    its block. -/
theorem ends_of_closesBlock (hends : s.ends lexer .newline c t = true)
    (hcloses : closesBlock (c :: s.statement).reverse u = true) :
    s.ends lexer .newline c u = true := by
  unfold ends endsAt at hends ⊢
  rw [shapeAfter_newline, Bool.and_eq_true] at hends ⊢
  refine ⟨hends.1, ?_⟩
  cases hshape : s.shape with
  | none => simp [hshape] at hends
  | some shape =>
    cases shape with
    | simple => rfl
    | compound => exact Bool.or_eq_true_iff.mpr (.inr hcloses)

/-- A statement that ends with a newline ends there before every text that closes its block: what
    is decided before its last character is decided by its own lines. -/
theorem Cuts.of_closesBlock (h : Cuts t s a) (ha : a.getLast? = some '\n')
    (hcloses : closesBlock (s.statement.reverse ++ a) u = true) : Cuts u s a := by
  -- up to the last character a newline is ahead, and what is behind it is not looked at
  induction h with
  | @pass s lexer c a step later ih =>
    rw [List.getLast?_cons_of_ne_nil later.ne_nil] at ha
    have hmem : '\n' ∈ c :: a := List.mem_cons_of_mem c (List.mem_of_getLast? ha)
    have hstep : s.lexer.step c (a ++ u) = (lexer, none) := by
      rw [← step, Lexer.step_append _ hmem, Lexer.step_append _ hmem]
    exact .pass hstep (ih ha (by simpa [Scanner.pass] using hcloses))
  | @keep s lexer kind c a step ends later ih =>
    rw [List.getLast?_cons_of_ne_nil later.ne_nil] at ha
    have htail : '\n' ∈ a := List.mem_of_getLast? ha
    have hmem : '\n' ∈ c :: a := List.mem_cons_of_mem c htail
    have hstep : s.lexer.step c (a ++ u) = (lexer, some kind) := by
      rw [← step, Lexer.step_append _ hmem, Lexer.step_append _ hmem]
    have hends : s.ends lexer kind c (a ++ u) = false := by
      rw [← ends, ends_append_of_mem htail, ends_append_of_mem htail]
    have hlater := ih ha (by simpa [Scanner.keep] using hcloses)
    rw [keep_append s lexer kind hmem t, ← keep_append s lexer kind hmem u] at hlater
    exact .keep hstep hends hlater
  | @cut s lexer kind c step ends =>
    -- the last character is that newline, and there the block is closed
    obtain rfl : c = '\n' := by simpa using ha
    have hstep : s.lexer.step '\n' u = (lexer, some kind) := by
      have hmem : '\n' ∈ ['\n'] := List.mem_singleton_self _
      rw [← step, ← List.nil_append t, ← List.nil_append u, Lexer.step_append _ hmem,
        Lexer.step_append _ hmem]
    obtain rfl : kind = .newline := (Lexer.step_newline_iff step).mpr rfl
    exact .cut hstep (ends_of_closesBlock ends (by simpa using hcloses))

end Scanner

/-! ### Before the first decorator -/

/-- Whether the lexer stands before the code of a logical line, in blanks or in a comment. -/
def Lexer.BeforeCode (l : Lexer) (line : List Char) : Prop :=
  (l = {} ∧ Text.isBlank line.reverse = true) ∨ l = ⟨⟨.comment, []⟩, 0⟩

/-- The first code is a decorator, if nothing but comments and decorators follows blanks. -/
theorem Lexer.BeforeCode.step (h : l.BeforeCode line)
    (hc : Text.isBlank line.reverse = true → Text.isSpace c = false → c = '#' ∨ c = '@')
    (hstep : l.step c rest = (next, token?)) :
    (c = '@' ∧ token? = some .code) ∨
      ((∀ kind ∈ token?, kind.isCode = false) ∧
        next.BeforeCode (lineBehind line c next token?)) := by
  rcases h with ⟨rfl, hblank⟩ | rfl
  · have hcode : Lexer.codeStep {} c rest = (next, token?) := hstep
    -- among blanks: a newline, white space, or the first mark of the line
    by_cases hnewline : c = '\n'
    · subst hnewline
      obtain ⟨rfl, rfl⟩ : {} = next ∧ some .newline = token? := Prod.mk.inj hcode
      exact .inr ⟨by simp [Kind.isCode], .inl ⟨rfl, rfl⟩⟩
    · cases hspace : Text.isSpace c with
      | true =>
        rw [Lexer.codeStep_space hspace hnewline] at hcode
        obtain ⟨rfl, rfl⟩ : {} = next ∧ none = token? := Prod.mk.inj hcode
        refine .inr ⟨by simp, .inl ⟨rfl, ?_⟩⟩
        rw [lineBehind, if_neg (by simp), Scanner.isBlank_reverse_cons, hspace, hblank]
        rfl
      | false =>
        rcases hc hblank hspace with rfl | rfl
        · obtain ⟨rfl, rfl⟩ : ⟨⟨.comment, []⟩, 0⟩ = next ∧ some .comment = token? :=
            Prod.mk.inj hcode
          exact .inr ⟨by simp [Kind.isCode], .inr rfl⟩
        · exact .inl ⟨rfl, (Prod.mk.inj hcode).2.symm⟩
  · -- a comment goes up to the newline, whatever is in it
    have hcomment : Lexer.commentStep ⟨.comment, []⟩ c = (next, token?) := hstep
    rw [Lexer.commentStep] at hcomment
    split at hcomment
    · obtain ⟨rfl, rfl⟩ : {} = next ∧ some .newline = token? := Prod.mk.inj hcomment
      exact .inr ⟨by simp [Kind.isCode], .inl ⟨rfl, rfl⟩⟩
    · obtain ⟨rfl, rfl⟩ : ⟨⟨.comment, []⟩, 0⟩ = next ∧ none = token? := Prod.mk.inj hcomment
      exact .inr ⟨by simp, .inr rfl⟩

/-! ### Reading decorators -/

/-- What the scanner knows among decorators, where the logical line so far is `line`: a line of its
    own that is blank is so as a logical line, and what has code is a statement with a block. -/
structure Scanner.Decorates (s : Scanner) (line : List Char) : Prop where
  blank : s.lexer.state.depth = 0 → Text.isBlank s.line.reverse = true →
    Text.isBlank line.reverse = true
  shape : s.shape = some .compound ∨ (s.shape = none ∧ s.lexer.BeforeCode line)

namespace Scanner

/-- A fresh scanner has seen nothing but decorators. -/
theorem Decorates.initial : Decorates {} [] where
  blank _ _ := rfl
  shape := .inr ⟨rfl, .inl ⟨rfl, rfl⟩⟩

theorem Decorates.pass (h : s.Decorates line)
    (hc : Text.isBlank line.reverse = true → Text.isSpace c = false → c = '#' ∨ c = '@')
    (hstep : s.lexer.step c rest = (lexer, none)) :
    (s.pass lexer c).Decorates (lineBehind line c lexer none) where
  blank hdepth hblank := by
    -- without a token no bracket is opened or closed
    have hsame := Lexer.depth_of_step hstep (by simp) (by simp)
    rw [Scanner.pass, isBlank_reverse_cons, Bool.and_eq_true] at hblank
    have hline := h.blank (hsame.symm.trans hdepth) hblank.2
    rw [lineBehind, if_neg (by simp), isBlank_reverse_cons, hblank.1, hline]
    rfl
  shape := by
    refine h.shape.imp id (And.imp_right fun hbefore => ?_)
    rcases hbefore.step hc hstep with ⟨-, hnone⟩ | ⟨-, hnext⟩
    · cases hnone
    · exact hnext

theorem Decorates.keep (h : s.Decorates line)
    (hc : Text.isBlank line.reverse = true → Text.isSpace c = false → c = '#' ∨ c = '@')
    (hstep : s.lexer.step c rest = (lexer, some kind)) :
    (s.keep lexer kind c rest).Decorates (lineBehind line c lexer (some kind)) where
  blank hdepth hblank := by
    by_cases hkind : kind = .newline
    · rw [lineBehind, if_pos ⟨congrArg some hkind, hdepth⟩]
      rfl
    · -- a token other than a newline is not blank
      rw [Scanner.keep, lineAfter, if_neg hkind, isBlank_reverse_cons,
        Lexer.step_nonspace hstep hkind] at hblank
      cases hblank
  shape := by
    -- the first code of the statement is the mark of a decorator
    rcases h.shape with hshape | ⟨hshape, hbefore⟩
    · exact .inl (by rw [Scanner.keep, hshape]; rfl)
    · rw [Scanner.keep, hshape, shapeAfter_none]
      rcases hbefore.step hc hstep with ⟨rfl, hcode⟩ | ⟨hnone, hnext⟩
      · obtain rfl : kind = .code := Option.some.inj hcode
        exact .inl rfl
      · exact .inr ⟨by rw [hnone kind rfl]; rfl, hnext⟩

/-- Among decorators a statement ends only behind a newline, at the end of a blank line or before a
    line that closes its block. -/
theorem Decorates.ends (h : s.Decorates line)
    (hc : Text.isBlank line.reverse = true → Text.isSpace c = false → c = '#' ∨ c = '@')
    (hstep : s.lexer.step c rest = (lexer, some kind)) (hends : s.ends lexer kind c rest = true) :
    kind = .newline ∧ lexer.state.depth = 0 ∧
      (Text.isBlank s.line.reverse = true ∨
        ReplEngine.Scan.closesBlock (c :: s.statement).reverse rest = true) := by
  -- there is no simple statement among decorators
  have hshape : shapeAfter s.shape kind (c :: rest) = some .compound ∨
      shapeAfter s.shape kind (c :: rest) = none :=
    (h.keep hc hstep).shape.imp_right And.left
  unfold Scanner.ends endsAt at hends
  rw [Bool.and_eq_true, beq_iff_eq] at hends
  obtain ⟨hdepth, hmatch⟩ := hends
  rcases hshape with hshape | hshape
  · rw [hshape] at hmatch
    cases kind with
    | newline => exact ⟨rfl, hdepth, Bool.or_eq_true_iff.mp hmatch⟩
    | _ => cases hmatch
  · rw [hshape] at hmatch
    cases kind <;> cases hmatch

/-- What holds of the logical lines from a character on holds of those behind it. -/
private theorem logicalLines_behind (hstep : l.step c rest = (next, token?))
    (hlines : ∀ first ∈ logicalLinesFrom l line (c :: rest), isDecoration first = true)
    (hlast : ∀ last ∈ (logicalLinesFrom l line (c :: rest)).getLast?,
      Text.isBlank last = false) :
    (∀ first ∈ logicalLinesFrom next (lineBehind line c next token?) rest,
      isDecoration first = true) ∧
    ∀ last ∈ (logicalLinesFrom next (lineBehind line c next token?) rest).getLast?,
      Text.isBlank last = false := by
  have hsuffix := logicalLinesFrom_suffix hstep line
  refine ⟨fun first hfirst => hlines first (hsuffix.mem hfirst), fun last hmem => hlast last ?_⟩
  obtain ⟨before, hbefore⟩ := hsuffix
  rw [← hbefore, List.getLast?_append, Option.mem_def.mp hmem]
  rfl

/-- Decorators and comments whose last line is not blank end only behind a newline, where the next
    line closes their block. -/
theorem Cuts.closesBlock (h : Cuts t s a) (hs : s.Decorates line)
    (hlines : ∀ first ∈ logicalLinesFrom s.lexer line a, isDecoration first = true)
    (hlast : ∀ last ∈ (logicalLinesFrom s.lexer line a).getLast?, Text.isBlank last = false) :
    a.getLast? = some '\n' ∧
      ReplEngine.Scan.closesBlock (s.statement.reverse ++ a) t = true := by
  -- on how the statement is read; its text is read alone as it is before `t`
  induction h generalizing line with
  | @pass s lexer c a step later ih =>
    have hstep : s.lexer.step c a = (lexer, none) := by rw [← step, later.step_alone]
    obtain ⟨hlines', hlast'⟩ := logicalLines_behind hstep hlines hlast
    obtain ⟨hnewline, hcloses⟩ :=
      ih (hs.pass (starts_of_isDecoration hlines) hstep) hlines' hlast'
    rw [List.getLast?_cons_of_ne_nil later.ne_nil]
    exact ⟨hnewline, by simpa [Scanner.pass] using hcloses⟩
  | @keep s lexer kind c a step _ later ih =>
    have hstep : s.lexer.step c a = (lexer, some kind) := by rw [← step, later.step_alone]
    obtain ⟨hlines', hlast'⟩ := logicalLines_behind hstep hlines hlast
    obtain ⟨hnewline, hcloses⟩ :=
      ih (hs.keep (starts_of_isDecoration hlines) step) hlines' hlast'
    rw [List.getLast?_cons_of_ne_nil later.ne_nil]
    exact ⟨hnewline, by simpa [Scanner.keep] using hcloses⟩
  | @cut s lexer kind c step ends =>
    obtain ⟨rfl, hdepth, hclosed⟩ := hs.ends (starts_of_isDecoration hlines) step ends
    obtain rfl : c = '\n' := (Lexer.step_newline_iff step).mp rfl
    refine ⟨rfl, ?_⟩
    rcases hclosed with hblank | hcloses
    · -- a blank line would be the last logical line
      have hstep : s.lexer.step '\n' [] = (lexer, some .newline) := by
        rw [← step, ← List.nil_append t, Lexer.step_append _ (List.mem_singleton_self _)]
      have hsame := Lexer.depth_of_step step (by simp) (by simp)
      have hline : Text.isBlank line.reverse = true := hs.blank (hsame.symm.trans hdepth) hblank
      have hends : (logicalLinesFrom s.lexer line ['\n']).getLast? = some line.reverse := by
        rw [logicalLinesFrom, hstep, if_pos ⟨rfl, hdepth⟩]
        rfl
      rw [hlast _ hends] at hline
      cases hline
    · simpa using hcloses

end Scanner

/-! ### What stands behind decorators -/

/-- The first line goes on at every other character. -/
theorem firstLine_cons (hc : c ≠ '\n') (text : List Char) :
    firstLine (c :: text) = c :: firstLine text :=
  List.takeWhile_cons_of_pos (by simpa using hc)

/-- The word at the start of a text stands in its first line. -/
theorem leadingWord_firstLine (text : List Char) :
    leadingWord (firstLine text) = leadingWord text := by
  cases text with
  | nil => rfl
  | cons c text =>
    by_cases hc : c = '\n'
    · subst hc
      rfl
    · -- a newline is no character of a word
      have hword : (firstLine text).takeWhile Text.isWordChar = text.takeWhile Text.isWordChar := by
        rw [firstLine, List.takeWhile_takeWhile]
        congr 1
        funext d
        by_cases hd : d = '\n'
        · subst hd
          decide
        · simp [hd]
      rw [firstLine_cons hc, leadingWord, leadingWord, hword]

/-- A definition or a decorator closes the block of what stands before it only if that is not
    made of decorators alone. -/
theorem onlyDecorators_of_closesBlock {block : List Char} (h : closesBlock block t = true)
    (ht : startsDecorated t = true) : onlyDecorators block = false := by
  rw [startsDecorated, startsWithWord, ← leadingWord_firstLine, ← startsWithWord] at ht
  unfold closesBlock at h
  rw [Bool.and_eq_true] at h
  obtain ⟨-, hmatch⟩ := h
  split at hmatch
  · cases hmatch
  · next c line hfirst =>
    -- the first line shows whether the text starts with the mark
    have hat : ['@'].isPrefixOf t = (c == '@') := by
      cases t with
      | nil => cases hfirst
      | cons d t =>
        have hd : d ≠ '\n' := by
          rintro rfl
          cases hfirst
        rw [firstLine_cons hd] at hfirst
        rw [(List.cons.inj hfirst).1, List.isPrefixOf_cons_cons, BEq.comm, List.isPrefixOf_nil_left,
          Bool.and_true]
    rw [hfirst, hat] at ht
    rw [if_pos ht] at hmatch
    split at hmatch
    · cases hmatch
    · split at hmatch
      · cases hmatch
      · simpa using hmatch

/-- A statement of a buffer is read from a fresh scanner on, with what stands behind it in sight. -/
theorem cuts_of_statementsOf {buffer x rest : String} {xs ys : List String}
    (h : statementsOf buffer = (xs ++ x :: ys, rest)) :
    Scanner.Cuts (String.join ys ++ rest).toList {} x.toList := by
  have hscan := statementsOf_eq_iff.mp h
  rw [List.map_append, List.map_cons] at hscan
  obtain ⟨a, hstatement, -, hcuts⟩ := Scanner.exists_cuts (statements_suffix hscan)
  rw [List.reverse_nil, List.nil_append] at hstatement
  rwa [hstatement, String.toList_append, String.toList_join, List.flatMap_def]

/-- A text is the first statement of a buffer if it is read up to its end. -/
theorem head?_statementsOf_iff {x t : String} :
    (statementsOf (x ++ t)).1.head? = some x ↔ Scanner.Cuts t.toList {} x.toList := by
  rw [Scanner.cuts_iff, statementsOf_eq, List.head?_map, String.toList_append,
    Option.map_eq_some_iff]
  constructor
  · rintro ⟨first, hfirst, rfl⟩
    rw [String.toList_ofList] at hfirst ⊢
    exact hfirst
  · intro hfirst
    exact ⟨x.toList, hfirst, String.ofList_toList⟩

/-- A statement of decorators and comments, whose last line is not blank, stands before no
    definition and no other decorator, if each of its lines is a decorator or blank wherever a line
    break ends it.  There is no weaker condition: behind any other such statement a definition can
    stand. -/
theorem statementsOf_decorators (buffer : String) (xs ys : List String) (x rest : String)
    (h : statementsOf buffer = (xs ++ x :: ys, rest))
    (hlines : ∀ line ∈ logicalLines x.toList, isDecoration line = true)
    (hlast : ∀ line ∈ (logicalLines x.toList).getLast?, Text.isBlank line = false) :
    (onlyDecorators x.toList = true →
      startsDecorated (String.join ys ++ rest).toList = false) ∧
    ((∀ t : String, (statementsOf (x ++ t)).1.head? = some x → startsDecorated t.toList = false) ↔
      onlyDecorators x.toList = true) := by
  have hcuts := cuts_of_statementsOf h
  -- before whatever the statement stands, its block is closed there
  have hcloses : ∀ t, Scanner.Cuts t {} x.toList →
      x.toList.getLast? = some '\n' ∧ closesBlock x.toList t = true :=
    fun t ht => ht.closesBlock .initial hlines hlast
  have hkept : ∀ t, Scanner.Cuts t {} x.toList → onlyDecorators x.toList = true →
      startsDecorated t = false := by
    intro t ht honly
    cases hstarts : startsDecorated t with
    | false => rfl
    | true =>
      rw [onlyDecorators_of_closesBlock (hcloses t ht).2 hstarts] at honly
      cases honly
  refine ⟨hkept _ hcuts, fun hall => ?_,
    fun honly t ht => hkept _ (head?_statementsOf_iff.mp ht) honly⟩
  cases honly : onlyDecorators x.toList with
  | true => rfl
  | false =>
    -- a definition closes a block that is not all decorators
    have hdef : closesBlock x.toList "def f():\n".toList = true := by
      show (!onlyDecorators x.toList) = true
      rw [honly]
      rfl
    have hbefore := hcuts.of_closesBlock (hcloses _ hcuts).1 hdef
    exact absurd (hall "def f():\n" (head?_statementsOf_iff.mpr hbefore)) (by decide)

/-- Two decorators, of which one is indented, with no definition behind them. -/
theorem statementsOf_decorators_stacked :
    statementsOf "y\n@a(1)\n  @b\nx = 1\n@c\n" =
      (["y\n"] ++ "@a(1)\n  @b\n" :: ["x = 1\n"], "@c\n") ∧
    onlyDecorators "@a(1)\n  @b\n".toList = true ∧
    startsDecorated (String.join ["x = 1\n"] ++ "@c\n").toList = false ∧
    ∀ t : String, (statementsOf ("@a(1)\n  @b\n" ++ t)).1.head? = some "@a(1)\n  @b\n" →
      startsDecorated t.toList = false := by
  have hscan : statementsOf "y\n@a(1)\n  @b\nx = 1\n@c\n" =
      (["y\n"] ++ "@a(1)\n  @b\n" :: ["x = 1\n"], "@c\n") := by decide
  have honly : onlyDecorators "@a(1)\n  @b\n".toList = true := by decide
  obtain ⟨hbehind, hiff⟩ := statementsOf_decorators _ _ _ _ _ hscan (by decide) (by decide)
  exact ⟨hscan, honly, hbehind honly, hiff.mpr honly⟩

/-- A decorator with a line break in its brackets is cut off from what it decorates, and so is one
    with a comment below it. -/
theorem statementsOf_parts_decorators :
    (statementsOf "@d(\n  1)\ndef f():\n  2\n\n" =
        (["@d(\n  1)\n", "def f():\n  2\n\n"], "") ∧
      logicalLines "@d(\n  1)\n".toList = ["@d(\n  1)".toList] ∧
      isDecoration "@d(\n  1)".toList = true ∧
      Text.isBlank "@d(\n  1)".toList = false) ∧
    (statementsOf "@d\n# c\ndef f():\n  2\n\n" =
        (["@d\n# c\n", "def f():\n  2\n\n"], "") ∧
      logicalLines "@d\n# c\n".toList = ["@d".toList, "# c".toList] ∧
      isDecoration "@d".toList = true ∧ isDecoration "# c".toList = true ∧
      Text.isBlank "# c".toList = false) ∧
    startsDecorated "def f():\n  2\n\n".toList = true := by
  decide

end ReplEngine.Scan
