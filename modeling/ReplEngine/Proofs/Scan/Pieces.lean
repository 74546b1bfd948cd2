import ReplEngine.Proofs.Scan.Feeding

/-!
# What statements are made of

The statements of a text and its rest are the pieces of the text, in order and with
nothing between them.  A statement holds something that is not white space, because it
ends only once its first token was read.

Behind the end of a statement the scanner cannot be told from a fresh one.  So a scan of what
stands behind some of the statements finds the others, and a scan of the rest finds none.
-/

namespace ReplEngine.Scan

/-- Whether a scanner that has read the first token of a statement has read a character
    that is not white space. -/
def Scanner.HasCode (s : Scanner) : Prop :=
  s.shape ≠ none → Text.isBlank s.statement.reverse = false

namespace Scanner.HasCode

variable {s : Scanner} {lexer : Lexer} {kind : Kind} {c : Char} {rest : List Char}

/-- What is not blank stays so. -/
theorem cons (h : Text.isBlank s.statement.reverse = false) (c : Char) :
    Text.isBlank (c :: s.statement).reverse = false := by
  rw [List.reverse_cons, Text.isBlank, List.all_append, ← Text.isBlank, h, Bool.false_and]

/-- A character without a token gives no shape. -/
theorem pass (h : s.HasCode) : (s.pass lexer c).HasCode :=
  fun hshape => cons (h hshape) c

/-- Behind a token that gives or keeps a shape the statement is not blank. -/
theorem token (h : s.HasCode) (hstep : s.lexer.step c rest = (lexer, some kind))
    (hshape : shapeAfter s.shape kind (c :: rest) ≠ none) :
    Text.isBlank (c :: s.statement).reverse = false := by
  by_cases hs : s.shape = none
  · -- the token that gives the shape is not white space
    have hkind : kind ≠ .newline := by
      rintro rfl
      rw [shapeAfter_newline] at hshape
      exact hshape hs
    rw [List.reverse_cons, Text.isBlank, List.all_append]
    simp [Lexer.step_nonspace hstep hkind]
  · exact cons (h hs) c

/-- A token that gives a shape is not white space. -/
theorem keep (h : s.HasCode) (hstep : s.lexer.step c rest = (lexer, some kind)) :
    (s.keep lexer kind c rest).HasCode :=
  fun hshape => h.token hstep hshape

/-- A statement that has not begun has no shape. -/
theorem cut : (s.cut lexer kind c).HasCode :=
  fun hshape => absurd rfl hshape

/-- A statement ends only when it has a shape. -/
theorem of_ends (h : s.HasCode) (hstep : s.lexer.step c rest = (lexer, some kind))
    (hends : s.ends lexer kind c rest = true) :
    Text.isBlank (c :: s.statement).reverse = false := by
  refine h.token hstep fun hshape => ?_
  rw [Scanner.ends, hshape] at hends
  cases kind <;> simp [endsAt] at hends

end Scanner.HasCode

/-- No statement is blank. -/
theorem isBlank_of_mem_statementsFrom {s : Scanner} (hs : s.HasCode) {cs statement : List Char}
    (h : statement ∈ (statementsFrom s cs).1) : Text.isBlank statement = false := by
  -- on the text, with the three steps of the scanner
  induction cs generalizing s with
  | nil => simp [statementsFrom] at h
  | cons c rest ih =>
    cases hstep : s.lexer.step c rest with
    | mk lexer token? =>
      cases token? with
      | none =>
        rw [Scanner.statementsFrom_pass hstep] at h
        exact ih hs.pass h
      | some kind =>
        cases hends : s.ends lexer kind c rest with
        | false =>
          rw [Scanner.statementsFrom_keep hstep hends] at h
          exact ih (hs.keep hstep) h
        | true =>
          rw [Scanner.statementsFrom_cut hstep hends] at h
          rcases List.mem_cons.mp h with rfl | h
          · exact hs.of_ends hstep hends
          · exact ih Scanner.HasCode.cut h

/-- The statements and the rest are the text, without a gap. -/
theorem flatten_statementsFrom (s : Scanner) (cs : List Char) :
    (statementsFrom s cs).1.flatten ++ (statementsFrom s cs).2 = s.statement.reverse ++ cs := by
  -- on the text; a character is in the statement, or in what is cut off
  induction cs generalizing s with
  | nil => simp [statementsFrom]
  | cons c rest ih =>
    cases hstep : s.lexer.step c rest with
    | mk lexer token? =>
      cases token? with
      | none =>
        rw [Scanner.statementsFrom_pass hstep, ih]
        simp [Scanner.pass]
      | some kind =>
        cases hends : s.ends lexer kind c rest with
        | false =>
          rw [Scanner.statementsFrom_keep hstep hends, ih]
          simp [Scanner.keep]
        | true =>
          rw [Scanner.statementsFrom_cut hstep hends, List.flatten_cons, List.append_assoc, ih]
          simp [Scanner.cut]

/-- No statement of a text is blank. -/
theorem isBlank_of_mem_statements {text statement : List Char}
    (h : statement ∈ (statements text).1) : Text.isBlank statement = false :=
  isBlank_of_mem_statementsFrom (s := {}) (fun hshape => absurd rfl hshape) h

/-- The statements of a text and its rest are the text. -/
theorem flatten_statements (text : List Char) :
    (statements text).1.flatten ++ (statements text).2 = text :=
  flatten_statementsFrom {} text

/-- The rest of a text that ends with a newline ends with one too, if it is not empty. -/
theorem getLast?_rest {text : List Char} (h : text.getLast? = some '\n') :
    (statements text).2 = [] ∨ (statements text).2.getLast? = some '\n' := by
  cases hrest : (statements text).2 with
  | nil => exact .inl rfl
  | cons c rest =>
    rw [← flatten_statements text, hrest, List.getLast?_append] at h
    refine .inr ?_
    cases hlast : (c :: rest).getLast? with
    | none => simp at hlast
    | some d => simpa [hlast] using h

/-! ### Scanning again -/

/-- Behind the first statement that a scanner finds, a fresh one finds the others. -/
theorem statements_behind_first {s : Scanner} {cs x rest : List Char} {found : List (List Char)}
    (h : statementsFrom s cs = (x :: found, rest)) :
    statements (found.flatten ++ rest) = (found, rest) := by
  induction cs generalizing s with
  | nil => simp [statementsFrom] at h
  | cons c cs ih =>
    cases hstep : s.lexer.step c cs with
    | mk lexer token? =>
      cases token? with
      | none =>
        rw [Scanner.statementsFrom_pass hstep] at h
        exact ih h
      | some kind =>
        cases hends : s.ends lexer kind c cs with
        | false =>
          rw [Scanner.statementsFrom_keep hstep hends] at h
          exact ih h
        | true =>
          rw [Scanner.statementsFrom_cut hstep hends,
            Scanner.statementsFrom_cut_eq hstep hends] at h
          -- behind the end of the first the scanner is as good as a fresh one
          have hlater : statements cs = (found, rest) := by
            simp only [Prod.mk.injEq, List.cons.injEq] at h
            exact Prod.ext h.1.2 h.2
          have hflatten := flatten_statements cs
          rw [hlater] at hflatten
          rwa [hflatten]

/-- A scan of what stands behind some of the statements finds the others. -/
theorem statements_suffix {text rest : List Char} {xs ys : List (List Char)}
    (h : statements text = (xs ++ ys, rest)) :
    statements (ys.flatten ++ rest) = (ys, rest) := by
  -- on the statements that are left out
  induction xs generalizing text with
  | nil =>
    have hflatten := flatten_statements text
    rw [h] at hflatten
    rwa [← hflatten] at h
  | cons x xs ih => exact ih (statements_behind_first h)

/-- The rest holds no statement. -/
theorem statements_rest (text : List Char) :
    statements (statements text).2 = ([], (statements text).2) := by
  have hscan : statements text = ((statements text).1 ++ [], (statements text).2) := by
    rw [List.append_nil]
  exact statements_suffix hscan

end ReplEngine.Scan
