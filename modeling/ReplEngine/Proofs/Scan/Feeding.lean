import ReplEngine.Proofs.Scan.Scanner

/-!
# Feeding a text in pieces

A session scans what was typed so far, keeps the rest and scans it again with the
next lines behind it.  This file proves that the cuts do not matter: as long as they
fall behind newlines, the statements found are those of the whole text.

The fresh scanner that reads the rest again arrives where the scanner before it
stood (`Scanner.Resumes`).  This holds at the start of every statement, because
there the lexer is that of an empty text, and every step that does not end the
statement keeps it.  Every decision that was taken is stable under appended text.
The only one that was left open, whether the last line closes its block, is taken
again with the line after it in sight.

## Key results

- `statementsFrom_append`: the statements of appended text are those of the rest
- `statementsOf_append_and_feed`: the same for strings, and for any number of pieces
-/

namespace ReplEngine.Scan

/-! ### Taking up a statement again -/

/-- A fresh scanner that reads the current statement again, with `cs` behind it, finds
    what this scanner finds in `cs`. -/
def Scanner.Resumes (s : Scanner) (cs : List Char) : Prop :=
  statements (s.statement.reverse ++ cs) = statementsFrom s cs

variable {s : Scanner} {lexer : Lexer} {kind : Kind} {c : Char} {rest : List Char}

/-- A character without a token goes to the statement, which can be read again with it. -/
theorem Scanner.Resumes.pass (h : s.Resumes (c :: rest))
    (hstep : s.lexer.step c rest = (lexer, none)) : (s.pass lexer c).Resumes rest := by
  rw [Resumes, ← statementsFrom_pass hstep, ← h, Scanner.pass]
  simp

theorem Scanner.Resumes.keep (h : s.Resumes (c :: rest))
    (hstep : s.lexer.step c rest = (lexer, some kind))
    (hends : s.ends lexer kind c rest = false) : (s.keep lexer kind c rest).Resumes rest := by
  rw [Resumes, ← statementsFrom_keep hstep hends, ← h, Scanner.keep]
  simp

/-- Behind the end of a statement there is nothing to be read again. -/
theorem Scanner.Resumes.cut (hstep : s.lexer.step c rest = (lexer, some kind))
    (hends : s.ends lexer kind c rest = true) (cs : List Char) :
    (s.cut lexer kind c).Resumes cs := by
  rw [Resumes, statementsFrom_cut_eq hstep hends, Scanner.cut]
  rfl

/-! ### Decisions are stable -/

/-- A shape that was decided in a text with a newline stays when text is appended. -/
private theorem shapeAfter_append (shape : Option Shape) (kind : Kind) {t : List Char}
    (h : '\n' ∈ t) (b : List Char) : shapeAfter shape kind (t ++ b) = shapeAfter shape kind t := by
  simp only [shapeAfter]
  split
  · rfl
  · rfl
  · rfl
  · rw [shapeOf_append h]

/-- What is kept of a token does not depend on text behind the next newline. -/
theorem Scanner.keep_append (s : Scanner) (lexer : Lexer) (kind : Kind) (h : '\n' ∈ c :: rest)
    (b : List Char) : s.keep lexer kind c (rest ++ b) = s.keep lexer kind c rest := by
  rw [Scanner.keep, Scanner.keep, ← List.cons_append, shapeAfter_append _ _ h]

/-- A statement that has ended stays so when text is appended: what ends it at the very
    end of the text is not the line after it. -/
theorem Scanner.ends_append (h : '\n' ∈ c :: rest) (hrest : rest = [] ∨ '\n' ∈ rest)
    (hends : s.ends lexer kind c rest = true) (b : List Char) :
    s.ends lexer kind c (rest ++ b) = true := by
  rw [Scanner.ends, ← List.cons_append, shapeAfter_append _ _ h]
  rw [Scanner.ends] at hends
  rcases hrest with rfl | hrest
  · -- no line follows, so that it cannot have closed a block
    simp only [endsAt, Bool.and_eq_true] at hends ⊢
    refine ⟨hends.1, ?_⟩
    revert hends
    split <;> simp_all [closesBlock]
  · simpa only [endsAt, closesBlock_append _ hrest] using hends

/-- A statement that has not ended before the last character of a text does not end there
    when text is appended either. -/
theorem Scanner.not_ends_append (h : '\n' ∈ c :: rest) (hrest : '\n' ∈ rest)
    (hends : s.ends lexer kind c rest = false) (b : List Char) :
    s.ends lexer kind c (rest ++ b) = false := by
  rw [Scanner.ends, ← List.cons_append, shapeAfter_append _ _ h]
  rw [Scanner.ends] at hends
  simpa only [endsAt, closesBlock_append _ hrest] using hends

/-! ### The scan of appended text -/

/-- What ends with a newline has one in sight at every character. -/
private theorem tail_of_getLast? {a : List Char} (h : (c :: a).getLast? = some '\n') :
    '\n' ∈ c :: a ∧ (a = [] ∨ a.getLast? = some '\n') := by
  refine ⟨List.mem_of_getLast? h, ?_⟩
  cases a with
  | nil => exact .inl rfl
  | cons d a => exact .inr (by rwa [List.getLast?_cons_cons] at h)

/-- The statements of `a ++ b`, where `a` is empty or ends with a newline, are those of
    `a` and those of `b` behind the rest of `a`. -/
theorem statementsFrom_append {a : List Char} (b : List Char)
    (ha : a = [] ∨ a.getLast? = some '\n') (hs : s.Resumes (a ++ b)) :
    statementsFrom s (a ++ b) =
      ((statementsFrom s a).1 ++ (statements ((statementsFrom s a).2 ++ b)).1,
        (statements ((statementsFrom s a).2 ++ b)).2) := by
  -- induction on `a`; the scanner is generalized, and `Resumes` is what a step keeps
  induction a generalizing s with
  | nil =>
    rw [Scanner.Resumes, List.nil_append] at hs
    simp only [statementsFrom, List.nil_append, hs]
  | cons c a ih =>
    obtain ⟨hmem, htail⟩ := tail_of_getLast? (ha.resolve_left (by simp))
    have htail' : a = [] ∨ '\n' ∈ a := htail.imp_right List.mem_of_getLast?
    cases hstep : s.lexer.step c a with
    | mk lexer token? =>
      have hstep' : s.lexer.step c (a ++ b) = (lexer, token?) := by
        rw [Lexer.step_append _ hmem, hstep]
      rw [List.cons_append] at hs ⊢
      cases token? with
      | none =>
        rw [Scanner.statementsFrom_pass hstep', Scanner.statementsFrom_pass hstep]
        exact ih htail (hs.pass hstep')
      | some kind =>
        cases hends : s.ends lexer kind c a with
        | true =>
          -- the statement ends in the longer text too, and the next one starts afresh
          have hends' := Scanner.ends_append hmem htail' hends b
          rw [Scanner.statementsFrom_cut hstep' hends', Scanner.statementsFrom_cut hstep hends,
            ih htail (Scanner.Resumes.cut hstep' hends' _)]
          simp
        | false =>
          rcases htail' with rfl | hmem'
          · -- at the end of `a` nothing was decided: the whole rest is read again
            rw [Scanner.Resumes] at hs
            rw [Scanner.statementsFrom_keep hstep hends, ← hs]
            simp [statementsFrom, Scanner.keep]
          · -- a newline is still to come, which decides as it did before
            have hends' := Scanner.not_ends_append hmem hmem' hends b
            rw [Scanner.statementsFrom_keep hstep' hends', Scanner.statementsFrom_keep hstep hends,
              Scanner.keep_append _ _ _ hmem]
            refine ih htail ?_
            rw [← Scanner.keep_append s lexer kind hmem b]
            exact hs.keep hstep' hends'

/-- The same for a scan from the start. -/
theorem statements_append {a : List Char} (b : List Char) (ha : a.getLast? = some '\n') :
    statements (a ++ b) =
      ((statements a).1 ++ (statements ((statements a).2 ++ b)).1,
        (statements ((statements a).2 ++ b)).2) :=
  statementsFrom_append b (.inr ha) rfl

/-! ### Strings -/

theorem statementsOf_eq (buffer : String) :
    statementsOf buffer = ((statements buffer.toList).1.map String.ofList,
      String.ofList (statements buffer.toList).2) := rfl

/-- The statements of a string are those of its characters. -/
theorem statementsOf_eq_iff {buffer rest : String} {found : List String} :
    statementsOf buffer = (found, rest) ↔
      statements buffer.toList = (found.map String.toList, rest.toList) := by
  rw [statementsOf_eq]
  constructor
  · intro h
    rw [Prod.mk.injEq] at h
    rw [← h.1, ← h.2, String.toList_ofList]
    simp [Function.comp_def]
  · intro h
    rw [h, String.ofList_toList]
    simp [Function.comp_def]

/-- The last character of a text that ends with a newline. -/
theorem getLast?_of_endsWith {a : String} (h : Text.endsWith "\n" a = true) :
    a.toList.getLast? = some '\n' := by
  rw [Text.endsWith, List.isSuffixOf_iff_suffix] at h
  obtain ⟨t, ht⟩ := h
  rw [← ht]
  simp

/-- The statements of appended text, as strings. -/
theorem statementsOf_append {a : String} (b : String) (ha : Text.endsWith "\n" a = true) :
    statementsOf (a ++ b) =
      ((statementsOf a).1 ++ (statementsOf ((statementsOf a).2 ++ b)).1,
        (statementsOf ((statementsOf a).2 ++ b)).2) := by
  simp only [statementsOf_eq, String.toList_append, String.toList_ofList,
    statements_append b.toList (getLast?_of_endsWith ha), List.map_append]

/-- What feeding comes to: all statements in order, and the last rest. -/
def fed (results : List (List String × String)) : List String × String :=
  (results.flatMap (·.1), (results.map (·.2)).getLastD "")

/-- What one more chunk comes to. -/
private theorem fed_cons_cons (r r' : List String × String)
    (results : List (List String × String)) :
    fed (r :: r' :: results) = (r.1 ++ (fed (r' :: results)).1, (fed (r' :: results)).2) := by
  simp [fed, List.getLastD_eq_getLast?]

/-- What ends with a newline does so behind any other text. -/
theorem endsWith_append {a b : String} (h : Text.endsWith "\n" b = true) :
    Text.endsWith "\n" (a ++ b) = true := by
  rw [Text.endsWith, List.isSuffixOf_iff_suffix] at h ⊢
  rw [String.toList_append]
  exact h.trans (List.suffix_append _ _)

/-- Feeding at least one chunk behind a rest finds what one scan of the joined text finds. -/
private theorem fed_feed (rest chunk : String) (chunks : List String)
    (h : ∀ c ∈ chunk :: chunks, Text.endsWith "\n" c = true) :
    fed (feed rest (chunk :: chunks)) = statementsOf (rest ++ String.join (chunk :: chunks)) := by
  -- on the chunks; the rest of one goes in front of the next
  induction chunks generalizing rest chunk with
  | nil => simp [feed, fed, String.join_cons]
  | cons next chunks ih =>
    have hchunk : Text.endsWith "\n" (rest ++ chunk) = true := endsWith_append (h chunk (by simp))
    have hnext := ih (statementsOf (rest ++ chunk)).2 next fun c hc => h c (by simp_all)
    -- the first chunk leaves its rest to the others
    have hfeed : feed rest (chunk :: next :: chunks) =
        statementsOf (rest ++ chunk) ::
          feed (statementsOf (rest ++ chunk)).2 (next :: chunks) := rfl
    rw [hfeed, String.join_cons, ← String.append_assoc, statementsOf_append _ hchunk, ← hnext]
    simp only [feed, fed_cons_cons]

/-- Scanning does not depend on how a text is cut into lines.  What is found in a text
    that ends with a newline stays found when text is appended, and what else is found is
    found by scanning the rest again.  So any number of chunks, each ending with a newline
    and each scanned behind the rest of the ones before, give the statements and the rest
    of the whole text. -/
theorem statementsOf_append_and_feed :
    (∀ (a b : String) (s₁ s₂ : List String) (r₁ r₂ : String), Text.endsWith "\n" a = true →
      statementsOf a = (s₁, r₁) → statementsOf (r₁ ++ b) = (s₂, r₂) →
      statementsOf (a ++ b) = (s₁ ++ s₂, r₂)) ∧
    ∀ chunks : List String, (∀ c ∈ chunks, Text.endsWith "\n" c = true) →
      fed (feed "" chunks) = statementsOf (String.join chunks) := by
  refine ⟨fun a b s₁ s₂ r₁ r₂ ha h₁ h₂ => ?_, fun chunks h => ?_⟩
  · rw [statementsOf_append b ha, h₁, h₂]
  · cases chunks with
    | nil => rfl
    | cons chunk chunks => rw [fed_feed "" chunk chunks h, String.empty_append]

/-- A block that stays open over two chunks and is closed by a line with two statements. -/
theorem statementsOf_append_and_feed_block :
    statementsOf ("x = 1\nif x:\n  y\n" ++ "z; w\n") =
      (["x = 1\n"] ++ ["if x:\n  y\n", "z;", " w\n"], "") ∧
    fed (feed "" ["x = 1\n", "if x:\n", "  y\n", "z; w\n"]) =
      statementsOf (String.join ["x = 1\n", "if x:\n", "  y\n", "z; w\n"]) :=
  ⟨statementsOf_append_and_feed.1 _ _ _ _ "if x:\n  y\n" _ (by decide) (by decide) (by decide),
    statementsOf_append_and_feed.2 _ (by decide)⟩

end ReplEngine.Scan
