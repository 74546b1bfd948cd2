import ReplEngine.Proofs.Scan.Terminator

/-!
# Between two statements

Behind a terminator the lexer is that of an empty text.  So a statement starts where nothing is
open, and it does not matter what was read before it.  This file draws the consequences: the
statements in front of a boundary are closed in themselves, every statement holds code of its
own, and a scan that starts at a boundary finds what is left of the whole scan.

## Key results

- `IsTerminator.upTo_succ`: the lexer behind a terminator is that of an empty text
- `Splits.suffix`: what the rules say about a cut, they say from each boundary on
- `run_and_upTo_flatten`: so it is at every boundary of a scan
- `lexicalState_firstStatements`: nothing is open at a boundary
- `statementsOf_suffix`: a scan from a boundary gives the rest of the whole scan
-/

namespace ReplEngine.Scan

variable {text : List Char} {start i : Nat} {x rest : List Char} {xs ys found : List (List Char)}

/-! ### Terminators -/

/-- The lexer behind a terminator is that of an empty text. -/
theorem IsTerminator.upTo_succ (h : IsTerminator text start i) :
    Lexer.upTo {} (i + 1) text = {} := by
  obtain ⟨_, kind, -, -, htoken, hkind, hdepth⟩ := h.exists_lead
  obtain ⟨c, rest, -, hstep⟩ := exists_drop_of_mem_tokens htoken
  exact Lexer.step_boundary hstep hkind hdepth

/-- A statement ends with the character of its terminator. -/
theorem IsTerminator.getLast?_between (h : IsTerminator text start i) :
    (between text start (i + 1)).getLast? = some '\n' ∨
      (between text start (i + 1)).getLast? = some ';' := by
  obtain ⟨_, kind, -, -, htoken, hkind, -⟩ := h.exists_lead
  obtain ⟨c, rest, hdrop, hstep⟩ := exists_drop_of_mem_tokens htoken
  rw [between_succ h.start_le hdrop, List.getLast?_concat]
  exact (Lexer.step_char hstep hkind).imp (congrArg some) (congrArg some)

/-! ### Boundaries of a cut -/

/-- The first statement of a cut goes from where it starts to behind its terminator. -/
theorem Splits.exists_terminator (h : Splits text start (x :: found) rest) :
    ∃ i, IsTerminator text start i ∧ x = between text start (i + 1) ∧
      start + x.length = i + 1 ∧ Splits text (i + 1) found rest := by
  cases h with
  | @statement _ i _ _ terminator _ later =>
    refine ⟨i, terminator, rfl, ?_, later⟩
    -- the statement is as long as it is from its start to behind the terminator
    have hstart := terminator.start_le
    have hlength := terminator.lt_length
    rw [length_between (by omega)]
    omega

/-- What the rules say about a cut, they say from each of its boundaries on. -/
theorem Splits.suffix (h : Splits text start (xs ++ ys) rest) :
    Splits text (start + xs.flatten.length) ys rest := by
  -- on the statements before the boundary, each of which moves the start
  induction xs generalizing start with
  | nil => simpa using h
  | cons x xs ih =>
    obtain ⟨i, -, -, hstop, hlater⟩ := h.exists_terminator
    have hsuffix := ih hlater
    rwa [← hstop, Nat.add_assoc, ← List.length_append, ← List.flatten_cons] at hsuffix

/-- From a place where the lexer is that of an empty text, it is so at each boundary. -/
theorem Splits.upTo_flatten (h : Splits text start (xs ++ ys) rest)
    (hstart : Lexer.upTo {} start text = {}) :
    Lexer.upTo {} (start + xs.flatten.length) text = {} := by
  induction xs generalizing start with
  | nil => simpa using hstart
  | cons x xs ih =>
    -- behind each terminator the lexer is fresh again
    obtain ⟨i, hterminator, -, hstop, hlater⟩ := h.exists_terminator
    have hboundary := ih hlater hterminator.upTo_succ
    rwa [← hstop, Nat.add_assoc, ← List.length_append, ← List.flatten_cons] at hboundary

/-- Every statement ends with a newline or a semicolon. -/
theorem Splits.getLast?_of_mem (h : Splits text start found rest) (hx : x ∈ found) :
    x.getLast? = some '\n' ∨ x.getLast? = some ';' := by
  induction h with
  | rest _ => simp at hx
  | statement terminator _ _ ih =>
    rcases List.mem_cons.mp hx with rfl | hx
    · exact terminator.getLast?_between
    · exact ih hx

/-- Every statement holds a token that is code. -/
theorem Splits.exists_code (h : Splits text start (xs ++ x :: ys) rest) :
    ∃ f kind, (f, kind) ∈ tokens text ∧ kind.isCode = true ∧ start + xs.flatten.length ≤ f ∧
      f < start + xs.flatten.length + x.length := by
  obtain ⟨i, hterminator, -, hstop, -⟩ := h.suffix.exists_terminator
  obtain ⟨f, _, hlead, hf, -⟩ := hterminator.exists_lead
  obtain ⟨kind, htoken, hcode⟩ := hlead.token
  exact ⟨f, kind, htoken, hcode, hlead.start_le, by omega⟩

/-- What holds of the last character of each list holds of the last one of all. -/
private theorem forall_getLast?_flatten {p : Char → Prop}
    (h : ∀ x ∈ xs, ∀ c ∈ x.getLast?, p c) : ∀ c ∈ xs.flatten.getLast?, p c := by
  induction xs with
  | nil => simp
  | cons x xs ih =>
    intro c hc
    rw [List.flatten_cons, List.getLast?_append, Option.mem_def, Option.or_eq_some_iff] at hc
    -- the last character is in what follows, unless that is empty
    rcases hc with hc | ⟨-, hc⟩
    · exact ih (fun y hy => h y (List.mem_cons_of_mem _ hy)) c hc
    · exact h x List.mem_cons_self c hc

/-- No lookahead goes beyond a boundary. -/
theorem Splits.stopsLookahead_flatten (h : Splits text start (xs ++ ys) rest) :
    ∀ c ∈ xs.flatten.getLast?, stopsLookahead c = true := by
  apply forall_getLast?_flatten
  intro x hx c hc
  rcases h.getLast?_of_mem (List.mem_append_left ys hx) with hlast | hlast
  · obtain rfl : '\n' = c := by simpa [hlast] using hc
    decide
  · obtain rfl : ';' = c := by simpa [hlast] using hc
    decide

/-! ### Nothing is open at a boundary -/

/-- The lexer behind some of the statements of a text is that of an empty text, whether it reads
    them alone or with the rest of the text in sight. -/
theorem run_and_upTo_flatten (h : statements text = (xs ++ ys, rest)) :
    Lexer.run {} xs.flatten = {} ∧ Lexer.upTo {} xs.flatten.length text = {} := by
  have hsplits := statements_eq_iff_splits.mp h
  have hboundary := hsplits.upTo_flatten (Lexer.upTo_zero {} text)
  rw [Nat.zero_add] at hboundary
  have htext : xs.flatten ++ (ys.flatten ++ rest) = text := by
    have hflatten := flatten_statements text
    rwa [h, List.flatten_append, List.append_assoc] at hflatten
  -- nothing that is read looks beyond the end of a statement
  have halone := Lexer.run_eq_upTo {} hsplits.stopsLookahead_flatten (ys.flatten ++ rest)
  rw [htext, hboundary] at halone
  exact ⟨halone, hboundary⟩

/-- The statements of a buffer and its rest are the buffer, without a gap. -/
theorem join_statementsOf {buffer rest : String} {found : List String}
    (h : statementsOf buffer = (found, rest)) : String.join found ++ rest = buffer := by
  have hflatten := flatten_statements buffer.toList
  rw [statementsOf_eq_iff.mp h, ← List.flatMap_def, ← String.toList_join,
    ← String.toList_append] at hflatten
  exact String.toList_inj.mp hflatten

/-- The text of the first `k` statements of a buffer. -/
def firstStatements (buffer : String) (k : Nat) : String :=
  String.join ((statementsOf buffer).1.take k)

/-- Nothing is open at the end of a statement.  The statements up to there, read alone, end in no
    string, no comment and no bracket, and in the pass over the whole buffer the lexer stands there
    as it does before the first character. -/
theorem lexicalState_firstStatements (buffer : String) (k : Nat) :
    (lexicalState (firstStatements buffer k).toList).quote? = none ∧
    (lexicalState (firstStatements buffer k).toList).inComment = false ∧
    (lexicalState (firstStatements buffer k).toList).brackets = [] ∧
    Lexer.upTo {} (firstStatements buffer k).length buffer.toList = {} := by
  have hscan : statements buffer.toList =
      (((statementsOf buffer).1.take k).map String.toList ++
        ((statementsOf buffer).1.drop k).map String.toList, (statementsOf buffer).2.toList) := by
    rw [← List.map_append, List.take_append_drop]
    exact statementsOf_eq_iff.mp rfl
  obtain ⟨halone, hboundary⟩ := run_and_upTo_flatten hscan
  rw [← List.flatMap_def, ← String.toList_join, ← firstStatements] at halone hboundary
  rw [lexicalState, halone]
  exact ⟨rfl, rfl, rfl, by rwa [String.length_toList] at hboundary⟩

/-! ### Scanning from a boundary -/

/-- A scan that starts at the end of any statement of a buffer gives the rest of the scan of the
    whole buffer.  In particular no statement is found in what a scan has left over. -/
theorem statementsOf_suffix (buffer : String) (xs ys : List String) (rest : String)
    (h : statementsOf buffer = (xs ++ ys, rest)) :
    statementsOf (String.join ys ++ rest) = (ys, rest) ∧ statementsOf rest = ([], rest) := by
  have hscan := statementsOf_eq_iff.mp h
  rw [List.map_append] at hscan
  have hys := statements_suffix hscan
  -- the end of all statements is a boundary too
  have hrest : statements rest.toList = ([], rest.toList) := by
    rw [← List.append_nil (ys.map String.toList)] at hys
    exact statements_suffix hys
  constructor
  · rwa [statementsOf_eq_iff, String.toList_append, String.toList_join, List.flatMap_def]
  · rwa [statementsOf_eq_iff]

/-- A semicolon, a blank line that ends a block, and a decorator over a block that goes on in a
    line without its end. -/
theorem statementsOf_suffix_unfinished :
    statementsOf "x; if a:\n  b\n\n@d\ndef f():\n  1\ny; z" =
      (["x;"] ++ [" if a:\n  b\n\n"], "@d\ndef f():\n  1\ny; z") ∧
    statementsOf (String.join [" if a:\n  b\n\n"] ++ "@d\ndef f():\n  1\ny; z") =
      ([" if a:\n  b\n\n"], "@d\ndef f():\n  1\ny; z") ∧
    statementsOf "@d\ndef f():\n  1\ny; z" = ([], "@d\ndef f():\n  1\ny; z") := by
  have hscan : statementsOf "x; if a:\n  b\n\n@d\ndef f():\n  1\ny; z" =
      (["x;"] ++ [" if a:\n  b\n\n"], "@d\ndef f():\n  1\ny; z") := by decide
  exact ⟨hscan, statementsOf_suffix _ _ _ _ hscan⟩

end ReplEngine.Scan
