import ReplEngine.Proofs.Scan.Boundary
import ReplEngine.Proofs.Session.Controller

/-!
# The work of a scan

A session hands what a scan finds to its worker, statement by statement, and leaves blank ones
out.  A scan loses nothing of its text and finds nothing that is blank: every statement holds
code of its own.  So the session leaves out nothing, and what it sends are the first statements
of the scan, up to where its loop ends.
-/

namespace ReplEngine.Session

/-- A scan takes a buffer apart without losing a character.  Each of its statements ends with a
    semicolon or a newline and holds a token of the buffer that is neither a newline nor a comment,
    so that it is not blank.  A session that evaluates the statements therefore leaves out none:
    it sends them in order, and its loop ends for no other reason than an answer. -/
theorem join_and_evaluateAll_statementsOf (buffer rest : String) (found : List String)
    (h : Scan.statementsOf buffer = (found, rest)) :
    String.join found ++ rest = buffer ∧
    (∀ (xs ys : List String) (x : String), found = xs ++ x :: ys →
      (x.toList.getLast? = some ';' ∨ x.toList.getLast? = some '\n') ∧
      (∃ f kind, (f, kind) ∈ Scan.tokens buffer.toList ∧ kind.isCode = true ∧
        (String.join xs).length ≤ f ∧ f < (String.join xs).length + x.length) ∧
      Text.isBlank x.toList = false) ∧
    ∀ (σ : Type) (peer : Peer σ) (s : Session σ), ∃ loop others,
      s.Exchanged peer (loop ++ others) (s.evaluateAll peer found) ∧
      loop.map Exchange.request = (found.take loop.length).map evaluation ∧
      LoopEnd s (s.evaluateAll peer found) found loop others := by
  -- the rules say how the buffer is cut
  have hsplits := Scan.statements_eq_iff_splits.mp (Scan.statementsOf_eq_iff.mp h)
  have hblank : ∀ x ∈ found, Text.isBlank x.toList = false := by
    intro x hx
    have hmem : x ∈ (Scan.statementsOf buffer).1 := by rwa [h]
    exact isBlank_of_mem_statementsOf hmem
  refine ⟨Scan.join_statementsOf h, ?_, ?_⟩
  · rintro xs ys x rfl
    have hlast := hsplits.getLast?_of_mem (List.mem_map_of_mem (by simp : x ∈ xs ++ x :: ys))
    rw [List.map_append, List.map_cons] at hsplits
    -- a token that is code stands between the ends of the statement
    obtain ⟨f, kind, htoken, hcode, hle, hlt⟩ := hsplits.exists_code
    rw [Nat.zero_add, ← List.flatMap_def, ← String.toList_join, String.length_toList] at hle hlt
    rw [String.length_toList] at hlt
    exact ⟨hlast.symm, ⟨f, kind, htoken, hcode, hle, hlt⟩, hblank x (by simp)⟩
  · intro σ peer s
    obtain ⟨loop, others, hexchanged, hsent, -, hend⟩ := loopEnd_evaluateAll peer s hblank
    exact ⟨loop, others, hexchanged, hsent, hend⟩

/-- A comment and a blank line before the first statement, a bracket over two lines, and a block
    that a blank line ends; the worker accepts all. -/
theorem join_and_evaluateAll_statementsOf_block :
    Scan.statementsOf "# c\n\nx = [1,\n 2]; if a:\n  b\n\ny" =
      (["# c\n\nx = [1,\n 2];"] ++ [" if a:\n  b\n\n"], "y") ∧
    (∃ f kind, (f, kind) ∈ Scan.tokens "# c\n\nx = [1,\n 2]; if a:\n  b\n\ny".toList ∧
      kind.isCode = true ∧ (String.join ["# c\n\nx = [1,\n 2];"]).length ≤ f ∧
      f < (String.join ["# c\n\nx = [1,\n 2];"]).length + " if a:\n  b\n\n".length) ∧
    ∃ loop others, LoopEnd { peer := () }
      (evaluateAll Peer.willing { peer := () } ["# c\n\nx = [1,\n 2];", " if a:\n  b\n\n"])
      ["# c\n\nx = [1,\n 2];", " if a:\n  b\n\n"] loop others := by
  have hscan : Scan.statementsOf "# c\n\nx = [1,\n 2]; if a:\n  b\n\ny" =
      (["# c\n\nx = [1,\n 2];"] ++ [" if a:\n  b\n\n"], "y") := by decide
  have h := join_and_evaluateAll_statementsOf _ _ _ hscan
  obtain ⟨-, htoken, -⟩ := h.2.1 ["# c\n\nx = [1,\n 2];"] [] " if a:\n  b\n\n" rfl
  obtain ⟨loop, others, -, -, hend⟩ := h.2.2 Unit Peer.willing { peer := () }
  exact ⟨hscan, htoken, loop, others, hend⟩

end ReplEngine.Session
