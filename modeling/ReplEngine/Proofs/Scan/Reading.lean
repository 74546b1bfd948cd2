import ReplEngine.Proofs.Scan.Commentary

/-!
# Reading a text in pieces

The tokens of a text are found by one pass over all of it.  A session never makes that pass:
it scans what it has, and starts again with what is left.  This file proves that the lexer
is in its first state wherever a session starts again, so that the tokens of the whole text
are those of its pieces.

## Key results

- `Lexer.Reads`: the lexer over a piece of a text, with what follows in sight
- `reads_statements`: over the statements of a text the lexer comes back to its first state
- `reads_preamble`: so it does over comments and blank lines, and finds no code there
-/

namespace ReplEngine.Scan

/-- Whether a token is code: neither a newline nor a comment. -/
def Kind.isCode : Kind → Bool
  | .newline | .comment => false
  | _ => true

namespace Lexer

/-! ### Pieces -/

/-- `Reads b l off a ts m`: the lexer `l`, which stands at the offset `off`, reads the text `a`
    with `b` behind it, finds the tokens `ts` and becomes `m`. -/
inductive Reads (b : List Char) : Lexer → Nat → List Char → List (Nat × Kind) → Lexer → Prop
  | nil {l : Lexer} {off : Nat} : Reads b l off [] [] l
  | pass {l m n : Lexer} {off : Nat} {c : Char} {a : List Char} {ts : List (Nat × Kind)} :
      l.step c (a ++ b) = (m, none) → Reads b m (off + 1) a ts n → Reads b l off (c :: a) ts n
  | token {l m n : Lexer} {off : Nat} {c : Char} {a : List Char} {ts : List (Nat × Kind)}
      {kind : Kind} : l.step c (a ++ b) = (m, some kind) → Reads b m (off + 1) a ts n →
      Reads b l off (c :: a) ((off, kind) :: ts) n

/-- The end of a piece, seen from behind its first character. -/
private theorem offset_cons (off : Nat) (c : Char) (a : List Char) :
    off + (c :: a).length = off + 1 + a.length := by
  rw [List.length_cons]
  omega

namespace Reads

variable {a a' b : List Char} {l m n : Lexer} {off : Nat} {ts ts' : List (Nat × Kind)}

/-- Two pieces that are read one after the other are one. -/
theorem trans (h : Reads (a' ++ b) l off a ts m) (h' : Reads b m (off + a.length) a' ts' n) :
    Reads b l off (a ++ a') (ts ++ ts') n := by
  -- on the first piece
  induction h with
  | nil => exact h'
  | pass hstep _ ih =>
    rw [← List.append_assoc] at hstep
    exact .pass hstep (ih (by rwa [offset_cons] at h'))
  | token hstep _ ih =>
    rw [← List.append_assoc] at hstep
    exact .token hstep (ih (by rwa [offset_cons] at h'))

/-- The tokens of a text are those of its first piece and of what follows. -/
theorem tokensFrom (h : Reads b l off a ts m) :
    l.tokensFrom off (a ++ b) = ts ++ m.tokensFrom (off + a.length) b := by
  induction h with
  | nil => rfl
  | pass hstep _ ih =>
    rw [List.cons_append, Lexer.tokensFrom, hstep, offset_cons]
    exact ih
  | token hstep _ ih =>
    rw [List.cons_append, Lexer.tokensFrom, hstep, offset_cons]
    exact congrArg (List.cons _) ih

/-- Behind a piece the lexer goes on from where it stands. -/
theorem run (h : Reads b l off a ts m) : l.run (a ++ b) = m.run b := by
  induction h with
  | nil => rfl
  | pass hstep _ ih =>
    rw [List.cons_append, Lexer.run, hstep]
    exact ih
  | token hstep _ ih =>
    rw [List.cons_append, Lexer.run, hstep]
    exact ih

/-- The tokens of a piece stand in it. -/
theorem bounds (h : Reads b l off a ts m) {t : Nat × Kind} (ht : t ∈ ts) :
    off ≤ t.1 ∧ t.1 < off + a.length := by
  -- on the piece; the first token stands at its start
  induction h with
  | nil => simp at ht
  | pass _ _ ih =>
    have hlater := ih ht
    rw [offset_cons]
    omega
  | token _ _ ih =>
    rw [offset_cons]
    rcases List.mem_cons.mp ht with rfl | ht
    · dsimp only
      omega
    · have hlater := ih ht
      omega

end Reads

end Lexer

/-- Whether the tokens of a piece that ends at the offset `stop` end with it: the last of its
    characters is one of them. -/
def EndsWithToken (ts : List (Nat × Kind)) (stop : Nat) : Prop :=
  ∃ t ∈ ts, t.1 + 1 = stop

/-! ### Over statements -/

/-- What a scan cuts off is read up to a token, and the lexer behind it is the first one.
    This holds whatever text is appended. -/
private theorem reads_statementsFrom {s : Scanner} {cs rest : List Char} {found : List (List Char)}
    (hcs : cs = [] ∨ cs.getLast? = some '\n') (h : statementsFrom s cs = (found, rest))
    (hfound : found ≠ []) (b : List Char) (off : Nat) :
    ∃ a ts, cs = a ++ rest ∧ Lexer.Reads (rest ++ b) s.lexer off a ts {} ∧
      EndsWithToken ts (off + a.length) := by
  -- on the text, with the three steps of the scanner
  induction cs generalizing s found off with
  | nil =>
    rw [statementsFrom] at h
    cases h
    exact absurd rfl hfound
  | cons c cs ih =>
    have hlast : (c :: cs).getLast? = some '\n' := hcs.resolve_left (by simp)
    have hmem : '\n' ∈ c :: cs := List.mem_of_getLast? hlast
    have htail : cs = [] ∨ cs.getLast? = some '\n' := by
      cases cs with
      | nil => exact .inl rfl
      | cons d cs => exact .inr (by rwa [List.getLast?_cons_cons] at hlast)
    -- a piece of the tail becomes one of the whole by a step
    have hlonger : ∀ {m : Lexer} {token? : Option Kind} {a : List Char} {ts : List (Nat × Kind)},
        s.lexer.step c cs = (m, token?) → cs = a ++ rest →
        Lexer.Reads (rest ++ b) m (off + 1) a ts {} → EndsWithToken ts (off + 1 + a.length) →
        ∃ a ts, c :: cs = a ++ rest ∧ Lexer.Reads (rest ++ b) s.lexer off a ts {} ∧
          EndsWithToken ts (off + a.length) := by
      rintro m token? a ts hstep ha hreads ⟨t, ht, hstop⟩
      have hstep' : s.lexer.step c (a ++ (rest ++ b)) = (m, token?) := by
        rw [← List.append_assoc, ← ha, Lexer.step_append _ hmem, hstep]
      rw [← Lexer.offset_cons off c] at hstop
      cases token? with
      | none => exact ⟨c :: a, ts, by rw [ha]; rfl, .pass hstep' hreads, t, ht, hstop⟩
      | some kind =>
        exact ⟨c :: a, (off, kind) :: ts, by rw [ha]; rfl, .token hstep' hreads, t,
          List.mem_cons_of_mem _ ht, hstop⟩
    cases hstep : s.lexer.step c cs with
    | mk lexer token? =>
      cases token? with
      | none =>
        rw [Scanner.statementsFrom_pass hstep] at h
        obtain ⟨a, ts, ha, hreads, hend⟩ := ih htail h hfound (off + 1)
        exact hlonger hstep ha hreads hend
      | some kind =>
        cases hends : s.ends lexer kind c cs with
        | false =>
          rw [Scanner.statementsFrom_keep hstep hends] at h
          obtain ⟨a, ts, ha, hreads, hend⟩ := ih htail h hfound (off + 1)
          exact hlonger hstep ha hreads hend
        | true =>
          have hlexer := Scanner.lexer_of_ends hstep hends
          subst hlexer
          rw [Scanner.statementsFrom_cut hstep hends] at h
          cases hlater : statementsFrom (s.cut {} kind c) cs with
          | mk later remainder =>
            rw [hlater] at h
            obtain rfl : remainder = rest := congrArg Prod.snd h
            cases later with
            | nil =>
              -- the token is the last one that ends a statement
              have hrest : cs = remainder := by
                have hflat := flatten_statementsFrom (s.cut {} kind c) cs
                rw [hlater] at hflat
                simpa [Scanner.cut] using hflat.symm
              have hstep' : s.lexer.step c ([] ++ (remainder ++ b)) = ({}, some kind) := by
                rw [List.nil_append, ← hrest, Lexer.step_append _ hmem, hstep]
              exact ⟨[c], [(off, kind)], by rw [hrest]; rfl, .token hstep' .nil, (off, kind),
                by simp, rfl⟩
            | cons f later =>
              -- another statement follows, and its token is the last
              obtain ⟨a, ts, ha, hreads, hend⟩ := ih htail hlater (by simp) (off + 1)
              exact hlonger hstep ha hreads hend

/-- The lexer reads the statements of a text up to a token and comes back to its first
    state. -/
theorem reads_statements {t : List Char} (ht : t.getLast? = some '\n') (b : List Char) (off : Nat) :
    ∃ ts, Lexer.Reads ((statements t).2 ++ b) {} off (statements t).1.flatten ts {} ∧
      ((statements t).1 = [] ∨ EndsWithToken ts (off + (statements t).1.flatten.length)) := by
  by_cases hfound : (statements t).1 = []
  · rw [hfound]
    exact ⟨[], .nil, .inl rfl⟩
  · obtain ⟨a, ts, ha, hreads, hend⟩ :=
      reads_statementsFrom (s := {}) (.inr ht) (h := rfl) hfound b off
    have hflat : a = (statements t).1.flatten :=
      List.append_cancel_right (ha.symm.trans (flatten_statements t).symm)
    rw [← hflat]
    exact ⟨ts, hreads, .inr hend⟩

/-! ### Over comments and blank lines -/

/-- A comment is read up to its newline, the only token in it. -/
private theorem reads_comment {l : List Char} (hl : '\n' ∉ l) (b : List Char) (off : Nat) :
    Lexer.Reads b ⟨⟨.comment, []⟩, 0⟩ off (l ++ ['\n']) [(off + l.length, .newline)] {} := by
  induction l generalizing off with
  | nil => exact .token rfl .nil
  | cons c l ih =>
    rw [List.mem_cons, not_or] at hl
    refine .pass ?_ ?_ (m := ⟨⟨.comment, []⟩, 0⟩)
    · simp [Lexer.step, Lexer.commentStep, Ne.symm hl.1]
    · rw [Lexer.offset_cons]
      exact ih hl.2 (off + 1)

/-- A note has no code, and its newline is a token. -/
private theorem reads_note {l : List Char} (hl : '\n' ∉ l) (hnote : isNote l = true)
    (b : List Char) (off : Nat) :
    ∃ ts, Lexer.Reads b {} off (l ++ ['\n']) ts {} ∧ (∀ t ∈ ts, t.2.isCode = false) ∧
      (off + l.length, Kind.newline) ∈ ts := by
  induction l generalizing off with
  | nil => exact ⟨[(off, .newline)], .token rfl .nil, by simp [Kind.isCode], by simp⟩
  | cons c l ih =>
    rw [List.mem_cons, not_or] at hl
    rw [isNote_cons] at hnote
    rw [Lexer.offset_cons]
    split at hnote
    · next hspace =>
      -- white space before the comment
      obtain ⟨ts, hreads, hkinds, hmem⟩ := ih hl.2 hnote (off + 1)
      exact ⟨ts, .pass (Lexer.codeStep_space hspace (Ne.symm hl.1) _) hreads, hkinds, hmem⟩
    · obtain rfl : c = '#' := eq_of_beq hnote
      refine ⟨(off, .comment) :: [(off + 1 + l.length, .newline)], ?_, by simp [Kind.isCode],
        by simp⟩
      exact .token rfl (reads_comment hl.2 b (off + 1))

/-- The lexer reads a preamble, finds no code in it, and comes back to its first state. -/
theorem reads_preamble {p : List Char} (hp : IsPreamble p) (b : List Char) (off : Nat) :
    ∃ ts, Lexer.Reads b {} off p ts {} ∧ (∀ t ∈ ts, t.2.isCode = false) ∧
      (p = [] ∨ EndsWithToken ts (off + p.length)) := by
  -- on the notes, one line after the other
  induction hp generalizing off with
  | nil => exact ⟨[], .nil, by simp, .inl rfl⟩
  | @line l p hl hnote _ ih =>
    obtain ⟨ts, hreads, hkinds, hmem⟩ := reads_note hl hnote (p ++ b) off
    obtain ⟨ts', hreads', hkinds', hend⟩ := ih (off + (l ++ ['\n']).length)
    have hall := hreads.trans hreads'
    rw [List.append_assoc, List.singleton_append] at hall
    refine ⟨ts ++ ts', hall, ?_, .inr ?_⟩
    · intro t ht
      exact (List.mem_append.mp ht).elim (hkinds t) (hkinds' t)
    · have hlength : off + (l ++ '\n' :: p).length = off + (l ++ ['\n']).length + p.length := by
        simp only [List.length_append, List.length_cons, List.length_nil]
        omega
      rw [hlength]
      rcases hend with rfl | ⟨t, ht, hstop⟩
      · refine ⟨_, List.mem_append_left _ hmem, ?_⟩
        simp only [List.length_append, List.length_cons, List.length_nil]
        omega
      · exact ⟨t, List.mem_append_right _ ht, hstop⟩

end ReplEngine.Scan
