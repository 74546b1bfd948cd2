import ReplEngine.Proofs.Scan.Reading

/-!
# What a scan leaves over

A text that ends with a newline, outside strings and brackets, and in which nonetheless no
statement ends, is open for one of two reasons: its statement owns a block, which the next
line may continue, or its last line is continued by a backslash.  The proof needs to know why
the lexer would pass over a newline, which `Lexer.Owes` says.

## Key results

- `Lexer.Owes.step`: what the lexer still passes over is behind a backslash, or marks
- `continued_of_simple`: a simple statement that is left over ends with a continued line
- `tokensFrom_newline`: what a last newline changes about the tokens
-/

namespace ReplEngine.Scan

/-! ### What the lexer passes over -/

/-- Why a lexer passes over the next characters, `last` being the one it has read: they are
    one character behind a backslash, or the marks of a string. -/
def Lexer.Owes (l : Lexer) (last : Option Char) (rest : List Char) : Prop :=
  l.skip = 0 ∨ (l.skip = 1 ∧ last = some '\\') ∨
    ∃ mark : Mark, List.replicate l.skip mark.char <+: rest

namespace Lexer

variable {l : Lexer} {last : Option Char} {c : Char} {rest : List Char}

/-- In a string the lexer owes what an escape or the end of the string takes. -/
private theorem owes_stringStep (s : State) (q : Quote) (c : Char) (rest : List Char) :
    (stringStep s q c rest).1.Owes (some c) rest := by
  unfold stringStep
  split
  · next hc => exact .inr (.inl ⟨rfl, by rw [eq_of_beq hc]⟩)
  · split
    · next hclose =>
      -- the rest of the closing marks
      refine .inr (.inr ⟨q.mark, ?_⟩)
      rw [List.isPrefixOf_iff_prefix, Quote.text] at hclose
      cases hq : q.triple with
      | true =>
        simp only [hq, if_true, List.replicate_succ] at hclose
        simpa [Quote.text, hq, List.replicate_succ] using (List.cons_prefix_cons.mp hclose).2
      | false => simp [Quote.text, hq]
    · split
      · exact .inl rfl
      · exact .inl rfl

/-- In code it owes what the start of a string or a continued line takes. -/
private theorem owes_codeStep (s : State) (c : Char) (rest : List Char) :
    (codeStep s c rest).1.Owes (some c) rest := by
  unfold codeStep
  split
  · exact .inl rfl
  · split
    · next mark _ =>
      dsimp only
      split
      · -- the other two marks of three
        next htriple =>
        refine .inr (.inr ⟨mark, ?_⟩)
        rwa [List.isPrefixOf_iff_prefix] at htriple
      · exact .inl rfl
    · split
      · exact .inl rfl
      · split
        · exact .inl rfl
        · split
          · -- the newline behind a backslash
            next hc =>
            rw [Bool.and_eq_true] at hc
            exact .inr (.inl ⟨rfl, by rw [eq_of_beq hc.1]⟩)
          · split
            · exact .inl rfl
            · split
              · exact .inl rfl
              · split
                · exact .inl rfl
                · exact .inl rfl

/-- A step leaves the lexer owing what it has seen. -/
theorem Owes.step (h : l.Owes last (c :: rest)) : (l.step c rest).1.Owes (some c) rest := by
  unfold Lexer.step
  split
  · -- one of the characters that were owed
    next n hskip =>
    rw [Owes, hskip] at h
    rcases h with h | ⟨h, -⟩ | ⟨mark, h⟩
    · cases h
    · obtain rfl : n = 0 := by omega
      exact .inl rfl
    · rw [List.replicate_succ] at h
      exact .inr (.inr ⟨mark, (List.cons_prefix_cons.mp h).2⟩)
  · split
    · exact owes_stringStep _ _ _ _
    · unfold commentStep
      split <;> exact .inl rfl
    · exact owes_codeStep _ _ _

/-- A newline that the lexer does not pass over is a token, or stays in a string. -/
private theorem step_newline_token (hskip : l.skip = 0)
    (hstate : (l.step '\n' rest).1.state.inString = false) :
    (l.step '\n' rest).2 = some .newline := by
  obtain ⟨⟨mode, brackets⟩, skip⟩ := l
  obtain rfl : skip = 0 := hskip
  cases mode with
  | code => rfl
  | comment => rfl
  | string q =>
    have hmark : q.text.isPrefixOf ('\n' :: rest) = false := by
      obtain ⟨mark, triple⟩ := q
      cases mark <;> cases triple <;> rfl
    -- in a string with three marks the lexer would stay in it
    cases hq : q.triple with
    | true => simp [Lexer.step, stringStep, hmark, hq, State.inString, State.quote?] at hstate
    | false => simp [Lexer.step, stringStep, hmark, hq]

/-- A newline outside strings is a token, unless a backslash stands before it. -/
theorem Owes.newline (h : l.Owes last ('\n' :: rest))
    (hstate : (l.step '\n' rest).1.state.inString = false) :
    (∃ m, l.step '\n' rest = (m, some .newline)) ∨ last = some '\\' := by
  by_cases hskip : l.skip = 0
  · exact .inl ⟨(l.step '\n' rest).1, Prod.ext rfl (step_newline_token hskip hstate)⟩
  · rcases h with h | ⟨-, h⟩ | ⟨mark, h⟩
    · exact absurd h hskip
    · exact .inr h
    · -- marks are no newlines
      obtain ⟨n, hn⟩ := Nat.exists_eq_succ_of_ne_zero hskip
      rw [hn, List.replicate_succ] at h
      exact absurd (List.cons_prefix_cons.mp h).1.symm (newline_ne_mark mark)

end Lexer

/-! ### Open statements -/

/-- Tokens do not depend on where the text starts, but for their offsets. -/
theorem Lexer.tokensFrom_add (l : Lexer) (off d : Nat) (cs : List Char) :
    l.tokensFrom (off + d) cs = (l.tokensFrom off cs).map fun t => (t.1 + d, t.2) := by
  -- on the text; lexer and offset go along
  induction cs generalizing l off with
  | nil => rfl
  | cons c cs ih =>
    rw [Lexer.tokensFrom, Lexer.tokensFrom, Nat.add_right_comm]
    cases l.step c cs with
    | mk m token? =>
      cases token? with
      | none => exact ih m (off + 1)
      | some kind => exact congrArg (List.cons _) (ih m (off + 1))

/-- The tokens stand behind the offset. -/
theorem Lexer.le_of_mem_tokensFrom {l : Lexer} {off : Nat} {cs : List Char} {t : Nat × Kind}
    (h : t ∈ l.tokensFrom off cs) : off ≤ t.1 := by
  rw [← Nat.zero_add off, Lexer.tokensFrom_add, List.mem_map] at h
  obtain ⟨u, -, rfl⟩ := h
  exact Nat.le_add_left _ _

/-- The shape of the statement that a text starts with: that of its first token that is
    code. -/
def leadShape (text : List Char) : Option Shape :=
  ((tokens text).find? (·.2.isCode)).map fun t => shapeOf (text.drop t.1)

/-- The shape of a scanner's statement, or the one that the coming text gives it. -/
private def Scanner.shapeOver (s : Scanner) (cs : List Char) : Option Shape :=
  s.shape.or (((s.lexer.tokensFrom s.statement.length cs).find? (·.2.isCode)).map
    fun t => shapeOf ((s.statement.reverse ++ cs).drop t.1))

/-- A character without a token does not change the shape. -/
private theorem shapeOver_pass {s : Scanner} {lexer : Lexer} {c : Char} {rest : List Char}
    (h : s.lexer.step c rest = (lexer, none)) :
    s.shapeOver (c :: rest) = (s.pass lexer c).shapeOver rest := by
  simp only [Scanner.shapeOver, Scanner.pass, Lexer.tokensFrom, h, List.length_cons,
    List.reverse_cons, List.append_assoc, List.singleton_append]

/-- A token gives the shape that was foreseen. -/
private theorem shapeOver_keep {s : Scanner} {lexer : Lexer} {kind : Kind} {c : Char}
    {rest : List Char} (h : s.lexer.step c rest = (lexer, some kind)) :
    s.shapeOver (c :: rest) = (s.keep lexer kind c rest).shapeOver rest := by
  -- the token stands where the statement has come to
  have hdrop : (s.statement.reverse ++ c :: rest).drop s.statement.length = c :: rest := by
    rw [← List.length_reverse, List.drop_left]
  simp only [Scanner.shapeOver, Scanner.keep, Lexer.tokensFrom, h, List.length_cons,
    List.reverse_cons, List.append_assoc, List.singleton_append, List.find?_cons]
  cases s.shape with
  | some shape => rfl
  | none => cases kind <;> simp [Kind.isCode, shapeAfter, hdrop]

/-- A scan that finds no end of a simple statement has passed over its last newline. -/
private theorem continued_of_shapeOver {s : Scanner} {cs rest : List Char}
    (hscan : statementsFrom s cs = ([], rest)) (hlast : cs.getLast? = some '\n')
    (howes : s.lexer.Owes s.statement.head? cs)
    (hstate : (s.lexer.run cs).state.inString = false)
    (hdepth : (s.lexer.run cs).state.depth = 0) (hshape : s.shapeOver cs = some .simple) :
    ['\\', '\n'] <:+ s.statement.reverse ++ cs := by
  -- on the text; the scanner keeps its shape and what it owes
  induction cs generalizing s with
  | nil => simp at hlast
  | cons c cs ih =>
    cases hcs : cs with
    | nil =>
      -- the last newline: as a token it would end the statement
      subst hcs
      obtain rfl : c = '\n' := by simpa using hlast
      rw [Lexer.run, Lexer.run] at hstate hdepth
      rcases howes.newline hstate with ⟨m, hstep⟩ | hback
      · exfalso
        rw [hstep] at hdepth
        have hends : s.ends m .newline '\n' [] = true := by
          rw [shapeOver_keep hstep] at hshape
          have hsimple : shapeAfter s.shape .newline ['\n'] = some .simple := by
            simpa [Scanner.shapeOver, Scanner.keep, Lexer.tokensFrom] using hshape
          simp [Scanner.ends, endsAt, hsimple, hdepth]
        rw [Scanner.statementsFrom_cut hstep hends] at hscan
        simp at hscan
      · obtain ⟨tail, htail⟩ : ∃ tail, s.statement = '\\' :: tail := by
          cases hs : s.statement with
          | nil => simp [hs] at hback
          | cons d tail => exact ⟨tail, by simpa [hs] using hback⟩
        exact ⟨tail.reverse, by simp [htail]⟩
    | cons d ds =>
      rw [← hcs]
      have htail : cs.getLast? = some '\n' := by
        rw [hcs] at hlast ⊢
        rwa [List.getLast?_cons_cons] at hlast
      rw [Lexer.run] at hstate hdepth
      have hnext := howes.step
      cases hstep : s.lexer.step c cs with
      | mk lexer token? =>
        rw [hstep] at hstate hdepth hnext
        cases token? with
        | none =>
          rw [Scanner.statementsFrom_pass hstep] at hscan
          rw [shapeOver_pass hstep] at hshape
          simpa [Scanner.pass] using
            ih (s := s.pass lexer c) hscan htail hnext hstate hdepth hshape
        | some kind =>
          cases hends : s.ends lexer kind c cs with
          | true =>
            rw [Scanner.statementsFrom_cut hstep hends] at hscan
            simp at hscan
          | false =>
            rw [Scanner.statementsFrom_keep hstep hends] at hscan
            rw [shapeOver_keep hstep] at hshape
            simpa [Scanner.keep] using
              ih (s := s.keep lexer kind c cs) hscan htail hnext hstate hdepth hshape

/-- A simple statement that a scan leaves over, outside strings and brackets, ends with a
    continued line. -/
theorem continued_of_simple {text : List Char} (hscan : statements text = ([], text))
    (hlast : text.getLast? = some '\n') (hstate : (lexicalState text).inString = false)
    (hdepth : (lexicalState text).depth = 0) (hshape : leadShape text = some .simple) :
    ['\\', '\n'] <:+ text :=
  continued_of_shapeOver (s := {}) hscan hlast (.inl rfl) hstate hdepth hshape

/-! ### The last newline -/

/-- A newline at the end is not part of a text without newlines. -/
private theorem isPrefixOf_newline {p : List Char} (hp : '\n' ∉ p) (t : List Char) :
    p.isPrefixOf (t ++ ['\n']) = p.isPrefixOf t := by
  -- on the text that is looked for
  induction p generalizing t with
  | nil => simp
  | cons c p ih =>
    rw [List.mem_cons, not_or] at hp
    cases t with
    | nil =>
      rw [List.nil_append, List.isPrefixOf_cons_cons, beq_false_of_ne (Ne.symm hp.1)]
      rfl
    | cons d t =>
      rw [List.cons_append, List.isPrefixOf_cons_cons, List.isPrefixOf_cons_cons, ih hp.2]

/-- A newline at the end of the text is seen by no step but that of a backslash before it. -/
private theorem step_newline (l : Lexer) {c : Char} {rest : List Char}
    (h : rest ≠ [] ∨ c ≠ '\\') : l.step c (rest ++ ['\n']) = l.step c rest := by
  -- only a backslash at the very end would see the newline
  have hback : (c == '\\' && ['\n'].isPrefixOf (rest ++ ['\n'])) =
      (c == '\\' && ['\n'].isPrefixOf rest) := by
    rcases h with h | h
    · obtain ⟨d, ds, rfl⟩ := List.exists_cons_of_ne_nil h
      rw [List.cons_append, List.isPrefixOf_cons_cons, List.isPrefixOf_cons_cons]
      rfl
    · rw [beq_false_of_ne h, Bool.false_and, Bool.false_and]
  unfold Lexer.step
  split
  · rfl
  · split
    · next q _ =>
      simp only [Lexer.stringStep]
      rw [← List.cons_append, isPrefixOf_newline (newline_not_mem_quote q)]
    · rfl
    · simp only [Lexer.codeStep, hback]
      split
      · rfl
      · split
        · next mark _ => rw [isPrefixOf_newline (by simp [newline_ne_mark mark])]
        · rfl

/-- What a newline behind a text changes about its tokens: only a backslash at the end, which is
    code in the text alone, is none any more, and then the newline is no token either. -/
theorem tokensFrom_newline (l : Lexer) (off : Nat) (text : List Char) {t : Nat × Kind}
    (ht : t ∈ l.tokensFrom off text) :
    t ∈ l.tokensFrom off (text ++ ['\n']) ∨
      (text.getLast? = some '\\' ∧ t.1 + 1 = off + text.length ∧
        ∀ u ∈ l.tokensFrom off (text ++ ['\n']), u.1 < t.1) := by
  -- on the text, of which all but the last character is read as before
  induction text generalizing l off with
  | nil => simp [Lexer.tokensFrom] at ht
  | cons c text ih =>
    by_cases hback : text ≠ [] ∨ c ≠ '\\'
    · -- the step is the same, and so is its token
      have hstep := step_newline l hback
      have hlonger : ∀ {m : Lexer}, t ∈ m.tokensFrom (off + 1) text →
          t ∈ m.tokensFrom (off + 1) (text ++ ['\n']) ∨
            ((c :: text).getLast? = some '\\' ∧ t.1 + 1 = off + (c :: text).length ∧ off < t.1 ∧
              ∀ u ∈ m.tokensFrom (off + 1) (text ++ ['\n']), u.1 < t.1) := by
        intro m hm
        refine (ih m (off + 1) hm).imp_right ?_
        rintro ⟨hlast, hstop, hbefore⟩
        obtain ⟨d, ds, rfl⟩ := List.exists_cons_of_ne_nil (l := text) (by rintro rfl; simp at hlast)
        rw [List.length_cons] at hstop
        refine ⟨by rwa [List.getLast?_cons_cons], ?_, by omega, hbefore⟩
        rw [List.length_cons, List.length_cons]
        omega
      rw [List.cons_append]
      simp only [Lexer.tokensFrom, hstep] at ht ⊢
      cases hs : l.step c text with
      | mk m token? =>
        rw [hs] at ht
        cases token? with
        | none =>
          rcases hlonger ht with ht | ⟨hlast, hstop, -, hbefore⟩
          · exact .inl ht
          · exact .inr ⟨hlast, hstop, hbefore⟩
        | some kind =>
          rcases List.mem_cons.mp ht with rfl | ht
          · exact .inl (by simp)
          · rcases hlonger ht with ht | ⟨hlast, hstop, hoff, hbefore⟩
            · exact .inl (List.mem_cons_of_mem _ ht)
            · refine .inr ⟨hlast, hstop, fun u hu => ?_⟩
              rcases List.mem_cons.mp hu with rfl | hu
              · exact hoff
              · exact hbefore u hu
    · -- a backslash alone: code by itself, and before a newline a continued line
      obtain ⟨rfl, rfl⟩ : text = [] ∧ c = '\\' := by simpa [not_or] using hback
      obtain ⟨⟨mode, brackets⟩, skip⟩ := l
      cases skip with
      | succ n => simp [Lexer.tokensFrom, Lexer.step] at ht
      | zero =>
        cases mode with
        | code =>
          obtain rfl : t = (off, .code) := List.mem_singleton.mp ht
          refine .inr ⟨rfl, rfl, fun u hu => ?_⟩
          exact absurd hu (List.not_mem_nil (a := u))
        | comment => simp [Lexer.tokensFrom, Lexer.step, Lexer.commentStep] at ht
        | string q => simp [Lexer.tokensFrom, Lexer.step, Lexer.stringStep] at ht

/-- A newline that is read outside strings leaves the lexer outside strings, at the same
    depth. -/
private theorem state_step_newline (l : Lexer) (h : l.state.inString = false) :
    (l.step '\n' []).1.state.inString = false ∧ (l.step '\n' []).1.state.depth = l.state.depth := by
  obtain ⟨⟨mode, brackets⟩, skip⟩ := l
  cases skip with
  | succ n => exact ⟨h, rfl⟩
  | zero =>
    cases mode with
    | code => exact ⟨rfl, rfl⟩
    | comment => exact ⟨rfl, rfl⟩
    | string q => simp [State.inString, State.quote?] at h

/-- A newline behind a text that ends outside strings changes nothing about its state that
    could be open. -/
theorem run_newline (l : Lexer) (text : List Char) (h : (l.run text).state.inString = false) :
    (l.run (text ++ ['\n'])).state.inString = false ∧
      (l.run (text ++ ['\n'])).state.depth = (l.run text).state.depth := by
  induction text generalizing l with
  | nil => exact state_step_newline l h
  | cons c text ih =>
    rw [Lexer.run] at h ⊢
    by_cases hback : text ≠ [] ∨ c ≠ '\\'
    · rw [List.cons_append, Lexer.run, step_newline l hback]
      exact ih _ h
    · -- a backslash at the end takes the newline with it
      obtain ⟨rfl, rfl⟩ : text = [] ∧ c = '\\' := by simpa [not_or] using hback
      obtain ⟨⟨mode, brackets⟩, skip⟩ := l
      cases skip with
      | succ n => exact state_step_newline ⟨⟨mode, brackets⟩, n⟩ h
      | zero =>
        cases mode with
        | code => exact ⟨rfl, rfl⟩
        | comment => exact ⟨rfl, rfl⟩
        | string q =>
          simp [Lexer.run, Lexer.step, Lexer.stringStep, State.inString, State.quote?] at h

end ReplEngine.Scan
