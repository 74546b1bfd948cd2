import ReplEngine.Proofs.Scan.Position

/-!
# Brackets at the places of a text

The lexer keeps the open brackets on a stack, and a closing bracket takes off whatever is on top.
This file says the same by the depth at each place of the text: a bracket is open as long as the
text behind it has not come back to the depth before it.  Two brackets that are open at the same
place stand at different depths, so that the depth of a bracket tells which one it is.

## Key results

- `codeStep_cases`: what a step outside strings and comments can be, one case per rule
- `Lexer.step_brackets`: what a step does to the open brackets
- `IsOpen.eq_of_depth`: an open bracket is known by its depth
-/

namespace ReplEngine.Scan

/-! ### Steps in code -/

/-- What a step outside strings and comments can be. -/
inductive CodeStep (s : State) (c : Char) (rest : List Char) : Lexer × Option Kind → Prop
  | comment (hc : c = '#') : CodeStep s c rest (⟨{ s with mode := .comment }, 0⟩, some .comment)
  | string {mark : Mark} {triple : Bool} (hmark : Mark.ofChar? c = some mark) :
    CodeStep s c rest
      (⟨{ s with mode := .string ⟨mark, triple⟩ }, if triple then 2 else 0⟩, some .string)
  | opening {bracket : Bracket} (hmark : Mark.ofChar? c = none)
    (hopening : Bracket.ofOpening? c = some bracket) :
    CodeStep s c rest (⟨{ s with brackets := bracket :: s.brackets }, 0⟩, some .opening)
  | closing (hmark : Mark.ofChar? c = none) (hclosing : isClosing c = true) :
    CodeStep s c rest (⟨{ s with brackets := s.brackets.tail }, 0⟩, some .closing)
  | continuation {further : List Char} (hc : c = '\\') (hrest : rest = '\n' :: further) :
    CodeStep s c rest (⟨s, 1⟩, none)
  | plain {token? : Option Kind} (hmark : Mark.ofChar? c = none)
    (hopening : Bracket.ofOpening? c = none) (hclosing : isClosing c = false)
    (htoken : token? ∈ [some .newline, some .semicolon, some .code, none]) :
    CodeStep s c rest (⟨s, 0⟩, token?)

variable {text rest : List Char} {c : Char} {n o : Nat}

/-- A step in code is one of these. -/
theorem codeStep_cases (s : State) (c : Char) (rest : List Char) :
    CodeStep s c rest (Lexer.codeStep s c rest) := by
  unfold Lexer.codeStep
  split
  · next hc => exact .comment (eq_of_beq hc)
  · split
    · next mark hmark => exact .string hmark
    · next hmark =>
      split
      · next bracket hopening => exact .opening hmark hopening
      · next hopening =>
        split
        · next hclosing => exact .closing hmark hclosing
        · next hclosing =>
          -- all branches behind the brackets leave the state alone, a continued line apart
          have hplain : ∀ {token? : Option Kind},
              token? ∈ [some .newline, some .semicolon, some .code, none] →
              CodeStep s c rest (⟨s, 0⟩, token?) :=
            .plain hmark hopening (by simpa using hclosing)
          split
          · next hc =>
            rw [Bool.and_eq_true] at hc
            cases rest with
            | nil => exact absurd hc.2 (by simp)
            | cons d further =>
              obtain rfl : '\n' = d := by simpa using hc.2
              exact .continuation (eq_of_beq hc.1) rfl
          · split
            · exact hplain (by simp)
            · split
              · exact hplain (by simp)
              · split
                · exact hplain (by simp)
                · exact hplain (by simp)

/-- What a step does to the open brackets. -/
theorem Lexer.step_brackets (l : Lexer) (c : Char) (rest : List Char) :
    (∃ bracket, (l.step c rest).2 = some .opening ∧ Bracket.ofOpening? c = some bracket ∧
      (l.step c rest).1.state.brackets = bracket :: l.state.brackets) ∨
    ((l.step c rest).2 = some .closing ∧
      (l.step c rest).1.state.brackets = l.state.brackets.tail) ∨
    ((l.step c rest).2 ≠ some .opening ∧ (l.step c rest).2 ≠ some .closing ∧
      (l.step c rest).1.state.brackets = l.state.brackets) := by
  unfold Lexer.step
  split
  · exact .inr (.inr ⟨by simp, by simp, rfl⟩)
  · split
    · -- a string keeps the brackets, and only a newline in it can be a token
      refine .inr (.inr ?_)
      unfold stringStep
      split
      · simp
      · split
        · simp
        · split <;> simp
    · refine .inr (.inr ?_)
      unfold commentStep
      split <;> simp
    · -- in code the kind of step tells what becomes of the brackets
      generalize hstep : codeStep l.state c rest = r
      have hcases := codeStep_cases l.state c rest
      rw [hstep] at hcases
      cases hcases with
      | comment _ => simp
      | string _ => simp
      | opening _ hopening => exact .inl ⟨_, rfl, hopening, rfl⟩
      | closing _ _ => simp
      | continuation _ _ => simp
      | plain _ _ _ htoken =>
        refine .inr (.inr ⟨?_, ?_, rfl⟩)
        · rintro rfl
          simp at htoken
        · rintro rfl
          simp at htoken

/-- Only bracket tokens change the open brackets. -/
theorem Lexer.depth_of_step {l next : Lexer} {token? : Option Kind}
    (h : l.step c rest = (next, token?)) (hopening : token? ≠ some .opening)
    (hclosing : token? ≠ some .closing) : next.state.depth = l.state.depth := by
  rcases l.step_brackets c rest with ⟨_, htoken, -⟩ | ⟨htoken, -⟩ | ⟨-, -, hbrackets⟩
  · rw [h] at htoken
    exact absurd htoken hopening
  · rw [h] at htoken
    exact absurd htoken hclosing
  · rw [h] at hbrackets
    exact congrArg List.length hbrackets

/-! ### Open brackets -/

/-- The bracket that is opened at the place `o` is open at the place `n`: from `o` on the text is
    deeper than before `o`. -/
structure IsOpen (text : List Char) (o n : Nat) : Prop where
  token : (o, Kind.opening) ∈ tokens text
  lt : o < n
  deeper : ∀ k ≤ n, o < k → (stateAt text o).depth < (stateAt text k).depth

/-- The innermost bracket that is open at the place `n` is the one opened at the place `o`. -/
structure IsInnermost (text : List Char) (o n : Nat) : Prop extends IsOpen text o n where
  depth : (stateAt text n).depth = (stateAt text o).depth + 1

instance (text : List Char) (o n : Nat) : Decidable (IsOpen text o n) :=
  decidable_of_iff ((tokens text).contains (o, Kind.opening) = true ∧ o < n ∧
      ∀ k ≤ n, o < k → (stateAt text o).depth < (stateAt text k).depth)
    ⟨fun h => ⟨List.contains_iff_mem.mp h.1, h.2.1, h.2.2⟩,
      fun h => ⟨List.contains_iff_mem.mpr h.token, h.lt, h.deeper⟩⟩

instance (text : List Char) (o n : Nat) : Decidable (IsInnermost text o n) :=
  decidable_of_iff (IsOpen text o n ∧ (stateAt text n).depth = (stateAt text o).depth + 1)
    ⟨fun h => ⟨h.1, h.2⟩, fun h => ⟨h.toIsOpen, h.depth⟩⟩

/-- Brackets that are open at the same place and stand at the same depth are the same. -/
theorem IsOpen.eq_of_depth {o' : Nat} (h : IsOpen text o n) (h' : IsOpen text o' n)
    (hdepth : (stateAt text o).depth = (stateAt text o').depth) : o = o' := by
  rcases Nat.lt_trichotomy o o' with hlt | heq | hgt
  · -- the later one would stand deeper
    have hdeeper := h.deeper o' (Nat.le_of_lt h'.lt) hlt
    omega
  · exact heq
  · have hdeeper := h'.deeper o (Nat.le_of_lt h.lt) hgt
    omega

/-- A bracket stays open over a character behind which the text is still deeper. -/
theorem IsOpen.succ (h : IsOpen text o n)
    (hdeeper : (stateAt text o).depth < (stateAt text (n + 1)).depth) :
    IsOpen text o (n + 1) where
  token := h.token
  lt := Nat.lt_succ_of_lt h.lt
  deeper k hk ho := by
    rcases Nat.lt_or_eq_of_le hk with hlt | rfl
    · exact h.deeper k (Nat.le_of_lt_succ hlt) ho
    · -- the new place
      exact hdeeper

/-- The state behind a character. -/
theorem stateAt_succ (h : text.drop n = c :: rest) :
    stateAt text (n + 1) = ((Lexer.upTo {} n text).step c rest).1.state := by
  rw [stateAt, Lexer.upTo_succ h]

end ReplEngine.Scan
