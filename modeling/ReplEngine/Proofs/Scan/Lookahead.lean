import ReplEngine.Scan.Statement

/-!
# Lookahead ends at the line end

The lexer looks ahead at most two characters, the shape of a statement is decided
by its first line, and whether a block closes by the line after it.  All of these
look no further than the next newline, so a text that holds one gives the same
decisions whatever is appended to it.

## Key results

- `Lexer.step_append_of_mem`: a step of the lexer does not look beyond a character that is neither
  a mark nor a backslash
- `Lexer.step_append`: so it does not see text that is appended behind a newline
- `shapeOf_append`: neither does the shape of a statement
- `closesBlock_append`: nor the test whether the next line closes a block
- `Lexer.step_token`: what a token can be, and the lexer behind it
- `Lexer.step_boundary`: behind a newline or a semicolon the lexer is in plain code
-/

namespace ReplEngine.Scan

/-! ### Lists up to a marked element -/

/-- A prefix without `x` is found or missed before the first `x`. -/
theorem isPrefixOf_append_of_mem {x : Char} {p t : List Char} (hp : x ∉ p) (ht : x ∈ t)
    (b : List Char) : p.isPrefixOf (t ++ b) = p.isPrefixOf t := by
  -- on the prefix, along the text
  induction p generalizing t with
  | nil => simp
  | cons c p ih =>
    cases t with
    | nil => simp at ht
    | cons d t =>
      simp only [List.cons_append, List.isPrefixOf_cons_cons]
      by_cases hcd : c = d
      · -- the heads agree and are not `x`, so `x` stands further on
        subst hcd
        have hne : x ≠ c := fun h => hp (by simp [h])
        rw [ih (fun h => hp (by simp [h])) (by simpa [hne] using ht)]
      · rw [beq_false_of_ne hcd, Bool.false_and, Bool.false_and]

/-- `takeWhile` stops at the latest at an element that fails the test. -/
theorem takeWhile_append_of_mem {p : Char → Bool} {x : Char} {t : List Char}
    (hx : p x = false) (ht : x ∈ t) (b : List Char) :
    (t ++ b).takeWhile p = t.takeWhile p := by
  induction t with
  | nil => simp at ht
  | cons c t ih =>
    simp only [List.cons_append, List.takeWhile_cons]
    split
    · next hc =>
      have hne : x ≠ c := fun h => by simp [← h, hx] at hc
      rw [ih (by simpa [hne] using ht)]
    · rfl

/-! ### Steps of the lexer -/

/-- A mark is the mark of its character. -/
theorem mark_of_ofChar? {c : Char} {m : Mark} (h : Mark.ofChar? c = some m) :
    c = m.char := by
  simp only [Mark.ofChar?] at h
  split at h
  · next hc => cases h; exact eq_of_beq hc
  · split at h
    · next hc => cases h; exact eq_of_beq hc
    · simp at h

/-- A newline is no mark. -/
theorem newline_ne_mark (m : Mark) : '\n' ≠ m.char := by
  cases m <;> decide

theorem newline_not_mem_quote (q : Quote) : '\n' ∉ q.text := by
  simp only [Quote.text, List.mem_replicate, not_and]
  exact fun _ => newline_ne_mark q.mark

/-- Whether no lookahead goes beyond a character: it is neither a mark nor a backslash. -/
def stopsLookahead (c : Char) : Bool :=
  (Mark.ofChar? c).isNone && c != '\\'

/-- What stops lookahead is no mark. -/
private theorem ne_mark_of_stopsLookahead {x : Char} (hx : stopsLookahead x = true) (m : Mark) :
    x ≠ m.char := by
  rintro rfl
  cases m <;> exact absurd hx (by decide)

/-- A step does not look beyond a character that stops lookahead. -/
theorem Lexer.step_append_of_mem (l : Lexer) {x c : Char} {rest : List Char}
    (hx : stopsLookahead x = true) (h : x ∈ c :: rest) (b : List Char) :
    l.step c (rest ++ b) = l.step c rest := by
  have hmark := ne_mark_of_stopsLookahead hx
  have hback : x ≠ '\\' := by
    rintro rfl
    exact absurd hx (by decide)
  simp only [Lexer.step]
  split
  · rfl
  · split
    · next q _ =>
      -- a string looks for its closing marks
      have hquote : x ∉ q.text := by
        simp only [Quote.text, List.mem_replicate, not_and]
        exact fun _ => hmark q.mark
      simp only [stringStep]
      rw [← List.cons_append, isPrefixOf_append_of_mem hquote h]
    · rfl
    · -- in code only marks and the backslash look ahead, and `x` is neither
      have htail : x ≠ c → x ∈ rest := fun hc => by simpa [hc] using h
      simp only [codeStep]
      split
      · rfl
      · split
        · next m hm =>
          have hc : x ≠ c := mark_of_ofChar? hm ▸ hmark m
          rw [isPrefixOf_append_of_mem (by simp [hmark m]) (htail hc)]
        · by_cases hc : c = '\\'
          · have hrest : x ∈ rest := htail (hc ▸ hback)
            cases rest with
            | nil => simp at hrest
            | cons d rest => simp
          · simp [hc]

/-- A step does not look beyond the next newline. -/
theorem Lexer.step_append (l : Lexer) {c : Char} {rest : List Char}
    (h : '\n' ∈ c :: rest) (b : List Char) : l.step c (rest ++ b) = l.step c rest :=
  l.step_append_of_mem (by decide) h b

/-! ### Tokens -/

/-- Whether the lexer is in code and owes no characters to what it has read. -/
def Lexer.IsClear (l : Lexer) : Prop :=
  l.state.mode = .code ∧ l.skip = 0

/-- A string holds no tokens but the newline that ends it. -/
private theorem stringStep_token {s : State} {q : Quote} {c : Char} {rest : List Char}
    {l : Lexer} {kind : Kind} (h : Lexer.stringStep s q c rest = (l, some kind)) :
    kind = .newline ∧ c = '\n' ∧ l.IsClear := by
  unfold Lexer.stringStep at h
  split at h
  · cases h
  · split at h
    · cases h
    · split at h
      · -- the newline that ends a string with one mark
        next hc =>
        cases h
        rw [Bool.and_eq_true, beq_iff_eq] at hc
        exact ⟨rfl, hc.1, rfl, rfl⟩
      · cases h

/-- A comment holds no tokens but the newline that ends it. -/
private theorem commentStep_token {s : State} {c : Char} {l : Lexer} {kind : Kind}
    (h : Lexer.commentStep s c = (l, some kind)) : kind = .newline ∧ c = '\n' ∧ l.IsClear := by
  unfold Lexer.commentStep at h
  split at h
  · next hc =>
    cases h
    exact ⟨rfl, eq_of_beq hc, rfl, rfl⟩
  · cases h

/-- A closing bracket is not white space. -/
private theorem isSpace_of_isClosing {c : Char} (h : isClosing c = true) :
    Text.isSpace c = false := by
  simp only [isClosing, Bool.or_eq_true, beq_iff_eq] at h
  rcases h with (rfl | rfl) | rfl <;> decide

private theorem isSpace_of_ofOpening? {c : Char} {bracket : Bracket}
    (h : Bracket.ofOpening? c = some bracket) : Text.isSpace c = false := by
  unfold Bracket.ofOpening? at h
  split at h
  · next hc => rw [eq_of_beq hc]; decide
  · split at h
    · next hc => rw [eq_of_beq hc]; decide
    · split at h
      · next hc => rw [eq_of_beq hc]; decide
      · cases h

/-- In code a newline and a semicolon leave the state as it was, and every other token is not
    white space. -/
private theorem codeStep_token {s : State} {c : Char} {rest : List Char} {l : Lexer}
    {kind : Kind} (hmode : s.mode = .code) (h : Lexer.codeStep s c rest = (l, some kind)) :
    (kind = .newline ∧ c = '\n' ∧ l.IsClear) ∨ (kind = .semicolon ∧ c = ';' ∧ l.IsClear) ∨
      (kind ≠ .newline ∧ kind ≠ .semicolon ∧ Text.isSpace c = false) := by
  unfold Lexer.codeStep at h
  split at h
  · next hc =>
    cases h
    exact .inr (.inr ⟨by decide, by decide, by rw [eq_of_beq hc]; decide⟩)
  · split at h
    · next mark hmark =>
      cases h
      -- the start of a string
      refine .inr (.inr ⟨by decide, by decide, ?_⟩)
      rw [mark_of_ofChar? hmark]
      cases mark <;> decide
    · split at h
      · next bracket hbracket =>
        cases h
        exact .inr (.inr ⟨by decide, by decide, isSpace_of_ofOpening? hbracket⟩)
      · split at h
        · next hclosing =>
          cases h
          exact .inr (.inr ⟨by decide, by decide, isSpace_of_isClosing hclosing⟩)
        · split at h
          · cases h
          · split at h
            · next hc =>
              cases h
              exact .inl ⟨rfl, eq_of_beq hc, hmode, rfl⟩
            · split at h
              · next hc =>
                cases h
                exact .inr (.inl ⟨rfl, eq_of_beq hc, hmode, rfl⟩)
              · split at h
                · cases h
                · -- the last branch is that of code
                  next hspace =>
                  cases h
                  exact .inr (.inr ⟨by decide, by decide, by simpa using hspace⟩)

/-- What a token can be: a newline or a semicolon, behind which the lexer is clear, or another
    one, which is not white space. -/
theorem Lexer.step_token {l l' : Lexer} {c : Char} {rest : List Char} {kind : Kind}
    (h : l.step c rest = (l', some kind)) :
    (kind = .newline ∧ c = '\n' ∧ l'.IsClear) ∨ (kind = .semicolon ∧ c = ';' ∧ l'.IsClear) ∨
      (kind ≠ .newline ∧ kind ≠ .semicolon ∧ Text.isSpace c = false) := by
  unfold Lexer.step at h
  split at h
  · cases h
  · split at h
    · exact .inl (stringStep_token h)
    · exact .inl (commentStep_token h)
    · next hmode => exact codeStep_token hmode h

/-- A token other than a newline is found in code only. -/
theorem Lexer.isClear_of_token {l l' : Lexer} {c : Char} {rest : List Char} {kind : Kind}
    (h : l.step c rest = (l', some kind)) (hkind : kind ≠ .newline) : l.IsClear := by
  unfold Lexer.step at h
  split at h
  · cases h
  · next hskip =>
    split at h
    · exact absurd (stringStep_token h).1 hkind
    · exact absurd (commentStep_token h).1 hkind
    · next hmode => exact ⟨hmode, hskip⟩

/-- Behind a newline or semicolon token the lexer is in code and owes nothing, so with
    no open brackets it is the lexer of an empty text. -/
theorem Lexer.step_boundary {l l' : Lexer} {c : Char} {rest : List Char} {kind : Kind}
    (h : l.step c rest = (l', some kind)) (hkind : kind = .newline ∨ kind = .semicolon)
    (hdepth : l'.state.depth = 0) : l' = {} := by
  have hclear : l'.IsClear := by
    rcases Lexer.step_token h with ⟨-, -, hclear⟩ | ⟨-, -, hclear⟩ | ⟨hnewline, hsemicolon, -⟩
    · exact hclear
    · exact hclear
    · exact absurd hkind (by simp [hnewline, hsemicolon])
  -- clear and without brackets, every field is known
  obtain ⟨⟨mode, brackets⟩, skip⟩ := l'
  obtain ⟨rfl, rfl⟩ : mode = .code ∧ skip = 0 := hclear
  obtain rfl : brackets = [] := List.length_eq_zero_iff.mp hdepth
  rfl

/-- A newline or semicolon token stands at its own character. -/
theorem Lexer.step_char {l l' : Lexer} {c : Char} {rest : List Char} {kind : Kind}
    (h : l.step c rest = (l', some kind)) (hkind : kind = .newline ∨ kind = .semicolon) :
    c = '\n' ∨ c = ';' := by
  rcases Lexer.step_token h with ⟨-, hc, -⟩ | ⟨-, hc, -⟩ | ⟨hnewline, hsemicolon, -⟩
  · exact .inl hc
  · exact .inr hc
  · exact absurd hkind (by simp [hnewline, hsemicolon])

/-- Newline tokens stand at newlines, and no other token does. -/
theorem Lexer.step_newline_iff {l l' : Lexer} {c : Char} {rest : List Char} {kind : Kind}
    (h : l.step c rest = (l', some kind)) : kind = .newline ↔ c = '\n' := by
  rcases Lexer.step_token h with ⟨hkind, hc, -⟩ | ⟨rfl, rfl, -⟩ | ⟨hkind, -, hspace⟩
  · exact iff_of_true hkind hc
  · decide
  · -- a newline is white space, which other tokens are not
    refine iff_of_false hkind ?_
    rintro rfl
    exact absurd hspace (by decide)

/-- A token other than a newline stands at a character that is not white space. -/
theorem Lexer.step_nonspace {l l' : Lexer} {c : Char} {rest : List Char} {kind : Kind}
    (h : l.step c rest = (l', some kind)) (hkind : kind ≠ .newline) :
    Text.isSpace c = false := by
  rcases Lexer.step_token h with ⟨hnewline, -⟩ | ⟨-, rfl, -⟩ | ⟨-, -, hspace⟩
  · exact absurd hnewline hkind
  · decide
  · exact hspace

/-! ### Shapes and blocks -/

/-- The word at the start of a text ends before its newline. -/
private theorem leadingWord_append {t : List Char} (h : '\n' ∈ t) (b : List Char) :
    leadingWord (t ++ b) = leadingWord t := by
  cases t with
  | nil => simp at h
  | cons c t =>
    simp only [List.cons_append, leadingWord]
    split
    · next hc =>
      -- a word has no newline in it
      have hne : '\n' ≠ c := fun hn => by rw [← hn] at hc; exact absurd hc (by decide)
      rw [takeWhile_append_of_mem (x := '\n') (by decide) (by simpa [hne] using h)]
    · rfl

theorem firstLine_append {t : List Char} (h : '\n' ∈ t) (b : List Char) :
    firstLine (t ++ b) = firstLine t :=
  takeWhile_append_of_mem (by simp) h b

/-- The shape of a statement is decided by its first line. -/
theorem shapeOf_append {t : List Char} (h : '\n' ∈ t) (b : List Char) :
    shapeOf (t ++ b) = shapeOf t := by
  unfold shapeOf startsWithWord
  rw [leadingWord_append h, firstLine_append h,
    isPrefixOf_append_of_mem (show '\n' ∉ ['@'] by decide) h]

/-- Whether a block closes is decided by the line that follows it. -/
theorem closesBlock_append (block : List Char) {rest : List Char} (h : '\n' ∈ rest)
    (b : List Char) : closesBlock block (rest ++ b) = closesBlock block rest := by
  simp only [closesBlock, firstLine_append h]
  simp [h]

end ReplEngine.Scan
