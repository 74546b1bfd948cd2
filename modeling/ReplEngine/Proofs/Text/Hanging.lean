import ReplEngine.Text.Lines

/-!
# Hanging lines

A text hangs by a number of blanks if every line of it but the first starts with as many.  The
first line may stand behind something else already, and so texts that hang can be put one behind
the other: a line of the second one that is not its first is a line of the whole.

## Key results

- `Hangs.append`: texts that hang, one behind the other
- `hangs_intercalate`: parts on lines of their own
- `replicate_isPrefix_of_hangs`: the lines of a text that hangs
- `splitLinesFrom_append_newline`: the lines of texts with a newline between them
-/

namespace ReplEngine.Text

/-- Whether a text is on one line. -/
def isOneLine (cs : List Char) : Bool :=
  cs.all fun c => !isLineBreak c

/-- Every line end in a text is a newline, and behind it another line starts, with at least `m`
    blanks. -/
def Hangs (m : Nat) : List Char → Prop
  | [] => True
  | c :: cs =>
    (isLineBreak c = true → c = '\n' ∧ cs ≠ [] ∧ List.replicate m ' ' <+: cs) ∧ Hangs m cs

/-- A text without line ends is on one line. -/
theorem isOneLine_of_forall {cs : List Char} (h : ∀ c ∈ cs, isLineBreak c = false) :
    isOneLine cs = true := by
  simpa [isOneLine] using h

@[simp]
theorem isOneLine_nil : isOneLine [] = true :=
  rfl

/-- Two texts are on one line if both are. -/
@[simp]
theorem isOneLine_append (cs ds : List Char) :
    isOneLine (cs ++ ds) = (isOneLine cs && isOneLine ds) :=
  List.all_append

/-- A character and a text. -/
@[simp]
theorem isOneLine_cons (c : Char) (cs : List Char) :
    isOneLine (c :: cs) = (!isLineBreak c && isOneLine cs) :=
  List.all_cons

/-- The same for strings. -/
@[simp]
theorem isOneLine_toList_append (s t : String) :
    isOneLine (s ++ t).toList = (isOneLine s.toList && isOneLine t.toList) := by
  rw [String.toList_append, isOneLine_append]

/-- What is left of a text on one line is on one line. -/
theorem isOneLine_of_sublist {cs ds : List Char} (h : cs.Sublist ds) (hds : isOneLine ds = true) :
    isOneLine cs = true := by
  rw [isOneLine, List.all_eq_true] at hds ⊢
  exact fun c hc => hds c (h.subset hc)

theorem isOneLine_replicate (m : Nat) : isOneLine (List.replicate m ' ') = true := by
  simp [isOneLine, show isLineBreak ' ' = false by decide]

/-! ### Putting texts together -/

variable {m : Nat} {cs ds : List Char}

/-- A text on one line hangs as far as one likes. -/
theorem hangs_of_isOneLine (h : isOneLine cs = true) : Hangs m cs := by
  induction cs with
  | nil => trivial
  | cons c cs ih =>
    rw [isOneLine_cons, Bool.and_eq_true, Bool.not_eq_true'] at h
    exact ⟨fun hbreak => by simp [h.1] at hbreak, ih h.2⟩

/-- Texts that hang, one behind the other. -/
theorem Hangs.append (hcs : Hangs m cs) (hds : Hangs m ds) : Hangs m (cs ++ ds) := by
  -- on the first text; what stands behind a newline in it only gets longer
  induction cs with
  | nil => exact hds
  | cons c cs ih =>
    refine ⟨fun hbreak => ?_, ih hcs.2⟩
    obtain ⟨hc, hne, hblanks⟩ := hcs.1 hbreak
    exact ⟨hc, by simp [hne], hblanks.trans (List.prefix_append _ _)⟩

/-- The end of a text that hangs. -/
theorem Hangs.of_append (h : Hangs m (cs ++ ds)) : Hangs m ds := by
  induction cs with
  | nil => exact h
  | cons c cs ih => exact ih h.2

/-- A text that hangs by more blanks hangs by fewer. -/
theorem Hangs.mono {k : Nat} (h : Hangs m cs) (hk : k ≤ m) : Hangs k cs := by
  induction cs with
  | nil => trivial
  | cons c cs ih =>
    refine ⟨fun hbreak => ?_, ih h.2⟩
    obtain ⟨hc, hne, hblanks⟩ := h.1 hbreak
    refine ⟨hc, hne, List.IsPrefix.trans ?_ hblanks⟩
    exact ⟨List.replicate (m - k) ' ', by rw [List.replicate_append_replicate]; congr; omega⟩

/-- Parts that hang, with a separator on one line between them. -/
theorem Hangs.intercalate {sep : List Char} {ps : List (List Char)} (hsep : isOneLine sep = true)
    (h : ∀ p ∈ ps, Hangs m p) : Hangs m (sep.intercalate ps) := by
  -- on the parts
  induction ps with
  | nil => trivial
  | cons p ps ih =>
    have hp := h p List.mem_cons_self
    cases ps with
    | nil => simpa using hp
    | cons q ps =>
      rw [List.intercalate_cons_cons]
      have hrest := ih fun r hr => h r (List.mem_cons_of_mem _ hr)
      exact (hp.append (hangs_of_isOneLine hsep)).append hrest

/-- A line that starts with the blanks. -/
theorem hangs_newline (hne : cs ≠ []) (h : Hangs m cs) :
    Hangs m ('\n' :: (List.replicate m ' ' ++ cs)) := by
  refine ⟨fun _ => ⟨rfl, by simp [hne], List.prefix_append _ _⟩, ?_⟩
  exact (hangs_of_isOneLine (isOneLine_replicate m)).append h

/-- Parts that hang, on lines of their own. -/
theorem hangs_intercalate {ps : List (List Char)} (hps : ps ≠ [])
    (h : ∀ p ∈ ps, p ≠ [] ∧ Hangs m p) :
    Hangs m ('\n' :: ['\n'].intercalate (ps.map fun p => List.replicate m ' ' ++ p)) := by
  -- on the parts, each with the newline in front of it
  induction ps with
  | nil => exact absurd rfl hps
  | cons p ps ih =>
    obtain ⟨hne, hp⟩ := h p List.mem_cons_self
    cases ps with
    | nil => simpa using hangs_newline hne hp
    | cons q ps =>
      have hrest := ih (by simp) fun r hr => h r (List.mem_cons_of_mem _ hr)
      have hboth := (hangs_newline hne hp).append hrest
      simpa [List.intercalate_cons_cons] using hboth

/-- Lines end with newlines only. -/
theorem Hangs.breaks (h : Hangs m cs) : ∀ c ∈ cs, isLineBreak c = true → c = '\n' := by
  induction cs with
  | nil => simp
  | cons c cs ih => exact List.forall_mem_cons.mpr ⟨fun hbreak => (h.1 hbreak).1, ih h.2⟩

/-- No newline is the last character. -/
theorem Hangs.ends (h : Hangs m cs) : cs.getLast? ≠ some '\n' := by
  induction cs with
  | nil => simp
  | cons c cs ih =>
    cases cs with
    | nil =>
      -- behind a newline there would have to be more
      intro hlast
      obtain rfl : c = '\n' := by simpa using hlast
      exact (h.1 (by decide)).2.1 rfl
    | cons d cs =>
      rw [List.getLast?_cons_cons]
      exact ih h.2

/-- A text whose line ends are newlines is on one line if there is none. -/
theorem isOneLine_of_breaks (h : ∀ c ∈ cs, isLineBreak c = true → c = '\n')
    (hnewline : '\n' ∉ cs) : isOneLine cs = true := by
  apply isOneLine_of_forall
  intro c hc
  cases hbreak : isLineBreak c with
  | false => rfl
  | true => exact absurd (h c hc hbreak ▸ hc) hnewline

/-! ### The lines of a text -/

/-- A character that is no carriage return ends a line or belongs to it. -/
theorem splitLinesFrom_cons {c : Char} (hc : c ≠ '\r') (line cs : List Char) :
    splitLinesFrom line (c :: cs) =
      if isLineBreak c then line.reverse :: splitLinesFrom [] cs
      else splitLinesFrom (c :: line) cs :=
  splitLinesFrom.eq_3 _ _ _ fun _ h => absurd h hc

/-- A newline ends a line. -/
theorem splitLinesFrom_newline (line cs : List Char) :
    splitLinesFrom line ('\n' :: cs) = line.reverse :: splitLinesFrom [] cs := by
  rw [splitLinesFrom_cons (by decide), if_pos (by decide)]

/-- There is no carriage return in a text that hangs. -/
theorem ne_return_of_hangs {c : Char} (h : Hangs m (c :: cs)) : c ≠ '\r' := by
  rintro rfl
  exact absurd (h.1 (by decide)).1 (by decide)

/-- What is on one line belongs to the line before it. -/
theorem splitLinesFrom_append (line : List Char) (h : isOneLine cs = true) (ds : List Char) :
    splitLinesFrom line (cs ++ ds) = splitLinesFrom (cs.reverse ++ line) ds := by
  induction cs generalizing line with
  | nil => rfl
  | cons c cs ih =>
    rw [isOneLine_cons, Bool.and_eq_true, Bool.not_eq_true'] at h
    have hreturn : c ≠ '\r' := by
      rintro rfl
      exact absurd h.1 (by decide)
    rw [List.cons_append, splitLinesFrom_cons hreturn, if_neg (by simp [h.1]), ih _ h.2]
    simp

/-- A text on one line is that line. -/
theorem splitLinesFrom_of_isOneLine (h : isOneLine cs = true) (hne : cs ≠ []) :
    splitLinesFrom [] cs = [cs] := by
  have hlines := splitLinesFrom_append [] h []
  rw [List.append_nil, List.append_nil, splitLinesFrom] at hlines
  simpa [hne] using hlines

/-- A text that hangs, a newline, and another text: the lines of the one and of the other. -/
theorem splitLinesFrom_append_newline (line : List Char) (h : Hangs m cs)
    (hne : line ≠ [] ∨ cs ≠ []) (ds : List Char) :
    splitLinesFrom line (cs ++ '\n' :: ds) = splitLinesFrom line cs ++ splitLinesFrom [] ds := by
  induction cs generalizing line with
  | nil =>
    -- the end of the text, which closes the line
    have hline : line ≠ [] := by simpa using hne
    rw [List.nil_append, splitLinesFrom_newline, splitLinesFrom]
    simp [hline]
  | cons c cs ih =>
    have hreturn := ne_return_of_hangs h
    rw [List.cons_append, splitLinesFrom_cons hreturn, splitLinesFrom_cons hreturn]
    -- a newline inside is followed by more
    by_cases hbreak : isLineBreak c = true
    · rw [if_pos hbreak, if_pos hbreak, ih [] h.2 (.inr (h.1 hbreak).2.1), List.cons_append]
    · rw [if_neg hbreak, if_neg hbreak, ih (c :: line) h.2 (by simp)]

/-- The first line of a text starts with what stands in front of the text. -/
theorem isPrefix_of_head?_splitLinesFrom {line first : List Char} (hcs : Hangs m cs)
    (h : (splitLinesFrom line cs).head? = some first) : line.reverse <+: first := by
  -- on the text, up to its first newline
  induction cs generalizing line with
  | nil =>
    rw [splitLinesFrom] at h
    split at h
    · simp at h
    · obtain rfl : line.reverse = first := by simpa using h
      exact List.prefix_rfl
  | cons c cs ih =>
    rw [splitLinesFrom_cons (ne_return_of_hangs hcs)] at h
    split at h
    · obtain rfl : line.reverse = first := by simpa using h
      exact List.prefix_rfl
    · have hline := ih hcs.2 h
      rw [List.reverse_cons] at hline
      exact (List.prefix_append _ _).trans hline

/-- Every line but the first of a text that hangs starts with blanks. -/
theorem replicate_isPrefix_of_hangs (line : List Char) (h : Hangs m cs) :
    ∀ l ∈ (splitLinesFrom line cs).tail, List.replicate m ' ' <+: l := by
  -- on the text; a newline makes the next line one of those that count
  induction cs generalizing line with
  | nil =>
    rw [splitLinesFrom]
    split <;> simp
  | cons c cs ih =>
    rw [splitLinesFrom_cons (ne_return_of_hangs h)]
    by_cases hbreak : isLineBreak c = true
    · rw [if_pos hbreak, List.tail_cons]
      intro l hl
      cases hsplit : splitLinesFrom [] cs with
      | nil => simp [hsplit] at hl
      | cons first others =>
        rw [hsplit] at hl
        rcases List.mem_cons.mp hl with rfl | hl
        · -- the line right behind the newline
          obtain ⟨ds, rfl⟩ := (h.1 hbreak).2.2
          have hfirst : (splitLinesFrom (List.replicate m ' ') ds).head? = some l := by
            rw [splitLinesFrom_append [] (isOneLine_replicate m)] at hsplit
            simpa using congrArg List.head? hsplit
          simpa using isPrefix_of_head?_splitLinesFrom h.2.of_append hfirst
        · exact ih [] h.2 l (by rw [hsplit]; exact hl)
    · rw [if_neg hbreak]
      exact ih _ h.2

end ReplEngine.Text
