import ReplEngine.Text.Lines

/-!
# Cutting texts

What `takeRightWhile` and `cutAtLast?` give, said without the reversals in their definitions:
a text is what was dropped followed by what was taken, and a text is cut at the last occurrence
of a character exactly if the character does not occur in what follows.  At the start of a text
`takeWhile` takes a whole run of a class if the text behind does not go on with it (`Ends`).
Splitting at every occurrence of a character, and joining, are those of the library.
-/

namespace ReplEngine.Text

variable {p : Char → Bool} {cs a b : List Char} {c sep : Char}

/-- A test that fails at every code point of a table fails for the characters it covers: short
    tables are looked up one by one. -/
theorem eq_false_of_covers {table : List CodeRange}
    (htable : (table.all fun r => (List.range' r.first (r.last + 1 - r.first)).all fun n =>
      !p (Char.ofNat n)) = true) (hc : CodeRange.covers table c = true) : p c = false := by
  obtain ⟨r, hr, hcovers⟩ := List.any_eq_true.mp hc
  rw [Bool.and_eq_true, decide_eq_true_eq, decide_eq_true_eq] at hcovers
  -- the code point of the character is one of those that were tried
  have hcodes := List.all_eq_true.mp (List.all_eq_true.mp htable r hr) c.toNat
    (List.mem_range'_1.mpr (by omega))
  rw [Char.ofNat_toNat] at hcodes
  simpa using hcodes

/-- White space stands in no word. -/
theorem isWordChar_eq_false_of_isSpace (h : isSpace c = true) : isWordChar c = false :=
  eq_false_of_covers (by decide +kernel) h

/-- The letters of ASCII are those of two ranges. -/
theorem isAlpha_iff (c : Char) :
    c.isAlpha = true ↔ 'A' ≤ c ∧ c ≤ 'Z' ∨ 'a' ≤ c ∧ c ≤ 'z' := by
  have hranges : c.isAlpha = (decide (c.val ≥ 'A'.val ∧ c.val ≤ 'Z'.val) ||
      (decide (c.val ≥ 'a'.val) && decide (c.val ≤ 'z'.val))) := rfl
  simp [hranges, Char.le_def]

/-- The letters of ASCII are in ASCII. -/
theorem isAscii_of_isAlpha (h : c.isAlpha = true) : isAscii c = true := by
  have hcode : c.toNat < 0x80 := by
    have hranges := (isAlpha_iff c).mp h
    -- as code points, both ranges lie below the bound
    change 65 ≤ c.toNat ∧ c.toNat ≤ 90 ∨ 97 ≤ c.toNat ∧ c.toNat ≤ 122 at hranges
    omega
  exact decide_eq_true hcode

/-- What opens an ASCII word may stand in any word. -/
theorem isWordChar_of_isWordStart (h : isWordStart c = true) : isWordChar c = true := by
  rw [isWordStart, Bool.or_eq_true] at h
  rw [isWordChar, Bool.or_eq_true]
  refine h.imp_right fun halpha => ?_
  rw [isAlphanumeric, if_pos (isAscii_of_isAlpha halpha), Char.isAlphanum, halpha, Bool.true_or]

/-- Behind the last character that fails the test, all is taken. -/
theorem takeRightWhile_append_cons (hc : p c = false) (hb : ∀ x ∈ b, p x = true) :
    takeRightWhile p (a ++ c :: b) = b := by
  have hreverse : (a ++ c :: b).reverse = b.reverse ++ c :: a.reverse := by simp
  have hall : ∀ x ∈ b.reverse, p x = true := by simpa using hb
  rw [takeRightWhile, hreverse, List.takeWhile_append_of_pos hall, List.takeWhile_cons, hc]
  simp

/-- If no character fails the test, all is taken. -/
theorem takeRightWhile_of_all (hcs : ∀ x ∈ cs, p x = true) : takeRightWhile p cs = cs := by
  have hall : ∀ x ∈ cs.reverse, p x = true := by simpa using hcs
  rw [takeRightWhile, ← List.append_nil cs.reverse, List.takeWhile_append_of_pos hall]
  simp

/-- A text is cut where the character occurs and does not occur behind. -/
theorem cutAtLast?_append_cons (hb : sep ∉ b) : cutAtLast? sep (a ++ sep :: b) = some (a, b) := by
  have hall : ∀ x ∈ b, (x != sep) = true := by
    intro x hx
    exact bne_iff_ne.mpr (fun h => hb (h ▸ hx))
  -- what is behind the last occurrence has no other
  have hafter : takeRightWhile (· != sep) (a ++ sep :: b) = b :=
    takeRightWhile_append_cons (by simp) hall
  have hlength : (a ++ sep :: b).length - b.length - 1 = a.length := by
    simp only [List.length_append, List.length_cons]
    omega
  rw [cutAtLast?]
  simp only [hafter, hlength, List.take_left]
  rw [if_pos (by simp only [List.length_append, List.length_cons]; omega)]

/-- Without the character nothing is cut. -/
theorem cutAtLast?_of_not_mem (h : sep ∉ cs) : cutAtLast? sep cs = none := by
  have hall : ∀ x ∈ cs, (x != sep) = true := by
    intro x hx
    exact bne_iff_ne.mpr (fun heq => h (heq ▸ hx))
  simp [cutAtLast?, takeRightWhile_of_all hall]

/-- A character that occurs has a last occurrence. -/
theorem exists_last_of_mem (h : sep ∈ cs) : ∃ a b, cs = a ++ sep :: b ∧ sep ∉ b := by
  obtain ⟨b, a, hcs, hb⟩ := List.eq_append_cons_of_mem (List.mem_reverse.mpr h)
  refine ⟨a.reverse, b.reverse, ?_, by simpa using hb⟩
  rw [← List.reverse_reverse cs, hcs]
  simp

/-- A text is cut at the last occurrence of the character. -/
theorem cutAtLast?_eq_some_iff :
    cutAtLast? sep cs = some (a, b) ↔ cs = a ++ sep :: b ∧ sep ∉ b := by
  constructor
  · intro h
    by_cases hmem : sep ∈ cs
    · obtain ⟨a', b', rfl, hb⟩ := exists_last_of_mem hmem
      rw [cutAtLast?_append_cons hb, Option.some.injEq, Prod.mk.injEq] at h
      obtain ⟨rfl, rfl⟩ := h
      exact ⟨rfl, hb⟩
    · rw [cutAtLast?_of_not_mem hmem] at h
      cases h
  · rintro ⟨rfl, hb⟩
    exact cutAtLast?_append_cons hb

theorem cutAtLast?_eq_none_iff : cutAtLast? sep cs = none ↔ sep ∉ cs := by
  constructor
  · intro h hmem
    obtain ⟨a, b, rfl, hb⟩ := exists_last_of_mem hmem
    rw [cutAtLast?_append_cons hb] at h
    cases h
  · exact cutAtLast?_of_not_mem

/-! ### Runs at the start -/

/-- The text does not start with a character of a class. -/
def Ends (p : Char → Bool) (rest : List Char) : Prop :=
  ∀ c, rest.head? = some c → p c = false

/-- An empty text starts with nothing. -/
theorem Ends.nil (p : Char → Bool) : Ends p [] := by
  intro c hc
  cases hc

/-- A text that starts with a character outside the class. -/
theorem Ends.cons (hc : p c = false) (rest : List Char) : Ends p (c :: rest) := by
  intro d hd
  rwa [← Option.some.inj hd]

/-- What is left behind a run does not go on with it. -/
theorem ends_dropWhile (p : Char → Bool) (cs : List Char) : Ends p (cs.dropWhile p) := by
  intro c hc
  have hfirst := List.head?_dropWhile_not p cs
  rw [hc] at hfirst
  simpa using hfirst

/-- A run ends where the class does. -/
theorem takeWhile_append_of_ends (ha : ∀ x ∈ a, p x = true) (hb : Ends p b) :
    (a ++ b).takeWhile p = a ∧ (a ++ b).dropWhile p = b := by
  rw [List.takeWhile_append_of_pos ha, List.dropWhile_append_of_pos ha]
  cases b with
  | nil => simp
  | cons c b => simp [hb c rfl]

/-- White space around a text without any is cut off. -/
theorem trim_append {lead last : List Char} (hlead : ∀ x ∈ lead, isSpace x = true)
    (hlast : ∀ x ∈ last, isSpace x = true) (hcs : ∀ x ∈ cs, isSpace x = false) (hne : cs ≠ []) :
    trim (lead ++ (cs ++ last)) = cs := by
  have hfirst : Ends isSpace (cs ++ last) := by
    obtain ⟨c, rest, rfl⟩ := List.exists_cons_of_ne_nil hne
    exact .cons (hcs c List.mem_cons_self) _
  have hreversed : ∀ x ∈ last.reverse, isSpace x = true :=
    fun x hx => hlast x (List.mem_reverse.mp hx)
  -- read from the end, the white space stops at the text
  have hends : Ends isSpace cs.reverse :=
    fun c hc => hcs c (List.mem_reverse.mp (List.mem_of_head? hc))
  rw [trim, trimLeft, trimRight, dropRightWhile, (takeWhile_append_of_ends hlead hfirst).2,
    List.reverse_append, (takeWhile_append_of_ends hreversed hends).2, List.reverse_reverse]

/-! ### Splitting and joining -/

/-- Splitting at a character is that of the library. -/
theorem splitAtChar_eq_splitOn (sep : Char) (cs : List Char) :
    splitAtChar sep cs = cs.splitOn sep := by
  -- on the text; a character goes to the first piece, and there is one
  induction cs with
  | nil => rfl
  | cons c cs ih =>
    rw [splitAtChar, List.splitOn_cons_eq_if_modifyHead, ih]
    split
    · rfl
    · cases h : cs.splitOn sep with
      | nil => exact absurd h (List.splitOn_ne_nil sep cs)
      | cons piece pieces => rfl

theorem joinWith_eq_intercalate (sep : List Char) (pieces : List (List Char)) :
    joinWith sep pieces = sep.intercalate pieces := by
  induction pieces with
  | nil => rfl
  | cons piece pieces ih =>
    cases pieces with
    | nil => simp [joinWith]
    | cons next pieces =>
      rw [joinWith, List.intercalate_cons_cons, ih]
      simp

/-- What is joined has no characters but those of the pieces and the separator. -/
theorem forall_mem_intercalate {P : Char → Prop} {ps : List (List Char)} {sep : List Char}
    (hsep : ∀ c ∈ sep, P c) (h : ∀ p ∈ ps, ∀ c ∈ p, P c) : ∀ c ∈ sep.intercalate ps, P c := by
  intro c hc
  -- on the pieces; the separator stands between two of them
  induction ps with
  | nil => cases hc
  | cons p ps ih =>
    cases ps with
    | nil =>
      rw [List.intercalate_singleton] at hc
      exact h p List.mem_cons_self c hc
    | cons q ps =>
      rw [List.intercalate_cons_cons, List.mem_append, List.mem_append] at hc
      rcases hc with (hc | hc) | hc
      · exact h p List.mem_cons_self c hc
      · exact hsep c hc
      · exact ih (fun p hp => h p (List.mem_cons_of_mem _ hp)) hc

/-- The pieces between the occurrences of a character do not hold it. -/
theorem not_mem_of_mem_splitOn {piece : List Char} (h : piece ∈ cs.splitOn sep) :
    sep ∉ piece := by
  -- on the text
  induction cs generalizing piece with
  | nil =>
    rw [List.splitOn_nil, List.mem_singleton] at h
    simp [h]
  | cons c cs ih =>
    rw [List.splitOn_cons_eq_if_modifyHead] at h
    split at h
    · rcases List.mem_cons.mp h with rfl | h
      · exact List.not_mem_nil
      · exact ih h
    · next hc =>
      obtain ⟨first, others, hsplit⟩ := List.exists_cons_of_ne_nil (List.splitOn_ne_nil sep cs)
      rw [hsplit] at h ih
      rcases List.mem_cons.mp h with rfl | h
      · -- the character in front of the first piece is none to split at
        have hne : sep ≠ c := fun heq => hc (by simp [heq])
        simp [hne, ih List.mem_cons_self]
      · exact ih (List.mem_cons_of_mem _ h)

end ReplEngine.Text
