import ReplEngine.Expansion
import ReplEngine.Proofs.Text.Cutting

/-!
# Reading lines piece by piece

What the patterns of the built-in rules find, read from left to right without trying anything
twice.  Each reader takes a piece off the start of a text.  Its specification says what the piece
is and where it stops, so that the piece is determined by the text: a word or a gap is taken as
long as the text goes on with characters of its class.

## Key results

- `takeWord?_eq_some_iff`, `takeGap?_eq_some_iff`, `takeText?_eq_some_iff`: what is taken
- `length_le_of_isWord`: the word that is taken is the longest
- `splitOn_mapLines`: mapping lines maps the pieces between newlines
-/

namespace ReplEngine.Expansion

open Text (Ends)

/-! ### The readers -/

/-- The blanks inside a line. -/
def isGap (c : Char) : Bool :=
  c == ' ' || c == '\t'

/-- The characters of a dotted path. -/
def isPathChar (c : Char) : Bool :=
  Text.isWordChar c || c == '.'

/-- The word at the start of a text, and the text behind it.  A word opens with a letter or an
    underscore, and goes on with the characters of a class. -/
def takeWord? (inWord : Char → Bool) : List Char → Option (List Char × List Char)
  | [] => none
  | c :: rest =>
    if Text.isWordStart c then some (c :: rest.takeWhile inWord, rest.dropWhile inWord) else none

/-- The name at the start of a text, and the text behind it. -/
def takeName? : List Char → Option (List Char × List Char) :=
  takeWord? Text.isWordChar

/-- The path at the start of a text, and the text behind it. -/
def takePath? : List Char → Option (List Char × List Char) :=
  takeWord? isPathChar

/-- The text behind its leading blanks, of which there is at least one. -/
def takeGap? : List Char → Option (List Char)
  | [] => none
  | c :: rest => if isGap c then some (rest.dropWhile isGap) else none

/-- The text behind a given lead. -/
def takeText? (lead : List Char) (cs : List Char) : Option (List Char) :=
  if lead.isPrefixOf cs then some (cs.drop lead.length) else none

/-- The text behind a comma, and behind the blanks around the comma. -/
def takeComma? (cs : List Char) : Option (List Char) :=
  match cs.dropWhile isGap with
  | ',' :: rest => some (rest.dropWhile isGap)
  | _ => none

/-- Names separated by commas, and the text behind the last one.  `fuel` bounds their number. -/
def takeNames? : Nat → List Char → Option (List (List Char) × List Char)
  | 0, _ => none
  | fuel + 1, cs => do
    let (name, rest) ← takeName? cs
    match (takeComma? rest).bind (takeNames? fuel) with
    | some (names, behind) => return (name :: names, behind)
    | none => return ([name], rest)

/-- Whether only blanks and at most one semicolon are left. -/
def isLineTail (cs : List Char) : Bool :=
  match cs.dropWhile isGap with
  | ';' :: rest => rest.all isGap
  | rest => rest.isEmpty

/-- The new names that the rest of a `use` line gives. -/
def takeAliases? (cs : List Char) : Option (List (List Char)) := do
  let rest ← takeText? ['a', 's'] (← takeGap? cs)
  let (aliases, rest) ← takeNames? rest.length (← takeGap? rest)
  if isLineTail rest then some aliases else none

/-- The new names that the rest of a `use` line gives, of which there may be none. -/
def restAliases? (cs : List Char) : Option (List (List Char)) :=
  (takeAliases? cs).or (if isLineTail cs then some [] else none)

/-- Reads a `use` line. -/
def UseClause.ofLine? (line : List Char) : Option UseClause := do
  let rest ← takeText? ['u', 's', 'e'] (line.dropWhile isGap)
  let (path, rest) ← takePath? (← takeGap? rest)
  return ⟨line.takeWhile isGap, path, ← restAliases? rest⟩

/-- Expands a line if it is a `use` line. -/
def useLine (line : List Char) : List Char :=
  match UseClause.ofLine? line with
  | some clause => clause.render
  | none => line

/-- The first splice of a line: the text before it, the name of the variable, and the text behind
    it. -/
def findSplice? : List Char → Option (List Char × List Char × List Char)
  | [] => none
  | c :: rest =>
    let further := (findSplice? rest).map fun (before, name, after) => (c :: before, name, after)
    match c, rest with
    | '~', '@' :: more =>
      match takeName? more with
      | some (name, after) => some ([], name, after)
      | none => further
    | _, _ => further

/-- Expands the first splice of a line. -/
def spliceLine (line : List Char) : List Char :=
  match findSplice? line with
  | none => line
  | some (before, name, after) => spliced before name after

/-- Maps the lines of a text. -/
def mapLines (f : List Char → List Char) (text : List Char) : List Char :=
  Text.joinWith ['\n'] ((Text.splitAtNewlines text).map f)

variable {inWord : Char → Bool} {cs word rest : List Char}

/-! ### Words -/

/-- A letter or an underscore, followed by characters of a class. -/
def isWord (inWord : Char → Bool) : List Char → Bool
  | [] => false
  | c :: rest => Text.isWordStart c && rest.all inWord

/-- The parts of a word. -/
theorem exists_of_isWord (h : isWord inWord word = true) :
    ∃ c cs, word = c :: cs ∧ Text.isWordStart c = true ∧ ∀ d ∈ cs, inWord d = true := by
  cases word with
  | nil => simp [isWord] at h
  | cons c cs => exact ⟨c, cs, rfl, by simpa [isWord] using h⟩

/-- A word is taken as far as its class goes. -/
theorem takeWord?_eq_some_iff :
    takeWord? inWord cs = some (word, rest) ↔
      cs = word ++ rest ∧ isWord inWord word = true ∧ Ends inWord rest := by
  constructor
  · intro h
    cases cs with
    | nil => cases h
    | cons c cs =>
      rw [takeWord?] at h
      split at h
      · -- the first character may start a word, and the others are a run
        next hc =>
        rw [Option.some.injEq, Prod.mk.injEq] at h
        obtain ⟨rfl, rfl⟩ := h
        refine ⟨?_, ?_, Text.ends_dropWhile _ _⟩
        · rw [List.cons_append, List.takeWhile_append_dropWhile]
        · rw [isWord, hc, List.all_takeWhile, Bool.and_self]
      · cases h
  · rintro ⟨rfl, hword, hrest⟩
    obtain ⟨c, ds, rfl, hc, hds⟩ := exists_of_isWord hword
    -- the class stops where the rest starts
    have htaken := Text.takeWhile_append_of_ends hds hrest
    rw [List.cons_append, takeWord?, if_pos hc, htaken.1, htaken.2]

/-- Where a word can start, one is taken. -/
theorem isSome_takeWord? {c : Char} (hc : Text.isWordStart c = true) :
    (takeWord? inWord (c :: rest)).isSome = true := by
  rw [takeWord?, if_pos hc]
  rfl

/-- A word that the text does not go on with is the longest one there. -/
theorem length_le_of_isWord (hrest : Ends inWord rest) {other : List Char}
    (hword : isWord inWord word = true) (hother : isWord inWord other = true)
    (hstart : other <+: word ++ rest) : other.length ≤ word.length := by
  obtain ⟨behind, hbehind⟩ := hstart
  obtain ⟨c, ds, rfl, hc, hds⟩ := exists_of_isWord hword
  obtain ⟨d, es, rfl, hd, hes⟩ := exists_of_isWord hother
  rw [List.cons_append, List.cons_append, List.cons.injEq] at hbehind
  -- the other word lies within the run that the word takes
  have htaken := (Text.takeWhile_append_of_ends hds hrest).1
  rw [← hbehind.2, List.takeWhile_append_of_pos hes] at htaken
  simp [← htaken]

/-! ### Gaps and fixed texts -/

/-- A gap is taken as far as its blanks go, and is not empty. -/
theorem takeGap?_eq_some_iff :
    takeGap? cs = some rest ↔
      ∃ gap, gap ≠ [] ∧ gap.all isGap = true ∧ cs = gap ++ rest ∧ Ends isGap rest := by
  constructor
  · intro h
    cases cs with
    | nil => cases h
    | cons c cs =>
      rw [takeGap?] at h
      split at h
      · next hc =>
        cases h
        refine ⟨c :: cs.takeWhile isGap, by simp, ?_, ?_, Text.ends_dropWhile _ _⟩
        · rw [List.all_cons, hc, List.all_takeWhile, Bool.and_self]
        · rw [List.cons_append, List.takeWhile_append_dropWhile]
      · cases h
  · rintro ⟨gap, hne, hgap, rfl, hrest⟩
    -- the first blank has to be there, and the others are a run
    obtain ⟨c, gap, rfl⟩ := List.exists_cons_of_ne_nil hne
    rw [List.all_cons, Bool.and_eq_true, List.all_eq_true] at hgap
    rw [List.cons_append, takeGap?, if_pos hgap.1,
      (Text.takeWhile_append_of_ends hgap.2 hrest).2]

/-- A given text is taken if it stands at the start. -/
theorem takeText?_eq_some_iff {lead : List Char} :
    takeText? lead cs = some rest ↔ cs = lead ++ rest := by
  rw [takeText?]
  constructor
  · intro h
    split at h
    · -- the lead is dropped
      next hlead =>
      obtain ⟨behind, rfl⟩ := List.isPrefixOf_iff_prefix.mp hlead
      rw [List.drop_left] at h
      rw [Option.some.inj h]
    · cases h
  · rintro rfl
    rw [if_pos (List.isPrefixOf_iff_prefix.mpr (List.prefix_append _ _)), List.drop_left]

/-! ### Lines -/

/-- Lines are mapped between the newlines. -/
theorem mapLines_eq (f : List Char → List Char) (text : List Char) :
    mapLines f text = ['\n'].intercalate ((text.splitOn '\n').map f) := by
  rw [mapLines, Text.joinWith_eq_intercalate, Text.splitAtNewlines, Text.splitAtChar_eq_splitOn]

/-- Only what is done with texts of one line matters. -/
theorem mapLines_congr {f g : List Char → List Char}
    (h : ∀ line, '\n' ∉ line → f line = g line) (text : List Char) :
    mapLines f text = mapLines g text := by
  rw [mapLines_eq, mapLines_eq, List.map_congr_left]
  exact fun line hline => h line (Text.not_mem_of_mem_splitOn hline)

/-- A text of one line is mapped as a whole. -/
theorem mapLines_of_not_mem (f : List Char → List Char) {line : List Char} (h : '\n' ∉ line) :
    mapLines f line = f line := by
  rw [mapLines_eq, List.splitOn_eq_singleton h, List.map_singleton, List.intercalate_singleton]

/-- What is mapped line by line has the mapped lines, if none of them is broken. -/
theorem splitOn_mapLines {f : List Char → List Char} (hf : ∀ line, '\n' ∉ line → '\n' ∉ f line)
    (text : List Char) : (mapLines f text).splitOn '\n' = (text.splitOn '\n').map f := by
  rw [mapLines_eq]
  apply List.splitOn_intercalate
  · intro mapped hmapped
    obtain ⟨line, hline, rfl⟩ := List.mem_map.mp hmapped
    exact hf line (Text.not_mem_of_mem_splitOn hline)
  · simp [List.splitOn_ne_nil]

end ReplEngine.Expansion
