import Mathlib.Data.List.Forall2
import ReplEngine.Proofs.Expansion.Readers

/-!
# The grammar of `use` lines

How a `use` line is spelled, apart from how it is read.  The readers take blanks, words and paths
as far as they go, and the grammar lets no piece go on where the next one starts, so that they
accept exactly the lines of the grammar, however these are spaced.

## Key results

- `takeNames?_sound`, `takeNames?_complete`: the list of new names
- `ofLine?_eq_some_iff`: a line is read exactly if it is spelled as the grammar says
-/

namespace ReplEngine.Expansion

open Text (Ends isWordStart isWordChar)

/-! ### How a line is spelled -/

/-- Names with a comma between neighbours, and blanks around the commas. -/
inductive SpellsNames : List Char → List (List Char) → Prop
  | last {name : List Char} (hname : isWord isWordChar name = true) : SpellsNames name [name]
  | more {name gap gap' text : List Char} {names : List (List Char)}
      (hname : isWord isWordChar name = true) (hgap : gap.all isGap = true)
      (hgap' : gap'.all isGap = true) (hmore : SpellsNames text names) :
      SpellsNames (name ++ (gap ++ ',' :: (gap' ++ text))) (name :: names)

/-- The part of a line that gives new names, which may be missing. -/
inductive SpellsAliases : List Char → List (List Char) → Prop
  | missing : SpellsAliases [] []
  | given {gap gap' text : List Char} {names : List (List Char)} (hne : gap ≠ [])
      (hgap : gap.all isGap = true) (hne' : gap' ≠ []) (hgap' : gap'.all isGap = true)
      (hnames : SpellsNames text names) :
      SpellsAliases (gap ++ (['a', 's'] ++ (gap' ++ text))) names

/-- Blanks, and a semicolon among them or none. -/
def IsLineEnd (cs : List Char) : Prop :=
  ∃ gap gap', gap.all isGap = true ∧ gap'.all isGap = true ∧ (cs = gap ∨ cs = gap ++ ';' :: gap')

/-- The line spells a clause: its indent, the word `use`, a path, maybe new names, and an end. -/
inductive Spells : List Char → UseClause → Prop
  | intro {indent gap path part last : List Char} {aliases : List (List Char)}
      (hindent : indent.all isGap = true) (hne : gap ≠ []) (hgap : gap.all isGap = true)
      (hpath : isWord isPathChar path = true) (hpart : SpellsAliases part aliases)
      (hlast : IsLineEnd last) :
      Spells (indent ++ (['u', 's', 'e'] ++ (gap ++ (path ++ (part ++ last)))))
        ⟨indent, path, aliases⟩

/-! ### Where pieces stop -/

variable {p : Char → Bool} {cs gap rest text last name : List Char} {names : List (List Char)}

/-- There are two blanks. -/
theorem eq_of_isGap {c : Char} (h : isGap c = true) : c = ' ' ∨ c = '\t' := by
  simpa [isGap] using h

/-- No word starts with a blank. -/
theorem isGap_eq_false_of_isWordStart {c : Char} (h : isWordStart c = true) :
    isGap c = false := by
  rw [Bool.eq_false_iff]
  intro hgap
  rcases eq_of_isGap hgap with rfl | rfl
  · exact absurd h (by decide)
  · exact absurd h (by decide)

/-- A gap stops where a word starts. -/
theorem ends_of_isWord {inWord : Char → Bool} (h : isWord inWord name = true) (rest : List Char) :
    Ends isGap (name ++ rest) := by
  obtain ⟨c, cs, rfl, hc, -⟩ := exists_of_isWord h
  exact .cons (isGap_eq_false_of_isWordStart hc) _

/-- A class without blanks stops at a gap, or at what stands behind the gap. -/
theorem ends_gap_append (hspace : p ' ' = false) (htab : p '\t' = false)
    (hgap : gap.all isGap = true) (hrest : Ends p rest) : Ends p (gap ++ rest) := by
  cases gap with
  | nil => exact hrest
  | cons c gap =>
    rw [List.all_cons, Bool.and_eq_true] at hgap
    rcases eq_of_isGap hgap.1 with rfl | rfl
    · exact .cons hspace _
    · exact .cons htab _

/-- A class without blanks and semicolons stops at the end of a line. -/
theorem IsLineEnd.ends (h : IsLineEnd last) (hspace : p ' ' = false) (htab : p '\t' = false)
    (hsemicolon : p ';' = false) : Ends p last := by
  obtain ⟨gap, gap', hgap, -, rfl | rfl⟩ := h
  · have hends := ends_gap_append hspace htab hgap (.nil p)
    rwa [List.append_nil] at hends
  · exact ends_gap_append hspace htab hgap (.cons hsemicolon gap')

/-- The end of a line is made of blanks and semicolons. -/
theorem IsLineEnd.eq_or (h : IsLineEnd last) {c : Char} (hc : c ∈ last) :
    isGap c = true ∨ c = ';' := by
  obtain ⟨gap, gap', hgap, hgap', rfl | rfl⟩ := h
  · exact .inl (List.all_eq_true.mp hgap c hc)
  · rw [List.mem_append, List.mem_cons] at hc
    rcases hc with hc | hc | hc
    · exact .inl (List.all_eq_true.mp hgap c hc)
    · exact .inr hc
    · exact .inl (List.all_eq_true.mp hgap' c hc)

/-- What counts as the tail of a line is the end of one. -/
theorem isLineTail_iff : isLineTail cs = true ↔ IsLineEnd cs := by
  constructor
  · intro h
    have hcs := List.takeWhile_append_dropWhile (p := isGap) (l := cs)
    rw [isLineTail] at h
    split at h
    · -- behind the first gap there is a semicolon
      next rest hrest =>
      exact ⟨cs.takeWhile isGap, rest, List.all_takeWhile, h, .inr (by rw [← hrest, hcs])⟩
    · rw [List.isEmpty_iff] at h
      refine ⟨cs.takeWhile isGap, [], List.all_takeWhile, rfl, .inl ?_⟩
      rw [h, List.append_nil] at hcs
      exact hcs.symm
  · rintro ⟨gap, gap', hgap, hgap', rfl | rfl⟩
    · have hdropped := (Text.takeWhile_append_of_ends (List.all_eq_true.mp hgap) (.nil isGap)).2
      rw [List.append_nil] at hdropped
      rw [isLineTail, hdropped]
      rfl
    · have hends : Ends isGap (';' :: gap') := .cons (by decide) _
      rw [isLineTail, (Text.takeWhile_append_of_ends (List.all_eq_true.mp hgap) hends).2]
      exact hgap'

/-! ### The list of new names -/

/-- A gap stops where a list of names starts. -/
theorem SpellsNames.ends (h : SpellsNames text names) (rest : List Char) :
    Ends isGap (text ++ rest) := by
  cases h with
  | last hname => exact ends_of_isWord hname rest
  | more hname hgap hgap' hmore =>
    rw [List.append_assoc]
    exact ends_of_isWord hname _

/-- The names of a list are words. -/
theorem SpellsNames.isWord_of_mem (h : SpellsNames text names) :
    ∀ name ∈ names, isWord isWordChar name = true := by
  -- along the commas
  induction h with
  | last hname => simpa using hname
  | more hname hgap hgap' hmore ih => simpa using ⟨hname, ih⟩

/-- Every name takes a character at least. -/
theorem SpellsNames.length_le (h : SpellsNames text names) : names.length ≤ text.length := by
  induction h with
  | last hname =>
    obtain ⟨c, cs, rfl, -⟩ := exists_of_isWord hname
    simp
  | more hname hgap hgap' hmore ih =>
    simp only [List.length_append, List.length_cons]
    omega

/-- A comma is taken with all the blanks around it. -/
theorem takeComma?_eq_some_iff :
    takeComma? cs = some rest ↔ ∃ gap gap', gap.all isGap = true ∧ gap'.all isGap = true ∧
      cs = gap ++ ',' :: (gap' ++ rest) ∧ Ends isGap rest := by
  rw [takeComma?]
  constructor
  · intro h
    split at h
    · next after hafter =>
      cases h
      refine ⟨cs.takeWhile isGap, after.takeWhile isGap, List.all_takeWhile, List.all_takeWhile,
        ?_, Text.ends_dropWhile _ _⟩
      rw [List.takeWhile_append_dropWhile, ← hafter, List.takeWhile_append_dropWhile]
    · cases h
  · rintro ⟨gap, gap', hgap, hgap', rfl, hrest⟩
    -- the comma stops the first gap, and the second one stops at the rest
    have hcomma : Ends isGap (',' :: (gap' ++ rest)) := .cons (by decide) _
    rw [(Text.takeWhile_append_of_ends (List.all_eq_true.mp hgap) hcomma).2]
    show some ((gap' ++ rest).dropWhile isGap) = some rest
    rw [(Text.takeWhile_append_of_ends (List.all_eq_true.mp hgap') hrest).2]

/-- What is taken as names is spelled as names. -/
theorem takeNames?_sound {fuel : Nat} (h : takeNames? fuel cs = some (names, rest)) :
    ∃ text, cs = text ++ rest ∧ SpellsNames text names := by
  induction fuel generalizing cs names rest with
  | zero => cases h
  | succ fuel ih =>
    rw [takeNames?] at h
    obtain ⟨⟨name, behind⟩, hname, htaken⟩ := Option.bind_eq_some_iff.mp h
    -- a name is taken; then a comma and more names, or nothing further
    obtain ⟨rfl, hword, -⟩ := takeWord?_eq_some_iff.mp hname
    dsimp only at htaken
    split at htaken
    · next others rest' hmore =>
      cases htaken
      obtain ⟨after, hcomma, hafter⟩ := Option.bind_eq_some_iff.mp hmore
      obtain ⟨gap, gap', hgap, hgap', rfl, -⟩ := takeComma?_eq_some_iff.mp hcomma
      obtain ⟨text, rfl, hnames⟩ := ih hafter
      exact ⟨name ++ (gap ++ ',' :: (gap' ++ text)), by simp, .more hword hgap hgap' hnames⟩
    · cases htaken
      exact ⟨name, rfl, .last hword⟩

/-- Names are taken whole in front of the end of a line: no comma follows the last one. -/
theorem takeNames?_complete (h : SpellsNames text names) {fuel : Nat} (hfuel : names.length ≤ fuel)
    (hlast : IsLineEnd last) : takeNames? fuel (text ++ last) = some (names, last) := by
  induction h generalizing fuel with
  | @last name hname =>
    -- a comma behind the last name would be one of the end of the line
    obtain _ | fuel := fuel
    · simp at hfuel
    have htaken : takeName? (name ++ last) = some (name, last) :=
      takeWord?_eq_some_iff.mpr ⟨rfl, hname, hlast.ends (by decide) (by decide) (by decide)⟩
    have hcomma : takeComma? last = none := by
      rw [Option.eq_none_iff_forall_ne_some]
      intro after hafter
      obtain ⟨gap, gap', -, -, rfl, -⟩ := takeComma?_eq_some_iff.mp hafter
      exact absurd (hlast.eq_or (c := ',') (by simp)) (by decide)
    simp [takeNames?, htaken, hcomma]
  | @more name gap gap' text names hname hgap hgap' hmore ih =>
    -- the name ends at the gap or the comma, and the reader goes on behind the comma
    obtain _ | fuel := fuel
    · simp at hfuel
    have hends : Ends isWordChar (gap ++ ',' :: (gap' ++ (text ++ last))) :=
      ends_gap_append (by decide) (by decide) hgap (.cons (by decide) _)
    have htaken : takeName? (name ++ (gap ++ ',' :: (gap' ++ (text ++ last)))) =
        some (name, gap ++ ',' :: (gap' ++ (text ++ last))) :=
      takeWord?_eq_some_iff.mpr ⟨rfl, hname, hends⟩
    have hcomma : takeComma? (gap ++ ',' :: (gap' ++ (text ++ last))) = some (text ++ last) :=
      takeComma?_eq_some_iff.mpr ⟨gap, gap', hgap, hgap', rfl, hmore.ends last⟩
    have hnames : takeNames? fuel (text ++ last) = some (names, last) :=
      ih (Nat.le_of_succ_le_succ hfuel)
    simp [takeNames?, htaken, hcomma, hnames]

/-! ### Reading a line -/

/-- New names are read exactly if they are spelled behind `as`, with nothing behind them. -/
theorem takeAliases?_eq_some_iff :
    takeAliases? cs = some names ↔ ∃ gap gap' text last, gap ≠ [] ∧ gap.all isGap = true ∧
      gap' ≠ [] ∧ gap'.all isGap = true ∧ SpellsNames text names ∧ IsLineEnd last ∧
      cs = gap ++ (['a', 's'] ++ (gap' ++ (text ++ last))) := by
  constructor
  · intro h
    rw [takeAliases?] at h
    obtain ⟨word, hword, h⟩ := Option.bind_eq_some_iff.mp h
    obtain ⟨behind, hbehind, h⟩ := Option.bind_eq_some_iff.mp h
    obtain ⟨list, hlist, h⟩ := Option.bind_eq_some_iff.mp h
    obtain ⟨⟨others, last⟩, hothers, h⟩ := Option.bind_eq_some_iff.mp h
    dsimp only at h
    split at h
    · next htail =>
      cases h
      -- each step of the reader gives one piece of the spelling
      obtain ⟨gap, hne, hgap, rfl, -⟩ := takeGap?_eq_some_iff.mp hword
      obtain rfl := takeText?_eq_some_iff.mp hbehind
      obtain ⟨gap', hne', hgap', rfl, -⟩ := takeGap?_eq_some_iff.mp hlist
      obtain ⟨text, rfl, hnames⟩ := takeNames?_sound hothers
      exact ⟨gap, gap', text, last, hne, hgap, hne', hgap', hnames, isLineTail_iff.mp htail, rfl⟩
    · cases h
  · rintro ⟨gap, gap', text, last, hne, hgap, hne', hgap', hnames, hlast, rfl⟩
    -- each piece stops where the next one starts, so that it is taken whole
    have hword : takeGap? (gap ++ (['a', 's'] ++ (gap' ++ (text ++ last)))) =
        some (['a', 's'] ++ (gap' ++ (text ++ last))) :=
      takeGap?_eq_some_iff.mpr ⟨gap, hne, hgap, rfl, .cons (by decide) _⟩
    have hbehind : takeText? ['a', 's'] (['a', 's'] ++ (gap' ++ (text ++ last))) =
        some (gap' ++ (text ++ last)) := takeText?_eq_some_iff.mpr rfl
    have hlist : takeGap? (gap' ++ (text ++ last)) = some (text ++ last) :=
      takeGap?_eq_some_iff.mpr ⟨gap', hne', hgap', rfl, hnames.ends last⟩
    -- every name takes a place, so that the length of the text is fuel enough
    have hfuel : names.length ≤ (gap' ++ (text ++ last)).length := by
      have hlength := hnames.length_le
      simp only [List.length_append]
      omega
    have hothers := takeNames?_complete hnames hfuel hlast
    simp only [takeAliases?, Option.bind_eq_bind, hword, hbehind, hlist, hothers, Option.bind_some,
      isLineTail_iff.mpr hlast, if_true]

/-- The rest of a line is read exactly if it gives new names or none, and ends. -/
theorem restAliases?_eq_some_iff :
    restAliases? cs = some names ↔
      ∃ part last, SpellsAliases part names ∧ IsLineEnd last ∧ cs = part ++ last := by
  rw [restAliases?, Option.or_eq_some_iff]
  constructor
  · rintro (h | ⟨-, h⟩)
    · obtain ⟨gap, gap', text, last, hne, hgap, hne', hgap', hnames, hlast, rfl⟩ :=
        takeAliases?_eq_some_iff.mp h
      exact ⟨_, last, .given hne hgap hne' hgap' hnames, hlast, by simp⟩
    · split at h
      · next htail =>
        cases h
        exact ⟨[], cs, .missing, isLineTail_iff.mp htail, rfl⟩
      · cases h
  · rintro ⟨part, last, hpart, hlast, rfl⟩
    cases hpart with
    | missing =>
      refine .inr ⟨?_, by simp [isLineTail_iff.mpr hlast]⟩
      rw [Option.eq_none_iff_forall_ne_some]
      intro names hnames
      -- the end of a line has no letters
      obtain ⟨gap, gap', text, stop, -, -, -, -, -, -, heq⟩ := takeAliases?_eq_some_iff.mp hnames
      have hmem : 'a' ∈ last := by
        rw [List.nil_append] at heq
        simp [heq]
      exact absurd (hlast.eq_or hmem) (by decide)
    | @given gap gap' text _ hne hgap hne' hgap' hnames =>
      exact .inl (takeAliases?_eq_some_iff.mpr
        ⟨gap, gap', text, last, hne, hgap, hne', hgap', hnames, hlast, by simp⟩)

/-- A path stops where new names start, or where the line ends. -/
theorem SpellsAliases.ends {part : List Char} (h : SpellsAliases part names)
    (hlast : IsLineEnd last) : Ends isPathChar (part ++ last) := by
  cases h with
  | missing => exact hlast.ends (by decide) (by decide) (by decide)
  | given hne hgap hne' hgap' hnames =>
    obtain ⟨c, gap, rfl⟩ := List.exists_cons_of_ne_nil hne
    rw [List.all_cons, Bool.and_eq_true] at hgap
    rcases eq_of_isGap hgap.1 with rfl | rfl
    · exact .cons (by decide) _
    · exact .cons (by decide) _

/-- A line is read exactly if it spells a clause. -/
theorem ofLine?_eq_some_iff {line : List Char} {u : UseClause} :
    UseClause.ofLine? line = some u ↔ Spells line u := by
  constructor
  · intro h
    rw [UseClause.ofLine?] at h
    obtain ⟨word, hword, h⟩ := Option.bind_eq_some_iff.mp h
    obtain ⟨behind, hbehind, h⟩ := Option.bind_eq_some_iff.mp h
    obtain ⟨⟨path, rest⟩, hpath, h⟩ := Option.bind_eq_some_iff.mp h
    obtain ⟨aliases, haliases, h⟩ := Option.bind_eq_some_iff.mp h
    cases h
    -- the steps of the reader, put together again
    have hline := List.takeWhile_append_dropWhile (p := isGap) (l := line)
    rw [takeText?_eq_some_iff.mp hword] at hline
    obtain ⟨gap, hne, hgap, rfl, -⟩ := takeGap?_eq_some_iff.mp hbehind
    obtain ⟨rfl, hisPath, -⟩ := takeWord?_eq_some_iff.mp hpath
    obtain ⟨part, last, hpart, hlast, rfl⟩ := restAliases?_eq_some_iff.mp haliases
    have hspells := Spells.intro (List.all_takeWhile (p := isGap) (l := line)) hne hgap hisPath
      hpart hlast
    rwa [hline] at hspells
  · rintro ⟨hindent, hne, hgap, hisPath, hpart, hlast⟩
    next indent gap path part last aliases =>
    have hword : Ends isGap (['u', 's', 'e'] ++ (gap ++ (path ++ (part ++ last)))) :=
      .cons (by decide) _
    -- each step takes a piece whole and leaves the rest of the spelling
    have htaken := Text.takeWhile_append_of_ends (List.all_eq_true.mp hindent) hword
    have hrest : takeText? ['u', 's', 'e'] (['u', 's', 'e'] ++ (gap ++ (path ++ (part ++ last)))) =
        some (gap ++ (path ++ (part ++ last))) := takeText?_eq_some_iff.mpr rfl
    have hbehind : takeGap? (gap ++ (path ++ (part ++ last))) = some (path ++ (part ++ last)) :=
      takeGap?_eq_some_iff.mpr ⟨gap, hne, hgap, rfl, ends_of_isWord hisPath _⟩
    have hpath : takePath? (path ++ (part ++ last)) = some (path, part ++ last) :=
      takeWord?_eq_some_iff.mpr ⟨rfl, hisPath, hpart.ends hlast⟩
    have haliases : restAliases? (part ++ last) = some aliases :=
      restAliases?_eq_some_iff.mpr ⟨part, last, hpart, hlast, rfl⟩
    simp only [UseClause.ofLine?, htaken.1, htaken.2, hrest, hbehind, hpath, haliases,
      Option.bind_eq_bind, Option.bind_some, Option.pure_def]

end ReplEngine.Expansion
