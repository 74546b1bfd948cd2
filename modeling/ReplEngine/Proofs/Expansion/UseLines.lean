import Mathlib.Data.List.Forall2
import ReplEngine.Proofs.Expansion.Matching

/-!
# Expanding `use` lines

A line of the grammar becomes its imports, which open with another word: expanding again finds no
`use` line, and no line is broken.  The rule replaces the matches of a pattern in the whole text,
and these are the lines of the grammar, so that it goes line by line.

## Key results

- `isImport_importLine`: the import of a path
- `Spells.not_spells_render`: the imports of a line are no `use` line
- `use_expands_lines`: what the rule makes of a text
-/

namespace ReplEngine.Expansion

open Text (Ends isWordStart isWordChar)

variable {name : List Char}

/-! ### The imports -/

/-- The words that give an import a new name. -/
def asName : Option (List Char) → List Char
  | none => []
  | some name => " as ".toList ++ name

/-- The clause imports what a path names: from the module before its last dot, if it has one. -/
def IsImport (path : List Char) (name : Option (List Char)) (clause : List Char) : Prop :=
  (∃ module item, path = module ++ '.' :: item ∧ '.' ∉ item ∧
    clause = "from ".toList ++ module ++ " import ".toList ++ item ++ asName name) ∨
  ('.' ∉ path ∧ clause = "import ".toList ++ path ++ asName name)

/-- What a clause imports its path as, one after the other: under the new names, or under none. -/
def UseClause.wanted (u : UseClause) : List (Option (List Char)) :=
  if u.aliases.isEmpty then [none] else u.aliases.map some

/-- The line of an import imports what the path names. -/
theorem isImport_importLine {u : UseClause} (hpath : isWord isPathChar u.path = true)
    (name : Option (List Char)) : IsImport u.path name (u.importLine name) := by
  cases hcut : Text.cutAtLast? '.' u.path with
  | none =>
    refine .inr ⟨Text.cutAtLast?_eq_none_iff.mp hcut, ?_⟩
    cases name <;> simp [UseClause.importLine, hcut, asName]
  | some cut =>
    obtain ⟨module, item⟩ := cut
    obtain ⟨hsplit, hitem⟩ := Text.cutAtLast?_eq_some_iff.mp hcut
    -- a path does not start with a dot, so that there is a module before it
    have hmodule : module.isEmpty = false := by
      cases module with
      | nil =>
        rw [hsplit] at hpath
        simp [isWord, isWordStart] at hpath
      | cons c cs => rfl
    refine .inl ⟨module, item, hsplit, hitem, ?_⟩
    cases name <;> simp [UseClause.importLine, hcut, hmodule, asName]

/-- A clause is rendered as its imports behind its indent. -/
theorem render_eq (u : UseClause) :
    u.render = u.indent ++ "; ".toList.intercalate (u.wanted.map u.importLine) := by
  rw [UseClause.render, UseClause.wanted]
  cases u.aliases with
  | nil => simp
  | cons name names =>
    show u.indent ++
      Text.joinWith [';', ' '] ((name :: names).map fun a => u.importLine (some a)) = _
    rw [Text.joinWith_eq_intercalate]
    simp [Function.comp_def]

/-- A clause imports something. -/
theorem wanted_ne_nil (u : UseClause) : u.wanted ≠ [] := by
  rw [UseClause.wanted]
  split
  · simp
  · next h => simpa using h

/-- An import starts neither with a blank nor as a `use` line does. -/
theorem IsImport.head {path clause : List Char} {name : Option (List Char)}
    (h : IsImport path name clause) :
    ∃ c cs, clause = c :: cs ∧ isGap c = false ∧ c ≠ 'u' := by
  obtain ⟨module, item, -, -, rfl⟩ | ⟨-, rfl⟩ := h
  · exact ⟨'f', _, rfl, by decide, by decide⟩
  · exact ⟨'i', _, rfl, by decide, by decide⟩

/-- An import stays on its line. -/
theorem IsImport.newline_not_mem {path clause : List Char} {name : Option (List Char)}
    (h : IsImport path name clause) (hpath : '\n' ∉ path) (hname : '\n' ∉ asName name) :
    '\n' ∉ clause := by
  -- the words of an import are on one line, and so are path and name
  obtain ⟨module, item, rfl, -, rfl⟩ | ⟨-, rfl⟩ := h
  · simp only [List.mem_append, List.mem_cons, not_or] at hpath ⊢
    exact ⟨⟨⟨⟨by decide, hpath.1⟩, by decide⟩, hpath.2.2⟩, hname⟩
  · simp only [List.mem_append, not_or]
    exact ⟨⟨by decide, hpath⟩, hname⟩

/-- A word of a class without the newline stays on its line. -/
theorem newline_not_mem_of_isWord {inWord : Char → Bool} (hclass : inWord '\n' = false)
    (h : isWord inWord name = true) : '\n' ∉ name := by
  obtain ⟨c, cs, rfl, hc, hcs⟩ := exists_of_isWord h
  intro hmem
  rcases List.mem_cons.mp hmem with rfl | hmem
  · exact absurd hc (by decide)
  · rw [hcs _ hmem] at hclass
    cases hclass

/-! ### Expanding -/

section Lines

variable {line : List Char} {u : UseClause}

/-- What a line imports is named by a path. -/
theorem Spells.isWord_path (h : Spells line u) : isWord isPathChar u.path = true := by
  cases h with
  | intro hindent hne hgap hpath hpart hlast => exact hpath

/-- The new names of a line stay on it. -/
theorem Spells.newline_not_mem_asName (h : Spells line u) :
    ∀ name ∈ u.wanted, '\n' ∉ asName name := by
  cases h with
  | @intro _ _ _ _ _ aliases hindent hne hgap hpath hpart hlast =>
    -- the new names are words, and there may be none
    have hwords : ∀ name ∈ aliases, isWord isWordChar name = true := by
      cases hpart with
      | missing => simp
      | given _ _ _ _ hnames => exact hnames.isWord_of_mem
    intro name hname
    rw [UseClause.wanted] at hname
    split at hname
    · rw [List.mem_singleton.mp hname]
      exact List.not_mem_nil
    · obtain ⟨word, hword, rfl⟩ := List.mem_map.mp hname
      rw [asName, List.mem_append, not_or]
      exact ⟨by decide, newline_not_mem_of_isWord (by decide) (hwords word hword)⟩

/-- The first word of a line that spells a clause. -/
theorem Spells.head?_dropWhile (h : Spells line u) : (line.dropWhile isGap).head? = some 'u' := by
  cases h with
  | @intro _ gap path part last _ hindent hne hgap hpath hpart hlast =>
    have hword : Ends isGap (['u', 's', 'e'] ++ (gap ++ (path ++ (part ++ last)))) :=
      .cons (by decide) _
    rw [(Text.takeWhile_append_of_ends (List.all_eq_true.mp hindent) hword).2]
    rfl

theorem Spells.indent_isGap (h : Spells line u) : ∀ c ∈ u.indent, isGap c = true := by
  cases h with
  | intro hindent hne hgap hpath hpart hlast => exact List.all_eq_true.mp hindent

/-- The imports of a line are no `use` line. -/
theorem Spells.not_spells_render (h : Spells line u) (v : UseClause) : ¬ Spells u.render v := by
  intro hv
  obtain ⟨first, others, hwanted⟩ := List.exists_cons_of_ne_nil (wanted_ne_nil u)
  obtain ⟨c, cs, hclause, hc, hne⟩ := (isImport_importLine h.isWord_path first).head
  -- behind its indent, the line opens with the first word of an import
  obtain ⟨rest, hrender⟩ : ∃ rest, u.render = u.indent ++ c :: rest := by
    rw [render_eq, hwanted, List.map_cons, hclause]
    cases others.map u.importLine with
    | nil => exact ⟨cs, by rw [List.intercalate_singleton]⟩
    | cons next clauses => exact ⟨_, by rw [List.intercalate_cons_cons]; rfl⟩
  have hhead := hv.head?_dropWhile
  rw [hrender, (Text.takeWhile_append_of_ends h.indent_isGap (.cons hc rest)).2] at hhead
  exact hne (Option.some.inj hhead)

/-- A line that spells a clause becomes its imports. -/
theorem useLine_of_spells (h : Spells line u) : useLine line = u.render := by
  rw [useLine, ofLine?_eq_some_iff.mpr h]

theorem useLine_of_not_spells (h : ∀ u, ¬ Spells line u) : useLine line = line := by
  have hnone : UseClause.ofLine? line = none := by
    rw [Option.eq_none_iff_forall_ne_some]
    exact fun u hu => h u (ofLine?_eq_some_iff.mp hu)
  rw [useLine, hnone]

/-- A line is not expanded twice. -/
theorem useLine_useLine (line : List Char) : useLine (useLine line) = useLine line := by
  -- the imports spell no clause
  by_cases h : ∃ u, Spells line u
  · obtain ⟨u, hu⟩ := h
    rw [useLine_of_spells hu, useLine_of_not_spells hu.not_spells_render]
  · have hline := useLine_of_not_spells (not_exists.mp h)
    rw [hline, hline]

/-- Expanding does not break a line. -/
theorem newline_not_mem_useLine (h : '\n' ∉ line) : '\n' ∉ useLine line := by
  by_cases hspells : ∃ u, Spells line u
  · obtain ⟨u, hu⟩ := hspells
    rw [useLine_of_spells hu, render_eq, List.mem_append, not_or]
    constructor
    · exact fun hmem => absurd (hu.indent_isGap _ hmem) (by decide)
    · intro hmem
      -- neither what joins the imports nor one of them has a newline
      have hnone : ∀ c ∈ "; ".toList.intercalate (u.wanted.map u.importLine), c ≠ '\n' := by
        apply Text.forall_mem_intercalate
        · simp
        · intro clause hclause c hc heq
          obtain ⟨name, hname, rfl⟩ := List.mem_map.mp hclause
          have hpath := newline_not_mem_of_isWord (by decide) hu.isWord_path
          exact (isImport_importLine hu.isWord_path name).newline_not_mem hpath
            (hu.newline_not_mem_asName name hname) (heq ▸ hc)
      exact hnone _ hmem rfl
  · rwa [useLine_of_not_spells (not_exists.mp hspells)]

end Lines

/-- How a line is expanded: what spells a clause becomes its imports behind its indent, and every
    other line stays. -/
structure Expands (line out : List Char) : Prop where
  of_spells : ∀ u, Spells line u → ∃ clauses, List.Forall₂ (IsImport u.path) u.wanted clauses ∧
    out = u.indent ++ "; ".toList.intercalate clauses
  of_not_spells : (∀ u, ¬ Spells line u) → out = line

/-- Lines are expanded as the grammar says. -/
theorem expands_useLine (line : List Char) : Expands line (useLine line) where
  of_spells := by
    intro u hu
    refine ⟨u.wanted.map u.importLine, ?_, by rw [useLine_of_spells hu, render_eq]⟩
    rw [List.forall₂_map_right_iff, List.forall₂_same]
    exact fun name _ => isImport_importLine hu.isWord_path name
  of_not_spells := useLine_of_not_spells

/-- Expanding `use` lines goes line by line: the lines of the result are those of the text, each
    expanded by itself.  None is added or lost, and expanding again changes nothing. -/
theorem use_expands_lines (text : List Char) :
    ∃ out, Rule.use.apply text = .ok out ∧
      List.Forall₂ Expands (text.splitOn '\n') (out.splitOn '\n') ∧
      (out.splitOn '\n').length = (text.splitOn '\n').length ∧
      Rule.use.apply out = .ok out := by
  -- no line is broken, so that the lines of the result are the expanded ones
  have hlines : (mapLines useLine text).splitOn '\n' = (text.splitOn '\n').map useLine :=
    splitOn_mapLines (fun _ => newline_not_mem_useLine) text
  refine ⟨mapLines useLine text, Rule.apply_use text, ?_, ?_, ?_⟩
  · rw [hlines, List.forall₂_map_right_iff, List.forall₂_same]
    exact fun line _ => expands_useLine line
  · rw [hlines, List.length_map]
  · have htwice : ((text.splitOn '\n').map useLine).map useLine =
        (text.splitOn '\n').map useLine := by
      simp [Function.comp_def, useLine_useLine]
    rw [Rule.apply_use, mapLines_eq useLine (mapLines useLine text), hlines, htwice, ← mapLines_eq]

example :
    mapLines useLine "use os;\n\tuse pkg.mod.Name  as A ,B\nuse os as".toList =
      ("import os\n\tfrom pkg.mod import Name as A; from pkg.mod import Name as B\n" ++
        "use os as").toList := by
  decide +kernel

end ReplEngine.Expansion
