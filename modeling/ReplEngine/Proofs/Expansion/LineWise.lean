import Mathlib.Data.List.Forall2
import ReplEngine.Proofs.Expansion.Readers
import ReplEngine.Proofs.Failure
import ReplEngine.Proofs.Pattern.Stepping

/-!
# Substitution line by line

A pattern that is tied to both ends of a line never matches across lines: at the start of a line
it covers the line or nothing, and it matches nowhere else.  So replacing its matches in a text
maps the lines of the text, each by itself.

## Key results

- `search?_append`: the search passes over what holds no match
- `substitute_line`: one line, and what is replaced behind it
- `substitute_eq_mapLines`, `Rule.apply_eq_mapLines`: all lines
-/

namespace ReplEngine

namespace Pattern

variable {e : Expr} {before line rest xs ys : List Char} {nonEmpty : Bool}

/-- The pattern matches whole lines and nothing else, and `read` tells what the groups of a match
    cover. -/
structure ReadsLines (e : Expr) (read : List Char → Option (List (Nat × List Char))) : Prop where
  atStart : ∀ {before line rest : List Char} (nonEmpty : Bool), startsLine before = true →
    '\n' ∉ line → StopsLine rest →
    matchAt? e nonEmpty before (line ++ rest) =
      (read line).map fun groups => ⟨line.reverse ++ before, rest, groups⟩
  elsewhere : ∀ {before after : List Char} (nonEmpty : Bool), startsLine before = false →
    matchAt? e nonEmpty before after = none
  /-- A line without a character is no match. -/
  emptyLine : read [] = none

/-- It is enough to know how the pattern runs at the start of a line, if it is tied to it. -/
theorem ReadsLines.of_run {parts : List Expr}
    {read : List Char → Option (List (Nat × List Char))} (hempty : read [] = none)
    (hsome : ∀ {before line rest : List Char} {groups : List (Nat × List Char)} {next : Next}
      {result : Spot}, read line = some groups → startsLine before = true → '\n' ∉ line →
      StopsLine rest → next ⟨line.reverse ++ before, rest, groups⟩ = some result →
      (Expr.inOrder (.anchor .lineStart false :: parts)).run ⟨before, line ++ rest, []⟩ next =
        some result)
    (hnone : ∀ {before line rest : List Char} {next : Next}, read line = none →
      startsLine before = true → '\n' ∉ line → StopsLine rest →
      (Expr.inOrder (.anchor .lineStart false :: parts)).run ⟨before, line ++ rest, []⟩ next =
        none) :
    ReadsLines (.inOrder (.anchor .lineStart false :: parts)) read where
  atStart := by
    intro before line rest nonEmpty hbefore hline hrest
    rw [matchAt?]
    cases hread : read line with
    | none => rw [hnone hread hbefore hline hrest, Option.map_none]
    | some groups =>
      have hne : line ≠ [] := by
        rintro rfl
        rw [hempty] at hread
        cases hread
      -- the match covers the line, so that it is not one of nothing
      have hlength : (rest.length == (line ++ rest).length) = false := by
        simpa using hne
      rw [Option.map_some]
      refine hsome hread hbefore hline hrest ?_
      dsimp only
      rw [hlength, Bool.and_false]
      rfl
  elsewhere := by
    intro before after nonEmpty hbefore
    rw [matchAt?, run_inOrder, runAll_cons, run_lineStart, if_neg (by simp [hbefore])]
  emptyLine := hempty

/-! ### Searching -/

/-- At the end of a text the search ends. -/
theorem search?_nil_of_none (h : matchAt? e nonEmpty before [] = none) :
    search? e nonEmpty before [] = none := by
  rw [search?, h]
  rfl

/-- Where there is no match, the search passes over one character. -/
theorem search?_cons_of_none {c : Char} (h : matchAt? e nonEmpty before (c :: ys) = none) :
    search? e nonEmpty before (c :: ys) =
      (search? e false (c :: before) ys).map fun found => (c :: found.1, found.2) := by
  rw [search?, h]

/-- A match at the spot is found with nothing passed before it. -/
theorem search?_of_some {s : Spot} (h : matchAt? e nonEmpty before ys = some s) :
    search? e nonEmpty before ys = some ([], s) := by
  cases ys with
  | nil =>
    rw [search?, h]
    rfl
  | cons c ys => rw [search?, h]

/-- Within a line nothing matches, so that the search passes over it. -/
theorem search?_within (helsewhere : ∀ {before after : List Char}, startsLine before = false →
      matchAt? e false before after = none)
    (hbefore : startsLine before = false) (hxs : '\n' ∉ xs) :
    search? e false before (xs ++ ys) =
      (search? e false (xs.reverse ++ before) ys).map fun found => (xs ++ found.1, found.2) := by
  -- on the rest of the line: behind each of its characters no line starts
  induction xs generalizing before with
  | nil => simp
  | cons x xs ih =>
    simp only [List.mem_cons, not_or] at hxs
    have hstart : startsLine (x :: before) = false := by simp [startsLine, Ne.symm hxs.1]
    rw [List.cons_append, search?_cons_of_none (helsewhere hbefore), ih hstart hxs.2]
    simp [Function.comp_def]

/-! ### Substituting -/

/-- Replaces the matches behind a spot. -/
def substitute (make : Found → List Char) (e : Expr) (fuel : Nat) (before after : List Char) :
    List Char :=
  let found := matchesFrom e fuel false before after
  (found.1.map fun m => m.1 ++ make m.2).flatten ++ found.2

variable {make : Found → List Char} {fuel : Nat}

theorem substitute_of_none (h : search? e false before ys = none) :
    substitute make e (fuel + 1) before ys = ys := by
  simp [substitute, matchesFrom, h]

/-- What the search passes over stays as it is. -/
theorem substitute_append (h : search? e false before (xs ++ ys) =
      (search? e false (xs.reverse ++ before) ys).map fun found => (xs ++ found.1, found.2)) :
    substitute make e (fuel + 1) before (xs ++ ys) =
      xs ++ substitute make e (fuel + 1) (xs.reverse ++ before) ys := by
  cases hfound : search? e false (xs.reverse ++ before) ys with
  | none =>
    rw [hfound] at h
    rw [substitute_of_none h, substitute_of_none hfound]
  | some found =>
    obtain ⟨passed, s⟩ := found
    rw [hfound] at h
    -- the match covers the same characters, wherever the search began
    have hlength : s.before.length - before.length - (xs ++ passed).length =
        s.before.length - (xs.reverse ++ before).length - passed.length := by
      simp only [List.length_append, List.length_reverse]
      omega
    simp only [substitute, matchesFrom, h, hfound, Option.map_some, hlength]
    simp

/-- A match at the spot is replaced, and the rest is substituted behind it. -/
theorem substitute_of_match {groups : List (Nat × List Char)} (hline : line ≠ [])
    (h : matchAt? e false before (line ++ rest) = some ⟨line.reverse ++ before, rest, groups⟩) :
    substitute make e (fuel + 1) before (line ++ rest) =
      make ⟨line, groups⟩ ++ substitute make e fuel (line.reverse ++ before) rest := by
  have hempty : line.isEmpty = false := by simpa using hline
  simp [substitute, matchesFrom, search?_of_some h, hempty]

section Lines

variable {read : List Char → Option (List (Nat × List Char))}

/-- What a line becomes. -/
def replaceLine (read : List Char → Option (List (Nat × List Char))) (make : Found → List Char)
    (line : List Char) : List Char :=
  match read line with
  | some groups => make ⟨line, groups⟩
  | none => line

/-- Behind some characters of a line, no line starts. -/
theorem startsLine_reverse_append (hline : '\n' ∉ line) (hne : line ≠ []) (before : List Char) :
    startsLine (line.reverse ++ before) = false := by
  obtain ⟨c, cs, hcs⟩ := List.exists_cons_of_ne_nil (List.reverse_ne_nil_iff.mpr hne)
  have hc : c ∈ line := List.mem_reverse.mp (by simp [hcs])
  have hnewline : c ≠ '\n' := fun heq => hline (heq ▸ hc)
  simp [startsLine, hcs, hnewline]

/-- A line is replaced by what it becomes, and the substitution goes on behind it; there at least
    as much fuel is left as there is text. -/
theorem substitute_line (h : ReadsLines e read) (hstart : startsLine before = true)
    (hline : '\n' ∉ line) (hrest : StopsLine rest) (hfuel : (line ++ rest).length < fuel) :
    ∃ fuel', rest.length < fuel' ∧ substitute make e fuel before (line ++ rest) =
      replaceLine read make line ++ substitute make e fuel' (line.reverse ++ before) rest := by
  obtain ⟨fuel, rfl⟩ : ∃ f, fuel = f + 1 := ⟨fuel - 1, by omega⟩
  have hmatch := h.atStart false hstart hline hrest
  rw [List.length_append] at hfuel
  unfold replaceLine
  cases hread : read line with
  | some groups =>
    -- the line is one match, which takes one round
    have hne : line ≠ [] := by
      rintro rfl
      rw [h.emptyLine] at hread
      cases hread
    have hlength := List.length_pos_iff.mpr hne
    rw [hread] at hmatch
    exact ⟨fuel, by omega, substitute_of_match hne hmatch⟩
  | none =>
    rw [hread] at hmatch
    refine ⟨fuel + 1, by omega, substitute_append ?_⟩
    -- the line holds no match at its start, and none behind
    cases line with
    | nil => simp
    | cons c cs =>
      simp only [List.mem_cons, not_or] at hline
      have hwithin : startsLine (c :: before) = false := by
        simp [startsLine, Ne.symm hline.1]
      have hpassed : search? e false before (c :: (cs ++ rest)) = _ := search?_cons_of_none hmatch
      rw [List.cons_append, hpassed, search?_within (h.elsewhere false) hwithin hline.2]
      simp [Function.comp_def]

/-- Behind a line comes the next one, or nothing. -/
theorem substitute_newline (h : ReadsLines e read) (hbefore : startsLine before = false ∨
      read [] = none ∧ startsLine before = true) (hfuel : 0 < fuel) (ys : List Char) :
    substitute make e fuel before ('\n' :: ys) =
      '\n' :: substitute make e fuel ('\n' :: before) ys := by
  obtain ⟨fuel, rfl⟩ : ∃ f, fuel = f + 1 := ⟨fuel - 1, by omega⟩
  -- the newline is not matched: the pattern is tied to the start of a line, and an empty line is no
  -- match
  have hnone : matchAt? e false before ('\n' :: ys) = none := by
    rcases hbefore with helsewhere | ⟨hread, hstart⟩
    · exact h.elsewhere false helsewhere
    · have hmatch := @h.atStart before [] ('\n' :: ys) false hstart (by simp) (.inr ⟨ys, rfl⟩)
      rwa [hread] at hmatch
  have happend := @substitute_append e before ['\n'] ys make fuel
    (by simpa using search?_cons_of_none hnone)
  simpa using happend

/-- Behind the last line there is nothing to replace. -/
theorem substitute_nil (h : ReadsLines e read) (hfuel : 0 < fuel) :
    substitute make e fuel before [] = [] := by
  obtain ⟨fuel, rfl⟩ : ∃ f, fuel = f + 1 := ⟨fuel - 1, by omega⟩
  apply substitute_of_none
  apply search?_nil_of_none
  cases hstart : startsLine before with
  | false => exact h.elsewhere false hstart
  | true =>
    have hmatch := @h.atStart before [] [] false hstart (by simp) (.inl rfl)
    rwa [h.emptyLine] at hmatch

/-- Replacing the matches of such a pattern maps the lines. -/
theorem substitute_eq_mapLines (h : ReadsLines e read) (lines : List (List Char))
    (hlines : ∀ line ∈ lines, '\n' ∉ line) (hne : lines ≠ []) {before : List Char}
    (hstart : startsLine before = true) {fuel : Nat}
    (hfuel : (['\n'].intercalate lines).length < fuel) :
    substitute make e fuel before (['\n'].intercalate lines) =
      ['\n'].intercalate (lines.map (replaceLine read make)) := by
  -- line by line; behind each one the text and the fuel are those of the lines that follow
  induction lines generalizing before fuel with
  | nil => exact absurd rfl hne
  | cons line more ih =>
    have hline := hlines line (by simp)
    cases more with
    | nil =>
      rw [List.intercalate_singleton] at hfuel ⊢
      obtain ⟨fuel', hfuel', hsubstitute⟩ := @substitute_line e before line [] make fuel read
        h hstart hline (.inl rfl) (by simpa using hfuel)
      rw [List.append_nil] at hsubstitute
      rw [hsubstitute, substitute_nil h hfuel', List.append_nil]
      simp
    | cons next more =>
      rw [List.intercalate_cons_cons] at hfuel ⊢
      obtain ⟨fuel', hfuel', hsubstitute⟩ := @substitute_line e before line
        ('\n' :: ['\n'].intercalate (next :: more)) make fuel read h hstart hline (.inr ⟨_, rfl⟩)
        (by simpa using hfuel)
      -- behind an empty line the pattern may try again, but finds nothing
      have hbehind : startsLine (line.reverse ++ before) = false ∨
          read [] = none ∧ startsLine (line.reverse ++ before) = true := by
        by_cases hempty : line = []
        · subst hempty
          exact .inr ⟨h.emptyLine, hstart⟩
        · exact .inl (startsLine_reverse_append hline hempty before)
      have hmore := @ih (fun l hl => hlines l (List.mem_cons_of_mem _ hl)) (by simp)
        ('\n' :: (line.reverse ++ before)) (by simp [startsLine]) fuel'
        (by simp at hfuel' ⊢; omega)
      rw [substitute_newline h hbehind (by omega), hmore] at hsubstitute
      simpa using hsubstitute

end Lines

end Pattern

namespace Expansion

/-- A rule whose pattern reads lines, and whose replacer does not fail, maps the lines of a
    text. -/
theorem Rule.apply_eq_mapLines {r : Rule} {read : List Char → Option (List (Nat × List Char))}
    {make : Pattern.Found → List Char} (hreads : Pattern.ReadsLines r.pattern.expr read)
    (hmake : ∀ f, r.replace f = .ok (make f)) (text : List Char) :
    r.apply text = .ok (mapLines (Pattern.replaceLine read make) text) := by
  have happly : r.apply text =
      .ok (Pattern.substitute make r.pattern.expr (2 * text.length + 2) [] text) := by
    unfold Rule.apply Pattern.Compiled.allMatches Pattern.substitute
    generalize Pattern.matchesFrom r.pattern.expr (2 * text.length + 2) false [] text = found
    obtain ⟨matched, rest⟩ := found
    -- no match fails to be replaced
    have hpieces : (matched.mapM fun (x : List Char × Pattern.Found) => do
        return x.1 ++ (← r.replace x.2)) = .ok (matched.map fun m => m.1 ++ make m.2) := by
      rw [mapM_eq_ok_iff, List.forall₂_map_right_iff, List.forall₂_same]
      intro m _
      rw [hmake]
      rfl
    exact bind_eq_ok_iff.mpr ⟨_, hpieces, rfl⟩
  have htext : ['\n'].intercalate (text.splitOn '\n') = text := List.intercalate_splitOn '\n'
  have hlines : ∀ line ∈ text.splitOn '\n', '\n' ∉ line :=
    fun line hline => Text.not_mem_of_mem_splitOn hline
  have hsubstitute := @Pattern.substitute_eq_mapLines _ make _ hreads (text.splitOn '\n')
    hlines (List.splitOn_ne_nil _ _) [] rfl (2 * text.length + 2) (by rw [htext]; omega)
  rw [happly, mapLines_eq, ← hsubstitute, htext]

end Expansion

end ReplEngine
