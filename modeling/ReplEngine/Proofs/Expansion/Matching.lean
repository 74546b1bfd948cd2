import ReplEngine.Proofs.Expansion.Grammar
import ReplEngine.Proofs.Expansion.LineWise

/-!
# Matching lines

The patterns of the built-in rules find what the readers of lines read.  On a line, each piece of
the pattern for `use` lines takes all that it can take, since what comes next never starts with a
character that the piece could have left: no other way to match has to be looked at.  The pattern
for splices tries the places of a line from left to right.

## Key results

- `compile_useSource`, `compile_spliceSource`: the patterns are those that their texts spell
- `readsLines_usePattern`: the matches of the one are the `use` lines
- `readsLines_splicePattern`: the matches of the other are the lines with a splice
- `Rule.apply_use`, `Rule.apply_splice`: both rules map the lines of a text
-/

namespace ReplEngine.Expansion

open Pattern
open Text (Ends isWordStart isWordChar)

/-! ### The patterns as they are written -/

/-- The pattern of `use` lines is the one that its text spells, if `^` and `$` stand for the ends
    of lines. -/
theorem compile_useSource :
    (Pattern.compile usePattern.source { multiline := true }).toOption = some usePattern := by
  decide +kernel

theorem compile_spliceSource :
    (Pattern.compile splicePattern.source { multiline := true }).toOption = some splicePattern := by
  decide +kernel

/-! ### Classes -/

theorem takesOne_gap : TakesOne (.set false [.char ' ', .char '\t'] false false) isGap :=
  takesOne_set fun c => by simp [inSet, SetItem.holds, isGap]

/-- The set of letters and the underscore is the class of characters that open words. -/
theorem takesOne_start :
    TakesOne (.set false [.range 'A' 'Z', .range 'a' 'z', .char '_'] false false) isWordStart :=
  takesOne_set fun c => by
    rw [Bool.eq_iff_iff]
    simp [inSet, SetItem.holds, inRange, isWordStart, Text.isAlpha_iff]
    tauto

theorem takesOne_word : TakesOne (.set false [.category .word false] false false) isWordChar :=
  takesOne_set fun c => by simp [inSet, SetItem.holds, Category.holds]

theorem takesOne_path :
    TakesOne (.set false [.category .word false, .char '.'] false false) isPathChar :=
  takesOne_set fun c => by simp [inSet, SetItem.holds, Category.holds, isPathChar]

section OnLine

variable {before cs rest tail : List Char} {groups : List (Nat × List Char)} {next : Next}
  {p : Char → Bool} {c : Char}

/-- A class without the newline stops at the end of a line. -/
theorem ends_of_stopsLine (h : StopsLine tail) (hp : p '\n' = false) : Ends p tail := by
  rcases h with rfl | ⟨more, rfl⟩
  · exact .nil p
  · exact .cons hp more

/-- A run of a class without newlines stays on its line. -/
theorem pastRun_line (htail : StopsLine tail) (hp : p '\n' = false) :
    Spot.pastRun p ⟨before, cs ++ tail, groups⟩ =
      ⟨(cs.takeWhile p).reverse ++ before, cs.dropWhile p ++ tail, groups⟩ := by
  have hsplit : cs ++ tail = cs.takeWhile p ++ (cs.dropWhile p ++ tail) := by
    rw [← List.append_assoc, List.takeWhile_append_dropWhile]
  -- the run stops within the line, or at its end
  have hends : Ends p (cs.dropWhile p ++ tail) := by
    cases hdrop : cs.dropWhile p with
    | nil => exact ends_of_stopsLine htail hp
    | cons d ds =>
      have hd := Text.ends_dropWhile p cs d
      rw [hdrop] at hd
      exact .cons (hd rfl) _
  have htaken := Text.takeWhile_append_of_ends
    (List.all_eq_true.mp (List.all_takeWhile (p := p) (l := cs))) hends
  unfold Spot.pastRun
  rw [hsplit, htaken.1, htaken.2]

/-! ### The end of a line -/

/-- What ends a `use` line: blanks with at most one semicolon among them. -/
def lineEndExprs : List Expr :=
  [gapsExpr 0, .rep (.char ';' false) 0 (some 1) .greedy, gapsExpr 0, .anchor .lineEnd false]

/-- A blank is no newline. -/
theorem ne_newline_of_isGap (h : isGap c = true) : c ≠ '\n' := by
  rintro rfl
  exact absurd h (by decide)

/-- The end of a line is not matched in front of another character. -/
theorem failsOn_lineEnd (hp : p '\n' = false) :
    FailsOn p (runAll [.anchor .lineEnd false] next) := by
  intro b c rest g hc
  have hne : c ≠ '\n' := by
    rintro rfl
    rw [hp] at hc
    cases hc
  exact run_lineEnd_cons hne

/-- Blanks up to the end of the line are matched if nothing else is left. -/
theorem runAll_gaps_end (htail : StopsLine tail) (hcs : '\n' ∉ cs) :
    runAll [gapsExpr 0, .anchor .lineEnd false] next ⟨before, cs ++ tail, groups⟩ =
      if cs.all isGap = true then next ⟨cs.reverse ++ before, tail, groups⟩ else none := by
  have hrun : runAll [gapsExpr 0, .anchor .lineEnd false] next ⟨before, cs ++ tail, groups⟩ =
      runAll [.anchor .lineEnd false] next (Spot.pastRun isGap ⟨before, cs ++ tail, groups⟩) :=
    run_greedy takesOne_gap ((failsOn_lineEnd (by decide)).givesNothingBack _)
  rw [hrun, pastRun_line htail (by decide)]
  have hsplit := List.takeWhile_append_dropWhile (p := isGap) (l := cs)
  -- the greedy run takes all blanks; what it leaves has to be the end
  cases hdrop : cs.dropWhile isGap with
  | nil =>
    rw [hdrop, List.append_nil] at hsplit
    have hall : cs.all isGap = true := by rw [← hsplit, List.all_takeWhile]
    rw [if_pos hall, hsplit]
    exact run_lineEnd_of_stops htail
  | cons d ds =>
    have hd : isGap d = false := Text.ends_dropWhile isGap cs d (by rw [hdrop]; rfl)
    have hmem : d ∈ cs := by rw [← hsplit, hdrop]; simp
    have hall : ¬ cs.all isGap = true := by
      intro h
      rw [List.all_eq_true.mp h d hmem] at hd
      cases hd
    rw [if_neg hall]
    exact run_lineEnd_cons fun heq => hcs (heq ▸ hmem)

/-- Whether only blanks are left, behind a semicolon or without one. -/
def isEndBehindGaps : List Char → Bool
  | ';' :: rest => rest.all isGap
  | rest => rest.all isGap

theorem runAll_semicolon_end (htail : StopsLine tail) (hcs : '\n' ∉ cs) :
    runAll [.rep (.char ';' false) 0 (some 1) .greedy, gapsExpr 0, .anchor .lineEnd false] next
        ⟨before, cs ++ tail, groups⟩ =
      if isEndBehindGaps cs = true then next ⟨cs.reverse ++ before, tail, groups⟩ else none := by
  rw [runAll_cons, run_optional, runAll_gaps_end htail hcs]
  cases cs with
  | nil =>
    -- at the end of the line there is no semicolon to take
    have hnone : (Expr.char ';' false).run ⟨before, [] ++ tail, groups⟩
        (runAll [gapsExpr 0, .anchor .lineEnd false] next) = none := by
      rcases htail with rfl | ⟨more, rfl⟩
      · exact run_char_nil ';'
      · exact run_char_ne (by decide)
    rw [hnone]
    rfl
  | cons c cs =>
    by_cases hc : ';' = c
    · -- the semicolon is taken: without it the line would not end here
      subst hc
      have hmore : '\n' ∉ cs := fun h => hcs (List.mem_cons_of_mem _ h)
      rw [List.cons_append, run_char_self, runAll_gaps_end htail hmore]
      have hsemicolon : (';' :: cs).all isGap = false := rfl
      rw [hsemicolon]
      simp [isEndBehindGaps]
    · -- another character: only the way without a semicolon is left
      rw [List.cons_append, run_char_ne hc, Option.none_or]
      have hend : isEndBehindGaps (c :: cs) = (c :: cs).all isGap := by
        unfold isEndBehindGaps
        split
        · next heq => exact absurd (List.cons.inj heq).1.symm hc
        · rfl
      rw [hend]

/-- The reader looks at the same behind the first gap. -/
theorem isLineTail_eq (cs : List Char) : isLineTail cs = isEndBehindGaps (cs.dropWhile isGap) := by
  have hends := Text.ends_dropWhile isGap cs
  unfold isLineTail isEndBehindGaps
  generalize cs.dropWhile isGap = ds at hends ⊢
  split
  · rfl
  · next hne =>
    cases ds with
    | nil => rfl
    | cons d ds =>
      have hd : isGap d = false := hends d rfl
      simp [hd]

/-- What is no end of a line is none behind a gap either. -/
theorem isEndBehindGaps_append {gap : List Char} (hgap : gap.all isGap = true) (hne : gap ≠ [])
    (h : isEndBehindGaps cs = false) : isEndBehindGaps (gap ++ cs) = false := by
  obtain ⟨c, gap, rfl⟩ := List.exists_cons_of_ne_nil hne
  have hc : isGap c = true := by simp_all
  -- with only blanks left it would be an end
  have hcs : cs.all isGap = false := by
    rw [Bool.eq_false_iff]
    intro hall
    unfold isEndBehindGaps at h
    split at h
    · simp [isGap] at hall
    · rw [hall] at h
      cases h
  rw [List.cons_append, isEndBehindGaps]
  · simp [hcs]
  · rintro rest heq
    rw [(List.cons.inj heq).1] at hc
    exact absurd hc (by decide)

/-- The end of a `use` line is matched where the reader sees it. -/
theorem runAll_lineEndExprs (htail : StopsLine tail) (hcs : '\n' ∉ cs) :
    runAll lineEndExprs next ⟨before, cs ++ tail, groups⟩ =
      if isLineTail cs = true then next ⟨cs.reverse ++ before, tail, groups⟩ else none := by
  have hsplit := List.takeWhile_append_dropWhile (p := isGap) (l := cs)
  have hdropped : '\n' ∉ cs.dropWhile isGap :=
    fun h => hcs ((List.dropWhile_suffix isGap).subset h)
  -- to give blanks back wins nothing: the rest is an end behind them exactly if it is one here
  have hback : GivesNothingBack isGap (runAll [.rep (.char ';' false) 0 (some 1) .greedy,
      gapsExpr 0, .anchor .lineEnd false] next)
      (Spot.pastRun isGap ⟨before, cs ++ tail, groups⟩) := by
    rw [pastRun_line htail (by decide)]
    intro hstop b c rest hc hpast
    -- the spot lies in the gap, so that its text is a gap in front of the same rest
    simp only [Spot.pastRun, Spot.mk.injEq, and_true] at hpast
    obtain ⟨hb, hrest⟩ := hpast
    have hgap : (c :: rest).takeWhile isGap ≠ [] := by simp [hc]
    have htext : c :: rest = ((c :: rest).takeWhile isGap ++ cs.dropWhile isGap) ++ tail := by
      rw [List.append_assoc, ← hrest, List.takeWhile_append_dropWhile]
    have hline : '\n' ∉ (c :: rest).takeWhile isGap ++ cs.dropWhile isGap := by
      rw [List.mem_append, not_or]
      exact ⟨fun h => absurd (List.all_eq_true.mp List.all_takeWhile _ h) (by decide), hdropped⟩
    rw [runAll_semicolon_end htail hdropped] at hstop
    rw [htext, runAll_semicolon_end htail hline]
    cases hend : isEndBehindGaps (cs.dropWhile isGap) with
    | false => simp [isEndBehindGaps_append List.all_takeWhile hgap hend]
    | true =>
      -- both end at the same spot
      rw [hend, if_pos rfl] at hstop
      split
      · rw [List.reverse_append, List.append_assoc, hb]
        exact hstop
      · rfl
  have hrun : runAll lineEndExprs next ⟨before, cs ++ tail, groups⟩ =
      runAll [.rep (.char ';' false) 0 (some 1) .greedy, gapsExpr 0, .anchor .lineEnd false] next
        (Spot.pastRun isGap ⟨before, cs ++ tail, groups⟩) := run_greedy takesOne_gap hback
  rw [hrun, pastRun_line htail (by decide), runAll_semicolon_end htail hdropped, isLineTail_eq,
    ← List.append_assoc, ← List.reverse_append, hsplit]

/-- In front of the end, no character but blanks, a semicolon and a newline stands behind a
    gap. -/
theorem runAll_lineEndExprs_of_other {gap : List Char} (hgap : gap.all isGap = true)
    (hc : isGap c = false) (hsemicolon : c ≠ ';') (hnewline : c ≠ '\n') :
    runAll lineEndExprs next ⟨before, gap ++ c :: rest, groups⟩ = none := by
  have hrest := List.takeWhile_append_dropWhile (p := (· != '\n')) (l := rest)
  -- cut the text at its first newline, to have a line
  have hstops : StopsLine (rest.dropWhile (· != '\n')) := by
    cases hdrop : rest.dropWhile (· != '\n') with
    | nil => exact .inl rfl
    | cons d ds =>
      have hd := Text.ends_dropWhile (· != '\n') rest d (by rw [hdrop]; rfl)
      exact .inr ⟨ds, by simpa using hd⟩
  have hline : '\n' ∉ gap ++ c :: rest.takeWhile (· != '\n') := by
    rw [List.mem_append, List.mem_cons, not_or, not_or]
    refine ⟨fun h => ne_newline_of_isGap (List.all_eq_true.mp hgap _ h) rfl, Ne.symm hnewline,
      fun h => ?_⟩
    simpa using List.all_eq_true.mp (List.all_takeWhile (p := (· != '\n'))) _ h
  have hrun := @runAll_lineEndExprs before _ _ groups next hstops hline
  rw [List.append_assoc, List.cons_append, hrest] at hrun
  have hends : Ends isGap (c :: rest.takeWhile (· != '\n')) := .cons hc _
  rw [hrun, if_neg]
  rw [isLineTail, (Text.takeWhile_append_of_ends (List.all_eq_true.mp hgap) hends).2]
  simp [hsemicolon]

/-- The end of a `use` line starts with a blank, a semicolon or a newline. -/
theorem failsOn_lineEndExprs (hp : ∀ c, p c = true → isGap c = false ∧ c ≠ ';' ∧ c ≠ '\n') :
    FailsOn p (runAll lineEndExprs next) := by
  intro b c rest g hc
  obtain ⟨hgap, hsemicolon, hnewline⟩ := hp c hc
  exact @runAll_lineEndExprs_of_other b rest g next c [] rfl hgap hsemicolon hnewline

/-! ### Names -/

/-- A word is taken whole, if nothing is to be won by taking less of it. -/
theorem runAll_wordExprs {items : List SetItem} {inWord : Char → Bool}
    (hclass : TakesOne (.set false items false false) inWord) (hnewline : inWord '\n' = false)
    (htail : StopsLine tail) (hnext : ∀ word rest, takeWord? inWord cs = some (word, rest) →
      GivesNothingBack inWord next ⟨word.reverse ++ before, rest ++ tail, groups⟩) :
    runAll (wordExprs items) next ⟨before, cs ++ tail, groups⟩ =
      match takeWord? inWord cs with
      | some (word, rest) => next ⟨word.reverse ++ before, rest ++ tail, groups⟩
      | none => none := by
  rw [wordExprs, runAll_cons]
  cases cs with
  | nil =>
    -- no word starts at the end of a line
    rw [List.nil_append]
    rcases htail with rfl | ⟨more, rfl⟩
    · rw [takesOne_start.run_nil]
      rfl
    · rw [takesOne_start.run_neg (by decide)]
      rfl
  | cons c cs =>
    rw [List.cons_append]
    cases hc : isWordStart c with
    | false => simp [takeWord?, hc, takesOne_start.run_neg hc]
    | true =>
      -- the first character opens the word, and the class goes on as far as it can
      have htaken : takeWord? inWord (c :: cs) =
          some (c :: cs.takeWhile inWord, cs.dropWhile inWord) := by rw [takeWord?, if_pos hc]
      have hspot : Spot.pastRun inWord ⟨c :: before, cs ++ tail, groups⟩ =
          ⟨(c :: cs.takeWhile inWord).reverse ++ before, cs.dropWhile inWord ++ tail, groups⟩ := by
        rw [pastRun_line htail hnewline]
        simp
      have hback := hnext _ _ htaken
      rw [← hspot] at hback
      rw [takesOne_start.run_pos hc, runAll_singleton, run_greedy hclass hback, htaken, hspot]

/-- A name is taken whole. -/
theorem runAll_nameExprs (hnext : FailsOn isWordChar next) (htail : StopsLine tail) :
    runAll nameExprs next ⟨before, cs ++ tail, groups⟩ =
      match takeName? cs with
      | some (name, rest) => next ⟨name.reverse ++ before, rest ++ tail, groups⟩
      | none => none :=
  runAll_wordExprs takesOne_word (by decide) htail fun _ _ _ => hnext.givesNothingBack _

/-- A name does not start with a blank. -/
theorem failsOn_nameExprs : FailsOn isGap (runAll nameExprs next) := by
  intro b c rest g hc
  refine takesOne_start.run_neg ?_
  rw [Bool.eq_false_iff]
  intro hstart
  rw [isGap_eq_false_of_isWordStart hstart] at hc
  cases hc

/-- In front of a further name, the blanks are passed and a comma has to follow. -/
theorem run_furtherNameExpr_eq (htail : StopsLine tail) :
    furtherNameExpr.run ⟨before, cs ++ tail, groups⟩ next =
      (Expr.char ',' false).run
        ⟨(cs.takeWhile isGap).reverse ++ before, cs.dropWhile isGap ++ tail, groups⟩
        (runAll (gapsExpr 0 :: nameExprs) next) := by
  -- a blank that is given back is no comma
  have hcomma : FailsOn isGap (runAll (.char ',' false :: gapsExpr 0 :: nameExprs) next) := by
    intro b c rest g hc
    refine run_char_ne ?_
    rintro rfl
    exact absurd hc (by decide)
  rw [← pastRun_line htail (by decide), furtherNameExpr]
  exact (run_inOrder _ _ _).trans (run_greedy takesOne_gap (hcomma.givesNothingBack _))

/-- A comma with its blanks is taken in front of a name. -/
theorem run_furtherNameExpr {gap gap' : List Char} (hgap : gap.all isGap = true)
    (hgap' : gap'.all isGap = true) (hends : Ends isGap rest) (htail : StopsLine tail) :
    furtherNameExpr.run ⟨before, (gap ++ ',' :: (gap' ++ rest)) ++ tail, groups⟩ next =
      runAll nameExprs next ⟨(gap ++ ',' :: gap').reverse ++ before, rest ++ tail, groups⟩ := by
  have hfirst : Ends isGap (',' :: (gap' ++ rest)) := .cons (by decide) _
  have htaken := Text.takeWhile_append_of_ends (List.all_eq_true.mp hgap) hfirst
  have htaken' := Text.takeWhile_append_of_ends (List.all_eq_true.mp hgap') hends
  -- behind the comma the blanks are passed as well
  have hgaps : ∀ b, runAll (gapsExpr 0 :: nameExprs) next ⟨b, (gap' ++ rest) ++ tail, groups⟩ =
      runAll nameExprs next ⟨gap'.reverse ++ b, rest ++ tail, groups⟩ := by
    intro b
    have hpast := @pastRun_line b (gap' ++ rest) tail groups isGap htail (by decide)
    rw [htaken'.1, htaken'.2] at hpast
    rw [← hpast]
    exact run_greedy takesOne_gap (failsOn_nameExprs.givesNothingBack _)
  rw [run_furtherNameExpr_eq htail, htaken.1, htaken.2, List.cons_append, run_char_self, hgaps]
  simp

/-- Without a comma there is no further name. -/
theorem run_furtherNameExpr_of_none (h : takeComma? cs = none) (htail : StopsLine tail) :
    furtherNameExpr.run ⟨before, cs ++ tail, groups⟩ next = none := by
  rw [run_furtherNameExpr_eq htail]
  rw [takeComma?] at h
  cases hdrop : cs.dropWhile isGap with
  | nil =>
    rw [List.nil_append]
    rcases htail with rfl | ⟨more, rfl⟩
    · exact run_char_nil ','
    · exact run_char_ne (by decide)
  | cons d ds =>
    -- behind the blanks stands another character than a comma
    refine run_char_ne ?_
    rintro rfl
    rw [hdrop] at h
    cases h

/-- What can follow names: neither a further character of the last one nor a comma. -/
structure EndsNames (tail : List Char) (next : Next) : Prop where
  failsOn : FailsOn isWordChar next
  noComma : ∀ {before cs groups}, (takeComma? cs).isSome = true →
    next ⟨before, cs ++ tail, groups⟩ = none

/-- Rounds of further names cannot start within a word. -/
theorem failsOn_rounds (hnext : FailsOn isWordChar next) {fuel count : Nat} {last : Option Nat} :
    FailsOn isWordChar (rounds furtherNameExpr.run 0 none false next fuel count last) := by
  intro b c rest g hc
  have hgap : isGap c = false := by
    rw [Bool.eq_false_iff]
    intro hgap
    rcases eq_of_isGap hgap with rfl | rfl <;> exact absurd hc (by decide)
  have hcomma : c ≠ ',' := by
    rintro rfl
    exact absurd hc (by decide)
  -- a character of a word starts no further name, so that no round is made
  have hnone : ∀ k, furtherNameExpr.run ⟨b, c :: rest, g⟩ k = none := by
    intro k
    have hrun := @run_furtherNameExpr_of_none b (c :: rest) [] g k
      (by simp [takeComma?, hgap, hcomma]) (.inl rfl)
    rwa [List.append_nil] at hrun
  cases fuel with
  | zero => exact hnext b c rest g hc
  | succ fuel => simp [rounds, hnone, hnext b c rest g hc]

/-- Further names, each behind its comma. -/
inductive SpellsFurther : List Char → Prop
  | nil : SpellsFurther []
  | more {gap gap' name text : List Char} (hgap : gap.all isGap = true)
      (hgap' : gap'.all isGap = true) (hname : isWord isWordChar name = true)
      (hmore : SpellsFurther text) : SpellsFurther (gap ++ ',' :: (gap' ++ (name ++ text)))

/-- A word stops where further names start. -/
theorem SpellsFurther.ends {text : List Char} (h : SpellsFurther text)
    (hrest : Ends isWordChar rest) : Ends isWordChar (text ++ rest) := by
  cases h with
  | nil => exact hrest
  | more hgap hgap' hname hmore =>
    rw [List.append_assoc]
    exact ends_gap_append (by decide) (by decide) hgap (.cons (by decide) _)

/-- Further names are taken in rounds, as long as there is one more. -/
theorem rounds_further {text : List Char} (htext : SpellsFurther text)
    (hnext : EndsNames tail next) (htail : StopsLine tail) (hrest : Ends isWordChar rest)
    (hstop : (takeComma? rest).bind takeName? = none) {before : List Char} {fuel count : Nat}
    {last : Option Nat} (hfuel : text.length < fuel)
    (hlast : last ≠ some ((text ++ rest) ++ tail).length) :
    rounds furtherNameExpr.run 0 none false next fuel count last
        ⟨before, (text ++ rest) ++ tail, groups⟩ =
      next ⟨text.reverse ++ before, rest ++ tail, groups⟩ := by
  -- along the further names, each of which takes a round
  induction htext generalizing before fuel count last with
  | nil =>
    obtain ⟨fuel, rfl⟩ : ∃ f, fuel = f + 1 := ⟨fuel - 1, by omega⟩
    -- no round more: a comma that no name follows is left to what comes next
    have hnone : furtherNameExpr.run ⟨before, rest ++ tail, groups⟩
        (rounds furtherNameExpr.run 0 none false next fuel (count + 1)
          (some (rest ++ tail).length)) = none := by
      cases hcomma : takeComma? rest with
      | none => exact run_furtherNameExpr_of_none hcomma htail
      | some after =>
        -- behind a comma, no name follows
        rw [hcomma, Option.bind_some] at hstop
        obtain ⟨gap, gap', hgap, hgap', rfl, hends⟩ := takeComma?_eq_some_iff.mp hcomma
        rw [run_furtherNameExpr hgap hgap' hends htail,
          runAll_nameExprs (failsOn_rounds hnext.failsOn) htail, hstop]
    have hlast' : (last != some (rest ++ tail).length) = true := by simpa using hlast
    simp only [List.nil_append, List.reverse_nil, rounds, Nat.not_lt_zero, if_false,
      Option.all_none, hlast', Bool.and_self, if_true, hnone, Bool.false_eq_true]
  | @more gap gap' name text hgap hgap' hname hmore ih =>
    obtain ⟨fuel, rfl⟩ : ∃ f, fuel = f + 1 := ⟨fuel - 1, by omega⟩
    have htaken : takeName? (name ++ (text ++ rest)) = some (name, text ++ rest) :=
      takeWord?_eq_some_iff.mpr ⟨rfl, hname, hmore.ends hrest⟩
    -- one round takes the comma and the name behind it
    have hround : ∀ k, FailsOn isWordChar k → furtherNameExpr.run
        ⟨before, (gap ++ ',' :: (gap' ++ (name ++ text)) ++ rest) ++ tail, groups⟩ k =
          k ⟨(gap ++ ',' :: (gap' ++ name)).reverse ++ before, (text ++ rest) ++ tail, groups⟩ := by
      intro k hk
      have hassoc : (gap ++ ',' :: (gap' ++ (name ++ text)) ++ rest) ++ tail =
          (gap ++ ',' :: (gap' ++ (name ++ (text ++ rest)))) ++ tail := by simp
      rw [hassoc, run_furtherNameExpr hgap hgap' (ends_of_isWord hname _) htail,
        runAll_nameExprs hk htail, htaken]
      simp
    have hrounds := @ih ((gap ++ ',' :: (gap' ++ name)).reverse ++ before) fuel (count + 1)
      (some ((gap ++ ',' :: (gap' ++ (name ++ text)) ++ rest) ++ tail).length)
      (by simp at hfuel; omega) (by simp; omega)
    have hlast' : (last !=
        some ((gap ++ ',' :: (gap' ++ (name ++ text)) ++ rest) ++ tail).length) = true := by
      simpa using hlast
    have hspot : text.reverse ++ ((gap ++ ',' :: (gap' ++ name)).reverse ++ before) =
        (gap ++ ',' :: (gap' ++ (name ++ text))).reverse ++ before := by simp
    rw [hspot] at hrounds
    simp only [rounds, Nat.not_lt_zero, if_false, Option.all_none, hlast', Bool.and_self, if_true,
      hround _ (failsOn_rounds hnext.failsOn), hrounds]
    -- a name is given back only in front of its comma
    cases hfinal : next ⟨(gap ++ ',' :: (gap' ++ (name ++ text))).reverse ++ before, rest ++ tail,
        groups⟩ with
    | some result => rfl
    | none =>
      have hcomma : takeComma? (gap ++ ',' :: (gap' ++ (name ++ text)) ++ rest) =
          some (name ++ (text ++ rest)) :=
        takeComma?_eq_some_iff.mpr
          ⟨gap, gap', hgap, hgap', by simp, ends_of_isWord hname _⟩
      exact hnext.noComma (by rw [hcomma]; rfl)

/-- What the reader of names takes is a name and further names, and then none follows. -/
theorem exists_further_of_takeNames? {fuel : Nat} {names : List (List Char)}
    (h : takeNames? fuel cs = some (names, rest)) (hfuel : cs.length < fuel) :
    ∃ name text, cs = name ++ (text ++ rest) ∧ isWord isWordChar name = true ∧
      SpellsFurther text ∧ Ends isWordChar rest ∧ (takeComma? rest).bind takeName? = none := by
  -- along the reader; the fuel never runs out, so that it stops for want of a name only
  induction fuel generalizing cs names rest with
  | zero => cases h
  | succ fuel ih =>
    rw [takeNames?] at h
    obtain ⟨⟨name, behind⟩, hname, htaken⟩ := Option.bind_eq_some_iff.mp h
    obtain ⟨rfl, hword, hends⟩ := takeWord?_eq_some_iff.mp hname
    obtain ⟨c, ds, rfl, -⟩ := exists_of_isWord hword
    dsimp only at htaken
    split at htaken
    · -- a comma and more names follow
      next others rest' hmore =>
      cases htaken
      obtain ⟨after, hcomma, hafter⟩ := Option.bind_eq_some_iff.mp hmore
      obtain ⟨gap, gap', hgap, hgap', rfl, -⟩ := takeComma?_eq_some_iff.mp hcomma
      obtain ⟨name', text, rfl, hname', htext, hrest, hstop⟩ := ih hafter (by simp at hfuel; omega)
      exact ⟨c :: ds, gap ++ ',' :: (gap' ++ (name' ++ text)), by simp, hword,
        .more hgap hgap' hname' htext, hrest, hstop⟩
    · next hmore =>
      cases htaken
      refine ⟨c :: ds, [], rfl, hword, .nil, hends, ?_⟩
      -- a name behind the comma would have been taken
      rw [Option.bind_eq_none_iff]
      intro after hcomma
      rw [hcomma, Option.bind_some] at hmore
      obtain ⟨fuel, rfl⟩ : ∃ f, fuel = f + 1 := by
        refine ⟨fuel - 1, ?_⟩
        obtain ⟨gap, gap', -, -, rfl, -⟩ := takeComma?_eq_some_iff.mp hcomma
        simp at hfuel
        omega
      rw [takeNames?] at hmore
      cases hnone : takeName? after with
      | none => rfl
      | some taken =>
        rw [hnone] at hmore
        simp only [Option.bind_eq_bind, Option.bind_some] at hmore
        split at hmore <;> cases hmore

/-- The characters of paths are none of those that end a line. -/
theorem isGap_eq_false_of_isPathChar (h : isPathChar c = true) :
    isGap c = false ∧ c ≠ ';' ∧ c ≠ '\n' := by
  refine ⟨?_, ?_, ?_⟩
  · rw [Bool.eq_false_iff]
    intro hgap
    rcases eq_of_isGap hgap with rfl | rfl <;> exact absurd h (by decide)
  · rintro rfl
    exact absurd h (by decide)
  · rintro rfl
    exact absurd h (by decide)

/-- Characters of words are characters of paths. -/
theorem isPathChar_of_isWordChar (h : isWordChar c = true) : isPathChar c = true := by
  rw [isPathChar, h, Bool.true_or]

/-- The names of an alias list, from `s` on, are noted as the third group. -/
def noteNames (s : Spot) (next : Next) : Next :=
  fun t => runAll lineEndExprs next { t with groups := (3, t.since s) :: t.groups }

/-- The end of a line can follow names, also with the names noted before. -/
theorem endsNames_noteNames (tail : List Char) (s : Spot) : EndsNames tail (noteNames s next) where
  failsOn := by
    intro b c rest g hc
    exact failsOn_lineEndExprs (fun d => isGap_eq_false_of_isPathChar) b c rest _
      (isPathChar_of_isWordChar hc)
  noComma := by
    intro b ds g hcomma
    -- a comma ends no line
    obtain ⟨after, hafter⟩ := Option.isSome_iff_exists.mp hcomma
    obtain ⟨gap, gap', hgap, -, rfl, -⟩ := takeComma?_eq_some_iff.mp hafter
    rw [List.append_assoc, List.cons_append]
    exact runAll_lineEndExprs_of_other hgap (by decide) (by decide) (by decide)

/-- The names of a `use` line. -/
def namesExprs : List Expr :=
  nameExprs ++ [.rep furtherNameExpr 0 none .greedy]

/-- Names are taken as the reader takes them. -/
theorem runAll_namesExprs (hnext : EndsNames tail next) (htail : StopsLine tail) {fuel : Nat}
    {text : List Char} {names : List (List Char)}
    (h : takeNames? fuel (text ++ rest) = some (names, rest))
    (hfuel : (text ++ rest).length < fuel) :
    runAll namesExprs next ⟨before, text ++ rest ++ tail, groups⟩ =
      next ⟨text.reverse ++ before, rest ++ tail, groups⟩ := by
  obtain ⟨name, further, hcs, hname, hfurther, hrest, hstop⟩ :=
    exists_further_of_takeNames? h hfuel
  have htext : text = name ++ further := by
    rw [← List.append_assoc] at hcs
    exact List.append_cancel_right hcs
  have hmore : FailsOn isWordChar (runAll [.rep furtherNameExpr 0 none .greedy] next) :=
    fun b c ds g hc => failsOn_rounds hnext.failsOn b c ds g hc
  have htaken : takeName? (text ++ rest) = some (name, further ++ rest) :=
    takeWord?_eq_some_iff.mpr ⟨hcs, hname, hfurther.ends hrest⟩
  rw [namesExprs, runAll_append, runAll_nameExprs hmore htail, htaken]
  -- behind the first name come the rounds of the others
  have hrounds := @rounds_further rest tail groups next further hfurther hnext htail hrest hstop
    (name.reverse ++ before) (0 + ((further ++ rest) ++ tail).length + 2) 0 none
    (by simp; omega) (by simp)
  rw [htext, List.reverse_append, List.append_assoc]
  exact hrounds

/-- Without a first name no names are matched. -/
theorem runAll_namesExprs_of_none (hnext : EndsNames tail next) (htail : StopsLine tail)
    (h : takeName? cs = none) : runAll namesExprs next ⟨before, cs ++ tail, groups⟩ = none := by
  have hmore : FailsOn isWordChar (runAll [.rep furtherNameExpr 0 none .greedy] next) :=
    fun b c ds g hc => failsOn_rounds hnext.failsOn b c ds g hc
  rw [namesExprs, runAll_append, runAll_nameExprs hmore htail, h]

/-- Where no names are read, there is no first one. -/
theorem takeName?_of_takeNames?_none {fuel : Nat} (h : takeNames? (fuel + 1) cs = none) :
    takeName? cs = none := by
  rw [takeNames?] at h
  cases hname : takeName? cs with
  | none => rfl
  | some read =>
    rw [hname, Option.bind_eq_bind, Option.bind_some] at h
    dsimp only at h
    split at h <;> cases h

/-! ### New names -/

/-- A gap that is not empty. -/
theorem run_gapsExpr_one (hnext : FailsOn isGap next) (htail : StopsLine tail) :
    (gapsExpr 1).run ⟨before, cs ++ tail, groups⟩ next =
      match takeGap? cs with
      | some rest => next ⟨(cs.takeWhile isGap).reverse ++ before, rest ++ tail, groups⟩
      | none => none := by
  rw [gapsExpr, run_greedy_one takesOne_gap hnext, pastRun_line htail (by decide)]
  cases cs with
  | nil =>
    rcases htail with rfl | ⟨more, rfl⟩
    · rfl
    · rfl
  | cons c cs =>
    cases hc : isGap c with
    | false => simp [takeGap?, hc]
    | true => simp [takeGap?, hc]

/-- A fixed text. -/
theorem runAll_text {text : List Char} (htext : '\n' ∉ text) (htail : StopsLine tail) :
    runAll (text.map fun c => .char c false) next ⟨before, cs ++ tail, groups⟩ =
      match takeText? text cs with
      | some rest => next ⟨text.reverse ++ before, rest ++ tail, groups⟩
      | none => none := by
  -- character by character; the text is on one line, so that it does not reach behind the end
  induction text generalizing before cs with
  | nil => simp [takeText?]
  | cons c text ih =>
    rw [List.mem_cons, not_or] at htext
    rw [List.map_cons, runAll_cons]
    cases cs with
    | nil =>
      have hnone : (Expr.char c false).run ⟨before, [] ++ tail, groups⟩
          (runAll (text.map fun c => .char c false) next) = none := by
        rw [List.nil_append]
        rcases htail with rfl | ⟨more, rfl⟩
        · exact run_char_nil c
        · exact run_char_ne (Ne.symm htext.1)
      rw [hnone]
      simp [takeText?]
    | cons d cs =>
      rw [List.cons_append]
      by_cases hd : c = d
      · subst hd
        rw [run_char_self, ih htext.2]
        simp only [takeText?, List.isPrefixOf_cons_cons, beq_self_eq_true, Bool.true_and,
          List.length_cons, List.drop_succ_cons]
        split <;> simp
      · simp [run_char_ne hd, takeText?, hd]

/-- The text behind a word and a gap. -/
def behindWord? (word cs : List Char) : Option (List Char) :=
  (takeText? word cs).bind takeGap?

/-- A word and a gap behind it. -/
def wordGapExprs (word : List Char) : List Expr :=
  (word.map fun c => .char c false) ++ [gapsExpr 1]

theorem runAll_wordGapExprs_of_some {word gap : List Char} (hword : '\n' ∉ word)
    (hnext : FailsOn isGap next) (htail : StopsLine tail) (hne : gap ≠ [])
    (hgap : gap.all isGap = true) (hrest : Ends isGap rest) :
    runAll (wordGapExprs word) next ⟨before, word ++ (gap ++ rest) ++ tail, groups⟩ =
      next ⟨gap.reverse ++ (word.reverse ++ before), rest ++ tail, groups⟩ := by
  have hbehind : takeGap? (gap ++ rest) = some rest :=
    takeGap?_eq_some_iff.mpr ⟨gap, hne, hgap, rfl, hrest⟩
  rw [wordGapExprs, runAll_append, runAll_text hword htail, takeText?_eq_some_iff.mpr rfl]
  dsimp only
  rw [runAll_singleton, run_gapsExpr_one hnext htail, hbehind,
    (Text.takeWhile_append_of_ends (List.all_eq_true.mp hgap) hrest).1]

theorem runAll_wordGapExprs_of_none {word : List Char} (hword : '\n' ∉ word)
    (hnext : FailsOn isGap next) (htail : StopsLine tail) (h : behindWord? word cs = none) :
    runAll (wordGapExprs word) next ⟨before, cs ++ tail, groups⟩ = none := by
  rw [wordGapExprs, runAll_append, runAll_text hword htail]
  rw [behindWord?] at h
  cases htext : takeText? word cs with
  | none => rfl
  | some behind =>
    rw [htext, Option.bind_some] at h
    dsimp only
    rw [runAll_singleton, run_gapsExpr_one hnext htail, h]

/-- What follows the gap in front of the new names. -/
def asNext (next : Next) : Next :=
  runAll (wordGapExprs ['a', 's'])
    (runAll [.group 3 (.inOrder namesExprs)] (runAll lineEndExprs next))

theorem run_aliasesExpr (s : Spot) (next : Next) :
    aliasesExpr.run s (runAll lineEndExprs next) = (gapsExpr 1).run s (asNext next) :=
  run_inOrder [gapsExpr 1, .char 'a' false, .char 's' false, gapsExpr 1,
    .group 3 (.inOrder namesExprs)] _ _

theorem failsOn_asNext : FailsOn isGap (asNext next) := by
  intro b c ds g hc
  refine run_char_ne ?_
  rintro rfl
  exact absurd hc (by decide)

theorem failsOn_namesGroup :
    FailsOn isGap (runAll [.group 3 (.inOrder namesExprs)] (runAll lineEndExprs next)) := by
  intro b c ds g hc
  rw [runAll_cons, run_group, run_inOrder, namesExprs, runAll_append]
  exact failsOn_nameExprs b c ds g hc

/-- Behind the two gaps and the word, the list of names is matched and noted. -/
theorem run_aliasesExpr_append {gap gap' list : List Char} (htail : StopsLine tail)
    (hne : gap ≠ []) (hgap : gap.all isGap = true) (hne' : gap' ≠ [])
    (hgap' : gap'.all isGap = true) (hlist : Ends isGap list) :
    ∃ b, b = (gap ++ (['a', 's'] ++ gap')).reverse ++ before ∧
      aliasesExpr.run ⟨before, gap ++ (['a', 's'] ++ (gap' ++ list)) ++ tail, groups⟩
        (runAll lineEndExprs next) =
      runAll namesExprs (noteNames ⟨b, list ++ tail, groups⟩ next) ⟨b, list ++ tail, groups⟩ := by
  have hword : Ends isGap (['a', 's'] ++ (gap' ++ list)) := .cons (by decide) _
  have hbehind : takeGap? (gap ++ (['a', 's'] ++ (gap' ++ list))) =
      some (['a', 's'] ++ (gap' ++ list)) :=
    takeGap?_eq_some_iff.mpr ⟨gap, hne, hgap, rfl, hword⟩
  refine ⟨gap'.reverse ++ (['a', 's'].reverse ++ (gap.reverse ++ before)), by simp, ?_⟩
  rw [run_aliasesExpr, run_gapsExpr_one failsOn_asNext htail, hbehind,
    (Text.takeWhile_append_of_ends (List.all_eq_true.mp hgap) hword).1]
  dsimp only
  rw [asNext, runAll_wordGapExprs_of_some (by decide) failsOn_namesGroup htail hne' hgap' hlist,
    runAll_cons, run_group, run_inOrder]
  rfl

/-- The names that a `use` line gives are matched as they are read, with the end of the line. -/
theorem run_aliasesExpr_of_some {names : List (List Char)} (hcs : '\n' ∉ cs)
    (h : takeAliases? cs = some names) :
    ∃ text, SpellsNames text names ∧ ∀ {before tail : List Char} {groups : List (Nat × List Char)}
      {next : Next}, StopsLine tail →
      aliasesExpr.run ⟨before, cs ++ tail, groups⟩ (runAll lineEndExprs next) =
        next ⟨cs.reverse ++ before, tail, (3, text) :: groups⟩ := by
  obtain ⟨gap, gap', text, last, hne, hgap, hne', hgap', hspells, hlast, rfl⟩ :=
    takeAliases?_eq_some_iff.mp h
  refine ⟨text, hspells, fun {before tail groups next} htail => ?_⟩
  -- the fuel is enough, since every name takes characters
  have hnames : takeNames? ((text ++ last).length + 1) (text ++ last) = some (names, last) := by
    refine takeNames?_complete hspells ?_ hlast
    have := hspells.length_le
    rw [List.length_append]
    omega
  have hline : '\n' ∉ last := fun hmem => hcs (by simp [hmem])
  obtain ⟨b, hb, hrun⟩ := @run_aliasesExpr_append before tail groups next _ _ _ htail hne hgap
    hne' hgap' (hspells.ends last)
  rw [hrun, runAll_namesExprs (endsNames_noteNames tail _) htail hnames (Nat.lt_succ_self _),
    noteNames, since_append, runAll_lineEndExprs htail hline, if_pos (isLineTail_iff.mpr hlast), hb]
  simp

/-- Where no new names are read, none are matched. -/
theorem run_aliasesExpr_of_none (htail : StopsLine tail) (hcs : '\n' ∉ cs)
    (h : takeAliases? cs = none) :
    aliasesExpr.run ⟨before, cs ++ tail, groups⟩ (runAll lineEndExprs next) = none := by
  -- the reader stops at the gap, at the word, at the names or at the end: so does the matcher
  cases hword : takeGap? cs with
  | none => rw [run_aliasesExpr, run_gapsExpr_one failsOn_asNext htail, hword]
  | some word =>
    obtain ⟨gap, hne, hgap, rfl, hends⟩ := takeGap?_eq_some_iff.mp hword
    cases hlist : behindWord? ['a', 's'] word with
    | none =>
      rw [run_aliasesExpr, run_gapsExpr_one failsOn_asNext htail, hword]
      exact runAll_wordGapExprs_of_none (by decide) failsOn_namesGroup htail hlist
    | some list =>
      obtain ⟨behind, htext, hbehind⟩ := Option.bind_eq_some_iff.mp hlist
      obtain rfl := takeText?_eq_some_iff.mp htext
      obtain ⟨gap', hne', hgap', rfl, hends'⟩ := takeGap?_eq_some_iff.mp hbehind
      -- from here on both depend on the names and what follows them
      have hread : takeAliases? (gap ++ (['a', 's'] ++ (gap' ++ list))) =
          (takeNames? (gap' ++ list).length list).bind fun read =>
            if isLineTail read.2 then some read.1 else none := by
        rw [takeAliases?]
        simp only [Option.bind_eq_bind, hword, htext, hbehind, Option.bind_some]
      have hfuel : list.length < (gap' ++ list).length := by
        have := List.length_pos_of_ne_nil hne'
        rw [List.length_append]
        omega
      obtain ⟨b, -, hrun⟩ := @run_aliasesExpr_append before tail groups next _ _ _ htail hne hgap
        hne' hgap' hends'
      rw [hread] at h
      rw [hrun]
      cases hnames : takeNames? (gap' ++ list).length list with
      | none =>
        obtain ⟨fuel, hfuel'⟩ : ∃ n, (gap' ++ list).length = n + 1 :=
          ⟨(gap' ++ list).length - 1, by omega⟩
        rw [hfuel'] at hnames
        exact runAll_namesExprs_of_none (endsNames_noteNames tail _) htail
          (takeName?_of_takeNames?_none hnames)
      | some read =>
        obtain ⟨names, last⟩ := read
        obtain ⟨text, rfl, hspells⟩ := takeNames?_sound hnames
        rw [hnames, Option.bind_some] at h
        have htailed : ¬ isLineTail last = true := fun hlast => by simp [hlast] at h
        have hline : '\n' ∉ last := fun hmem => hcs (by simp [hmem])
        rw [runAll_namesExprs (endsNames_noteNames tail _) htail hnames hfuel, noteNames,
          runAll_lineEndExprs htail hline, if_neg htailed]

/-! ### The rest of a `use` line -/

/-- The optional new names and the end of a line. -/
def restExprs : List Expr :=
  .rep aliasesExpr 0 (some 1) .greedy :: lineEndExprs

/-- The groups noted for new names. -/
def NotesNames (noted : List (Nat × List Char)) (names : List (List Char)) : Prop :=
  noted = [] ∧ names = [] ∨ ∃ text, noted = [(3, text)] ∧ SpellsNames text names

/-- New names are tried first, and then the end of the line. -/
theorem runAll_restExprs (s : Spot) :
    runAll restExprs next s =
      (aliasesExpr.run s (runAll lineEndExprs next)).or (runAll lineEndExprs next s) := by
  rw [restExprs, runAll_cons, run_optional]

/-- Neither new names nor the end of a line start with a character of a path. -/
theorem failsOn_restExprs : FailsOn isPathChar (runAll restExprs next) := by
  intro b c ds g hc
  have hgap := (isGap_eq_false_of_isPathChar hc).1
  rw [runAll_restExprs, run_aliasesExpr, gapsExpr, run_greedy_one takesOne_gap failsOn_asNext,
    if_neg (by simp [hgap]), Option.none_or]
  exact failsOn_lineEndExprs (fun d => isGap_eq_false_of_isPathChar) b c ds g hc

/-- The rest of a line is matched as it is read. -/
theorem runAll_restExprs_of_some {names : List (List Char)} (hcs : '\n' ∉ cs)
    (h : restAliases? cs = some names) :
    ∃ noted, NotesNames noted names ∧ ∀ {before tail : List Char}
      {groups : List (Nat × List Char)} {next : Next}, StopsLine tail →
      runAll restExprs next ⟨before, cs ++ tail, groups⟩ =
        next ⟨cs.reverse ++ before, tail, noted ++ groups⟩ := by
  rw [restAliases?] at h
  cases haliases : takeAliases? cs with
  | some names' =>
    rw [haliases, Option.some_or] at h
    obtain rfl := Option.some.inj h
    obtain ⟨text, hspells, hrun⟩ := run_aliasesExpr_of_some hcs haliases
    refine ⟨[(3, text)], .inr ⟨text, rfl, hspells⟩, fun {before tail groups next} htail => ?_⟩
    -- the word that announces the names cannot be taken for the end of the line
    have hend : runAll lineEndExprs next ⟨before, cs ++ tail, groups⟩ = none := by
      obtain ⟨gap, gap', text, last, -, hgap, -, -, -, -, rfl⟩ :=
        takeAliases?_eq_some_iff.mp haliases
      rw [List.append_assoc]
      exact runAll_lineEndExprs_of_other hgap (by decide) (by decide) (by decide)
    rw [runAll_restExprs, hrun htail, hend, Option.or_none]
    rfl
  | none =>
    -- without new names the line ends at once
    rw [haliases, Option.none_or] at h
    split at h
    case isFalse => cases h
    case isTrue hlast =>
      obtain rfl := Option.some.inj h
      refine ⟨[], .inl ⟨rfl, rfl⟩, fun {before tail groups next} htail => ?_⟩
      rw [runAll_restExprs, run_aliasesExpr_of_none htail hcs haliases, Option.none_or,
        runAll_lineEndExprs htail hcs, if_pos hlast]
      rfl

/-- Where the rest of a line is not read, it is not matched. -/
theorem runAll_restExprs_of_none (htail : StopsLine tail) (hcs : '\n' ∉ cs)
    (h : restAliases? cs = none) :
    runAll restExprs next ⟨before, cs ++ tail, groups⟩ = none := by
  rw [restAliases?, Option.or_eq_none_iff] at h
  have hlast : ¬ isLineTail cs = true := fun hlast => by simp [hlast] at h
  rw [runAll_restExprs, run_aliasesExpr_of_none htail hcs h.1, Option.none_or,
    runAll_lineEndExprs htail hcs, if_neg hlast]

/-! ### Whole `use` lines -/

/-- The path of a `use` line. -/
def pathExprs : List Expr :=
  wordExprs [.category .word false, .char '.']

/-- What follows the indent of a `use` line. -/
def useNext (next : Next) : Next :=
  runAll (wordGapExprs ['u', 's', 'e'])
    (runAll [.group 2 (.inOrder pathExprs)] (runAll restExprs next))

/-- At the start of a line the indent is taken and noted. -/
theorem run_usePattern (hbefore : startsLine before = true) (htail : StopsLine tail) :
    usePattern.expr.run ⟨before, cs ++ tail, groups⟩ next =
      useNext next ⟨(cs.takeWhile isGap).reverse ++ before, cs.dropWhile isGap ++ tail,
        (1, cs.takeWhile isGap) :: groups⟩ := by
  have hrun : usePattern.expr.run ⟨before, cs ++ tail, groups⟩ next =
      (Expr.anchor .lineStart false).run ⟨before, cs ++ tail, groups⟩
        (runAll [.group 1 (.inOrder [gapsExpr 0])] (useNext next)) :=
    run_inOrder _ _ _
  -- the word `use` does not start with a blank, so that the indent is taken whole
  have huse : FailsOn isGap fun t => useNext next { t with
      groups := (1, t.since ⟨before, cs ++ tail, groups⟩) :: t.groups } := by
    intro b c ds g hc
    refine run_char_ne ?_
    rintro rfl
    exact absurd hc (by decide)
  rw [hrun, run_lineStart, if_pos hbefore, runAll_singleton, run_group, run_inOrder,
    runAll_singleton, gapsExpr, run_greedy takesOne_gap (huse.givesNothingBack _),
    pastRun_line htail (by decide), since_append]

/-- A path does not start with a blank. -/
theorem failsOn_pathGroup :
    FailsOn isGap (runAll [.group 2 (.inOrder pathExprs)] (runAll restExprs next)) := by
  intro b c ds g hc
  rw [runAll_cons, run_group, run_inOrder]
  refine takesOne_start.run_neg ?_
  rw [Bool.eq_false_iff]
  intro hstart
  rw [isGap_eq_false_of_isWordStart hstart] at hc
  cases hc

/-- The path is taken and noted. -/
theorem runAll_pathGroup (htail : StopsLine tail) :
    runAll [.group 2 (.inOrder pathExprs)] (runAll restExprs next) ⟨before, cs ++ tail, groups⟩ =
      match takePath? cs with
      | some (path, rest) =>
        runAll restExprs next ⟨path.reverse ++ before, rest ++ tail, (2, path) :: groups⟩
      | none => none := by
  have hnote : FailsOn isPathChar fun t => runAll restExprs next { t with
      groups := (2, t.since ⟨before, cs ++ tail, groups⟩) :: t.groups } :=
    fun b c ds g hc => failsOn_restExprs b c ds _ hc
  rw [runAll_singleton, run_group, run_inOrder, pathExprs,
    runAll_wordExprs takesOne_path (by decide) htail fun _ _ _ => hnote.givesNothingBack _,
    takePath?]
  cases takeWord? isPathChar cs with
  | none => rfl
  | some read => simp only [since_append]

/-- A `use` line is matched, and its groups spell its clause. -/
theorem run_usePattern_of_some {line : List Char} {u : UseClause} (hline : '\n' ∉ line)
    (h : UseClause.ofLine? line = some u) :
    ∃ noted, NotesNames noted u.aliases ∧ ∀ {before tail : List Char} {next : Next},
      startsLine before = true → StopsLine tail →
      usePattern.expr.run ⟨before, line ++ tail, []⟩ next =
        next ⟨line.reverse ++ before, tail, noted ++ [(2, u.path), (1, u.indent)]⟩ := by
  rw [UseClause.ofLine?] at h
  obtain ⟨behind, htext, h⟩ := Option.bind_eq_some_iff.mp h
  obtain ⟨path, hbehind, h⟩ := Option.bind_eq_some_iff.mp h
  obtain ⟨⟨name, rest⟩, hpath, h⟩ := Option.bind_eq_some_iff.mp h
  obtain ⟨names, hnames, h⟩ := Option.bind_eq_some_iff.mp h
  obtain rfl := Option.some.inj h
  -- the line is put together from what the reader took
  have hsplit := List.takeWhile_append_dropWhile (p := isGap) (l := line)
  rw [takeText?_eq_some_iff.mp htext] at hsplit
  obtain ⟨gap, hne, hgap, rfl, hends⟩ := takeGap?_eq_some_iff.mp hbehind
  obtain ⟨rfl, -, -⟩ := takeWord?_eq_some_iff.mp hpath
  have hrest : '\n' ∉ rest := fun hmem => hline (by rw [← hsplit]; simp [hmem])
  obtain ⟨noted, hnoted, hrun⟩ := runAll_restExprs_of_some hrest hnames
  refine ⟨noted, hnoted, fun {before tail next} hbefore htail => ?_⟩
  rw [run_usePattern hbefore htail, takeText?_eq_some_iff.mp htext, useNext,
    runAll_wordGapExprs_of_some (by decide) failsOn_pathGroup htail hne hgap hends,
    runAll_pathGroup htail, hpath]
  dsimp only
  rw [hrun htail]
  have hreverse : line.reverse = rest.reverse ++ (name.reverse ++ (gap.reverse ++
      (['u', 's', 'e'].reverse ++ (line.takeWhile isGap).reverse))) := by
    conv_lhs => rw [← hsplit]
    simp only [List.reverse_append, List.append_assoc]
  rw [hreverse]
  simp only [List.append_assoc]

/-- Where no `use` line is read, none is matched. -/
theorem run_usePattern_of_none {line : List Char} (hline : '\n' ∉ line)
    (h : UseClause.ofLine? line = none) (hbefore : startsLine before = true)
    (htail : StopsLine tail) : usePattern.expr.run ⟨before, line ++ tail, groups⟩ next = none := by
  rw [run_usePattern hbefore htail, useNext]
  rw [UseClause.ofLine?] at h
  -- the matcher stops where the reader stops
  cases hpath : behindWord? ['u', 's', 'e'] (line.dropWhile isGap) with
  | none => exact runAll_wordGapExprs_of_none (by decide) failsOn_pathGroup htail hpath
  | some path =>
    obtain ⟨behind, htext, hbehind⟩ := Option.bind_eq_some_iff.mp hpath
    have hsplit := List.takeWhile_append_dropWhile (p := isGap) (l := line)
    have hword := takeText?_eq_some_iff.mp htext
    obtain ⟨gap, hne, hgap, rfl, hends⟩ := takeGap?_eq_some_iff.mp hbehind
    simp only [Option.bind_eq_bind, htext, hbehind, Option.bind_some] at h
    rw [hword, runAll_wordGapExprs_of_some (by decide) failsOn_pathGroup htail hne hgap hends,
      runAll_pathGroup htail]
    cases hname : takePath? path with
    | none => rfl
    | some read =>
      obtain ⟨name, rest⟩ := read
      obtain ⟨rfl, -, -⟩ := takeWord?_eq_some_iff.mp hname
      rw [hname, Option.bind_some] at h
      have hrest : '\n' ∉ rest := fun hmem => hline (by rw [← hsplit, hword]; simp [hmem])
      cases hnames : restAliases? rest with
      | none => exact runAll_restExprs_of_none htail hrest hnames
      | some names =>
        rw [hnames] at h
        cases h

end OnLine

/-! ### Clauses from groups -/

/-- Blanks are white space. -/
theorem isSpace_of_isGap {c : Char} (h : isGap c = true) : Text.isSpace c = true := by
  rcases eq_of_isGap h with rfl | rfl <;> decide

/-- White space stands in no word. -/
theorem isSpace_eq_false_of_isWordChar {c : Char} (h : isWordChar c = true) :
    Text.isSpace c = false := by
  rw [Bool.eq_false_iff]
  intro hspace
  rw [Text.isWordChar_eq_false_of_isSpace hspace] at h
  cases h

/-- Words are made of characters of words. -/
theorem isWordChar_of_mem {name : List Char} (hname : isWord isWordChar name = true) {c : Char}
    (hc : c ∈ name) : isWordChar c = true := by
  obtain ⟨d, ds, rfl, hd, hds⟩ := exists_of_isWord hname
  -- what opens a word may stand in it too
  rcases List.mem_cons.mp hc with rfl | hc
  · exact Text.isWordChar_of_isWordStart hd
  · exact hds c hc

theorem comma_notMem_name {name : List Char} (hname : isWord isWordChar name = true) :
    ',' ∉ name :=
  fun hc => absurd (isWordChar_of_mem hname hc) (by decide)

theorem comma_notMem_gap {gap : List Char} (hgap : gap.all isGap = true) : ',' ∉ gap :=
  fun hc => absurd (List.all_eq_true.mp hgap _ hc) (by decide)

/-- A name is what is left of it between gaps. -/
theorem trim_name {name gap gap' : List Char} (hname : isWord isWordChar name = true)
    (hgap : gap.all isGap = true) (hgap' : gap'.all isGap = true) :
    Text.trim (gap ++ (name ++ gap')) = name := by
  have hne : name ≠ [] := by
    rintro rfl
    cases hname
  exact Text.trim_append (fun c hc => isSpace_of_isGap (List.all_eq_true.mp hgap c hc))
    (fun c hc => isSpace_of_isGap (List.all_eq_true.mp hgap' c hc))
    (fun c hc => isSpace_eq_false_of_isWordChar (isWordChar_of_mem hname hc)) hne

/-- The names of a list are what stands between its commas, without the gaps. -/
theorem SpellsNames.map_trim {text gap : List Char} {names : List (List Char)}
    (h : SpellsNames text names) (hgap : gap.all isGap = true) :
    (Text.splitAtChar ',' (gap ++ text)).map Text.trim = names := by
  -- the gap of a comma belongs to the next piece, so that it varies
  induction h generalizing gap with
  | @last name hname =>
    have hcomma : ',' ∉ gap ++ name := by
      rw [List.mem_append, not_or]
      exact ⟨comma_notMem_gap hgap, comma_notMem_name hname⟩
    have htrim := @trim_name name gap [] hname hgap rfl
    rw [List.append_nil] at htrim
    rw [Text.splitAtChar_eq_splitOn, List.splitOn_eq_singleton hcomma, List.map_singleton, htrim]
  | @more name before behind text names hname hbefore hbehind hmore ih =>
    have hcomma : ',' ∉ gap ++ (name ++ before) := by
      rw [List.mem_append, List.mem_append, not_or, not_or]
      exact ⟨comma_notMem_gap hgap, comma_notMem_name hname, comma_notMem_gap hbefore⟩
    have htext : gap ++ (name ++ (before ++ ',' :: (behind ++ text))) =
        (gap ++ (name ++ before)) ++ ',' :: (behind ++ text) := by simp
    rw [htext, Text.splitAtChar_eq_splitOn, List.splitOn_append_cons_self_of_not_mem hcomma,
      List.map_cons, trim_name hname hgap hbefore, ← Text.splitAtChar_eq_splitOn, ih hbehind]

/-- The groups of a `use` line spell its clause. -/
theorem ofFound_of_notesNames {noted : List (Nat × List Char)} {u : UseClause}
    (h : NotesNames noted u.aliases) (line : List Char) :
    UseClause.ofFound ⟨line, noted ++ [(2, u.path), (1, u.indent)]⟩ = u := by
  obtain ⟨indent, path, aliases⟩ := u
  obtain ⟨rfl, hnone⟩ | ⟨text, rfl, hspells⟩ := h
  · obtain rfl : aliases = [] := hnone
    rfl
  · have hnames := @SpellsNames.map_trim _ [] _ hspells rfl
    -- the third group is not empty, or it would be taken for no names
    obtain ⟨c, cs, rfl⟩ : ∃ c cs, text = c :: cs := by
      cases hspells with
      | last hname =>
        obtain ⟨c, cs, rfl, -⟩ := exists_of_isWord hname
        exact ⟨c, cs, rfl⟩
      | more hname hgap hgap' hmore =>
        obtain ⟨c, cs, rfl, -⟩ := exists_of_isWord hname
        exact ⟨c, _, rfl⟩
    exact congrArg (UseClause.mk indent path) hnames

/-! ### The rules -/

/-- What the pattern of `use` lines covers on a line. -/
def useGroups? (line : List Char) : Option (List (Nat × List Char)) :=
  (matchAt? usePattern.expr false [] line).map (·.groups)

/-- The pattern of `use` lines matches whole lines: those that spell a clause. -/
theorem useGroups?_of_some {line : List Char} {u : UseClause} (hline : '\n' ∉ line)
    (h : UseClause.ofLine? line = some u) :
    ∃ groups, useGroups? line = some groups ∧ UseClause.ofFound ⟨line, groups⟩ = u := by
  obtain ⟨noted, hnoted, hrun⟩ := run_usePattern_of_some hline h
  have hmatch := @hrun [] [] some rfl (.inl rfl)
  rw [List.append_nil] at hmatch
  refine ⟨_, ?_, ofFound_of_notesNames hnoted line⟩
  simp [useGroups?, matchAt?, hmatch]

/-- What spells no clause is not matched. -/
theorem useGroups?_of_none {line : List Char} (hline : '\n' ∉ line)
    (h : UseClause.ofLine? line = none) : useGroups? line = none := by
  have hmatch := @run_usePattern_of_none [] [] [] some line hline h rfl (.inl rfl)
  rw [List.append_nil] at hmatch
  simp [useGroups?, matchAt?, hmatch]

/-- The pattern of `use` lines matches whole lines. -/
theorem readsLines_usePattern : ReadsLines usePattern.expr useGroups? := by
  refine ReadsLines.of_run (by decide) ?_ ?_
  · -- the groups are the same wherever the line stands
    intro before line rest groups next result hread hbefore hline hrest hresult
    cases hclause : UseClause.ofLine? line with
    | none =>
      rw [useGroups?_of_none hline hclause] at hread
      cases hread
    | some u =>
      obtain ⟨noted, hnoted, hrun⟩ := run_usePattern_of_some hline hclause
      have hmatch := @hrun [] [] some rfl (.inl rfl)
      rw [List.append_nil] at hmatch
      obtain rfl : noted ++ [(2, u.path), (1, u.indent)] = groups := by
        simpa [useGroups?, matchAt?, hmatch] using hread
      rw [← hresult]
      exact hrun hbefore hrest
  · intro before line rest next hread hbefore hline hrest
    cases hclause : UseClause.ofLine? line with
    | none => exact run_usePattern_of_none hline hclause hbefore hrest
    | some u =>
      obtain ⟨groups, hgroups, -⟩ := useGroups?_of_some hline hclause
      rw [hgroups] at hread
      cases hread

/-- The rule of imports maps the lines of a text. -/
theorem Rule.apply_use (text : List Char) : Rule.use.apply text = .ok (mapLines useLine text) := by
  rw [Rule.apply_eq_mapLines readsLines_usePattern (fun _ => rfl), mapLines_congr]
  intro line hline
  rw [replaceLine, useLine]
  -- on each line the rule does what the reader says
  cases hclause : UseClause.ofLine? line with
  | none => rw [useGroups?_of_none hline hclause]
  | some u =>
    obtain ⟨groups, hgroups, hfound⟩ := useGroups?_of_some hline hclause
    rw [hgroups]
    exact congrArg UseClause.render hfound

/-! ### Splices -/

section OnLine

variable {before cs rest tail name after : List Char} {groups : List (Nat × List Char)}
  {next : Next} {result : Spot}

/-- The splice at the start of a text: its name, and the text behind it. -/
def spliceAt? (cs : List Char) : Option (List Char × List Char) :=
  (takeText? ['~', '@'] cs).bind takeName?

/-- The finder looks for a splice at each place, from left to right. -/
theorem findSplice?_cons (c : Char) (cs : List Char) :
    findSplice? (c :: cs) =
      match spliceAt? (c :: cs) with
      | some (name, after) => some ([], name, after)
      | none => (findSplice? cs).map fun found => (c :: found.1, found.2) := by
  rw [findSplice?.eq_def]
  dsimp only
  split
  · next more =>
    have hlead : spliceAt? ('~' :: '@' :: more) = takeName? more := rfl
    cases hname : takeName? more with
    | none => simp [hlead, hname]
    | some found => simp [hlead, hname]
  · next hother =>
    -- another lead is no mark of a splice
    have hlead : spliceAt? (c :: cs) = none := by
      rw [spliceAt?, takeText?, if_neg, Option.bind_none]
      intro hstart
      obtain ⟨more, hmore⟩ := List.isPrefixOf_iff_prefix.mp hstart
      injection hmore with hc hcs
      exact hother more hc.symm hcs.symm
    rw [hlead]

/-- What follows the name of a splice. -/
def afterNext (next : Next) : Next :=
  runAll [.group 3 (.inOrder [.rep (.any false) 0 none .greedy]), .anchor .lineEnd false] next

/-- What follows the text before a splice. -/
def spliceNext (next : Next) : Next :=
  runAll (['~', '@'].map fun c => .char c false)
    (runAll [.group 2 (.inOrder nameExprs)] (afterNext next))

/-- The rest of the line is taken whole. -/
theorem afterNext_of_result (htail : StopsLine tail) (hcs : '\n' ∉ cs)
    (hnext : next ⟨cs.reverse ++ before, tail, (3, cs) :: groups⟩ = some result) :
    afterNext next ⟨before, cs ++ tail, groups⟩ = some result := by
  have hrun : cs.takeWhile (· != '\n') = cs ∧ cs.dropWhile (· != '\n') = [] := by
    have hall : ∀ c ∈ cs, (c != '\n') = true := by
      intro c hc
      simpa using fun heq : c = '\n' => hcs (heq ▸ hc)
    simpa using Text.takeWhile_append_of_ends hall (.nil _)
  have hstop : Spot.pastRun (· != '\n') ⟨before, cs ++ tail, groups⟩ =
      ⟨cs.reverse ++ before, tail, groups⟩ := by
    rw [pastRun_line htail (by decide), hrun.1, hrun.2, List.nil_append]
  -- the whole rest of the line gives a match, so that nothing is given back
  have hresult : (fun t : Spot => runAll [.anchor .lineEnd false] next { t with
      groups := (3, t.since ⟨before, cs ++ tail, groups⟩) :: t.groups })
        (Spot.pastRun (· != '\n') ⟨before, cs ++ tail, groups⟩) = some result := by
    dsimp only
    rw [hstop, since_append, runAll_singleton, run_lineEnd_of_stops htail, hnext]
  rw [afterNext, runAll_cons, run_group, run_inOrder, runAll_singleton,
    run_greedy takesOne_any (givesNothingBack_of_some hresult)]
  exact hresult

/-- A splice is matched as it is read, with the rest of the line. -/
theorem spliceNext_of_some (htail : StopsLine tail) (hcs : '\n' ∉ cs)
    (h : spliceAt? cs = some (name, after))
    (hnext : next ⟨cs.reverse ++ before, tail, (3, after) :: (2, name) :: groups⟩ = some result) :
    spliceNext next ⟨before, cs ++ tail, groups⟩ = some result := by
  obtain ⟨more, htext, hname⟩ := Option.bind_eq_some_iff.mp h
  obtain rfl := takeText?_eq_some_iff.mp htext
  obtain ⟨rfl, -, -⟩ := takeWord?_eq_some_iff.mp hname
  have hafter : '\n' ∉ after := fun hmem => hcs (by simp [hmem])
  -- the longest name gives a match, so that no shorter one is tried
  have hresult : afterNext next ⟨name.reverse ++ (['~', '@'].reverse ++ before), after ++ tail,
      (2, name) :: groups⟩ = some result := by
    refine afterNext_of_result htail hafter ?_
    rw [← hnext]
    simp
  rw [spliceNext, runAll_text (by decide) htail, htext]
  dsimp only
  rw [runAll_singleton, run_group, run_inOrder]
  refine (runAll_wordExprs takesOne_word (by decide) htail ?_).trans ?_
  · intro word rest hword
    obtain ⟨rfl, rfl⟩ := Prod.mk.inj (Option.some.inj (hname.symm.trans hword))
    refine @givesNothingBack_of_some _ _ _ result ?_
    rw [since_append, hresult]
  · rw [show takeWord? isWordChar (name ++ after) = some (name, after) from hname]
    dsimp only
    rw [since_append, hresult]

/-- Where no splice starts, none is matched. -/
theorem spliceNext_of_none (htail : StopsLine tail) (h : spliceAt? cs = none) :
    spliceNext next ⟨before, cs ++ tail, groups⟩ = none := by
  rw [spliceNext, runAll_text (by decide) htail]
  rw [spliceAt?] at h
  cases htext : takeText? ['~', '@'] cs with
  | none => rfl
  | some more =>
    rw [htext, Option.bind_some] at h
    dsimp only
    rw [runAll_singleton, run_group, run_inOrder]
    refine (runAll_wordExprs takesOne_word (by decide) htail ?_).trans ?_
    · intro word rest hword
      cases h.symm.trans hword
    · rw [show takeWord? isWordChar more = none from h]

/-- What follows the start of a line with a splice, with the text before it noted. -/
def noteBefore (s : Spot) (next : Next) : Next :=
  fun t => spliceNext next { t with groups := (1, t.since s) :: t.groups }

/-- The places of a line are tried from left to right, and the first splice is a match. -/
theorem rounds_splice {passed start : List Char} (htail : StopsLine tail) (hcs : '\n' ∉ cs)
    {fuel count : Nat} {last : Option Nat} (hfuel : (cs ++ tail).length < fuel)
    (hlast : last ≠ some (cs ++ tail).length)
    (hnext : ∀ found, findSplice? cs = some found → ∃ result,
      next ⟨(passed ++ cs).reverse ++ before, tail,
        [(3, found.2.2), (2, found.2.1), (1, passed ++ found.1)]⟩ = some result) :
    rounds (Expr.any false).run 0 none true (noteBefore ⟨before, start, []⟩ next) fuel count last
        ⟨passed.reverse ++ before, cs ++ tail, []⟩ =
      (findSplice? cs).bind fun found => next ⟨(passed ++ cs).reverse ++ before, tail,
        [(3, found.2.2), (2, found.2.1), (1, passed ++ found.1)]⟩ := by
  -- induction on the rest of the line, of which each round takes a character
  induction cs generalizing passed fuel count last with
  | nil =>
    obtain ⟨fuel, rfl⟩ : ∃ f, fuel = f + 1 := ⟨fuel - 1, by omega⟩
    rw [rounds_lazy hlast, noteBefore, spliceNext_of_none htail rfl, Option.none_or]
    rcases htail with rfl | ⟨more, rfl⟩
    · exact takesOne_any.run_nil
    · exact takesOne_any.run_neg (by decide)
  | cons c cs ih =>
    obtain ⟨fuel, rfl⟩ : ∃ f, fuel = f + 1 := ⟨fuel - 1, by omega⟩
    rw [rounds_lazy hlast, noteBefore]
    dsimp only
    rw [since_append]
    rw [findSplice?_cons] at hnext ⊢
    cases hsplice : spliceAt? (c :: cs) with
    | some read =>
      -- the splice starts here
      obtain ⟨name, after⟩ := read
      rw [hsplice] at hnext
      obtain ⟨result, hresult⟩ := hnext _ rfl
      dsimp only at hresult ⊢
      rw [List.append_nil, List.reverse_append, List.append_assoc] at hresult
      rw [Option.bind_some, List.append_nil, List.reverse_append, List.append_assoc, hresult,
        spliceNext_of_some htail hcs hsplice hresult, Option.some_or]
    | none =>
      -- the character is passed, and the next round starts behind it
      rw [List.mem_cons, not_or] at hcs
      have hc : (c != '\n') = true := by simpa using Ne.symm hcs.1
      have hpassed : c :: (passed.reverse ++ before) = (passed ++ [c]).reverse ++ before := by simp
      have hcovered : passed ++ c :: cs = (passed ++ [c]) ++ cs := by simp
      rw [spliceNext_of_none htail hsplice, Option.none_or, List.cons_append,
        takesOne_any.run_pos hc, hpassed, ih hcs.2 _ _ _, hcovered]
      · cases findSplice? cs with
        | none => rfl
        | some found => simp
      · rw [List.cons_append, List.length_cons] at hfuel
        omega
      · simp
      · intro found hfound
        rw [hsplice, hfound] at hnext
        obtain ⟨result, hresult⟩ := hnext _ rfl
        refine ⟨result, ?_⟩
        rw [← hcovered, ← hresult]
        simp

end OnLine

/-- What the pattern of splices covers on a line. -/
def spliceGroups? (line : List Char) : Option (List (Nat × List Char)) :=
  (findSplice? line).map fun found => [(3, found.2.2), (2, found.2.1), (1, found.1)]

/-- At the start of a line, the pattern of splices looks for the first one. -/
theorem run_splicePattern {before line tail : List Char} {next : Next}
    (hbefore : startsLine before = true) (hline : '\n' ∉ line) (htail : StopsLine tail)
    (hnext : ∀ found, findSplice? line = some found → ∃ result, next ⟨line.reverse ++ before, tail,
      [(3, found.2.2), (2, found.2.1), (1, found.1)]⟩ = some result) :
    splicePattern.expr.run ⟨before, line ++ tail, []⟩ next =
      (findSplice? line).bind fun found => next ⟨line.reverse ++ before, tail,
        [(3, found.2.2), (2, found.2.1), (1, found.1)]⟩ := by
  have hrun : splicePattern.expr.run ⟨before, line ++ tail, []⟩ next =
      (Expr.anchor .lineStart false).run ⟨before, line ++ tail, []⟩
        (runAll [.group 1 (.inOrder [.rep (.any false) 0 none .lazy])] (spliceNext next)) :=
    run_inOrder _ _ _
  rw [hrun, run_lineStart, if_pos hbefore, runAll_singleton, run_group, run_inOrder,
    runAll_singleton, run_rep_lazy]
  exact @rounds_splice before line tail next [] (line ++ tail) htail hline _ _ _ (by simp)
    (by simp) hnext

/-- The pattern of splices matches whole lines: those with a splice. -/
theorem readsLines_splicePattern : ReadsLines splicePattern.expr spliceGroups? := by
  refine ReadsLines.of_run rfl ?_ ?_
  · -- a line with a splice is matched with its groups
    intro before line rest groups next result hread hbefore hline hrest hresult
    obtain ⟨found, hfound, rfl⟩ := Option.map_eq_some_iff.mp hread
    refine (run_splicePattern hbefore hline hrest ?_).trans ?_
    · intro found' hfound'
      obtain rfl := Option.some.inj (hfound.symm.trans hfound')
      exact ⟨result, hresult⟩
    · rw [hfound, Option.bind_some, hresult]
  · -- any other is not
    intro before line rest next hread hbefore hline hrest
    have hnone := Option.map_eq_none_iff.mp hread
    refine (run_splicePattern hbefore hline hrest ?_).trans ?_
    · intro found hfound
      cases hnone.symm.trans hfound
    · rw [hnone, Option.bind_none]

/-- The rule of splices maps the lines of a text. -/
theorem Rule.apply_splice (text : List Char) :
    Rule.splice.apply text = .ok (mapLines spliceLine text) := by
  rw [Rule.apply_eq_mapLines readsLines_splicePattern (fun _ => rfl), mapLines_congr]
  intro line hline
  rw [replaceLine, spliceLine, spliceGroups?]
  cases findSplice? line <;> rfl

end ReplEngine.Expansion
