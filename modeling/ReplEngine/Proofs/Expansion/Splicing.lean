import ReplEngine.Proofs.Expansion.Matching
import ReplEngine.Proofs.Layout.ReadBack

/-!
# Splicing keeps the source around the variable

The line with a splice becomes an expression for its own source: two string literals with the
items of the variable between them.  The splice is the first place where a name follows the mark
`~@`, and its name goes as far as a name can, so that there is one way to take the line apart
(`FirstSplice.unique`).  The literals denote the text before the splice and the text behind it,
whatever characters these hold.

## Key results

- `findSplice?_eq_some_iff`: the splice that is found is the first one, with its longest name
- `read?_quoted`: a quoted text denotes the text
-/

namespace ReplEngine.Expansion

open Text (Ends isWordStart isWordChar)

variable {line before name after : List Char}

/-! ### The first splice -/

/-- Somewhere in the line, a letter or an underscore follows the mark of a splice. -/
def HasSplice (line : List Char) : Prop :=
  ∃ u c w, line = u ++ '~' :: '@' :: c :: w ∧ isWordStart c = true

/-- The line is taken apart at the first mark that a name follows, and the name is the longest
    there. -/
structure FirstSplice (line before name after : List Char) : Prop where
  line_eq : line = before ++ '~' :: '@' :: (name ++ after)
  isName : isWord isWordChar name = true
  first : ∀ u c w, line = u ++ '~' :: '@' :: c :: w → isWordStart c = true →
    before.length ≤ u.length
  longest : ∀ other, isWord isWordChar other = true → other <+: name ++ after →
    other.length ≤ name.length

/-- Of two ways to take a line apart, neither has its splice behind that of the other one. -/
theorem FirstSplice.length_le (h : FirstSplice line before name after) {u v w : List Char}
    (hother : FirstSplice line u v w) : before.length ≤ u.length := by
  obtain ⟨c, cs, rfl, hc, -⟩ := exists_of_isWord hother.isName
  exact h.first u c (cs ++ w) (by rw [hother.line_eq]; rfl) hc

/-- There is only one way to take a line apart. -/
theorem FirstSplice.unique (h : FirstSplice line before name after) {u v w : List Char}
    (hother : FirstSplice line u v w) : before = u ∧ name = v ∧ after = w := by
  -- neither splice lies behind the other, so both start at the same place
  have hbefore : before.length = u.length := by
    have hle := h.length_le hother
    have hge := hother.length_le h
    omega
  obtain ⟨rfl, hrest⟩ := List.append_inj (h.line_eq.symm.trans hother.line_eq) hbefore
  rw [List.cons.injEq, List.cons.injEq] at hrest
  -- and neither name is the longer one
  have hname : name.length = v.length := by
    have hle := hother.longest name h.isName ⟨after, hrest.2.2⟩
    have hge := h.longest v hother.isName ⟨w, hrest.2.2.symm⟩
    omega
  obtain ⟨rfl, rfl⟩ := List.append_inj hrest.2.2 hname
  exact ⟨rfl, rfl, rfl⟩

/-! ### Finding it -/

/-- A mark that a name follows at once is the first splice. -/
theorem FirstSplice.of_takeName? {more : List Char} (h : takeName? more = some (name, after)) :
    FirstSplice ('~' :: '@' :: more) [] name after := by
  obtain ⟨rfl, hname, hafter⟩ := takeWord?_eq_some_iff.mp h
  exact ⟨rfl, hname, fun _ _ _ _ _ => Nat.zero_le _,
    fun _ hother => length_le_of_isWord hafter hname hother⟩

section Head

variable {c : Char} {rest : List Char}

/-- No name follows the first character as the mark, so that a splice lies behind it. -/
theorem exists_of_no_splice (hc : ∀ more, c :: rest = '~' :: '@' :: more → takeName? more = none)
    {u w : List Char} {d : Char} (heq : c :: rest = u ++ '~' :: '@' :: d :: w)
    (hd : isWordStart d = true) : ∃ v, u = c :: v ∧ rest = v ++ '~' :: '@' :: d :: w := by
  cases u with
  | nil =>
    -- here the letter behind the mark would be taken as a name
    have hsome : (takeName? (d :: w)).isSome = true := isSome_takeWord? hd
    rw [hc _ heq] at hsome
    cases hsome
  | cons x v =>
    rw [List.cons_append, List.cons.injEq] at heq
    exact ⟨v, by rw [heq.1], heq.2⟩

/-- A character with which no splice starts goes before the first one. -/
theorem FirstSplice.cons (h : FirstSplice rest before name after)
    (hc : ∀ more, c :: rest = '~' :: '@' :: more → takeName? more = none) :
    FirstSplice (c :: rest) (c :: before) name after where
  line_eq := by rw [h.line_eq]; rfl
  isName := h.isName
  longest := h.longest
  first := by
    intro u d w heq hd
    obtain ⟨v, rfl, hrest⟩ := exists_of_no_splice hc heq hd
    exact Nat.succ_le_succ (h.first v d w hrest hd)

/-- The finder passes over a character with which no splice starts. -/
theorem findSplice?_cons_of_none
    (hc : ∀ more, c :: rest = '~' :: '@' :: more → takeName? more = none) :
    findSplice? (c :: rest) = (findSplice? rest).map fun found => (c :: found.1, found.2) := by
  rw [findSplice?.eq_def (c :: rest)]
  dsimp only
  split
  · next more => rw [hc more rfl]
  · rfl

end Head

/-- What is found is the first splice; where nothing is found there is none. -/
theorem findSplice?_spec (line : List Char) :
    (∃ before name after, findSplice? line = some (before, name, after) ∧
      FirstSplice line before name after) ∨ (findSplice? line = none ∧ ¬ HasSplice line) := by
  -- along the finder: at each character a splice starts, or it is passed over
  induction line with
  | nil => exact .inr ⟨rfl, by simp [HasSplice]⟩
  | cons c rest ih =>
    by_cases hc : ∀ more, c :: rest = '~' :: '@' :: more → takeName? more = none
    · rw [findSplice?_cons_of_none hc]
      obtain ⟨before, name, after, hfound, hfirst⟩ | ⟨hfound, hnone⟩ := ih
      · rw [hfound]
        exact .inl ⟨c :: before, name, after, rfl, hfirst.cons hc⟩
      · rw [hfound]
        refine .inr ⟨rfl, ?_⟩
        rintro ⟨u, d, w, heq, hd⟩
        obtain ⟨v, -, hrest⟩ := exists_of_no_splice hc heq hd
        exact hnone ⟨v, d, w, hrest, hd⟩
    · -- a name follows the mark right here
      simp only [not_forall] at hc
      obtain ⟨more, heq, htaken⟩ := hc
      obtain ⟨⟨name, after⟩, htaken⟩ := Option.ne_none_iff_exists'.mp htaken
      rw [heq]
      refine .inl ⟨[], name, after, ?_, .of_takeName? htaken⟩
      rw [findSplice?, htaken]

/-- The splice that is found is the first one, with its longest name. -/
theorem findSplice?_eq_some_iff :
    findSplice? line = some (before, name, after) ↔ FirstSplice line before name after := by
  constructor
  · -- what is found is a first splice
    intro h
    obtain ⟨u, v, w, hfound, hfirst⟩ | ⟨hnone, -⟩ := findSplice?_spec line
    · rw [h, Option.some.injEq, Prod.mk.injEq, Prod.mk.injEq] at hfound
      obtain ⟨rfl, rfl, rfl⟩ := hfound
      exact hfirst
    · rw [h] at hnone
      cases hnone
  · -- and there is only one
    intro h
    obtain ⟨u, v, w, hfound, hfirst⟩ | ⟨-, hnone⟩ := findSplice?_spec line
    · obtain ⟨rfl, rfl, rfl⟩ := h.unique hfirst
      exact hfound
    · obtain ⟨c, cs, rfl, hc, -⟩ := exists_of_isWord h.isName
      exact absurd ⟨before, c, cs ++ after, h.line_eq, hc⟩ hnone

/-! ### The literals -/

/-- A quoted text is a literal that denotes the text. -/
theorem read?_quoted (cs : List Char) :
    Literal.read? (String.ofList (Text.quoted cs)) = some (.str (String.ofList cs)) := by
  have hstring : Text.quoteString (String.ofList cs) = String.ofList (Text.quoted cs) := by
    rw [Text.quoteString, String.toList_ofList]
  -- the quoted text is how a string shows itself, and that is read back
  obtain ⟨text, htext, hread⟩ :=
    (Layout.ReadsBack.atom (Literal.Shows.str (String.ofList cs))).read?
  cases htext
  rwa [hstring] at hread

/-- Splicing keeps the source around the variable.  A line with a splice has a first one, and is
    then an expression of three parts: a literal that denotes the mark of a deferred value and
    the text before the splice, the items of the variable, and a literal that denotes the text
    behind the splice. -/
theorem splice_keeps_source (line : List Char) (hline : '\n' ∉ line) (hsplice : HasSplice line) :
    (∃ before name after, FirstSplice line before name after) ∧
    ∀ before name after, FirstSplice line before name after →
      ∃ left right,
        Rule.splice.apply line =
          .ok (left ++ " + ', '.join(map(str, ".toList ++ name ++ ")) + ".toList ++ right) ∧
        Literal.read? (String.ofList left) = some (.str ("return " ++ String.ofList before)) ∧
        Literal.read? (String.ofList right) = some (.str (String.ofList after)) := by
  constructor
  · obtain ⟨before, name, after, -, hfirst⟩ | ⟨-, hnone⟩ := findSplice?_spec line
    · exact ⟨before, name, after, hfirst⟩
    · exact absurd hsplice hnone
  · intro before name after hfirst
    refine ⟨Text.quoted (deferredMark ++ before), Text.quoted after, ?_, ?_, read?_quoted after⟩
    · rw [Rule.apply_splice, mapLines_of_not_mem _ hline, spliceLine,
        findSplice?_eq_some_iff.mpr hfirst]
      rfl
    · rw [read?_quoted, String.ofList_append]
      rfl

/-- A line with both quotes, a backslash, a control character and a letter that is not of ASCII
    around its splice.  A mark without a name stands before the splice, and a further splice
    behind it. -/
def quotingLine : List Char :=
  "say('\\\"~@1', ~@rows_2 + 'é\t', ~@more)".toList

/-- The text around a splice is kept with all its quotes. -/
theorem splice_keeps_source_quoting :
    '\n' ∉ quotingLine ∧ HasSplice quotingLine ∧
    FirstSplice quotingLine "say('\\\"~@1', ".toList "rows_2".toList " + 'é\t', ~@more)".toList ∧
    ∃ left right,
      Rule.splice.apply quotingLine =
        .ok (left ++ " + ', '.join(map(str, ".toList ++ "rows_2".toList ++ ")) + ".toList ++
          right) ∧
      Literal.read? (String.ofList left) =
        some (.str ("return " ++ String.ofList "say('\\\"~@1', ".toList)) ∧
      Literal.read? (String.ofList right) =
        some (.str (String.ofList " + 'é\t', ~@more)".toList)) := by
  have hline : '\n' ∉ quotingLine := by decide
  have hsplice : HasSplice quotingLine :=
    ⟨"say('\\\"~@1', ".toList, 'r', "ows_2 + 'é\t', ~@more)".toList, by decide, by decide⟩
  have hfirst : FirstSplice quotingLine "say('\\\"~@1', ".toList "rows_2".toList
      " + 'é\t', ~@more)".toList := findSplice?_eq_some_iff.mp (by decide)
  exact ⟨hline, hsplice, hfirst, (splice_keeps_source quotingLine hline hsplice).2 _ _ _ hfirst⟩

end ReplEngine.Expansion
