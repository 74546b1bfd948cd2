import ReplEngine.Cursor.Expression
import ReplEngine.Proofs.Scan.Nesting

/-!
# Brackets read backwards

The expression before a cursor is read from its end.  At a closing bracket the reader looks for
the bracket that it closes: it passes over strings, keeps the brackets it still has to find, and
never knows what the lexer knew when it came from the other side.  This file proves that the two
agree on texts whose strings can be told from their end.

The proof goes through the text with the lexer.  At each place where the lexer is in code, reading
backwards from there finds every bracket that is open (`Finds`).  A string in between is passed as
a whole, because a mark inside it has a backslash before it and the mark that opens it has none.

## Key results

- `Finds.of_passed`: what is passed over on the way back does not matter
- `standing_of_le`: at each place, reading backwards finds the open brackets
- `openingOf?_of_isInnermost`: a closing bracket is matched with the one that the lexer closes
-/

namespace ReplEngine.Cursor

open ReplEngine.Scan

/-! ### Texts that can be read backwards -/

/-- The string that is opened at the place `p` and closed at the place `stop` can be told from
    its end: one mark opens it, with no backslash and no such mark before it, and a mark that is
    not escaped closes it. -/
structure IsPlainString (text : List Char) (mark : Mark) (p stop : Nat) : Prop where
  before : ∀ c ∈ (text.take p).getLast?, c ≠ '\\' ∧ c ≠ mark.char
  lt : p < stop
  inside : ∀ k ≤ stop, p < k → (stateAt text k).mode = .string ⟨mark, false⟩
  closing : text[stop]? = some mark.char
  behind : (stateAt text (stop + 1)).mode = .code

/-- A text without comments, whose strings can be told from their ends, and in which every closing
    bracket closes one of its own kind. -/
structure IsTwoWay (text : List Char) : Prop where
  comments : ∀ i, (i, Kind.comment) ∉ tokens text
  strings : ∀ p, (p, Kind.string) ∈ tokens text → ∃ mark stop, IsPlainString text mark p stop
  closings : ∀ e, (e, Kind.closing) ∈ tokens text → ∃ bracket outer,
    (stateAt text e).brackets = bracket :: outer ∧ text[e]?.bind closedBracket? = some bracket

instance (text : List Char) (mark : Mark) (p stop : Nat) :
    Decidable (IsPlainString text mark p stop) :=
  -- not over all characters, but over the last one
  decidable_of_iff ((text.take p).getLast?.all (fun c => c != '\\' && c != mark.char) = true ∧
      p < stop ∧ (∀ k ≤ stop, p < k → (stateAt text k).mode = .string ⟨mark, false⟩) ∧
      text[stop]? = some mark.char ∧ (stateAt text (stop + 1)).mode = .code)
    ⟨fun h => ⟨by simpa [Option.all_eq_true] using h.1, h.2.1, h.2.2.1, h.2.2.2.1, h.2.2.2.2⟩,
      fun h => ⟨by simpa [Option.all_eq_true] using h.before, h.lt, h.inside, h.closing, h.behind⟩⟩

/-- The place of the bracket that is closed at the place `e`, found by reading backwards. -/
def openingOf? (text : List Char) (e : Nat) : Option Nat :=
  (text[e]?.bind closedBracket?).bind fun bracket =>
    (beforeOpening? [bracket] (text.take e).reverse).map List.length

/-! ### Characters -/

variable {c : Char} {mark : Mark} {bracket : Bracket} {pending outer : List Bracket}
  {before further text rest : List Char} {n p : Nat}

theorem isMark_char (mark : Mark) : isMark mark.char = true := by
  cases mark <;> rfl

/-- What opens no string is no mark. -/
theorem isMark_of_ofChar? (h : Mark.ofChar? c = none) : isMark c = false := by
  unfold Mark.ofChar? at h
  unfold isMark
  split at h
  · cases h
  · split at h
    · cases h
    · -- it is neither of the two marks
      next hsingle hdouble => simp [hsingle, hdouble]

/-- What is not a closing bracket closes none. -/
theorem closedBracket?_of_isClosing (h : isClosing c = false) : closedBracket? c = none := by
  unfold isClosing at h
  rw [Bool.or_eq_false_iff, Bool.or_eq_false_iff] at h
  simp [closedBracket?, h.1.1, h.1.2, h.2]

/-- An opening bracket closes none. -/
theorem closedBracket?_of_ofOpening? (h : Bracket.ofOpening? c = some bracket) :
    closedBracket? c = none := by
  unfold Bracket.ofOpening? at h
  split at h
  · next hc => rw [eq_of_beq hc]; rfl
  · split at h
    · next hc => rw [eq_of_beq hc]; rfl
    · split at h
      · next hc => rw [eq_of_beq hc]; rfl
      · cases h

/-! ### Steps of the backward reader -/

/-- A character that is neither mark nor bracket is passed over. -/
theorem beforeOpening?_plain (hmark : isMark c = false) (hclosed : closedBracket? c = none)
    (hopening : Bracket.ofOpening? c = none) :
    beforeOpening? pending (c :: before) = beforeOpening? pending before := by
  rw [beforeOpening?.eq_def]
  simp [hmark, hclosed, hopening]

/-- At a closing bracket, the one that it closes is looked for first. -/
theorem beforeOpening?_closing (hmark : isMark c = false)
    (hclosed : closedBracket? c = some bracket) :
    beforeOpening? pending (c :: before) = beforeOpening? (bracket :: pending) before := by
  rw [beforeOpening?.eq_def]
  simp [hmark, hclosed]

/-- The bracket that is looked for first is found, and with the last one the search ends. -/
theorem beforeOpening?_opening (hmark : isMark c = false)
    (hopening : Bracket.ofOpening? c = some bracket) :
    beforeOpening? (bracket :: outer) (c :: before) =
      if outer.isEmpty then some before else beforeOpening? outer before := by
  rw [beforeOpening?.eq_def]
  simp [hmark, closedBracket?_of_ofOpening? hopening, hopening]

/-- A string is passed over as a whole. -/
theorem beforeOpening?_string (hmark : isMark c = true)
    (hstring : beforeString? c before = some further) :
    beforeOpening? pending (c :: before) = beforeOpening? pending further := by
  rw [beforeOpening?.eq_def]
  simp only [hmark, if_true]
  -- the reader goes on behind what it has found of the string
  split
  · next hnone => simp [hstring] at hnone
  · next found hsome =>
    rw [hstring] at hsome
    rw [Option.some.inj hsome]

/-- A mark that no two marks stand before is not taken for the end of three. -/
theorem beforeString?_eq_beforeMark? {c : Char} (h : ¬[c, c] <+: before) :
    beforeString? c before = beforeMark? c before := by
  unfold beforeString?
  split
  · next a b further =>
    -- two marks before this one would make three
    have hne : (a == c && b == c) = false := by
      rw [← Bool.not_eq_true, Bool.and_eq_true, beq_iff_eq, beq_iff_eq]
      rintro ⟨rfl, rfl⟩
      exact h ⟨further, rfl⟩
    simp [hne]
  · rfl

/-! ### What is found from a place -/

/-- Reading backwards from a place finds the brackets that are open there: looking for some of
    them, it stops at the last place where the text was not yet as deep. -/
def Finds (text : List Char) (n : Nat) : Prop :=
  ∀ pending outer : List Bracket, pending ≠ [] → (stateAt text n).brackets = pending ++ outer →
    ∃ p < n, beforeOpening? pending (text.take n).reverse = some (text.take p).reverse ∧
      (stateAt text p).depth = outer.length ∧
      ∀ k ≤ n, p < k → outer.length < (stateAt text k).depth

/-- The depth counts the brackets that are looked for and those around them. -/
theorem depth_of_brackets {s : State} (h : s.brackets = pending ++ outer) :
    s.depth = pending.length + outer.length := by
  rw [State.depth, h, List.length_append]

/-- What is passed over on the way back does not matter. -/
theorem Finds.of_passed (h : Finds text p) (hle : p ≤ n)
    (hsame : ∀ k ≤ n, p ≤ k → (stateAt text k).brackets = (stateAt text p).brackets)
    (hpass : ∀ pending, beforeOpening? pending (text.take n).reverse =
      beforeOpening? pending (text.take p).reverse) : Finds text n := by
  intro pending outer hpending hbrackets
  -- the same brackets are open at both places
  have hp : (stateAt text p).brackets = pending ++ outer := by
    rw [← hsame n (Nat.le_refl n) hle, hbrackets]
  obtain ⟨q, hq, hfound, hdepth, hdeeper⟩ := h pending outer hpending hp
  refine ⟨q, by omega, by rw [hpass, hfound], hdepth, fun k hk hqk => ?_⟩
  by_cases hkp : k ≤ p
  · exact hdeeper k hkp hqk
  · -- between the two places the text is as deep as at both
    have hk' : (stateAt text k).brackets = pending ++ outer := by
      rw [hsame k hk (by omega), hp]
    have hpos := List.length_pos_iff.mpr hpending
    have := depth_of_brackets hk'
    omega

/-- From its end, a text starts with its last character. -/
theorem reverse_take_succ (h : text.drop n = c :: rest) :
    (text.take (n + 1)).reverse = c :: (text.take n).reverse := by
  rw [take_succ_of_drop h, List.reverse_append]
  rfl

/-- An opening bracket can be found from behind it, and so can those before it. -/
theorem Finds.opening (h : Finds text n) (hdrop : text.drop n = c :: rest)
    (hmark : isMark c = false) (hopening : Bracket.ofOpening? c = some bracket)
    (hstate : (stateAt text (n + 1)).brackets = bracket :: (stateAt text n).brackets) :
    Finds text (n + 1) := by
  intro pending outer hpending hbrackets
  obtain ⟨first, others, rfl⟩ := List.exists_cons_of_ne_nil hpending
  rw [hstate, List.cons_append, List.cons.injEq] at hbrackets
  obtain ⟨rfl, hothers⟩ := hbrackets
  have hdepth : (stateAt text (n + 1)).depth = (stateAt text n).depth + 1 := by
    rw [State.depth, hstate, List.length_cons, State.depth]
  rw [reverse_take_succ hdrop, beforeOpening?_opening hmark hopening]
  by_cases hempty : others = []
  · -- it is the one that is looked for
    subst hempty
    have hn : (stateAt text n).depth = outer.length := by rw [State.depth, hothers]; rfl
    refine ⟨n, by omega, rfl, hn, fun k hk hnk => ?_⟩
    obtain rfl : k = n + 1 := by omega
    omega
  · -- others are looked for behind it, and found from the place before it
    obtain ⟨p, hp, hfound, hlevel, hdeeper⟩ := h others outer hempty hothers
    refine ⟨p, by omega, ?_, hlevel, fun k hk hpk => ?_⟩
    · rw [if_neg (by simpa using hempty), hfound]
    · by_cases hkn : k ≤ n
      · exact hdeeper k hkn hpk
      · obtain rfl : k = n + 1 := by omega
        have := hdeeper n (Nat.le_refl n) hp
        omega

/-- Behind a closing bracket, reading backwards looks for the bracket that it closes as well. -/
theorem Finds.closing (h : Finds text n) (hdrop : text.drop n = c :: rest)
    (hmark : isMark c = false) (hclosed : closedBracket? c = some bracket)
    (hstate : (stateAt text n).brackets = bracket :: (stateAt text (n + 1)).brackets) :
    Finds text (n + 1) := by
  intro pending outer hpending hbrackets
  rw [hbrackets, ← List.cons_append] at hstate
  -- before the bracket one more is open, and it is looked for first
  obtain ⟨p, hp, hfound, hlevel, hdeeper⟩ := h (bracket :: pending) outer (by simp) hstate
  rw [reverse_take_succ hdrop, beforeOpening?_closing hmark hclosed]
  refine ⟨p, by omega, hfound, hlevel, fun k hk hpk => ?_⟩
  by_cases hkn : k ≤ n
  · exact hdeeper k hkn hpk
  · obtain rfl : k = n + 1 := by omega
    have hpos := List.length_pos_iff.mpr hpending
    have := depth_of_brackets hbrackets
    omega

/-! ### Inside a string -/

/-- The lexer is inside a string before which the text `opened` stands, and `before` is what was
    read, from its end.  Either the next character is read as it is, and reading backwards from here
    finds the mark that opens the string, or it is escaped by the backslash before it. -/
inductive Inside (mark : Mark) (opened : List Char) : (before : List Char) → (skip : Nat) → Prop
  | free {before : List Char} (hfound : beforeMark? mark.char before = some opened)
    (hmarks : ¬[mark.char, mark.char] <+: before) : Inside mark opened before 0
  | escaped {before : List Char} (hfound : beforeMark? mark.char before = some opened) :
    Inside mark opened ('\\' :: before) 1

variable {opened : List Char}

/-- The backslash is no mark. -/
theorem backslash_ne_mark (mark : Mark) : '\\' ≠ mark.char := by
  cases mark <;> decide

/-- A character other than the mark is passed over. -/
theorem beforeMark?_cons_of_ne {x : Char} (h : c ≠ x) :
    beforeMark? x (c :: before) = beforeMark? x before := by
  rw [beforeMark?.eq_def]
  simp [h]

/-- A mark behind a backslash is passed over together with it. -/
theorem beforeMark?_escaped (h : '\\' ≠ c) (d : Char) :
    beforeMark? c (d :: '\\' :: before) = beforeMark? c before := by
  by_cases hd : d = c
  · rw [beforeMark?.eq_def]
    simp [hd]
  · rw [beforeMark?_cons_of_ne hd, beforeMark?_cons_of_ne h]

/-- Behind the mark that opens it, the lexer is inside the string. -/
theorem Inside.start (h : ∀ c ∈ opened.head?, c ≠ '\\' ∧ c ≠ mark.char) :
    Inside mark opened (mark.char :: opened) 0 := by
  cases opened with
  | nil => exact .free (by simp [beforeMark?]) (by simp)
  | cons d further =>
    -- the character before the mark neither escapes it nor makes it the second of two
    obtain ⟨hback, hmark⟩ := h d rfl
    refine .free ?_ ?_
    · rw [beforeMark?.eq_def]
      simp only [beq_self_eq_true, if_true]
      split
      · next heq => exact absurd (List.cons.inj heq).1 hback
      · rfl
    · rw [List.cons_prefix_cons, List.cons_prefix_cons]
      exact fun h => hmark h.2.1.symm

/-- A step inside a string stays in it, or it reads an unescaped character and leaves it. -/
theorem Inside.step {s : State} {skip : Nat} (h : Inside mark opened before skip)
    (hmode : s.mode = .string ⟨mark, false⟩) (c : Char) (rest : List Char) :
    (((Lexer.mk s skip).step c rest).1.state = s ∧
      Inside mark opened (c :: before) ((Lexer.mk s skip).step c rest).1.skip) ∨
    (((Lexer.mk s skip).step c rest).1 = ⟨{ s with mode := .code }, 0⟩ ∧
      beforeString? mark.char before = some opened) := by
  cases h with
  | escaped hfound =>
    -- whatever is escaped, the string goes on
    refine .inl ⟨rfl, .free ?_ ?_⟩
    · rw [beforeMark?_escaped (backslash_ne_mark mark), hfound]
    · rw [List.cons_prefix_cons, List.cons_prefix_cons]
      exact fun h => backslash_ne_mark mark h.2.1.symm
  | free hfound hmarks =>
    -- a backslash escapes the next character, a mark or a newline leaves the string
    have hstep : (Lexer.mk s 0).step c rest = Lexer.stringStep s ⟨mark, false⟩ c rest := by
      simp [Lexer.step, hmode]
    have hleaves : beforeString? mark.char before = some opened := by
      rw [beforeString?_eq_beforeMark? hmarks, hfound]
    rw [hstep, Lexer.stringStep]
    split
    · next hc =>
      rw [eq_of_beq hc]
      exact .inl ⟨rfl, .escaped hfound⟩
    · split
      · exact .inr ⟨rfl, hleaves⟩
      · next hclosing =>
        split
        · exact .inr ⟨rfl, hleaves⟩
        · -- the character is no mark, or it would have closed the string
          have hne : c ≠ mark.char := by
            rintro rfl
            simp [Quote.text] at hclosing
          refine .inl ⟨rfl, .free ?_ ?_⟩
          · rw [beforeMark?_cons_of_ne hne, hfound]
          · rw [List.cons_prefix_cons]
            exact fun h => hne h.1.symm

/-! ### The lexer at a place -/

/-- Where the lexer stands at a place of a text, and what reading backwards from there comes to:
    in code, between a backslash and the newline that it takes away, or inside a string. -/
inductive Standing (text : List Char) (n : Nat) : Prop
  | code (hclear : (Lexer.upTo {} n text).IsClear) (hfinds : Finds text n)
  | continued {p : Nat} {rest : List Char} (hn : n = p + 1) (hfinds : Finds text p)
    (hlexer : Lexer.upTo {} n text = ⟨⟨.code, (stateAt text p).brackets⟩, 1⟩)
    (hdrop : text.drop p = '\\' :: '\n' :: rest)
  | string {mark : Mark} {p stop : Nat} (hstring : IsPlainString text mark p stop) (hp : p < n)
    (hstop : n ≤ stop) (hfinds : Finds text p)
    (hsame : ∀ k ≤ n, p ≤ k → (stateAt text k).brackets = (stateAt text p).brackets)
    (hinside : Inside mark (text.take p).reverse (text.take n).reverse
      (Lexer.upTo {} n text).skip)

/-- A character that is no mark and no bracket changes nothing. -/
theorem Finds.plain (h : Finds text n) (hdrop : text.drop n = c :: rest)
    (hmark : isMark c = false) (hclosed : closedBracket? c = none)
    (hopening : Bracket.ofOpening? c = none)
    (hstate : (stateAt text (n + 1)).brackets = (stateAt text n).brackets) :
    Finds text (n + 1) := by
  -- the character is passed over, and between the two places there is no other
  refine h.of_passed (Nat.le_succ n) (fun k hk hnk => ?_) fun pending => ?_
  · rcases Nat.lt_or_eq_of_le hk with hlt | rfl
    · rw [show k = n by omega]
    · exact hstate
  · rw [reverse_take_succ hdrop, beforeOpening?_plain hmark hclosed hopening]

/-- A step from a place in code. -/
theorem Standing.of_code (htext : IsTwoWay text) (hdrop : text.drop n = c :: rest)
    (hclear : (Lexer.upTo {} n text).IsClear) (hfinds : Finds text n) :
    Standing text (n + 1) := by
  have hstep : (Lexer.upTo {} n text).step c rest = Lexer.codeStep (stateAt text n) c rest := by
    simp [Lexer.step, stateAt, hclear.1, hclear.2]
  have hupTo := Lexer.upTo_succ (l := {}) hdrop
  have hstate := stateAt_succ hdrop
  -- the token of the step is one of the text
  have htoken : ∀ kind, (Lexer.codeStep (stateAt text n) c rest).2 = some kind →
      (n, kind) ∈ tokens text := by
    intro kind hkind
    rwa [mem_tokens_iff_of_drop hdrop, hstep]
  rw [hstep] at hupTo hstate
  -- one case for each kind of character that is met in code
  have hcases := codeStep_cases (stateAt text n) c rest
  generalize Lexer.codeStep (stateAt text n) c rest = r at hupTo hstate htoken hcases
  cases hcases with
  | comment _ => exact absurd (htoken .comment rfl) (htext.comments n)
  | @string mark triple hmark =>
    -- the string that starts here is a plain one, opened by a single mark
    obtain ⟨mark', stop, hstring⟩ := htext.strings n (htoken .string rfl)
    have hquote := hstring.inside (n + 1) hstring.lt (Nat.lt_succ_self n)
    rw [hstate] at hquote
    obtain ⟨rfl, rfl⟩ : mark = mark' ∧ triple = false := by simpa using hquote
    refine .string hstring (Nat.lt_succ_self n) hstring.lt hfinds (fun k hk hnk => ?_) ?_
    · rcases Nat.lt_or_eq_of_le hk with hlt | rfl
      · rw [show k = n by omega]
      · rw [hstate]
    · rw [hupTo, reverse_take_succ hdrop, mark_of_ofChar? hmark]
      exact .start (by simpa using hstring.before)
  | opening hmark hopening =>
    refine .code ⟨by rw [hupTo]; exact hclear.1, by rw [hupTo]⟩ ?_
    exact hfinds.opening hdrop (isMark_of_ofChar? hmark) hopening (by rw [hstate])
  | closing hmark _ =>
    -- the text closes brackets by their own kind only
    obtain ⟨bracket, outer, hbrackets, hclosed⟩ := htext.closings n (htoken .closing rfl)
    have hget : text[n]? = some c := by rw [← List.head?_drop, hdrop]; rfl
    refine .code ⟨by rw [hupTo]; exact hclear.1, by rw [hupTo]⟩ ?_
    have hcloses : closedBracket? c = some bracket := by simpa [hget] using hclosed
    refine hfinds.closing hdrop (isMark_of_ofChar? hmark) hcloses ?_
    rw [hstate, hbrackets]
    rfl
  | continuation hc hrest =>
    subst hc hrest
    refine .continued rfl hfinds ?_ hdrop
    rw [hupTo, ← hclear.1]
    rfl
  | plain hmark hopening hclosing _ =>
    refine .code ⟨by rw [hupTo]; exact hclear.1, by rw [hupTo]⟩ ?_
    exact hfinds.plain hdrop (isMark_of_ofChar? hmark) (closedBracket?_of_isClosing hclosing)
      hopening (by rw [hstate])

/-- The newline behind a backslash. -/
theorem Standing.of_continued (hfinds : Finds text p)
    (hlexer : Lexer.upTo {} (p + 1) text = ⟨⟨.code, (stateAt text p).brackets⟩, 1⟩)
    (hdrop : text.drop p = '\\' :: '\n' :: rest) : Standing text (p + 2) := by
  have hnext : text.drop (p + 1) = '\n' :: rest := drop_succ_of_drop hdrop
  have hupTo : Lexer.upTo {} (p + 2) text = ⟨⟨.code, (stateAt text p).brackets⟩, 0⟩ := by
    rw [Lexer.upTo_succ hnext, hlexer]
    rfl
  -- neither the backslash nor the newline is a bracket or a mark
  have hfirst : Finds text (p + 1) :=
    hfinds.plain hdrop (by decide) (by decide) (by decide) (by rw [stateAt, hlexer])
  refine .code (by rw [hupTo]; exact ⟨rfl, rfl⟩) ?_
  exact hfirst.plain hnext (by decide) (by decide) (by decide)
    (by rw [stateAt, stateAt, hupTo, hlexer])

/-- A step from a place inside a string: the string goes on, or its last mark closes it. -/
theorem Standing.of_string {stop : Nat} (hdrop : text.drop n = c :: rest)
    (hstring : IsPlainString text mark p stop) (hp : p < n) (hstop : n ≤ stop)
    (hfinds : Finds text p)
    (hsame : ∀ k ≤ n, p ≤ k → (stateAt text k).brackets = (stateAt text p).brackets)
    (hinside : Inside mark (text.take p).reverse (text.take n).reverse
      (Lexer.upTo {} n text).skip) : Standing text (n + 1) := by
  have hupTo : Lexer.upTo {} (n + 1) text =
      ((Lexer.mk (stateAt text n) (Lexer.upTo {} n text).skip).step c rest).1 :=
    Lexer.upTo_succ hdrop
  have hmode := hstring.inside n hstop hp
  -- the brackets do not change inside a string
  have hlonger : (stateAt text (n + 1)).brackets = (stateAt text n).brackets →
      ∀ k ≤ n + 1, p ≤ k → (stateAt text k).brackets = (stateAt text p).brackets := by
    intro heq k hk hpk
    rcases Nat.lt_or_eq_of_le hk with hlt | rfl
    · exact hsame k (by omega) hpk
    · rw [heq, hsame n (Nat.le_refl n) (Nat.le_of_lt hp)]
  have hsteps := hinside.step hmode c rest
  rw [← hupTo] at hsteps
  rcases hsteps with ⟨hstate, hstays⟩ | ⟨hleaves, hbefore⟩
  · -- the string goes on
    rcases Nat.lt_or_eq_of_le hstop with hlt | rfl
    · refine .string hstring (by omega) hlt hfinds (hlonger (by rw [stateAt, hstate])) ?_
      rwa [reverse_take_succ hdrop]
    · -- the last mark does not leave the string open
      have hbehind := hstring.behind
      rw [stateAt, hstate, hmode] at hbehind
      cases hbehind
  · -- the string is left, which happens at its last mark only
    have hcode : (stateAt text (n + 1)).mode = .code := by rw [stateAt, hleaves]
    obtain rfl : n = stop := by
      rcases Nat.lt_or_eq_of_le hstop with hlt | heq
      · rw [hstring.inside (n + 1) hlt (by omega)] at hcode
        cases hcode
      · exact heq
    obtain rfl : c = mark.char := by
      have hget := hstring.closing
      rw [← List.head?_drop, hdrop] at hget
      exact Option.some.inj hget
    refine .code ⟨hcode, by rw [hleaves]⟩ (hfinds.of_passed (by omega) ?_ fun pending => ?_)
    · exact hlonger (by rw [stateAt, hleaves])
    · rw [reverse_take_succ hdrop, beforeOpening?_string (isMark_char mark) hbefore]

/-- At each place of such a text, reading backwards finds what is open. -/
theorem standing_of_le (htext : IsTwoWay text) (hn : n ≤ text.length) : Standing text n := by
  -- along the text; where the lexer stands decides which step is taken
  induction n with
  | zero =>
    refine .code (by rw [Lexer.upTo_zero]; exact ⟨rfl, rfl⟩) fun pending outer hpending h => ?_
    rw [stateAt, Lexer.upTo_zero] at h
    exact absurd (List.append_eq_nil_iff.mp h.symm).1 hpending
  | succ n ih =>
    obtain ⟨c, rest, hdrop⟩ : ∃ c rest, text.drop n = c :: rest :=
      ⟨_, _, List.drop_eq_getElem_cons hn⟩
    cases ih (by omega) with
    | code hclear hfinds => exact .of_code htext hdrop hclear hfinds
    | continued heq hfinds hlexer hback =>
      subst heq
      exact .of_continued hfinds hlexer hback
    | string hstring hp hstop hfinds hsame hinside =>
      exact .of_string hdrop hstring hp hstop hfinds hsame hinside

/-- Where the lexer is in code, reading backwards finds what is open. -/
theorem finds_of_isClear (htext : IsTwoWay text) (hn : n ≤ text.length)
    (hclear : (Lexer.upTo {} n text).IsClear) : Finds text n := by
  -- in the two other cases the lexer is not clear
  cases standing_of_le htext hn with
  | code _ hfinds => exact hfinds
  | continued _ _ hlexer _ =>
    rw [hlexer] at hclear
    exact absurd hclear.2 (by simp)
  | string hstring hp hstop _ _ _ =>
    have hmode := hstring.inside n hstop hp
    rw [stateAt, hclear.1] at hmode
    cases hmode

/-! ### Matching brackets -/

/-- Reading backwards and reading forwards agree on which brackets belong together.  In a text
    without comments, whose strings can be told from their ends and whose closing brackets close
    brackets of their own kind, a closing bracket that closes the one opened at the place `o` is
    matched with that one. -/
theorem openingOf?_of_isInnermost (text : List Char) (o e : Nat) (htext : IsTwoWay text)
    (hclosing : (e, Kind.closing) ∈ tokens text) (hopen : IsInnermost text o e) :
    openingOf? text e = some o := by
  obtain ⟨bracket, outer, hbrackets, hclosed⟩ := htext.closings e hclosing
  obtain ⟨c, rest, hdrop, hstep⟩ := exists_drop_of_mem_tokens hclosing
  have he := lt_length_of_drop hdrop
  have hfinds := finds_of_isClear htext (Nat.le_of_lt he)
    (Lexer.isClear_of_token hstep (by decide))
  obtain ⟨p, hp, hfound, hlevel, hdeeper⟩ := hfinds [bracket] outer (by simp) hbrackets
  have hdepth : (stateAt text e).depth = outer.length + 1 := by
    rw [State.depth, hbrackets, List.length_cons]
  have hlast := hopen.depth
  -- both are the last place at which the text was less deep
  obtain rfl : p = o := by
    rcases Nat.lt_trichotomy p o with hlt | heq | hgt
    · have := hdeeper o (Nat.le_of_lt hopen.lt) hlt
      omega
    · exact heq
    · have := hopen.deeper p (Nat.le_of_lt hp) hgt
      omega
  rw [openingOf?, hclosed, Option.bind_some, hfound, Option.map_some, List.length_reverse,
    List.length_take, Nat.min_eq_left (by omega)]

/-- A list and a string inside a call, the string with brackets and an escaped mark of its own. -/
def nestedCall : List Char :=
  "f([')\\'(', x[0]])".toList

/-- The last bracket of a nested call closes the first one. -/
theorem openingOf?_of_isInnermost_nested :
    IsTwoWay nestedCall ∧ (16, Kind.closing) ∈ tokens nestedCall ∧ IsInnermost nestedCall 1 16 ∧
      openingOf? nestedCall 16 = some 1 := by
  have htokens : tokens nestedCall = [(0, .code), (1, .opening), (2, .opening), (3, .string),
      (9, .code), (11, .code), (12, .opening), (13, .code), (14, .closing), (15, .closing),
      (16, .closing)] := by decide
  -- no comment, one string and three closing brackets
  have htext : IsTwoWay nestedCall := by
    refine ⟨fun i hi => ?_, fun p hp => ?_, fun e he => ?_⟩
    · simp [htokens] at hi
    · obtain rfl : p = 3 := by simpa [htokens] using hp
      exact ⟨.single, 8, by decide⟩
    · have he' : e = 14 ∨ e = 15 ∨ e = 16 := by simpa [htokens] using he
      rcases he' with rfl | rfl | rfl
      · exact ⟨.square, [.square, .round], by decide⟩
      · exact ⟨.square, [.round], by decide⟩
      · exact ⟨.round, [], by decide⟩
  have hclosing : (16, Kind.closing) ∈ tokens nestedCall := by simp [htokens]
  have hopen : IsInnermost nestedCall 1 16 := by decide
  exact ⟨htext, hclosing, hopen, openingOf?_of_isInnermost _ _ _ htext hclosing hopen⟩

end ReplEngine.Cursor
