import ReplEngine.Proofs.Cursor.Call
import ReplEngine.Proofs.Cursor.Matching
import ReplEngine.Proofs.Cursor.Symbol

/-!
# The expression before the cursor stands for itself

The expression at the end of a text is read backwards, over names, brackets and strings.  Where a
string or a bracket starts is decided by looking back over the text, at three marks in a row or at
a backslash before a mark, so that in a shorter text the reader might turn another way.  It does
not: a reader that stops at some place has looked at nothing behind that place, and reads the same
way if the text starts there.

## Key results

- `IsLocal`: a reader that looks no further than it reads
- `isLocal_beforeString?`, `isLocal_beforeOpening?`: the readers of the parts of an expression
  are such readers
- `beforeExpression_of_append`: what was read as an expression is read to its end on its own
- `contextExpression_stable`: taking the expression of an expression changes nothing
-/

namespace ReplEngine.Cursor

open ReplEngine.Scan (Bracket)

variable {mark c : Char} {text near far left : List Char} {pending : List Bracket}

/-- A backward reader that passes over the near end of a text and looks no further: what it
    leaves is the far end, and a part of that can be cut off. -/
structure IsLocal (reader : List Char → Option (List Char)) : Prop where
  suffix : ∀ {text left}, reader text = some left → left <:+ text
  cut : ∀ {near far left}, reader (near ++ far) = some (left ++ far) → reader near = some left

/-! ### Strings -/

/-- What is left before a mark is the far end of the text. -/
theorem beforeMark?_suffix (h : beforeMark? mark text = some left) : left <:+ text := by
  fun_induction beforeMark? mark text with
  | case1 => simp at h
  | case2 c _ further ih =>
    exact ((ih h).trans (List.suffix_cons '\\' further)).trans (List.suffix_cons c _)
  | case3 c before _ _ =>
    obtain rfl := Option.some.inj h
    exact List.suffix_cons c before
  | case4 c before _ ih => exact (ih h).trans (List.suffix_cons c before)

/-- A mark that is found before the far end is found in the near end alone. -/
theorem beforeMark?_cut (h : beforeMark? mark (near ++ far) = some (left ++ far)) :
    beforeMark? mark near = some left := by
  -- what is left is no shorter than the far end, so that the reader has not reached it
  fun_induction beforeMark? mark near with
  | case1 =>
    have hlt := length_beforeMark?_lt h
    simp only [List.nil_append, List.length_append] at hlt
    omega
  | case2 c hc further ih =>
    rw [List.cons_append, List.cons_append, beforeMark?, if_pos hc] at h
    exact ih h
  | case3 c before hc hbackslash =>
    -- a mark without a backslash: with the far end behind it there might be one
    rw [List.cons_append, beforeMark?.eq_def] at h
    simp only [hc, if_true] at h
    split at h
    · next further hfar =>
      cases before with
      | nil =>
        -- a backslash at the far end would have been passed
        have hlt := length_beforeMark?_lt h
        rw [List.nil_append] at hfar
        rw [hfar, List.length_append, List.length_cons] at hlt
        omega
      | cons d before =>
        rw [List.cons_append, List.cons.injEq] at hfar
        exact absurd (by rw [hfar.1]) (hbackslash before)
    · rw [List.append_cancel_right (Option.some.inj h)]
  | case4 c before hc ih =>
    rw [List.cons_append, beforeMark?.eq_def] at h
    simp only [hc, Bool.false_eq_true, if_false] at h
    exact ih h

/-- What is left before three marks is the far end of the text. -/
theorem beforeTriple?_suffix (h : beforeTriple? mark text = some left) : left <:+ text := by
  fun_induction beforeTriple? mark text with
  | case1 a b c before _ =>
    obtain rfl := Option.some.inj h
    exact ⟨[a, b, c], rfl⟩
  | case2 a b c before _ ih => exact (ih h).trans (List.suffix_cons a _)
  | case3 => simp at h

/-- Three marks are passed at least. -/
theorem length_beforeTriple?_add_three_le (h : beforeTriple? mark text = some left) :
    left.length + 3 ≤ text.length := by
  fun_induction beforeTriple? mark text with
  | case1 a b c before _ =>
    obtain rfl := Option.some.inj h
    simp
  | case2 a b c before _ ih =>
    have := ih h
    simp only [List.length_cons] at this ⊢
    omega
  | case3 => simp at h

/-- Three marks that are found before the far end are found in the near end alone. -/
theorem beforeTriple?_cut (h : beforeTriple? mark (near ++ far) = some (left ++ far)) :
    beforeTriple? mark near = some left := by
  have hlength := length_beforeTriple?_add_three_le h
  simp only [List.length_append] at hlength
  -- three marks do not fit into a near end that is shorter than three characters
  fun_induction beforeTriple? mark near with
  | case1 a b c before hmarks =>
    simp only [List.cons_append, beforeTriple?, hmarks, if_true, Option.some.injEq] at h
    rw [List.append_cancel_right h]
  | case2 a b c before hmarks ih =>
    simp only [List.cons_append, beforeTriple?, hmarks, Bool.false_eq_true, if_false] at h
    have := length_beforeTriple?_add_three_le h
    simp only [List.length_append, List.length_cons] at this
    exact ih h (by simp only [List.length_cons]; omega)
  | case3 near hshort =>
    match near with
    | [] | [_] | [_, _] =>
      simp only [List.length_nil, List.length_cons] at hlength
      omega
    | a :: b :: c :: before => exact absurd rfl (hshort a b c before)

/-- What is left before a string is the far end of the text. -/
theorem beforeString?_suffix (h : beforeString? mark text = some left) : left <:+ text := by
  unfold beforeString? at h
  split at h
  · next a b further =>
    split at h
    · exact (beforeTriple?_suffix h).trans ⟨[a, b], rfl⟩
    · exact beforeMark?_suffix h
  · exact beforeMark?_suffix h

/-- Three marks count as the end of a string only if three more fit before them.  Where the string
    is read to its start, they are part of what was read. -/
theorem beforeString?_cut (h : beforeString? mark (near ++ far) = some (left ++ far)) :
    beforeString? mark near = some left := by
  have hlt := length_beforeString?_lt h
  simp only [List.length_append] at hlt
  -- the reader looks at two characters more to tell three marks from one
  match near with
  | [] =>
    rw [List.length_nil] at hlt
    omega
  | [a] =>
    suffices hfound : beforeMark? mark ([a] ++ far) = some (left ++ far) from beforeMark?_cut hfound
    unfold beforeString? at h
    split at h
    · next a b further heq =>
      split at h
      · -- the other two marks would be at the far end, and more than it would be passed
        have hpassed := length_beforeTriple?_lt h
        have hfar := congrArg List.length heq
        simp only [List.length_append, List.length_cons, List.length_nil] at hpassed hfar
        omega
      · exact h
    · exact h
  | a :: b :: further =>
    simp only [List.cons_append, beforeString?, Bool.and_eq_true, decide_eq_true_eq,
      List.length_append] at h ⊢
    split at h
    · -- three marks with three more before them, all in the near end
      next hmarks =>
      have hpassed := length_beforeTriple?_add_three_le h
      simp only [List.length_append] at hpassed
      rw [if_pos ⟨hmarks.1, by omega⟩]
      exact beforeTriple?_cut h
    · -- if three more do not fit into the whole text, they do not fit into its near end
      next hmarks =>
      rw [if_neg fun hnear => hmarks ⟨hnear.1, by omega⟩]
      exact beforeMark?_cut h

/-- The reader of strings looks no further than it reads. -/
theorem isLocal_beforeString? (mark : Char) : IsLocal (beforeString? mark) :=
  ⟨beforeString?_suffix, beforeString?_cut⟩

/-! ### Brackets -/

/-- Where the far end was not reached, a reader reads the near end in the same way. -/
theorem IsLocal.exists_cut {reader : List Char → Option (List Char)} (hreader : IsLocal reader)
    (h : reader (near ++ far) = some left) (hfar : far <:+ left) :
    ∃ kept, left = kept ++ far ∧ reader near = some kept := by
  obtain ⟨kept, rfl⟩ := hfar
  exact ⟨kept, rfl, hreader.cut h⟩

/-- What is left before an opening bracket is the far end of the text. -/
theorem beforeOpening?_suffix (h : beforeOpening? pending text = some left) : left <:+ text := by
  -- on how the search goes on: every step drops characters at the near end
  fun_induction beforeOpening? pending text with
  | case1 => simp at h
  | case2 => simp at h
  | case3 pending c before _ further hstring _ ih =>
    exact ((ih h).trans (beforeString?_suffix hstring)).trans (List.suffix_cons c before)
  | case4 pending c before _ bracket _ ih => exact (ih h).trans (List.suffix_cons c before)
  | case5 => simp at h
  | case6 => simp at h
  | case7 c before =>
    obtain rfl := Option.some.inj h
    exact List.suffix_cons c before
  | case8 c before _ _ bracket _ expected outer _ _ ih =>
    exact (ih h).trans (List.suffix_cons c before)
  | case9 pending c before _ _ _ ih => exact (ih h).trans (List.suffix_cons c before)

/-- A string between brackets is passed in the near end alone. -/
theorem exists_beforeString?_of_beforeOpening? {before : List Char} (hmark : isMark c = true)
    (h : beforeOpening? pending (c :: (before ++ far)) = some (left ++ far)) :
    ∃ kept, beforeString? c before = some kept ∧
      beforeOpening? pending (kept ++ far) = some (left ++ far) := by
  cases hstring : beforeString? c (before ++ far) with
  | none =>
    -- an open string ends the search, and nothing is found
    rw [beforeOpening?.eq_def] at h
    simp only [hmark, if_true] at h
    split at h
    · simp at h
    · next hsome => simp [hstring] at hsome
  | some further =>
    -- the far end lies behind the bracket that is found, hence behind the string
    rw [beforeOpening?_string hmark hstring] at h
    have hfar : far <:+ further := (List.suffix_append left far).trans (beforeOpening?_suffix h)
    obtain ⟨kept, rfl, hkept⟩ := (isLocal_beforeString? c).exists_cut hstring hfar
    exact ⟨kept, hkept, h⟩

/-- Brackets that are found before the far end are found in the near end alone. -/
theorem beforeOpening?_cut (h : beforeOpening? pending (near ++ far) = some (left ++ far)) :
    beforeOpening? pending near = some left := by
  -- follows the reader through the near end; the longer text makes it turn the same way
  fun_induction beforeOpening? pending near with
  | case1 =>
    have hlt := length_beforeOpening?_lt h
    simp only [List.nil_append, List.length_append] at hlt
    omega
  | case2 pending c before hmark hnone =>
    obtain ⟨kept, hkept, -⟩ := exists_beforeString?_of_beforeOpening? hmark h
    simp [hnone] at hkept
  | case3 pending c before hmark further hstring _ ih =>
    obtain ⟨kept, hkept, hrest⟩ := exists_beforeString?_of_beforeOpening? hmark h
    rw [hstring, Option.some.injEq] at hkept
    rw [hkept] at ih ⊢
    exact ih hrest
  | case4 pending c before hmark bracket hclosed ih =>
    rw [List.cons_append, beforeOpening?_closing (by simpa using hmark) hclosed] at h
    exact ih h
  | case5 c before hmark hclosed bracket hopening =>
    rw [List.cons_append, beforeOpening?.eq_def] at h
    simp [hmark, hclosed, hopening] at h
  | case6 c before hmark hclosed bracket expected outer hopening hne =>
    rw [List.cons_append, beforeOpening?.eq_def] at h
    simp [hmark, hclosed, hopening] at h
    simp [h.1] at hne
  | case7 c before hmark hclosed bracket expected outer hopening heq hempty =>
    simp only [bne_iff_ne, ne_eq, Decidable.not_not] at heq
    subst heq
    rw [List.cons_append, beforeOpening?_opening (by simpa using hmark) hopening, if_pos hempty,
      Option.some.injEq] at h
    rw [List.append_cancel_right h]
  | case8 c before hmark hclosed bracket expected outer hopening heq hmore ih =>
    simp only [bne_iff_ne, ne_eq, Decidable.not_not] at heq
    subst heq
    rw [List.cons_append, beforeOpening?_opening (by simpa using hmark) hopening, if_neg hmore] at h
    exact ih h
  | case9 pending c before hmark hclosed hopening ih =>
    rw [List.cons_append, beforeOpening?_plain (by simpa using hmark) hclosed hopening] at h
    exact ih h

/-- The reader of brackets looks no further than it reads. -/
theorem isLocal_beforeOpening? (pending : List Bracket) : IsLocal (beforeOpening? pending) :=
  ⟨beforeOpening?_suffix, beforeOpening?_cut⟩

/-! ### Expressions -/

/-- What is left before an expression is the far end of the text. -/
theorem beforeExpression_suffix (text : List Char) : beforeExpression text <:+ text := by
  fun_induction beforeExpression text with
  | case1 => exact List.suffix_rfl
  | case2 c before _ ih => exact ih.trans (List.suffix_cons c before)
  | case3 => exact List.suffix_rfl
  | case4 c before _ _ further hstring _ ih =>
    exact (ih.trans (beforeString?_suffix hstring)).trans (List.suffix_cons c before)
  | case5 => exact List.suffix_rfl
  | case6 => exact List.suffix_rfl
  | case7 c before _ _ bracket _ further hopening _ ih =>
    exact (ih.trans (beforeOpening?_suffix hopening)).trans (List.suffix_cons c before)

/-- The characters of names, and the dots between them. -/
def isLinked (c : Char) : Bool :=
  Text.isAlphanumeric c || c == '_' || c == '.'

/-- The characters of names and dots are passed one by one. -/
theorem beforeExpression_linked {before : List Char} (h : isLinked c = true) :
    beforeExpression (c :: before) = beforeExpression before := by
  rw [isLinked] at h
  rw [beforeExpression.eq_def]
  simp only [h, if_true]

/-- A string is passed as a whole, or the reader stops at its end. -/
theorem beforeExpression_string (hlinked : ¬isLinked c = true) (hmark : isMark c = true)
    (before : List Char) :
    beforeExpression (c :: before) =
      (beforeString? c before).elim (c :: before) beforeExpression := by
  rw [isLinked] at hlinked
  rw [beforeExpression.eq_def]
  simp only [hlinked, hmark, Bool.false_eq_true, if_false, if_true]
  split
  · next hnone => rw [hnone, Option.elim_none]
  · next hsome => rw [hsome, Option.elim_some]

/-- What stands in brackets is passed as a whole, or the reader stops at the closing one. -/
theorem beforeExpression_bracket {bracket : Bracket} (hlinked : ¬isLinked c = true)
    (hmark : ¬isMark c = true) (hclosed : closedBracket? c = some bracket) (before : List Char) :
    beforeExpression (c :: before) =
      (beforeOpening? [bracket] before).elim (c :: before) beforeExpression := by
  rw [isLinked] at hlinked
  rw [beforeExpression.eq_def]
  simp only [hlinked, hmark, hclosed, Bool.false_eq_true, if_false]
  split
  · next hnone => rw [hnone, Option.elim_none]
  · next hsome => rw [hsome, Option.elim_some]

theorem beforeExpression_other (hlinked : ¬isLinked c = true) (hmark : ¬isMark c = true)
    (hclosed : closedBracket? c = none) (before : List Char) :
    beforeExpression (c :: before) = c :: before := by
  rw [isLinked] at hlinked
  rw [beforeExpression.eq_def]
  simp only [hlinked, hmark, hclosed, Bool.false_eq_true, if_false]

/-- A string or a bracket behind which the reader has gone on to the far end is passed in the near
    end alone, and the reader goes on there as before. -/
theorem IsLocal.exists_of_beforeExpression {reader : List Char → Option (List Char)}
    {before : List Char} (hreader : IsLocal reader)
    (hstep : beforeExpression (c :: (before ++ far)) =
      (reader (before ++ far)).elim (c :: (before ++ far)) beforeExpression)
    (h : beforeExpression (c :: (before ++ far)) = far) :
    ∃ kept, reader before = some kept ∧ beforeExpression (kept ++ far) = far := by
  rw [hstep] at h
  cases hread : reader (before ++ far) with
  | none =>
    rw [hread, Option.elim_none] at h
    -- a reader that stops here leaves more than the far end
    have hlength := congrArg List.length h
    simp only [List.length_cons, List.length_append] at hlength
    omega
  | some further =>
    rw [hread, Option.elim_some] at h
    have hfar : far <:+ further := by
      have hsuffix := beforeExpression_suffix further
      rwa [h] at hsuffix
    obtain ⟨kept, rfl, hkept⟩ := hreader.exists_cut hread hfar
    exact ⟨kept, hkept, h⟩

/-- What was read as an expression is read to its end on its own. -/
theorem beforeExpression_of_append (h : beforeExpression (near ++ far) = far) :
    beforeExpression near = [] := by
  -- follows the reader through the near end; at each string and bracket the longer text gives
  -- the same jump
  fun_induction beforeExpression near with
  | case1 => rfl
  | case2 c before hlinked ih =>
    rw [List.cons_append, beforeExpression_linked hlinked] at h
    exact ih h
  | case3 c before hlinked hmark hnone =>
    obtain ⟨kept, hkept, -⟩ := (isLocal_beforeString? c).exists_of_beforeExpression
      (beforeExpression_string hlinked hmark _) h
    simp [hnone] at hkept
  | case4 c before hlinked hmark further hstring _ ih =>
    obtain ⟨kept, hkept, hrest⟩ := (isLocal_beforeString? c).exists_of_beforeExpression
      (beforeExpression_string hlinked hmark _) h
    rw [hstring, Option.some.injEq] at hkept
    rw [hkept] at ih ⊢
    exact ih hrest
  | case5 c before hlinked hmark hclosed =>
    -- the reader would have stopped before the near end was read
    rw [List.cons_append, beforeExpression_other hlinked hmark hclosed] at h
    have hlength := congrArg List.length h
    simp only [List.length_cons, List.length_append] at hlength
    omega
  | case6 c before hlinked hmark bracket hclosed hnone =>
    obtain ⟨kept, hkept, -⟩ := (isLocal_beforeOpening? [bracket]).exists_of_beforeExpression
      (beforeExpression_bracket hlinked hmark hclosed _) h
    simp [hnone] at hkept
  | case7 c before hlinked hmark bracket hclosed further hopening _ ih =>
    obtain ⟨kept, hkept, hrest⟩ := (isLocal_beforeOpening? [bracket]).exists_of_beforeExpression
      (beforeExpression_bracket hlinked hmark hclosed _) h
    rw [hopening, Option.some.injEq] at hkept
    rw [hkept] at ih ⊢
    exact ih hrest

/-! ### Contexts -/

/-- A text of which nothing is left before the expression at its end. -/
def IsSelfContained (expression : List Char) : Prop :=
  beforeExpression expression.reverse = []

/-- The expression and what is left before it make up the text. -/
theorem reverse_contextExpression_append (text : List Char) :
    (contextExpression text).reverse ++ beforeExpression text.reverse = text.reverse := by
  obtain ⟨near, hnear⟩ := beforeExpression_suffix text.reverse
  have htext : text = (beforeExpression text.reverse).reverse ++ near.reverse := by
    rw [← List.reverse_append, hnear, List.reverse_reverse]
  -- the expression is what the reader passed over
  have hcontext : contextExpression text = near.reverse := by
    have hdrop : ((beforeExpression text.reverse).reverse ++ near.reverse).drop
        (beforeExpression text.reverse).length = near.reverse :=
      List.drop_left' List.length_reverse
    rwa [← htext] at hdrop
  rw [hcontext, List.reverse_reverse, hnear]

/-- An expression that was read at the end of a text stands for itself. -/
theorem isSelfContained_contextExpression (text : List Char) :
    IsSelfContained (contextExpression text) := by
  apply beforeExpression_of_append
  rw [reverse_contextExpression_append]

/-- What stands for itself is its own expression. -/
theorem IsSelfContained.contextExpression_eq (h : IsSelfContained text) :
    contextExpression text = text := by
  rw [IsSelfContained] at h
  rw [contextExpression, h]
  rfl

/-- A dotted name is passed over as a whole. -/
theorem beforeExpression_append_of_linked (h : ∀ c ∈ near, isLinked c = true) :
    beforeExpression (near ++ far) = beforeExpression far := by
  induction near with
  | nil => rfl
  | cons c near ih =>
    rw [List.cons_append, beforeExpression_linked (h c (by simp))]
    exact ih fun d hd => h d (by simp [hd])

/-- Names are made of characters that are passed one by one. -/
theorem isLinked_of_isName {name : List Char} (h : isName name = true) (hc : c ∈ name) :
    isLinked c = true := by
  -- the first character may not be a digit, but the class of names has both
  have hword : Text.isWordChar c = true := by
    cases name with
    | nil => simp at hc
    | cons d rest =>
      simp only [isName, Bool.and_eq_true, List.all_eq_true] at h
      rcases List.mem_cons.mp hc with rfl | hc
      · exact Text.isWordChar_of_isWordStart h.1
      · exact h.2 c hc
  simp only [Text.isWordChar, Bool.or_eq_true] at hword
  simp only [isLinked, Bool.or_eq_true]
  exact .inl hword.symm

/-- The context that is cut off a callee stands for itself as the callee does. -/
theorem IsSelfContained.of_callee {name : List Char} (h : IsSelfContained (text ++ '.' :: name))
    (hname : isName name = true) : IsSelfContained text := by
  have hreverse : (text ++ '.' :: name).reverse = (name.reverse ++ ['.']) ++ text.reverse := by simp
  rw [IsSelfContained, hreverse, beforeExpression_append_of_linked] at h
  · exact h
  · intro c hc
    rcases List.mem_append.mp hc with hc | hc
    · exact isLinked_of_isName hname (List.mem_reverse.mp hc)
    · rw [List.mem_singleton.mp hc]
      rfl

/-- The context in which a symbol is completed, or a function is looked up, at a cursor. -/
def IsContextAt (line : List Char) (position : Int) (context : Context) : Prop :=
  (∃ found, completionAt line position = some found ∧ found.wanted = .member context) ∨
    ∃ call, callAt line position = some call ∧ call.context = some context

/-- Every context at a cursor stands for itself, however it was found. -/
theorem IsContextAt.isSelfContained {line : List Char} {position : Int} {context : Context}
    (h : IsContextAt line position context) : IsSelfContained context.text.toList := by
  rcases h with ⟨found, hfound, hmember⟩ | ⟨call, hcall, hcontext⟩
  · -- a symbol behind a dot: the expression before the dot
    obtain ⟨before, -, rfl⟩ := (completionAt_eq_some hfound).2.2.2 context hmember
    rw [Context.ofChars, String.toList_ofList]
    exact isSelfContained_contextExpression before
  · -- a call: its context is the callee without the last name
    obtain ⟨inner, b, outer, -, -, -, -, hcallee⟩ := innermostCall_eq_some_iff.mp hcall
    obtain ⟨-, hname, -, ⟨hnone, -⟩ | ⟨before, -, hbefore, hsplit⟩⟩ := callOf_eq_some_iff.mp hcallee
    · rw [hnone] at hcontext
      cases hcontext
    · rw [hbefore, Option.some.injEq] at hcontext
      rw [← hcontext, Context.ofChars, String.toList_ofList]
      have hself := isSelfContained_contextExpression
        (Text.trimRight ((textBefore position line).take b.offset))
      rw [calleeAt] at hsplit
      rw [hsplit] at hself
      exact hself.of_callee hname

/-- The expression at the end of a text is read to its start when it is read on its own, so that
    taking it again changes nothing.  So is every context in which the completer looks something
    up, whether it was read as an expression or cut off the callee of a call. -/
theorem contextExpression_stable (text : List Char) :
    contextExpression (contextExpression text) = contextExpression text ∧
    beforeExpression (contextExpression text).reverse = [] ∧
    ∀ (line : List Char) (position : Int) (context : Context), IsContextAt line position context →
      contextExpression context.text.toList = context.text.toList :=
  ⟨(isSelfContained_contextExpression text).contextExpression_eq,
    isSelfContained_contextExpression text,
    fun _ _ _ hcontext => hcontext.isSelfContained.contextExpression_eq⟩

/-- A member of what a call gives, with a string of three marks and an escaped mark among its
    arguments. -/
def quotedCall : List Char :=
  "y = g('''a'b''', \"\\\")\").m".toList

theorem contextExpression_stable_quoted :
    contextExpression quotedCall.dropLast.dropLast = "g('''a'b''', \"\\\")\")".toList ∧
    contextExpression (contextExpression quotedCall.dropLast.dropLast) =
      contextExpression quotedCall.dropLast.dropLast ∧
    ∃ context, IsContextAt quotedCall 25 context ∧
      contextExpression context.text.toList = context.text.toList := by
  have hcontext : IsContextAt quotedCall 25 (.ofChars "g('''a'b''', \"\\\")\")".toList) :=
    .inl ⟨⟨"m", 24, 25, .member (.ofChars "g('''a'b''', \"\\\")\")".toList)⟩,
      by decide +kernel, rfl⟩
  exact ⟨by decide +kernel, (contextExpression_stable _).1, _, hcontext,
    (contextExpression_stable []).2.2 _ _ _ hcontext⟩

end ReplEngine.Cursor
