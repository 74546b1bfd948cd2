import ReplEngine.Scan.Token

/-!
# The expression before the cursor

Reads a text backwards, from the cursor to the left, over names, dots, balanced
brackets and strings.  What it passes is the expression that a member or a call
is looked up on.  Texts are given reversed here, the nearest character first, so
that reading backwards is reading a list from its head.
-/

namespace ReplEngine.Cursor

open ReplEngine.Scan (Bracket isClosing)

/-- The bracket that a character closes. -/
def closedBracket? (c : Char) : Option Bracket :=
  if c == ')' then some .round
  else if c == ']' then some .square
  else if c == '\x7d' then some .curly
  else none

/-- Whether a character is a string mark. -/
def isMark (c : Char) : Bool :=
  c == '\'' || c == '"'

/-- The text before the nearest three marks in a row. -/
def beforeTriple? (mark : Char) : List Char → Option (List Char)
  | a :: b :: c :: before =>
    if a == mark && b == mark && c == mark then some before
    else beforeTriple? mark (b :: c :: before)
  | _ => none

/-- The text before the nearest mark that no backslash escapes. -/
def beforeMark? (mark : Char) : List Char → Option (List Char)
  | [] => none
  | c :: before =>
    if c == mark then
      match before with
      | '\\' :: further => beforeMark? mark further
      | _ => some before
    else beforeMark? mark before

/-- The text before the string whose closing mark was just passed. -/
def beforeString? (mark : Char) (before : List Char) : Option (List Char) :=
  match before with
  | a :: b :: further =>
    if a == mark && b == mark && 3 ≤ further.length then beforeTriple? mark further
    else beforeMark? mark before
  | _ => beforeMark? mark before

theorem length_beforeTriple?_lt {mark : Char} {cs rest : List Char}
    (h : beforeTriple? mark cs = some rest) : rest.length < cs.length := by
  fun_induction beforeTriple? mark cs with
  | case1 a b c before _ =>
    simp only [Option.some.injEq] at h
    subst h
    simp only [List.length_cons]
    omega
  | case2 a b c before _ ih =>
    have := ih h
    simp only [List.length_cons] at this ⊢
    omega
  | case3 => simp at h

theorem length_beforeMark?_lt {mark : Char} {cs rest : List Char}
    (h : beforeMark? mark cs = some rest) : rest.length < cs.length := by
  fun_induction beforeMark? mark cs with
  | case1 => simp at h
  | case2 c _ further ih =>
    have := ih h
    simp only [List.length_cons]
    omega
  | case3 c before _ _ =>
    simp only [Option.some.injEq] at h
    subst h
    simp
  | case4 c before _ ih =>
    have := ih h
    simp only [List.length_cons]
    omega

/-- Passing a string leaves less text. -/
theorem length_beforeString?_lt {mark : Char} {cs rest : List Char}
    (h : beforeString? mark cs = some rest) : rest.length < cs.length := by
  unfold beforeString? at h
  split at h
  · split at h
    · have := length_beforeTriple?_lt h
      simp only [List.length_cons]
      omega
    · exact length_beforeMark?_lt h
  · exact length_beforeMark?_lt h

/-- The text before the bracket that matches the last of the pending closing brackets;
`none` if brackets do not match. -/
def beforeOpening? (pending : List Bracket) (text : List Char) : Option (List Char) :=
  match text with
  | [] => none
  | c :: before =>
    if isMark c then
      match h : beforeString? c before with
      | none => none
      | some further =>
        have := length_beforeString?_lt h
        beforeOpening? pending further
    else match closedBracket? c with
    | some bracket => beforeOpening? (bracket :: pending) before
    | none => match Bracket.ofOpening? c, pending with
      | some _, [] => none
      | some bracket, expected :: outer =>
        if bracket != expected then none
        else if outer.isEmpty then some before
        else beforeOpening? outer before
      | none, _ => beforeOpening? pending before
termination_by text.length

/-- Passing a bracket leaves less text. -/
theorem length_beforeOpening?_lt {pending : List Bracket} {text rest : List Char}
    (h : beforeOpening? pending text = some rest) : rest.length < text.length := by
  fun_induction beforeOpening? pending text with
  | case1 => simp at h
  | case2 => simp at h
  | case3 pending c before _ further hs hlt ih =>
    have := ih h
    have := length_beforeString?_lt hs
    simp only [List.length_cons]
    omega
  | case4 pending c before _ bracket _ ih =>
    have := ih h
    simp only [List.length_cons]
    omega
  | case5 => simp at h
  | case6 => simp at h
  | case7 =>
    simp only [Option.some.injEq] at h
    subst h
    simp
  | case8 c before _ _ bracket _ expected outer _ _ ih =>
    have := ih h
    simp only [List.length_cons]
    omega
  | case9 pending c before _ _ _ ih =>
    have := ih h
    simp only [List.length_cons]
    omega

/-- The text before the expression that ends where the given text ends. -/
def beforeExpression (text : List Char) : List Char :=
  match text with
  | [] => []
  | c :: before =>
    if Text.isAlphanumeric c || c == '_' || c == '.' then beforeExpression before
    else if isMark c then
      match h : beforeString? c before with
      | none => text
      | some further =>
        have := length_beforeString?_lt h
        beforeExpression further
    else match closedBracket? c with
    | none => text
    | some bracket =>
      match h : beforeOpening? [bracket] before with
      | none => text
      | some further =>
        have := length_beforeOpening?_lt h
        beforeExpression further
termination_by text.length

/-- The expression at the end of a text, in reading order. -/
def contextExpression (text : List Char) : List Char :=
  text.drop (beforeExpression text.reverse).length

/-- Whether a text is a name, which starts with an ASCII letter or an underscore. -/
def isName : List Char → Bool
  | [] => false
  | c :: rest => Text.isWordStart c && rest.all Text.isWordChar

end ReplEngine.Cursor
