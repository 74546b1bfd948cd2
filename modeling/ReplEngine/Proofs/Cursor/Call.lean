import ReplEngine.Cursor.Place
import ReplEngine.Proofs.Scan.Nesting
import ReplEngine.Proofs.Text.Cutting

/-!
# The call at the cursor

`callAt` keeps brackets of its own while it goes through the tokens before the cursor, each with
the place where it was opened and a count of commas.  This file proves that these are the brackets
of the lexer, and says what place and count are without the pass: the place is that of a bracket
that is still open at the cursor, and the commas are those at which it is the innermost one.  What
`callAt` finds is then said of the text alone: the call whose bracket is the last open one that has
a callee.

## Key results

- `Tracks.step`: every character keeps the brackets those of the lexer
- `tracks_openBrackets`: so the brackets at the cursor are those that the lexer leaves open
- `openBrackets_and_callAt_iff`: the call at the cursor
-/

namespace ReplEngine.Cursor

open ReplEngine.Scan

/-! ### Commas -/

/-- A comma stands at the place `i`, outside strings and comments. -/
def IsComma (text : List Char) (i : Nat) : Prop :=
  (i, Kind.code) ∈ tokens text ∧ text[i]? = some ','

instance (text : List Char) (i : Nat) : Decidable (IsComma text i) :=
  inferInstanceAs (Decidable (_ ∧ _))

/-- How many commas stand before the place `n` for which the innermost open bracket is the one
    that was opened at the place `o`. -/
def commasOf (text : List Char) (o n : Nat) : Nat :=
  (List.range n).countP fun i => IsComma text i ∧ IsInnermost text o i

variable {text rest : List Char} {n o : Nat} {c : Char} {kind : Kind}
  {opened outer : List OpenBracket} {b : OpenBracket}

/-- One place further, the character at it counts if it is a comma of the bracket. -/
theorem commasOf_succ (text : List Char) (o n : Nat) :
    commasOf text o (n + 1) =
      commasOf text o n + if IsComma text n ∧ IsInnermost text o n then 1 else 0 := by
  rw [commasOf, List.range_succ, List.countP_append, List.countP_singleton, ← commasOf]
  simp

/-- No comma belongs to a bracket that is not open yet. -/
theorem commasOf_of_le (h : n ≤ o + 1) : commasOf text o n = 0 := by
  rw [commasOf, List.countP_eq_zero]
  intro i hi hcomma
  -- a bracket is innermost only behind the place where it was opened
  have hlt := (of_decide_eq_true hcomma).2.lt
  have hi' := List.mem_range.mp hi
  omega

/-! ### Brackets that are kept -/

/-- What is kept of a bracket is right at the place `n`, if `depth` brackets are open around it. -/
structure Keeps (text : List Char) (n : Nat) (b : OpenBracket) (depth : Nat) : Prop where
  isOpen : IsOpen text b.offset n
  kind : text[b.offset]?.bind Bracket.ofOpening? = some b.bracket
  depth : (stateAt text b.offset).depth = depth
  commas : b.commas = commasOf text b.offset n

/-- What is kept of some brackets, innermost first, is right at the place `n`. -/
inductive KeepsAll (text : List Char) (n : Nat) : List OpenBracket → Prop
  | nil : KeepsAll text n []
  | cons {b : OpenBracket} {outer : List OpenBracket} (innermost : Keeps text n b outer.length)
    (others : KeepsAll text n outer) : KeepsAll text n (b :: outer)

/-- The brackets that are kept are those which the lexer has left open at the place `n`. -/
structure Tracks (text : List Char) (n : Nat) (opened : List OpenBracket) : Prop where
  brackets : opened.map (·.bracket) = (stateAt text n).brackets
  keeps : KeepsAll text n opened

/-- As many brackets are kept as the text is deep. -/
theorem Tracks.depth (h : Tracks text n opened) : (stateAt text n).depth = opened.length := by
  rw [State.depth, ← h.brackets, List.length_map]

/-- A bracket is kept over a character that does not close it and is no comma of its own. -/
theorem Keeps.succ {depth : Nat} (h : Keeps text n b depth)
    (hdepth : depth < (stateAt text (n + 1)).depth)
    (hcomma : IsComma text n → depth + 1 < (stateAt text n).depth) :
    Keeps text (n + 1) b depth where
  isOpen := h.isOpen.succ (by rw [h.depth]; exact hdepth)
  kind := h.kind
  depth := h.depth
  commas := by
    -- a comma at `n` counts for the innermost bracket, and this is not the one
    have hnone : ¬(IsComma text n ∧ IsInnermost text b.offset n) := by
      rintro ⟨hn, hinnermost⟩
      have hlt := hcomma hn
      have heq := hinnermost.depth
      rw [h.depth] at heq
      omega
    rw [h.commas, commasOf_succ, if_neg hnone, Nat.add_zero]

/-- All brackets are kept over a character that closes none of them and is no comma of theirs. -/
theorem KeepsAll.succ (h : KeepsAll text n opened)
    (hdepth : opened.length ≤ (stateAt text (n + 1)).depth)
    (hcomma : IsComma text n → opened.length < (stateAt text n).depth) :
    KeepsAll text (n + 1) opened := by
  induction h with
  | nil => exact .nil
  | cons innermost _ ih =>
    rw [List.length_cons] at hdepth hcomma
    exact .cons (innermost.succ hdepth hcomma)
      (ih (Nat.le_of_succ_le hdepth) fun h => Nat.lt_of_succ_lt (hcomma h))

/-! ### Steps -/

/-- A character that neither opens nor closes a bracket.  If it is a comma, no bracket is open. -/
theorem Tracks.keep (h : Tracks text n opened)
    (hbrackets : (stateAt text (n + 1)).brackets = (stateAt text n).brackets)
    (hcomma : IsComma text n → opened = []) : Tracks text (n + 1) opened where
  brackets := by rw [h.brackets, hbrackets]
  keeps := by
    have hdepth : (stateAt text (n + 1)).depth = opened.length := by
      rw [State.depth, hbrackets, ← State.depth, h.depth]
    -- a comma changes something only if a bracket is open
    cases opened with
    | nil => exact .nil
    | cons b outer => exact h.keeps.succ (Nat.le_of_eq hdepth.symm) fun hn => by cases hcomma hn

/-- A comma belongs to the innermost bracket. -/
theorem Tracks.comma (h : Tracks text n (b :: outer))
    (hbrackets : (stateAt text (n + 1)).brackets = (stateAt text n).brackets)
    (hcomma : IsComma text n) :
    Tracks text (n + 1) ({ b with commas := b.commas + 1 } :: outer) where
  brackets := by
    rw [hbrackets, ← h.brackets]
    rfl
  keeps := by
    have hdepth := h.depth
    have hnext : (stateAt text (n + 1)).depth = (b :: outer).length := by
      rw [State.depth, hbrackets, ← State.depth, hdepth]
    rw [List.length_cons] at hdepth hnext
    cases h.keeps with
    | cons innermost others =>
      -- the first bracket of the list is the innermost one, so that the comma is its own
      have hinnermost : IsInnermost text b.offset n :=
        ⟨innermost.isOpen, by rw [innermost.depth, hdepth]⟩
      refine .cons ⟨?_, innermost.kind, innermost.depth, ?_⟩ (others.succ (by omega) ?_)
      · -- the comma does not close it
        exact innermost.isOpen.succ (by rw [innermost.depth]; omega)
      · show b.commas + 1 = commasOf text b.offset (n + 1)
        rw [commasOf_succ, if_pos ⟨hcomma, hinnermost⟩, innermost.commas]
      · -- for the brackets around it the comma stands too deep
        intro _
        omega

/-- An opening bracket becomes the innermost one. -/
theorem Tracks.opening {bracket : Bracket} (h : Tracks text n opened)
    (htoken : (n, Kind.opening) ∈ tokens text) (hget : text[n]? = some c)
    (hopening : Bracket.ofOpening? c = some bracket)
    (hbrackets : (stateAt text (n + 1)).brackets = bracket :: (stateAt text n).brackets) :
    Tracks text (n + 1) (⟨n, bracket, 0⟩ :: opened) where
  brackets := by rw [hbrackets, ← h.brackets]; rfl
  keeps := by
    have hdepth : (stateAt text (n + 1)).depth = opened.length + 1 := by
      rw [State.depth, hbrackets, List.length_cons, ← State.depth, h.depth]
    -- an opening bracket is no comma, for it has another kind
    have hcomma : ¬IsComma text n := fun hn => by cases kind_unique htoken hn.1
    refine .cons ⟨⟨htoken, Nat.lt_succ_self n, fun k hk hnk => ?_⟩, ?_, h.depth, ?_⟩
      (h.keeps.succ (by omega) fun hn => absurd hn hcomma)
    · -- it has just been opened: the only place behind it is the next one
      obtain rfl : k = n + 1 := Nat.le_antisymm hk hnk
      rw [h.depth, hdepth]
      exact Nat.lt_succ_self _
    · rw [hget, Option.bind_some, hopening]
    · -- no comma has been read since
      rw [commasOf_of_le (Nat.le_refl _)]

/-- A closing bracket takes off the innermost one, if there is one. -/
theorem Tracks.closing (h : Tracks text n opened) (htoken : (n, Kind.closing) ∈ tokens text)
    (hbrackets : (stateAt text (n + 1)).brackets = (stateAt text n).brackets.tail) :
    Tracks text (n + 1) opened.tail where
  brackets := by rw [hbrackets, ← h.brackets, List.map_tail]
  keeps := by
    have hcomma : ¬IsComma text n := fun hn => by cases kind_unique htoken hn.1
    have hdepth : (stateAt text (n + 1)).depth = opened.tail.length := by
      rw [State.depth, hbrackets, ← h.brackets, ← List.map_tail, List.length_map]
    cases h.keeps with
    | nil => exact .nil
    | cons _ others =>
      exact others.succ (by rw [hdepth]; exact Nat.le_refl _) fun hn => absurd hn hcomma

/-- The brackets behind a character, at which `token?` stands. -/
def bracketsBehind (opened : List OpenBracket) (n : Nat) (c : Char) :
    (token? : Option Kind) → List OpenBracket
  | none => opened
  | some kind => bracketsAfter opened n kind c

/-- Every character keeps the brackets right. -/
theorem Tracks.step (h : Tracks text n opened) (hdrop : text.drop n = c :: rest) :
    Tracks text (n + 1)
      (bracketsBehind opened n c ((Lexer.upTo {} n text).step c rest).2) := by
  have hget : text[n]? = some c := by rw [← List.head?_drop, hdrop]; rfl
  -- the tokens of the text at `n` are those of this step
  have hmem : ∀ kind, (n, kind) ∈ tokens text ↔
      ((Lexer.upTo {} n text).step c rest).2 = some kind :=
    fun kind => mem_tokens_iff_of_drop hdrop
  have hstate := stateAt_succ hdrop
  rcases (Lexer.upTo {} n text).step_brackets c rest with
    ⟨bracket, htoken, hopening, hbrackets⟩ | ⟨htoken, hbrackets⟩ | ⟨hopening, hclosing, hbrackets⟩
  · -- a bracket is opened
    rw [← hstate] at hbrackets
    rw [htoken, bracketsBehind, bracketsAfter, hopening]
    exact h.opening ((hmem _).mpr htoken) hget hopening hbrackets
  · -- a bracket is closed
    rw [← hstate] at hbrackets
    rw [htoken]
    exact h.closing ((hmem _).mpr htoken) hbrackets
  · -- the brackets stay: only a comma is counted
    rw [← hstate] at hbrackets
    cases htoken : ((Lexer.upTo {} n text).step c rest).2 with
    | none => exact h.keep hbrackets fun hn => by rw [(hmem _).mp hn.1] at htoken; cases htoken
    | some kind =>
      by_cases hcomma : IsComma text n
      · -- a comma outside all brackets belongs to none of them
        obtain rfl : kind = .code := kind_unique ((hmem _).mpr htoken) hcomma.1
        obtain rfl : c = ',' := Option.some.inj (hget.symm.trans hcomma.2)
        cases opened with
        | nil => exact h.keep hbrackets fun _ => rfl
        | cons b outer => exact h.comma hbrackets hcomma
      · -- what is no comma leaves the brackets as they are, whatever its kind
        have hsame : bracketsAfter opened n kind c = opened := by
          cases kind with
          | opening => exact absurd htoken hopening
          | closing => exact absurd htoken hclosing
          | code =>
            have hc : c ≠ ',' := by
              rintro rfl
              exact hcomma ⟨(hmem _).mpr htoken, hget⟩
            cases opened with
            | nil => rfl
            | cons b outer => simp [bracketsAfter, hc]
          | newline | comment | string | semicolon => cases opened <;> rfl
        rw [bracketsBehind, hsame]
        exact h.keep hbrackets fun hn => absurd hn hcomma

/-- The brackets are right behind all tokens of the text. -/
theorem Tracks.run {cs : List Char} (h : Tracks text n opened) (hdrop : text.drop n = cs)
    (hn : n ≤ text.length) :
    Tracks text text.length (((Lexer.upTo {} n text).tokensFrom n cs).foldl
      (fun opened t => bracketsAfter opened t.1 t.2 (text.getD t.1 ' ')) opened) := by
  -- on the text behind the place; the place and the brackets are generalized
  induction cs generalizing n opened with
  | nil =>
    obtain rfl : n = text.length := Nat.le_antisymm hn (List.drop_eq_nil_iff.mp hdrop)
    exact h
  | cons c rest ih =>
    -- the token at a place is read with the character that stands there
    have hget : text.getD n ' ' = c := by
      rw [List.getD_eq_getElem?_getD, ← List.head?_drop, hdrop]
      rfl
    have hnext := ih (h.step hdrop) (drop_succ_of_drop hdrop) (lt_length_of_drop hdrop)
    rw [Lexer.upTo_succ hdrop] at hnext
    rw [Lexer.tokensFrom]
    cases hstep : (Lexer.upTo {} n text).step c rest with
    | mk next token? =>
      rw [hstep] at hnext
      cases token? with
      | none => exact hnext
      | some kind =>
        rw [List.foldl_cons, hget]
        exact hnext

/-- The brackets that are kept at the end of a text are those that the lexer leaves open. -/
theorem tracks_openBrackets (text : List Char) : Tracks text text.length (openBrackets text) := by
  -- before the first character nothing is open
  have hstart : Tracks text 0 [] := ⟨by rw [stateAt, Lexer.upTo_zero]; rfl, .nil⟩
  have hrun := hstart.run List.drop_zero (Nat.zero_le _)
  rwa [Lexer.upTo_zero] at hrun

/-! ### The brackets as a list -/

/-- Each bracket that is kept, and how many are around it. -/
theorem KeepsAll.of_append {inner : List OpenBracket} (h : KeepsAll text n (inner ++ b :: outer)) :
    Keeps text n b outer.length := by
  induction inner with
  | nil =>
    cases h with
    | cons innermost _ => exact innermost
  | cons d inner ih =>
    cases h with
    | cons _ others => exact ih others

/-- The brackets are kept in the order in which they were opened. -/
theorem KeepsAll.pairwise (h : KeepsAll text n opened) :
    opened.Pairwise fun b b' => b'.offset < b.offset := by
  induction h with
  | nil => exact .nil
  | @cons b outer innermost others ih =>
    refine List.pairwise_cons.mpr ⟨fun b' hb' => ?_, ih⟩
    obtain ⟨between, around, rfl⟩ := List.append_of_mem hb'
    have hkept := others.of_append
    have hdepth := innermost.depth
    have hdepth' := hkept.depth
    rw [List.length_append, List.length_cons] at hdepth
    -- behind `b` the text is deeper than at `b'`
    rcases Nat.lt_trichotomy b'.offset b.offset with hlt | heq | hgt
    · exact hlt
    · rw [heq] at hdepth'
      omega
    · have hdeeper := innermost.isOpen.deeper b'.offset (Nat.le_of_lt hkept.isOpen.lt) hgt
      omega

/-- A list is split around each of its elements, told by how many follow it. -/
private theorem exists_split {α : Type} {l : List α} {d : Nat} (h : d < l.length) :
    ∃ inner x outer, l = inner ++ x :: outer ∧ outer.length = d := by
  have hi : l.length - 1 - d < l.length := by omega
  refine ⟨l.take (l.length - 1 - d), l[l.length - 1 - d], l.drop (l.length - 1 - d + 1), ?_, ?_⟩
  · rw [← List.drop_eq_getElem_cons hi, List.take_append_drop]
  · rw [List.length_drop]
    omega

/-- Every open bracket is kept. -/
theorem Tracks.exists_of_isOpen (h : Tracks text n opened) (ho : IsOpen text o n) :
    ∃ inner b outer, opened = inner ++ b :: outer ∧ b.offset = o := by
  have hdepth := ho.deeper n (Nat.le_refl n) ho.lt
  rw [h.depth] at hdepth
  -- an open bracket is told by its depth, and a kept one stands at each depth
  obtain ⟨inner, b, outer, rfl, houter⟩ := exists_split hdepth
  have hkept := h.keeps.of_append
  exact ⟨inner, b, outer, rfl, hkept.isOpen.eq_of_depth ho (by rw [hkept.depth, houter])⟩

/-- The round brackets that are kept are those that stand in the text. -/
theorem Keeps.round_iff {depth : Nat} (h : Keeps text n b depth) :
    b.bracket = .round ↔ text[b.offset]? = some '(' := by
  have hkind := h.kind
  cases hget : text[b.offset]? with
  | none => simp [hget] at hkind
  | some c =>
    rw [hget, Option.bind_some, Bracket.ofOpening?] at hkind
    rw [Option.some.injEq]
    -- along the three characters that open a bracket
    split at hkind
    · next hc => simp [eq_of_beq hc, ← Option.some.inj hkind]
    · next hc =>
      have hne : c ≠ '(' := by simpa using hc
      split at hkind
      · simp [hne, ← Option.some.inj hkind]
      · split at hkind
        · simp [hne, ← Option.some.inj hkind]
        · cases hkind

/-! ### Callees -/

/-- The expression before the place `o` of a text, which is what a bracket there calls. -/
def calleeAt (text : List Char) (o : Nat) : List Char :=
  contextExpression (Text.trimRight (text.take o))

/-- A round bracket that is open at the end of a text stands at the place `o`. -/
def IsUnclosedRound (text : List Char) (o : Nat) : Prop :=
  IsOpen text o text.length ∧ text[o]? = some '('

/-- A call names its callee: split at its last dot, if there is one, the callee gives the context
    and the name of the call. -/
def Call.Names (call : Call) (callee : List Char) : Prop :=
  isName call.name.toList = true ∧ '.' ∉ call.name.toList ∧
    ((call.context = none ∧ callee = call.name.toList) ∨
      ∃ before, before ≠ [] ∧ call.context = some (.ofChars before) ∧
        callee = before ++ '.' :: call.name.toList)

/-- A callee gives the call that names it, and no other. -/
theorem callOf_eq_some_iff {callee : List Char} {argument : Nat} {call : Call} :
    callOf callee argument = some call ↔ call.argument = argument ∧ call.Names callee := by
  obtain ⟨name, number, context⟩ := call
  unfold callOf Call.Names
  cases hcut : Text.cutAtLast? '.' callee with
  | none =>
    -- without a dot the whole callee is the name
    have hdot := Text.cutAtLast?_eq_none_iff.mp hcut
    constructor
    · intro h
      dsimp only at h
      split at h
      · next hname =>
        cases h
        exact ⟨rfl, by simpa using hname, by simpa using hdot, .inl ⟨rfl, by simp⟩⟩
      · cases h
    · rintro ⟨rfl, hname, -, ⟨hcontext, rfl⟩ | ⟨before, -, -, rfl⟩⟩
      · dsimp only at hcontext hname
        subst hcontext
        simp [hname]
      · simp at hdot
  | some parts =>
    -- with a dot, the last one parts the context from the name
    obtain ⟨before, after⟩ := parts
    obtain ⟨rfl, hdot⟩ := Text.cutAtLast?_eq_some_iff.mp hcut
    constructor
    · intro h
      dsimp only at h
      split at h
      · next hname =>
        rw [Bool.and_eq_true] at hname
        cases h
        refine ⟨rfl, by simpa using hname.1, by simpa using hdot, .inr ⟨before, ?_, rfl, by simp⟩⟩
        simpa using hname.2
      · cases h
    · rintro ⟨rfl, hname, hlast, ⟨-, heq⟩ | ⟨before', hne, hcontext, heq⟩⟩
      · dsimp only at heq hlast
        rw [← heq] at hlast
        simp at hlast
      · dsimp only at heq hlast hcontext hname ⊢
        -- the name has no dot, so that both ways to part the callee are the same
        have hcut' : Text.cutAtLast? '.' (before ++ '.' :: after) = some (before', name.toList) :=
          Text.cutAtLast?_eq_some_iff.mpr ⟨heq, hlast⟩
        rw [hcut, Option.some.injEq, Prod.mk.injEq] at hcut'
        obtain ⟨rfl, rfl⟩ := hcut'
        simp [hname, hne, hcontext]

/-- The call is that of the first bracket that has a callee. -/
theorem innermostCall_eq_some_iff {call : Call} :
    innermostCall text opened = some call ↔ ∃ inner b outer, opened = inner ++ b :: outer ∧
      b.bracket = .round ∧ calleeAt text b.offset ≠ [] ∧
      (∀ d ∈ inner, d.bracket = .round → calleeAt text d.offset = []) ∧
      callOf (calleeAt text b.offset) b.commas = some call := by
  induction opened with
  | nil => simp [innermostCall]
  | cons d opened ih =>
    by_cases hd : d.bracket = .round ∧ calleeAt text d.offset ≠ []
    · -- the first bracket decides
      have hfirst : innermostCall text (d :: opened) =
          callOf (calleeAt text d.offset) d.commas := by
        rw [innermostCall, hd.1]
        simp only [bne_self_eq_false, Bool.false_eq_true, if_false]
        split
        · next hcallee => exact absurd hcallee hd.2
        · rfl
      rw [hfirst]
      constructor
      · intro h
        exact ⟨[], d, opened, rfl, hd.1, hd.2, by simp, h⟩
      · rintro ⟨inner, b, outer, hsplit, -, -, hinner, h⟩
        cases inner with
        | nil =>
          obtain ⟨rfl, rfl⟩ := List.cons.inj hsplit
          exact h
        | cons d' inner =>
          obtain ⟨rfl, rfl⟩ := List.cons.inj hsplit
          exact absurd (hinner d (by simp) hd.1) hd.2
    · -- the first bracket is passed over, and goes to those without a callee
      have hnext : innermostCall text (d :: opened) = innermostCall text opened := by
        rw [innermostCall]
        split
        · rfl
        · next hround =>
          split
          · rfl
          · next hcallee => exact absurd ⟨by simpa using hround, hcallee⟩ hd
      rw [hnext, ih]
      constructor
      · rintro ⟨inner, b, outer, rfl, hround, hcallee, hinner, h⟩
        refine ⟨d :: inner, b, outer, rfl, hround, hcallee, fun d' hd' hround' => ?_, h⟩
        rcases List.mem_cons.mp hd' with rfl | hd'
        · by_cases hempty : calleeAt text d'.offset = []
          · exact hempty
          · exact absurd ⟨hround', hempty⟩ hd
        · exact hinner d' hd' hround'
      · rintro ⟨inner, b, outer, hsplit, hround, hcallee, hinner, h⟩
        cases inner with
        | nil =>
          obtain ⟨rfl, rfl⟩ := List.cons.inj hsplit
          exact absurd ⟨hround, hcallee⟩ hd
        | cons d' inner =>
          obtain ⟨rfl, rfl⟩ := List.cons.inj hsplit
          exact ⟨inner, b, outer, rfl, hround, hcallee,
            fun d' hd' => hinner d' (List.mem_cons_of_mem _ hd'), h⟩

/-! ### The call at the cursor -/

/-- The call at the end of a text is that of the last open round bracket that has a callee. -/
theorem innermostCall_openBrackets_iff {call : Call} :
    innermostCall text (openBrackets text) = some call ↔ ∃ o, IsUnclosedRound text o ∧
      calleeAt text o ≠ [] ∧ (∀ o' > o, IsUnclosedRound text o' → calleeAt text o' = []) ∧
      call.Names (calleeAt text o) ∧ call.argument = commasOf text o text.length := by
  have htracks := tracks_openBrackets text
  rw [innermostCall_eq_some_iff]
  constructor
  · rintro ⟨inner, b, outer, hsplit, hround, hcallee, hinner, hcall⟩
    rw [hsplit] at htracks
    have hkept := htracks.keeps.of_append
    obtain ⟨hargument, hnames⟩ := callOf_eq_some_iff.mp hcall
    refine ⟨b.offset, ⟨hkept.isOpen, hkept.round_iff.mp hround⟩, hcallee, fun o' ho' hopen => ?_,
      hnames, by rw [hargument, hkept.commas]⟩
    -- a bracket behind `b` was opened later, so that it stands before `b` in the list
    obtain ⟨inner', b', outer', hsplit', rfl⟩ := htracks.exists_of_isOpen hopen.1
    have hkept' := (hsplit' ▸ htracks).keeps.of_append
    have hmem : b' ∈ inner ++ b :: outer := by rw [hsplit']; simp
    have hpairwise := (List.pairwise_append.mp htracks.keeps.pairwise).2.1
    rcases List.mem_append.mp hmem with hmem | hmem
    · exact hinner b' hmem (hkept'.round_iff.mpr hopen.2)
    · rcases List.mem_cons.mp hmem with rfl | hmem
      · omega
      · have hlt := (List.pairwise_cons.mp hpairwise).1 b' hmem
        omega
  · rintro ⟨o, hopen, hcallee, hlast, hnames, hargument⟩
    obtain ⟨inner, b, outer, hsplit, rfl⟩ := htracks.exists_of_isOpen hopen.1
    rw [hsplit] at htracks
    have hkept := htracks.keeps.of_append
    refine ⟨inner, b, outer, hsplit, hkept.round_iff.mpr hopen.2, hcallee, fun d hd hround => ?_,
      callOf_eq_some_iff.mpr ⟨by rw [hargument, hkept.commas], hnames⟩⟩
    -- a bracket before `b` in the list was opened behind it, where only brackets without a callee
    -- are
    have hlt := (List.pairwise_append.mp htracks.keeps.pairwise).2.2 d hd b (by simp)
    obtain ⟨before, between, rfl⟩ := List.append_of_mem hd
    have hkept' : Keeps text text.length d (between ++ b :: outer).length := by
      have hkeeps := htracks.keeps
      rw [List.append_assoc, List.cons_append] at hkeeps
      exact hkeeps.of_append
    exact hlast d.offset hlt ⟨hkept'.isOpen, hkept'.round_iff.mp hround⟩

/-- The call at the cursor.  The brackets that are kept while the tokens before the cursor are read
    are those of the lexer.  What is found is the call of the last round bracket that is open at the
    cursor and has a callee: the callee, split at its last dot, gives the context and the name of
    the call, and the argument is the number of commas for which that bracket is the innermost open
    one.  Every such call is found. -/
theorem openBrackets_and_callAt_iff (line : List Char) (cursor : Nat) :
    (openBrackets (line.take cursor)).map (·.bracket) =
      (lexicalState (line.take cursor)).brackets ∧
    ∀ call, callAt line cursor = some call ↔ ∃ o, IsUnclosedRound (line.take cursor) o ∧
      calleeAt line o ≠ [] ∧
      (∀ o' > o, IsUnclosedRound (line.take cursor) o' → calleeAt line o' = []) ∧
      call.Names (calleeAt line o) ∧
      call.argument = commasOf (line.take cursor) o (line.take cursor).length := by
  constructor
  · rw [(tracks_openBrackets _).brackets, stateAt, Lexer.upTo_length, lexicalState]
  · intro call
    -- what stands before an open bracket stands before the cursor too
    have hcallee : ∀ o, IsUnclosedRound (line.take cursor) o →
        calleeAt (line.take cursor) o = calleeAt line o := by
      intro o ho
      have hlt := ho.1.lt
      rw [List.length_take] at hlt
      rw [calleeAt, calleeAt, List.take_take, Nat.min_eq_left (by omega)]
    have hcall : callAt line cursor =
        innermostCall (line.take cursor) (openBrackets (line.take cursor)) := by
      rw [callAt, textBefore_natCast]
    rw [hcall, innermostCall_openBrackets_iff]
    constructor
    · rintro ⟨o, ho, hne, hlast, hnames, hargument⟩
      rw [hcallee o ho] at hne hnames
      exact ⟨o, ho, hne, fun o' hgt ho' => hcallee o' ho' ▸ hlast o' hgt ho', hnames, hargument⟩
    · rintro ⟨o, ho, hne, hlast, hnames, hargument⟩
      rw [← hcallee o ho] at hne hnames
      exact ⟨o, ho, hne, fun o' hgt ho' => (hcallee o' ho').trans (hlast o' hgt ho'), hnames,
        hargument⟩

/-- A list inside the arguments has commas of its own, and a bracket in a string is none. -/
example : callAt "f(a, x.g([1, 2], '(', ".toList 22 = some ⟨"g", 2, some ⟨"x", true⟩⟩ := by
  cbv

end ReplEngine.Cursor
