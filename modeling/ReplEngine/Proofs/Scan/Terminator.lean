import ReplEngine.Proofs.Scan.Position

/-!
# Where statements end

The scanner decides in one pass where each statement ends, and carries along what it needs for
that: the shape of the statement, its text and the text of the line.  This file says the same
without a pass.  The rules speak about the tokens of the whole text: the first token of a
statement that is code gives its shape, and the shape says which of the tokens behind it are
terminators.  A text is then cut behind the first terminator of each statement, and what is
left holds none.

The two agree because a scanner at a place of the text knows there what the rules would look
up (`Scanner.At`), and every step keeps this.

## Key results

- `Scanner.At.ends_iff`: the scanner ends a statement exactly at a terminator
- `splits_statementsFrom`: what is found from a place on is cut by the rules
- `Splits.unique`: the rules cut a text in one way only
- `statementsOf_eq_iff_splits`: statements are what the rules say, and nothing else is
-/

namespace ReplEngine.Scan

/-! ### The rules -/

/-- The first token that is code, from the place `start` on, stands at the place `f`. -/
structure IsLead (text : List Char) (start f : Nat) : Prop where
  start_le : start ≤ f
  token : ∃ kind, (f, kind) ∈ tokens text ∧ kind.isCode = true
  first : ∀ t ∈ tokens text, t.2.isCode = true → start ≤ t.1 → f ≤ t.1

/-- Where the line of a place starts: behind the last newline token before the place. -/
def lineStart (text : List Char) : Nat → Nat
  | 0 => 0
  | n + 1 => if (n, Kind.newline) ∈ tokens text then n + 1 else lineStart text n

/-- The places of the tokens that can end the statement which starts at the place `start`.
    A simple statement can end at any newline or semicolon outside brackets.  A statement with a
    block can end at a newline outside brackets, if that ends a blank line, or if the next line
    closes the block. -/
inductive IsTerminator (text : List Char) (start : Nat) : Nat → Prop
  | simple {f i : Nat} {kind : Kind} (lead : IsLead text start f)
    (shape : shapeOf (text.drop f) = .simple) (behind : f ≤ i) (token : (i, kind) ∈ tokens text)
    (ends : kind = .newline ∨ kind = .semicolon) (depth : (stateAt text (i + 1)).depth = 0) :
    IsTerminator text start i
  | compound {f i : Nat} (lead : IsLead text start f)
    (shape : shapeOf (text.drop f) = .compound) (behind : f < i)
    (token : (i, Kind.newline) ∈ tokens text) (depth : (stateAt text (i + 1)).depth = 0)
    (closes : Text.isBlank (between text (lineStart text i) i) = true ∨
      closesBlock (between text start (i + 1)) (text.drop (i + 1)) = true) :
    IsTerminator text start i

/-- `Splits text start found rest`: from the place `start` on, the text is cut behind the first
    terminator of each statement into the statements `found`, and no terminator is left in
    `rest`. -/
inductive Splits (text : List Char) : Nat → List (List Char) → List Char → Prop
  | rest {start : Nat} (none : ∀ i, ¬IsTerminator text start i) :
    Splits text start [] (text.drop start)
  | statement {start i : Nat} {found : List (List Char)} {rest : List Char}
    (terminator : IsTerminator text start i) (first : ∀ j, IsTerminator text start j → i ≤ j)
    (later : Splits text (i + 1) found rest) :
    Splits text start (between text start (i + 1) :: found) rest

variable {text : List Char} {start f g i n : Nat}

/-- There is one first token at most. -/
theorem IsLead.unique (h : IsLead text start f) (h' : IsLead text start g) : f = g := by
  obtain ⟨kind, htoken, hcode⟩ := h.token
  obtain ⟨kind', htoken', hcode'⟩ := h'.token
  have hle := h.first _ htoken' hcode' h'.start_le
  have hge := h'.first _ htoken hcode h.start_le
  exact Nat.le_antisymm hle hge

/-- A terminator is a token of its own statement, which starts with code. -/
theorem IsTerminator.exists_lead (h : IsTerminator text start i) :
    ∃ f kind, IsLead text start f ∧ f ≤ i ∧ (i, kind) ∈ tokens text ∧
      (kind = .newline ∨ kind = .semicolon) ∧ (stateAt text (i + 1)).depth = 0 := by
  cases h with
  | simple lead _ behind token ends depth => exact ⟨_, _, lead, behind, token, ends, depth⟩
  | compound lead _ behind token depth _ =>
    exact ⟨_, _, lead, Nat.le_of_lt behind, token, .inl rfl, depth⟩

/-- A terminator does not stand before its statement. -/
theorem IsTerminator.start_le (h : IsTerminator text start i) : start ≤ i := by
  obtain ⟨f, _, hlead, hf, -⟩ := h.exists_lead
  exact Nat.le_trans hlead.start_le hf

theorem IsTerminator.lt_length (h : IsTerminator text start i) : i < text.length := by
  obtain ⟨_, _, -, -, htoken, -⟩ := h.exists_lead
  exact lt_of_mem_tokens htoken

/-- The rules cut a text in one way only. -/
theorem Splits.unique {found found' : List (List Char)} {rest rest' : List Char}
    (h : Splits text start found rest) (h' : Splits text start found' rest') :
    found = found' ∧ rest = rest' := by
  -- on the first cut
  induction h generalizing found' with
  | rest none =>
    cases h' with
    | rest _ => exact ⟨rfl, rfl⟩
    | statement terminator _ _ => exact absurd terminator (none _)
  | statement terminator first _ ih =>
    cases h' with
    | rest none => exact absurd terminator (none _)
    | statement terminator' first' later' =>
      -- the first terminator of a statement is one place
      have hle := first _ terminator'
      have hge := first' _ terminator
      obtain rfl := Nat.le_antisymm hle hge
      obtain ⟨rfl, rfl⟩ := ih later'
      exact ⟨rfl, rfl⟩

/-! ### The scanner at a place -/

/-- The scanner stands at the place `n` of a text, and its statement has started at the place
    `start`. -/
structure Scanner.At (s : Scanner) (text : List Char) (start n : Nat) : Prop where
  start_le : start ≤ n
  lexer : s.lexer = Lexer.upTo {} n text
  statement : s.statement.reverse = between text start n
  line : s.line.reverse = between text (lineStart text n) n
  unled : s.shape = none → ∀ t ∈ tokens text, t.2.isCode = true → start ≤ t.1 → n ≤ t.1
  led : ∀ shape, s.shape = some shape →
    ∃ f, IsLead text start f ∧ f < n ∧ shapeOf (text.drop f) = shape

/-- A line does not start behind the place. -/
theorem lineStart_le (text : List Char) (n : Nat) : lineStart text n ≤ n := by
  induction n with
  | zero => exact Nat.le_refl 0
  | succ n ih =>
    rw [lineStart]
    split
    · exact Nat.le_refl _
    · omega

/-- Before the first token that is code, every token that is code gives the shape. -/
theorem shapeAfter_none (kind : Kind) (text : List Char) :
    shapeAfter none kind text = if kind.isCode then some (shapeOf text) else none := by
  cases kind <;> rfl

namespace Scanner.At

variable {s : Scanner} {lexer : Lexer} {kind : Kind} {c : Char} {rest : List Char}

/-- A fresh scanner stands at the start. -/
theorem initial (text : List Char) : Scanner.At {} text 0 0 where
  start_le := Nat.le_refl 0
  lexer := by rw [Lexer.upTo_zero]
  statement := by rw [between_self]; rfl
  line := by rw [lineStart, between_self]; rfl
  unled _ t _ _ _ := Nat.zero_le t.1
  led _ h := by cases h

/-- The lexer behind the next character. -/
private theorem lexer_succ {token? : Option Kind} (h : s.At text start n)
    (hdrop : text.drop n = c :: rest) (hstep : s.lexer.step c rest = (lexer, token?)) :
    lexer = Lexer.upTo {} (n + 1) text := by
  rw [Lexer.upTo_succ hdrop, ← h.lexer, hstep]

/-- The token that the scanner has found at its place. -/
private theorem mem_tokens_iff {token? : Option Kind} (h : s.At text start n)
    (hdrop : text.drop n = c :: rest) (hstep : s.lexer.step c rest = (lexer, token?)) :
    (n, kind) ∈ tokens text ↔ token? = some kind := by
  rw [mem_tokens_iff_of_drop hdrop, ← h.lexer, hstep]

/-- The statement goes on for one more character. -/
private theorem statement_succ (h : s.At text start n) (hdrop : text.drop n = c :: rest) :
    (c :: s.statement).reverse = between text start (n + 1) := by
  rw [List.reverse_cons, h.statement, between_succ h.start_le hdrop]

private theorem line_succ (h : s.At text start n) (hdrop : text.drop n = c :: rest)
    (hnewline : (n, Kind.newline) ∉ tokens text) :
    (c :: s.line).reverse = between text (lineStart text (n + 1)) (n + 1) := by
  rw [lineStart, if_neg hnewline, List.reverse_cons, h.line,
    between_succ (lineStart_le text n) hdrop]

/-- The text since the last newline token, behind a token. -/
private theorem lineAfter_succ (h : s.At text start n) (hdrop : text.drop n = c :: rest)
    (hstep : s.lexer.step c rest = (lexer, some kind)) :
    (s.lineAfter kind c).reverse = between text (lineStart text (n + 1)) (n + 1) := by
  have htoken : (n, Kind.newline) ∈ tokens text ↔ some kind = some .newline :=
    h.mem_tokens_iff hdrop hstep
  rw [Scanner.lineAfter]
  split
  · next hkind =>
    have hnewline : (n, Kind.newline) ∈ tokens text := htoken.mpr (by rw [hkind])
    rw [lineStart, if_pos hnewline, between_self]
    rfl
  · next hkind =>
    have hnewline : (n, Kind.newline) ∉ tokens text := fun hmem =>
      hkind (Option.some.inj (htoken.mp hmem))
    exact h.line_succ hdrop hnewline

/-- A character that is no token. -/
theorem pass (h : s.At text start n) (hdrop : text.drop n = c :: rest)
    (hstep : s.lexer.step c rest = (lexer, none)) : (s.pass lexer c).At text start (n + 1) where
  start_le := Nat.le_succ_of_le h.start_le
  lexer := h.lexer_succ hdrop hstep
  statement := h.statement_succ hdrop
  line := by
    refine h.line_succ hdrop fun hmem => ?_
    cases (h.mem_tokens_iff hdrop hstep).mp hmem
  unled hshape t ht hcode hstart := by
    have hle := h.unled hshape t ht hcode hstart
    have hne : t.1 ≠ n := by
      rintro rfl
      cases (h.mem_tokens_iff hdrop hstep).mp ht
    omega
  led shape hshape := by
    obtain ⟨f, hlead, hf, hshaped⟩ := h.led shape hshape
    exact ⟨f, hlead, Nat.lt_succ_of_lt hf, hshaped⟩

/-- A token that the scanner takes into its statement. -/
theorem keep (h : s.At text start n) (hdrop : text.drop n = c :: rest)
    (hstep : s.lexer.step c rest = (lexer, some kind)) :
    (s.keep lexer kind c rest).At text start (n + 1) where
  start_le := Nat.le_succ_of_le h.start_le
  lexer := h.lexer_succ hdrop hstep
  statement := h.statement_succ hdrop
  line := h.lineAfter_succ hdrop hstep
  unled hshape t ht hcode hstart := by
    -- the statement has no shape yet, so that the token was no code
    have hnone : s.shape = none := by
      cases hs : s.shape with
      | none => rfl
      | some shape => simp [Scanner.keep, hs, shapeAfter] at hshape
    have hkind : kind.isCode = false := by
      simpa [Scanner.keep, hnone, shapeAfter_none] using hshape
    have hle := h.unled hnone t ht hcode hstart
    have hne : t.1 ≠ n := by
      rintro rfl
      have htoken := (h.mem_tokens_iff hdrop hstep).mp ht
      rw [← Option.some.inj htoken, hkind] at hcode
      cases hcode
    omega
  led shape hshape := by
    cases hs : s.shape with
    | some before =>
      obtain ⟨f, hlead, hf, hshaped⟩ := h.led before hs
      obtain rfl : before = shape := by simpa [Scanner.keep, hs, shapeAfter] using hshape
      exact ⟨f, hlead, Nat.lt_succ_of_lt hf, hshaped⟩
    | none =>
      -- this token is the first that is code
      have hgiven : kind.isCode = true ∧ shapeOf (c :: rest) = shape := by
        simpa [Scanner.keep, hs, shapeAfter_none] using hshape
      have htoken : (n, kind) ∈ tokens text := (h.mem_tokens_iff hdrop hstep).mpr rfl
      have hlead : IsLead text start n := ⟨h.start_le, ⟨kind, htoken, hgiven.1⟩, h.unled hs⟩
      exact ⟨n, hlead, Nat.lt_succ_self n, by rw [hdrop, hgiven.2]⟩

/-- A token behind which the next statement starts. -/
theorem cut (h : s.At text start n) (hdrop : text.drop n = c :: rest)
    (hstep : s.lexer.step c rest = (lexer, some kind)) :
    (s.cut lexer kind c).At text (n + 1) (n + 1) where
  start_le := Nat.le_refl _
  lexer := h.lexer_succ hdrop hstep
  statement := by rw [between_self]; rfl
  line := h.lineAfter_succ hdrop hstep
  unled _ _ _ _ hstart := hstart
  led _ hshape := by cases hshape

/-- The shape of the statement is that of its first token that is code. -/
theorem shape_of_lead (h : s.At text start n) (hlead : IsLead text start f) (hf : f < n) :
    s.shape = some (shapeOf (text.drop f)) := by
  cases hs : s.shape with
  | none =>
    obtain ⟨kind, htoken, hcode⟩ := hlead.token
    -- without a shape no code has been read
    have hle : n ≤ f := h.unled hs _ htoken hcode hlead.start_le
    omega
  | some shape =>
    obtain ⟨g, hlead', -, hshape⟩ := h.led shape hs
    rw [hlead.unique hlead', hshape]

/-- What the scanner looks at when it decides whether its statement ends, said of the text. -/
private theorem ends_eq (h : s.At text start n) (hdrop : text.drop n = c :: rest)
    (hstep : s.lexer.step c rest = (lexer, some kind)) :
    s.ends lexer kind c rest = endsAt (s.keep lexer kind c rest).shape
      (stateAt text (n + 1)).depth kind (between text (lineStart text n) n)
      (between text start (n + 1)) (text.drop (n + 1)) := by
  rw [Scanner.ends, h.lexer_succ hdrop hstep, h.line, h.statement_succ hdrop,
    drop_succ_of_drop hdrop]
  rfl

/-- The scanner ends its statement exactly at a terminator. -/
theorem ends_iff (h : s.At text start n) (hdrop : text.drop n = c :: rest)
    (hstep : s.lexer.step c rest = (lexer, some kind)) :
    s.ends lexer kind c rest = true ↔ IsTerminator text start n := by
  have hkeep := h.keep hdrop hstep
  have htoken : (n, kind) ∈ tokens text := (h.mem_tokens_iff hdrop hstep).mpr rfl
  rw [h.ends_eq hdrop hstep]
  unfold endsAt
  rw [Bool.and_eq_true, beq_iff_eq]
  constructor
  · rintro ⟨hzero, hmatch⟩
    -- the three branches of the scanner that can end a statement
    split at hmatch
    · next hshape =>
      obtain ⟨f, hlead, hf, hsimple⟩ := hkeep.led _ hshape
      exact .simple hlead hsimple (Nat.le_of_lt_succ hf) htoken (.inr rfl) hzero
    · next hshape =>
      obtain ⟨f, hlead, hf, hsimple⟩ := hkeep.led _ hshape
      exact .simple hlead hsimple (Nat.le_of_lt_succ hf) htoken (.inl rfl) hzero
    · next hshape =>
      obtain ⟨f, hlead, hf, hcompound⟩ := hkeep.led _ hshape
      -- a newline is no code, so that the statement has started before it
      have hne : f ≠ n := by
        rintro rfl
        obtain ⟨other, hother, hcode⟩ := hlead.token
        rw [← kind_unique htoken hother] at hcode
        cases hcode
      exact .compound hlead hcompound (by omega) htoken hzero (by simpa using hmatch)
    · cases hmatch
  · intro hterminator
    cases hterminator with
    | simple lead shape behind token ends depth =>
      rw [hkeep.shape_of_lead lead (by omega), shape, kind_unique htoken token]
      refine ⟨depth, ?_⟩
      rcases ends with rfl | rfl <;> rfl
    | compound lead shape behind token depth closes =>
      rw [hkeep.shape_of_lead lead (by omega), shape, kind_unique htoken token]
      exact ⟨depth, by simpa using closes⟩

end Scanner.At

/-! ### The scan -/

/-- What a scanner finds from its place on is cut by the rules, if no terminator of its
    statement stands before the place. -/
theorem splits_statementsFrom {s : Scanner} {cs : List Char} (h : s.At text start n)
    (hdrop : text.drop n = cs) (hopen : ∀ i, IsTerminator text start i → n ≤ i) :
    Splits text start (statementsFrom s cs).1 (statementsFrom s cs).2 := by
  -- on the text behind the place; the scanner, its place and its statement are generalized
  induction cs generalizing s start n with
  | nil =>
    -- the end of the text, behind which there is no terminator
    have hlength : text.length ≤ n := List.drop_eq_nil_iff.mp hdrop
    have hrest : s.statement.reverse = text.drop start := by
      rw [h.statement, between, List.take_of_length_le hlength]
    rw [statementsFrom, hrest]
    refine .rest fun i hi => ?_
    have hle := hopen i hi
    have hlt := hi.lt_length
    omega
  | cons c rest ih =>
    have hnext : text.drop (n + 1) = rest := drop_succ_of_drop hdrop
    -- a place that is no terminator is left behind
    have hpassed : ¬IsTerminator text start n → ∀ i, IsTerminator text start i → n + 1 ≤ i := by
      intro hn i hi
      have hle := hopen i hi
      have hne : i ≠ n := fun heq => hn (heq ▸ hi)
      omega
    cases hstep : s.lexer.step c rest with
    | mk lexer token? =>
      cases token? with
      | none =>
        have hn : ¬IsTerminator text start n := by
          intro hterminator
          obtain ⟨_, kind, -, -, htoken, -⟩ := hterminator.exists_lead
          rw [mem_tokens_iff_of_drop hdrop, ← h.lexer, hstep] at htoken
          cases htoken
        rw [Scanner.statementsFrom_pass hstep]
        exact ih (h.pass hdrop hstep) hnext (hpassed hn)
      | some kind =>
        have hiff := h.ends_iff hdrop hstep
        cases hends : s.ends lexer kind c rest with
        | false =>
          have hn : ¬IsTerminator text start n := by
            rw [← hiff, hends]
            exact Bool.false_ne_true
          rw [Scanner.statementsFrom_keep hstep hends]
          exact ih (h.keep hdrop hstep) hnext (hpassed hn)
        | true =>
          -- the terminator: the statement goes up to here, and the next one starts
          have hstatement : (c :: s.statement).reverse = between text start (n + 1) :=
            (h.keep hdrop hstep).statement
          rw [Scanner.statementsFrom_cut hstep hends, hstatement]
          refine .statement (hiff.mp hends) hopen (ih (h.cut hdrop hstep) hnext ?_)
          exact fun i hi => hi.start_le

/-- The statements of a text are cut by the rules. -/
theorem splits_statements (text : List Char) :
    Splits text 0 (statements text).1 (statements text).2 :=
  splits_statementsFrom (Scanner.At.initial text) List.drop_zero fun i _ => Nat.zero_le i

theorem statements_eq_iff_splits {found : List (List Char)} {rest : List Char} :
    statements text = (found, rest) ↔ Splits text 0 found rest := by
  have hsplits := splits_statements text
  constructor
  · intro h
    rwa [h] at hsplits
  · intro h
    obtain ⟨hfound, hrest⟩ := hsplits.unique h
    exact Prod.ext hfound hrest

/-- The statements of a buffer and its rest are what the rules say: every statement ends at its
    first terminator and the rest holds none, and no other cut of the buffer is like that. -/
theorem statementsOf_eq_iff_splits (buffer : String) (found : List String) (rest : String) :
    statementsOf buffer = (found, rest) ↔
      Splits buffer.toList 0 (found.map String.toList) rest.toList := by
  rw [statementsOf_eq_iff, statements_eq_iff_splits]

/-- A semicolon ends a simple statement only outside brackets, a block ends before the next line
    at the margin, and the last line may be a block that goes on. -/
example :
    statementsOf "x = f(1,\n 2); if x:\n  y; z\nw\nfor i in x:\n  i\n" =
      (["x = f(1,\n 2);", " if x:\n  y; z\n", "w\n"], "for i in x:\n  i\n") := by
  decide

end ReplEngine.Scan
