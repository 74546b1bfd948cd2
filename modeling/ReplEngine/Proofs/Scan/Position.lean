import ReplEngine.Proofs.Scan.Leftover

/-!
# Places of a text

The tokens of a text are found in one pass, which carries the lexer from each character to
the next.  This file says what that pass does at a given place: the lexer that stands there,
with the rest of the text in sight, and the token it finds there, if any.

A lexer that reads only the text up to the place does not see the rest.  It arrives in the
same state, unless the last character before the place is a mark or a backslash: only these
look ahead.

## Key results

- `Lexer.upTo_succ`: the lexer behind a place, from the one before it
- `mem_tokens_iff_of_drop`: the token at a place is the one that the lexer finds there
- `Lexer.run_eq_upTo`: a text that is read alone, and as the start of a longer one
-/

namespace ReplEngine.Scan

/-- The part of a text between two places. -/
def between (text : List Char) (start stop : Nat) : List Char :=
  (text.take stop).drop start

/-- The lexer behind the first `n` characters of a text, which reads them with the rest of
    the text in sight. -/
def Lexer.upTo (l : Lexer) : (n : Nat) → (text : List Char) → Lexer
  | 0, _ => l
  | _ + 1, [] => l
  | n + 1, c :: rest => (l.step c rest).1.upTo n rest

/-- The lexical state at a place of a text. -/
def stateAt (text : List Char) (n : Nat) : State :=
  (Lexer.upTo {} n text).state

variable {text rest : List Char} {c : Char} {start n i : Nat} {kind : Kind}

/-! ### Parts of a text -/

/-- One more character is taken. -/
theorem take_succ_of_drop (h : text.drop n = c :: rest) :
    text.take (n + 1) = text.take n ++ [c] := by
  have hget : text[n]? = some c := by
    rw [← List.head?_drop, h]
    rfl
  rw [List.take_add_one, hget]
  rfl

theorem drop_succ_of_drop (h : text.drop n = c :: rest) : text.drop (n + 1) = rest := by
  rw [← List.tail_drop, h]
  rfl

/-- A place with a character is in the text. -/
theorem lt_length_of_drop (h : text.drop n = c :: rest) : n < text.length := by
  have hlength := congrArg List.length h
  rw [List.length_drop, List.length_cons] at hlength
  omega

/-- A part that goes on for one more character. -/
theorem between_succ (hstart : start ≤ n) (h : text.drop n = c :: rest) :
    between text start (n + 1) = between text start n ++ [c] := by
  have hn := lt_length_of_drop h
  have hlength : start ≤ (text.take n).length := by
    rw [List.length_take]
    omega
  rw [between, between, take_succ_of_drop h, List.drop_append_of_le_length hlength]

/-- Between a place and itself there is nothing. -/
theorem between_self (text : List Char) (n : Nat) : between text n n = [] := by
  rw [between, List.drop_eq_nil_iff, List.length_take]
  omega

/-- A part is as long as its places are apart. -/
theorem length_between (hn : n ≤ text.length) : (between text start n).length = n - start := by
  rw [between, List.length_drop, List.length_take]
  omega

/-! ### The lexer at a place -/

namespace Lexer

variable {l : Lexer}

@[simp] theorem upTo_zero (l : Lexer) (text : List Char) : l.upTo 0 text = l := by
  cases text <;> rfl

/-- The lexer behind a character is one step further. -/
theorem upTo_succ (h : text.drop n = c :: rest) :
    l.upTo (n + 1) text = ((l.upTo n text).step c rest).1 := by
  -- on the place; lexer and text go along
  induction n generalizing l text with
  | zero =>
    obtain rfl : text = c :: rest := h
    simp [upTo]
  | succ n ih =>
    cases text with
    | nil => simp at h
    | cons d text => exact ih h

/-- The lexer reads the start of a text and stands behind it. -/
theorem exists_reads (l : Lexer) (off : Nat) (a b : List Char) :
    ∃ ts, Reads b l off a ts (l.upTo a.length (a ++ b)) := by
  -- on the start of the text, one step at a time
  induction a generalizing l off with
  | nil => exact ⟨[], by simpa using Reads.nil⟩
  | cons c a ih =>
    obtain ⟨ts, hreads⟩ := ih (l.step c (a ++ b)).1 (off + 1)
    cases hstep : l.step c (a ++ b) with
    | mk m token? =>
      rw [hstep] at hreads
      have hupTo : l.upTo (c :: a).length (c :: a ++ b) = m.upTo a.length (a ++ b) := by
        rw [List.length_cons, List.cons_append, upTo, hstep]
      rw [hupTo]
      cases token? with
      | none => exact ⟨ts, .pass hstep hreads⟩
      | some kind => exact ⟨(off, kind) :: ts, .token hstep hreads⟩

/-- The lexer at the end of a text has read all of it. -/
theorem upTo_length (l : Lexer) (text : List Char) : l.upTo text.length text = l.run text := by
  induction text generalizing l with
  | nil => rfl
  | cons c text ih => rw [List.length_cons, upTo, run, ih]

/-- What holds of the last character of a text holds of the last one behind its first. -/
theorem forall_getLast?_tail {p : Char → Prop} {a : List Char} (h : ∀ x ∈ (c :: a).getLast?, p x) :
    ∀ x ∈ a.getLast?, p x := by
  intro x hx
  refine h x ?_
  cases a with
  | nil => simp at hx
  | cons d a => rwa [List.getLast?_cons_cons]

/-- No step looks beyond the last character of a text, if that stops lookahead. -/
theorem step_append_of_last (l : Lexer) {a : List Char}
    (h : ∀ x ∈ (c :: a).getLast?, stopsLookahead x = true) (b : List Char) :
    l.step c (a ++ b) = l.step c a := by
  obtain ⟨x, hlast⟩ : ∃ x, (c :: a).getLast? = some x := Option.isSome_iff_exists.mp (by simp)
  exact l.step_append_of_mem (h x hlast) (List.mem_of_getLast? hlast) b

/-- A text behind whose last character nothing is looked at is read alone as it is at the
    start of a longer one. -/
theorem run_eq_upTo (l : Lexer) {a : List Char} (ha : ∀ x ∈ a.getLast?, stopsLookahead x = true)
    (b : List Char) : l.run a = l.upTo a.length (a ++ b) := by
  induction a generalizing l with
  | nil => simp [run]
  | cons c a ih =>
    rw [run, ih _ (forall_getLast?_tail ha), List.length_cons, List.cons_append, upTo,
      l.step_append_of_last ha]

end Lexer

/-! ### The token at a place -/

/-- The tokens of a text stand in it. -/
theorem lt_of_mem_tokens (h : (i, kind) ∈ tokens text) : i < text.length := by
  -- the whole text is a piece, and its tokens stand in it
  obtain ⟨ts, hreads⟩ := Lexer.exists_reads {} 0 text []
  have htokens := hreads.tokensFrom
  rw [List.append_nil, Lexer.tokensFrom, List.append_nil] at htokens
  rw [tokens, htokens] at h
  have hbounds := hreads.bounds h
  omega

/-- The token at a place is the one that the lexer finds there. -/
theorem mem_tokens_iff_of_drop (h : text.drop i = c :: rest) :
    (i, kind) ∈ tokens text ↔ ((Lexer.upTo {} i text).step c rest).2 = some kind := by
  have hi := lt_length_of_drop h
  have hlength : (text.take i).length = i := by
    rw [List.length_take]
    omega
  have hsplit : text.take i ++ c :: rest = text := by rw [← h, List.take_append_drop]
  obtain ⟨ts, hreads⟩ := Lexer.exists_reads {} 0 (text.take i) (c :: rest)
  have htokens := hreads.tokensFrom
  rw [hsplit, hlength, Nat.zero_add] at htokens
  -- what was found before stands before the place
  have hbefore : (i, kind) ∉ ts := by
    intro hts
    have hbounds := hreads.bounds hts
    omega
  rw [tokens, htokens, List.mem_append, or_iff_right hbefore, Lexer.tokensFrom]
  -- and what is found later stands behind it
  have hbehind : ∀ m : Lexer, (i, kind) ∉ m.tokensFrom (i + 1) rest := by
    intro m hm
    have hle := Lexer.le_of_mem_tokensFrom hm
    omega
  cases (Lexer.upTo {} i text).step c rest with
  | mk m token? =>
    cases token? with
    | none => simp [hbehind]
    | some found => simp [hbehind, eq_comm]

/-- A token stands at a character. -/
theorem exists_drop_of_mem_tokens (h : (i, kind) ∈ tokens text) :
    ∃ c rest, text.drop i = c :: rest ∧
      (Lexer.upTo {} i text).step c rest = (Lexer.upTo {} (i + 1) text, some kind) := by
  obtain ⟨c, rest, hdrop⟩ : ∃ c rest, text.drop i = c :: rest :=
    ⟨_, _, List.drop_eq_getElem_cons (lt_of_mem_tokens h)⟩
  have htoken := (mem_tokens_iff_of_drop hdrop).mp h
  exact ⟨c, rest, hdrop, Prod.ext (Lexer.upTo_succ hdrop).symm htoken⟩

/-- There is one token at a place at most. -/
theorem kind_unique {other : Kind} (h : (i, kind) ∈ tokens text) (h' : (i, other) ∈ tokens text) :
    kind = other := by
  obtain ⟨c, rest, hdrop, hstep⟩ := exists_drop_of_mem_tokens h
  rw [mem_tokens_iff_of_drop hdrop, hstep] at h'
  exact Option.some.inj h'

end ReplEngine.Scan
