import ReplEngine.Proofs.Scan.Position

/-!
# Two texts side by side

The lexer reads one, two or three characters at a time and looks ahead for marks and for
continued lines.  Where a text ends with a character that is neither a mark nor a backslash, it
has neither looked nor gone beyond the end: what it still passes over is marks that it has seen
there (`Lexer.Owes`), or one character behind a backslash.  So if nothing is open there either,
whatever follows is read as if it stood alone.

## Key results

- `Lexer.Owes.run`: what the lexer still passes over behind a text
- `Lexer.Reads.append`: a text is read alone as it is at the start of a longer one
- `tokens_and_lexicalState_append`: tokens and end states behind a text that leaves nothing open
-/

namespace ReplEngine.Scan

namespace Lexer

variable {l m : Lexer} {last : Option Char} {off : Nat} {a : List Char} {ts : List (Nat × Kind)}

/-- What a lexer owes behind a text it owes to the last character. -/
theorem Owes.run (h : l.Owes last a) : (l.run a).Owes (a.getLast?.or last) [] := by
  induction a generalizing l last with
  | nil => exact h
  | cons c a ih =>
    have hrun := ih h.step
    rw [Lexer.run]
    -- the last character is that of what is left, or the one just read
    cases a with
    | nil => exact hrun
    | cons d a =>
      rw [List.getLast?_cons_cons]
      rwa [Option.or_of_isSome (by simp)] at hrun ⊢

/-- Behind a text that does not end with a backslash nothing is passed over: what the lexer has
    seen of marks it has read. -/
theorem skip_run (ha : a.getLast? ≠ some '\\') : (run {} a).skip = 0 := by
  have howes : (run {} a).Owes a.getLast? [] := by
    have hrun : (run {} a).Owes (a.getLast?.or none) [] := Owes.run (.inl rfl)
    rwa [Option.or_none] at hrun
  rcases howes with hskip | ⟨-, hlast⟩ | ⟨mark, hmarks⟩
  · exact hskip
  · exact absurd hlast ha
  · -- marks that it has seen would still be ahead, and nothing is
    rw [List.prefix_nil, List.replicate_eq_nil_iff] at hmarks
    exact hmarks

/-- What is read of a text alone is read of it at the start of a longer one, if nothing looks
    beyond its last character. -/
theorem Reads.append (h : Reads [] l off a ts m) (ha : ∀ x ∈ a.getLast?, stopsLookahead x = true)
    (b : List Char) : Reads b l off a ts m := by
  -- on how the text is read; no step looks beyond its end
  induction h with
  | nil => exact .nil
  | @pass l _ _ _ _ _ _ hstep _ ih =>
    rw [List.append_nil] at hstep
    exact .pass ((l.step_append_of_last ha b).trans hstep) (ih (forall_getLast?_tail ha))
  | @token l _ _ _ _ _ _ _ hstep _ ih =>
    rw [List.append_nil] at hstep
    exact .token ((l.step_append_of_last ha b).trans hstep) (ih (forall_getLast?_tail ha))

end Lexer

/-- Behind a text that ends in no string, no comment and no bracket, and whose last character is
    neither a mark nor a backslash, any other text is read as if it stood alone: its tokens follow
    those of the first text, at their own places, and the state at its end is its own. -/
theorem tokens_and_lexicalState_append (a b : List Char)
    (hstring : (lexicalState a).inString = false) (hcomment : (lexicalState a).inComment = false)
    (hbrackets : (lexicalState a).brackets = [])
    (hlast : ∀ c ∈ a.getLast?, c ≠ '\'' ∧ c ≠ '"' ∧ c ≠ '\\') :
    tokens (a ++ b) = tokens a ++ (tokens b).map (fun t => (t.1 + a.length, t.2)) ∧
      lexicalState (a ++ b) = lexicalState b := by
  have hstops : ∀ c ∈ a.getLast?, stopsLookahead c = true := by
    intro c hc
    obtain ⟨hsingle, hdouble, hback⟩ := hlast c hc
    simp [stopsLookahead, Mark.ofChar?, hsingle, hdouble, hback]
  -- nothing is open behind the first text, and nothing of it is passed over
  have hfresh : Lexer.run {} a = {} := by
    have hskip : (Lexer.run {} a).skip = 0 := Lexer.skip_run fun h => (hlast _ h).2.2 rfl
    rw [lexicalState] at hstring hcomment hbrackets
    generalize Lexer.run {} a = l at hstring hcomment hbrackets hskip ⊢
    obtain ⟨⟨mode, brackets⟩, skip⟩ := l
    obtain rfl : skip = 0 := hskip
    obtain rfl : brackets = [] := hbrackets
    cases mode with
    | code => rfl
    | comment => simp [State.inComment] at hcomment
    | string q => simp [State.inString, State.quote?] at hstring
  obtain ⟨ts, halone⟩ := Lexer.exists_reads {} 0 a []
  rw [List.append_nil, Lexer.upTo_length, hfresh] at halone
  -- read alone, the first text has these tokens
  have htokens : tokens a = ts := by
    have hread := halone.tokensFrom
    rwa [List.append_nil, Lexer.tokensFrom, List.append_nil] at hread
  have hread := halone.append hstops b
  constructor
  · rw [tokens, hread.tokensFrom, htokens, Lexer.tokensFrom_add, tokens]
  · rw [lexicalState, hread.run, lexicalState]

/-- A string with three marks, a continued line and a comment in front of a string that is never
    closed. -/
theorem tokens_and_lexicalState_append_strings :
    (lexicalState "f('''it's''') \\\n # g(\n".toList).inString = false ∧
    (lexicalState "f('''it's''') \\\n # g(\n".toList).inComment = false ∧
    (lexicalState "f('''it's''') \\\n # g(\n".toList).brackets = [] ∧
    tokens ("f('''it's''') \\\n # g(\n".toList ++ "['a".toList) =
      tokens "f('''it's''') \\\n # g(\n".toList ++ [(22, .opening), (23, .string)] ∧
    lexicalState ("f('''it's''') \\\n # g(\n".toList ++ "['a".toList) =
      ⟨.string ⟨.single, false⟩, [.square]⟩ := by
  have hstring : (lexicalState "f('''it's''') \\\n # g(\n".toList).inString = false := by decide
  have hcomment : (lexicalState "f('''it's''') \\\n # g(\n".toList).inComment = false := by decide
  have hbrackets : (lexicalState "f('''it's''') \\\n # g(\n".toList).brackets = [] := by decide
  have hlast : ∀ c ∈ ("f('''it's''') \\\n # g(\n".toList).getLast?,
      c ≠ '\'' ∧ c ≠ '"' ∧ c ≠ '\\' := by
    intro c hc
    obtain rfl : '\n' = c := Option.some.inj hc
    decide
  exact ⟨hstring, hcomment, hbrackets, tokens_and_lexicalState_append
    "f('''it's''') \\\n # g(\n".toList "['a".toList hstring hcomment hbrackets hlast⟩

end ReplEngine.Scan
