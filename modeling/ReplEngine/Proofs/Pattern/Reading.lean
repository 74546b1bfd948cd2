import ReplEngine.Pattern.Reader
import ReplEngine.Proofs.Failure

/-!
# Texts that are patterns

Not every text is a pattern.  Reading one fails in three ways only (`Fault`): the text breaks the
syntax, it asks for too many rounds of a repetition, or it asks for two alphabets.  A text without
any of the characters that have a meaning in patterns is always one, and stands for itself.

## Key results

- `readersFail`: no reader of a part of a pattern fails in another way
- `failsBy_compile`: nor does the reading of a whole one
- `compile_of_plain`: the pattern that an ordinary text is
-/

namespace ReplEngine.Pattern

/-! ### Ways to fail -/

/-- The errors of a text that is no pattern. -/
inductive Fault : Error → Prop where
  | badPattern : Fault .badPattern
  | tooManyRounds : Fault .tooManyRounds
  | conflictingFlags : Fault .conflictingFlags

/-- What is not there is no pattern. -/
theorem failsBy_readable {α : Type} (x : Option α) : FailsBy Fault (readable x) := by
  cases x with
  | none => exact .error .badPattern
  | some a => exact .ok a

/-- A quantifier may have bounds the wrong way round, or bounds that are too large. -/
theorem failsBy_quantifier (cs : List Char) : FailsBy Fault (quantifier cs) := by
  unfold quantifier
  -- a star, a plus, a question mark, bounds in braces, or none of them
  split
  · exact .ok _
  · exact .ok _
  · exact .ok _
  · split
    · exact .ok _
    · split
      · exact .error .badPattern
      · split
        · exact .error .tooManyRounds
        · split
          · exact .error .badPattern
          · exact .ok _
  · exact .ok _

/-- A quantifier needs something that it can repeat. -/
theorem failsBy_repeated (part : Expr) (cs : List Char) : FailsBy Fault (repeated part cs) := by
  refine .bind (failsBy_quantifier cs) fun bounds => ?_
  cases bounds with
  | none => exact .ok _
  | some bounds =>
    dsimp only
    split
    · split <;> exact .ok _
    · exact .error .badPattern

/-- None of the readers fails with another error, as far as its fuel goes. -/
structure ReadersFail (fuel : Nat) : Prop where
  alternatives : ∀ f r cs, FailsBy Fault (readAlternatives fuel f r cs)
  sequence : ∀ f r done cs, FailsBy Fault (readSequence fuel f r done cs)
  part : ∀ f r cs, FailsBy Fault (readPart fuel f r cs)
  body : ∀ f r cs, FailsBy Fault (readBody fuel f r cs)
  group : ∀ f r name cs, FailsBy Fault (readGroup fuel f r name cs)
  lookBehind : ∀ f r negated cs, FailsBy Fault (readLookBehind fuel f r negated cs)
  sides : ∀ f r index cs, FailsBy Fault (readSides fuel f r index cs)
  extension : ∀ f r cs, FailsBy Fault (readExtension fuel f r cs)

namespace ReadersFail

variable {fuel : Nat} (h : ReadersFail fuel) (f : Flags) (r : Reading) (cs : List Char)

include h

/-- Alternatives fail with one of theirs. -/
theorem readAlternatives_succ : FailsBy Fault (readAlternatives (fuel + 1) f r cs) := by
  rw [readAlternatives]
  refine .bind (h.sequence f r .empty cs) fun first => ?_
  dsimp only
  split
  · exact .bind (h.alternatives f _ _) fun _ => .ok _
  · exact .ok _

/-- A sequence fails with one of its parts, or with a quantifier. -/
theorem readSequence_succ (done : Expr) :
    FailsBy Fault (readSequence (fuel + 1) f r done cs) := by
  rw [readSequence]
  refine .bind (failsBy_readable _) fun rest => ?_
  dsimp only
  split
  · exact .ok _
  · exact .ok _
  · exact .ok _
  · refine .bind (h.part f r _) fun part => ?_
    refine .bind (failsBy_readable _) fun behind => ?_
    exact .bind (failsBy_repeated _ _) fun repeated => h.sequence f _ _ _

/-- A part fails on its own, or with the group that it opens. -/
theorem readPart_succ : FailsBy Fault (readPart (fuel + 1) f r cs) := by
  unfold readPart
  dsimp only
  -- by the first character, in the order of the reader
  split
  · exact .error .badPattern
  · exact .ok _
  · exact .ok _
  · exact .ok _
  · exact .bind (failsBy_readable _) fun _ => .ok _
  · exact .bind (failsBy_readable _) fun _ => .ok _
  · exact .bind (failsBy_readable _) fun _ => .ok _
  · exact h.extension f r _
  · exact h.group f r none _
  · refine .bind (failsBy_quantifier _) fun bounds => ?_
    split
    · exact .error .badPattern
    · exact .ok _

/-- The body of a group fails with its alternatives, or has no end. -/
theorem readBody_succ : FailsBy Fault (readBody (fuel + 1) f r cs) := by
  rw [readBody]
  exact .bind (h.alternatives f r cs) fun _ => .bind (failsBy_readable _) fun _ => .ok _

/-- A group fails with its body, or has a name that was given before. -/
theorem readGroup_succ (name : Option String) :
    FailsBy Fault (readGroup (fuel + 1) f r name cs) := by
  rw [readGroup]
  exact .bind (failsBy_readable _) fun _ => .bind (h.body f _ cs) fun _ => .ok _

/-- A look behind fails with its body. -/
theorem readLookBehind_succ (negated : Bool) :
    FailsBy Fault (readLookBehind (fuel + 1) f r negated cs) := by
  rw [readLookBehind]
  exact .bind (h.body f _ cs) fun _ => .ok _

/-- The two sides of a condition fail one after the other. -/
theorem readSides_succ (index : Nat) : FailsBy Fault (readSides (fuel + 1) f r index cs) := by
  rw [readSides]
  refine .bind (h.sequence f r .empty cs) fun met => ?_
  dsimp only
  split
  · refine .bind (h.sequence f _ .empty _) fun unmet => ?_
    exact .bind (failsBy_readable _) fun _ => .ok _
  · exact .bind (failsBy_readable _) fun _ => .ok _

/-- What a question mark opens fails with its body, or is unknown. -/
theorem readExtension_succ : FailsBy Fault (readExtension (fuel + 1) f r cs) := by
  unfold readExtension
  dsimp only
  -- the kinds of groups, and the flags
  split
  · exact .bind (h.body f r _) fun _ => .ok _
  · exact .bind (h.body f r _) fun _ => .ok _
  · exact .bind (h.body f r _) fun _ => .ok _
  · exact .bind (h.body f r _) fun _ => .ok _
  · exact h.lookBehind f r false _
  · exact h.lookBehind f r true _
  · exact .bind (failsBy_readable _) fun _ => h.group f r _ _
  · refine .bind (failsBy_readable _) fun name => .bind (failsBy_readable _) fun index => ?_
    split
    · exact .ok _
    · exact .error .badPattern
  · exact .bind (failsBy_readable _) fun _ => h.sides f _ _ _
  · refine .bind (failsBy_readable _) fun letters => ?_
    split
    · exact .bind (h.body _ r _) fun _ => .ok _
    · exact .error .badPattern

end ReadersFail

/-- No reader fails in another way: by induction on the fuel, which all of them share. -/
theorem readersFail (fuel : Nat) : ReadersFail fuel := by
  -- without fuel there is no pattern, and with more each reader calls those with less
  induction fuel with
  | zero =>
    exact {
      alternatives := fun _ _ _ => .error .badPattern
      sequence := fun _ _ _ _ => .error .badPattern
      part := fun _ _ _ => .error .badPattern
      body := fun _ _ _ => .error .badPattern
      group := fun _ _ _ _ => .error .badPattern
      lookBehind := fun _ _ _ _ => .error .badPattern
      sides := fun _ _ _ _ => .error .badPattern
      extension := fun _ _ _ => .error .badPattern }
  | succ fuel ih =>
    exact {
      alternatives := ih.readAlternatives_succ
      sequence := fun f r done cs => ih.readSequence_succ f r cs done
      part := ih.readPart_succ
      body := ih.readBody_succ
      group := fun f r name cs => ih.readGroup_succ f r cs name
      lookBehind := fun f r negated cs => ih.readLookBehind_succ f r cs negated
      sides := fun f r index cs => ih.readSides_succ f r cs index
      extension := ih.readExtension_succ }

/-- A text that is no pattern has one of the three faults. -/
theorem failsBy_compile (source : String) (flags : Flags) :
    FailsBy Fault (compile source flags) := by
  refine .bind (failsBy_readable _) fun head => ?_
  refine .bind ((readersFail _).alternatives _ _ _) fun whole => ?_
  dsimp only
  -- the alphabets are looked at before the rest of the text is
  split
  · exact .error .conflictingFlags
  · split
    · exact .ok _
    · exact .error .badPattern

/-! ### Ordinary texts -/

/-- The characters that have a meaning in patterns. -/
def meaningful : List Char :=
  ['.', '^', '$', '*', '+', '?', '\x7b', '[', '\\', '|', '(', ')']

/-- A text without characters that have a meaning in patterns. -/
def IsPlain (cs : List Char) : Prop :=
  ∀ c ∈ cs, c ∉ meaningful

/-- The characters of a text, one after the other, behind what was read before. -/
def literal (fold : Bool) (done : Expr) (cs : List Char) : Expr :=
  cs.foldl (fun done c => .seq done (.char c fold)) done

variable {f : Flags} {r : Reading} {c : Char} {cs : List Char} {fuel : Nat}

/-- No quantifier starts with an ordinary character. -/
theorem quantifier_of_plain (h : IsPlain cs) : quantifier cs = .ok none := by
  unfold quantifier
  split
  · simp [IsPlain, meaningful] at h
  · simp [IsPlain, meaningful] at h
  · simp [IsPlain, meaningful] at h
  · simp [IsPlain, meaningful] at h
  · rfl

/-- Nothing is skipped in an ordinary text. -/
theorem skipIgnored?_of_plain (h : IsPlain cs) : skipIgnored? fuel false cs = some cs := by
  unfold skipIgnored?
  split
  · rfl
  · rfl
  · simp [IsPlain, meaningful] at h
  · simp

theorem repeated_of_plain (part : Expr) (h : IsPlain cs) : repeated part cs = .ok (part, cs) := by
  rw [repeated, quantifier_of_plain h]
  rfl

/-- An ordinary character is a part that stands for itself. -/
theorem readPart_of_plain (h : IsPlain (c :: cs)) :
    readPart (fuel + 1) f r (c :: cs) = .ok (.char c f.fold, r, cs) := by
  have hc : c ∉ meaningful := h c (by simp)
  rw [readPart, quantifier_of_plain h]
  · rfl
  -- the other equations of the reader are about characters with a meaning
  all_goals
    intros
    subst c
    simp [meaningful] at hc

/-- An ordinary text is a sequence of its characters. -/
theorem readSequence_of_plain (hverbose : f.verbose = false) (h : IsPlain cs)
    (hfuel : cs.length + 1 < fuel) (done : Expr) :
    readSequence fuel f r done cs = .ok (literal f.fold done cs, r, []) := by
  -- character by character; what was read before varies
  induction cs generalizing fuel done with
  | nil =>
    obtain ⟨fuel, rfl⟩ : ∃ n, fuel = n + 1 := ⟨fuel - 1, by omega⟩
    rfl
  | cons c cs ih =>
    obtain ⟨fuel, rfl⟩ : ∃ n, fuel = n + 2 := ⟨fuel - 2, by omega⟩
    have htail : IsPlain cs := fun d hd => h d (List.mem_cons_of_mem c hd)
    rw [readSequence, hverbose, skipIgnored?_of_plain h]
    dsimp only [readable, bind, Except.bind]
    split
    · next hcs => cases hcs
    -- neither a bar nor a parenthesis stands in the text
    · next hcs =>
      cases hcs
      simp [IsPlain, meaningful] at h
    · next hcs =>
      cases hcs
      simp [IsPlain, meaningful] at h
    · -- the character is a part of its own: nothing behind it is skipped or repeats it
      rw [readPart_of_plain h]
      dsimp only
      rw [skipIgnored?_of_plain htail]
      dsimp only
      rw [repeated_of_plain _ htail]
      exact ih htail (by simpa using hfuel) _

/-- No flags lead an ordinary text. -/
theorem leadingFlags?_of_plain (hverbose : f.verbose = false) (h : IsPlain cs) :
    leadingFlags? fuel f [] cs = some (f, [], cs) := by
  cases fuel with
  | zero => rfl
  | succ fuel =>
    rw [leadingFlags?, hverbose, skipIgnored?_of_plain h]
    dsimp only [bind, Option.bind]
    split
    · simp [IsPlain, meaningful] at h
    · rfl

/-- An ordinary text is a pattern, and stands for its characters. -/
theorem compile_of_plain {source : String} (h : IsPlain source.toList)
    (hverbose : f.verbose = false) :
    compile source f = .ok ⟨source, literal f.fold .empty source.toList, 0, []⟩ := by
  -- the whole text is one alternative
  have hread : readAlternatives (6 * source.toList.length + 6) f {} source.toList =
      .ok (literal f.fold .empty source.toList, {}, []) := by
    rw [readAlternatives, readSequence_of_plain hverbose h (by omega)]
    rfl
  rw [compile]
  dsimp only
  rw [leadingFlags?_of_plain hverbose h]
  dsimp only [readable, bind, Except.bind]
  rw [hread]
  rfl

end ReplEngine.Pattern
