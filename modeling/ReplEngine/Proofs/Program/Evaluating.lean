import ReplEngine.Program.Lookup

/-!
# What lookups evaluate

A lookup evaluates nothing but the context at its position, and that once at most.  So its
answer is a function of what the context stands for, whatever else evaluating does
(`DependsOn`); everything said here follows from that.  If the context consists of names and
dots, or there is none, the lookup is `pure` in every monad: nothing is handed to the evaluator.
Else the text of the context is handed to it, and without an evaluator nothing is found.

What is told of a function may ask its defaults to describe themselves.  Such a lookup is one of
the above followed by asking (`Asking`), and the asking has nothing to do with the evaluator.

## Key results

- `dependsOn_completeIn`, `dependsOn_targetIn`: what completion and the lookups of a call depend on
- `DependsOn.evaluatesNothing`, `DependsOn.evaluates`: what is handed to an evaluator
- `Asking.evaluatesNothing`, `Asking.evaluates`: the same for lookups that ask
- `complete_of_needsEvaluation`, `target_of_needsDocEvaluation`: without an evaluator
-/

namespace ReplEngine.Program

variable {α β : Type}

/-- A lookup for evaluators of any kind. -/
abbrev Look (α : Type) := ∀ (m : Type → Type) [Monad m], Option (EvaluatorIn m) → m α

/-- Whatever an evaluator does besides answering, the lookup does nothing and answers as it does
    without one. -/
def EvaluatesNothing (look : Look α) : Prop :=
  ∀ (m : Type → Type) [Monad m] [LawfulMonad m] (eval : EvaluatorIn m),
    look m (some eval) = pure (Id.run (look Id none))

/-- The lookup hands a text to an evaluator, once, and does nothing else. -/
def Evaluates (text : String) (look : Look α) : Prop :=
  ∃ answer : Option Entity → α, ∀ (m : Type → Type) [Monad m] [LawfulMonad m]
    (eval : EvaluatorIn m), look m (some eval) = answer <$> eval text

/-- A lookup for inquiries and evaluators of any kind. -/
abbrev AskingLook (α : Type) :=
  ∀ (n m : Type → Type) [Monad n] [Monad m], Inquiry n m → Option (EvaluatorIn m) → m α

/-- Whatever an evaluator does, and whatever an inquiry does, the lookup does what it does without
    an evaluator.  By an inquiry that only answers, that is nothing. -/
structure AskingLook.EvaluatesNothing (look : AskingLook α) : Prop where
  plain : Program.EvaluatesNothing fun m _ eval => look _ m (.plain m) eval
  same : ∀ (n m : Type → Type) [Monad n] [Monad m] [LawfulMonad m] (inquiry : Inquiry n m)
    (eval : EvaluatorIn m), look n m inquiry (some eval) = look n m inquiry none

/-- The lookup hands a text to an evaluator, once, and behind that only asks.  By an inquiry that
    only answers, it does nothing else. -/
structure AskingLook.Evaluates (text : String) (look : AskingLook α) : Prop where
  plain : Program.Evaluates text fun m _ eval => look _ m (.plain m) eval
  asks : ∃ told : Option Entity →
      ∀ (n m : Type → Type) [Monad n] [Monad m], Inquiry n m → m α,
    ∀ (n m : Type → Type) [Monad n] [Monad m] [LawfulMonad m] (inquiry : Inquiry n m)
      (eval : EvaluatorIn m),
      look n m inquiry (some eval) = eval text >>= fun live => told live n m inquiry

/-! ### Contexts -/

/-- The context of the member that is being completed. -/
def completionContext? (line : List Char) (position : Int) : Option Cursor.Context :=
  (Cursor.completionAt line position).bind (·.wanted.context?)

/-- The context of the method that is being called. -/
def callContext? (line : List Char) (position : Int) : Option Cursor.Context :=
  (Cursor.callAt line position).bind (·.context)

/-- Whether a completion needs an evaluator depends on its context. -/
theorem needsEvaluation_eq (line : List Char) (position : Int) :
    needsEvaluation line position = contextNeedsEvaluation (completionContext? line position) := by
  rw [needsEvaluation, completionContext?]
  cases Cursor.completionAt line position <;> rfl

/-- Whether a lookup needs an evaluator depends on its context. -/
theorem needsDocEvaluation_eq (line : List Char) (position : Int) :
    needsDocEvaluation line position = contextNeedsEvaluation (callContext? line position) := by
  rw [needsDocEvaluation, callContext?]
  cases Cursor.callAt line position <;> rfl

/-- A context that is more than a name has to be evaluated. -/
theorem contextNeedsEvaluation_iff {context? : Option Cursor.Context} :
    contextNeedsEvaluation context? = true ↔
      ∃ context, context? = some context ∧ context.isBare = false := by
  cases context? with
  | none => simp [contextNeedsEvaluation]
  | some context => simp [contextNeedsEvaluation]

section StandsFor

variable {m : Type → Type} [Monad m] (p : Program) (eval : Option (EvaluatorIn m))

/-- What the context stands for, if there is one. -/
def standsFor : Option Cursor.Context → m (Option Entity)
  | some context => p.contextIn eval context
  | none => pure none

/-- What the context stands for, as far as no evaluator is needed. -/
def known? (context? : Option Cursor.Context) : Option Entity :=
  Id.run (p.standsFor none context?)

variable {p eval}

/-- A name stands for what is known, whoever evaluates. -/
theorem standsFor_of_not_needed {context? : Option Cursor.Context}
    (h : contextNeedsEvaluation context? = false) :
    p.standsFor eval context? = pure (p.known? context?) := by
  cases context? with
  | none => rfl
  | some context =>
    have hbare : context.isBare = true := by simpa [contextNeedsEvaluation] using h
    simp [known?, standsFor, contextIn, hbare]

/-- Without an evaluator, a context stands for what is known. -/
theorem standsFor_none (context? : Option Cursor.Context) :
    p.standsFor (none : Option (EvaluatorIn m)) context? = pure (p.known? context?) := by
  -- a name is known, and nothing else is
  cases h : contextNeedsEvaluation context? with
  | false => exact standsFor_of_not_needed h
  | true =>
    obtain ⟨context, rfl, hbare⟩ := contextNeedsEvaluation_iff.mp h
    simp [known?, standsFor, contextIn, hbare]

/-- Anything else stands for what the evaluator answers. -/
theorem standsFor_some {evaluate : EvaluatorIn m} {context : Cursor.Context}
    (h : context.isBare = false) :
    p.standsFor (some evaluate) (some context) = evaluate context.text := by
  simp [standsFor, contextIn, h]

end StandsFor

/-! ### Lookups -/

/-- The answer of a lookup is a function of what a context stands for. -/
def DependsOn (p : Program) (context? : Option Cursor.Context) (look : Look α) : Prop :=
  ∃ answer : Option Entity → α, ∀ (m : Type → Type) [Monad m] [LawfulMonad m]
    (eval : Option (EvaluatorIn m)), look m eval = answer <$> p.standsFor eval context?

namespace DependsOn

variable {p : Program} {context? : Option Cursor.Context} {look : Look α}

/-- What is made of an answer depends on the same context. -/
theorem map (h : DependsOn p context? look) (f : α → β) :
    DependsOn p context? fun m _ eval => f <$> look m eval := by
  obtain ⟨answer, h⟩ := h
  refine ⟨f ∘ answer, fun m _ _ eval => ?_⟩
  dsimp only
  rw [h m eval, ← comp_map]

/-- Without an evaluator, a lookup is the same in every monad. -/
theorem run_none (h : DependsOn p context? look) (m : Type → Type) [Monad m] [LawfulMonad m] :
    look m none = pure (Id.run (look Id none)) := by
  obtain ⟨answer, h⟩ := h
  rw [h m none, h Id none, standsFor_none, standsFor_none, map_pure]
  rfl

/-- A lookup whose context need not be evaluated does not evaluate it. -/
theorem evaluatesNothing (h : DependsOn p context? look)
    (hneeded : contextNeedsEvaluation context? = false) : EvaluatesNothing look := by
  intro m _ _ eval
  rw [← h.run_none m]
  obtain ⟨answer, h⟩ := h
  -- the context stands for the same with and without the evaluator
  rw [h m (some eval), h m none, standsFor_of_not_needed hneeded, standsFor_none]

/-- A lookup whose context has to be evaluated hands its text to the evaluator. -/
theorem evaluates {context : Cursor.Context} (h : DependsOn p (some context) look)
    (hbare : context.isBare = false) : Evaluates context.text look := by
  obtain ⟨answer, h⟩ := h
  refine ⟨answer, fun m _ _ eval => ?_⟩
  rw [h m (some eval), standsFor_some hbare]

end DependsOn

variable (p : Program) (annotated : Bool) (line : List Char) (position : Int)

/-- Where symbols are taken from depends on the context of a member. -/
theorem dependsOn_sourcesIn (wanted : Cursor.Wanted) :
    DependsOn p wanted.context? fun _ _ eval => p.sourcesIn eval wanted := by
  -- only members have a context; the other answers are the same for all of them
  cases wanted with
  | member context =>
    refine ⟨p.memberSources, fun m _ _ eval => ?_⟩
    simp [sourcesIn, standsFor, Cursor.Wanted.context?]
  | className =>
    refine ⟨fun _ => [.named .constructors], fun m _ _ eval => ?_⟩
    simp [sourcesIn, standsFor, Cursor.Wanted.context?]
  | variableName =>
    refine ⟨fun _ => [.named .variableNames], fun m _ _ eval => ?_⟩
    simp [sourcesIn, standsFor, Cursor.Wanted.context?]
  | symbol =>
    refine ⟨fun _ => .bareNames, fun m _ _ eval => ?_⟩
    simp [sourcesIn, standsFor, Cursor.Wanted.context?]

/-- A completion depends on its context. -/
theorem dependsOn_completeIn : DependsOn p (completionContext? line position)
    fun _ _ eval => p.completeIn eval annotated line position := by
  -- where nothing can be completed, nothing depends on the context
  cases hat : Cursor.completionAt line position with
  | none =>
    refine ⟨fun _ => none, fun m _ _ eval => ?_⟩
    simp [completeIn, completionContext?, hat, standsFor]
  | some c =>
    obtain ⟨answer, hanswer⟩ :=
      (p.dependsOn_sourcesIn c.wanted).map fun sources => some (p.offer annotated c sources)
    refine ⟨answer, fun m _ _ eval => ?_⟩
    simpa [completeIn, completionContext?, hat] using hanswer m eval

/-- The function being called depends on the context of the call. -/
theorem dependsOn_targetIn : DependsOn p (callContext? line position)
    fun _ _ eval => p.targetIn eval line position := by
  cases hat : Cursor.callAt line position with
  | none =>
    refine ⟨fun _ => none, fun m _ _ eval => ?_⟩
    simp [targetIn, callContext?, hat, standsFor]
  | some call =>
    -- a function is found by its name, and a method in its context
    cases hcontext : call.context with
    | none =>
      refine ⟨fun _ => (p.namedTarget? call).bind Target.something?, fun m _ _ eval => ?_⟩
      simp [targetIn, callContext?, hat, hcontext, standsFor]
    | some context =>
      refine ⟨fun live => (p.methodTarget? call live).bind Target.something?,
        fun m _ _ eval => ?_⟩
      simp [targetIn, callContext?, hat, hcontext, standsFor]

/-- What is told of the function being called depends on that function, and so on its context. -/
theorem dependsOn_of_target {look : Look α} (answer : Option Target → α)
    (h : ∀ (m : Type → Type) [Monad m] [LawfulMonad m] (eval : Option (EvaluatorIn m)),
      look m eval = do return answer (← p.targetIn eval line position)) :
    DependsOn p (callContext? line position) look := by
  obtain ⟨told, htold⟩ := (p.dependsOn_targetIn line position).map answer
  refine ⟨told, fun m _ _ eval => ?_⟩
  rw [h m eval, ← htold m eval, bind_pure_comp]

theorem dependsOn_locateIn : DependsOn p (callContext? line position)
    fun _ _ eval => p.locateIn eval line position :=
  p.dependsOn_of_target line position (·.bind fun t => p.location? t.entity) fun _ _ _ _ => rfl

/-! ### Lookups that ask -/

/-- A lookup that finds the function being called and then asks about it. -/
structure Asking (look : AskingLook α)
    (tell : ∀ (n m : Type → Type) [Monad n] [Monad m], Inquiry n m → Option Target → m α) :
    Prop where
  looks : ∀ (n m : Type → Type) [Monad n] [Monad m] (inquiry : Inquiry n m)
    (eval : Option (EvaluatorIn m)),
    look n m inquiry eval = p.targetIn eval line position >>= tell n m inquiry
  plain : ∀ (m : Type → Type) [Monad m] [LawfulMonad m] (target : Option Target),
    tell _ m (.plain m) target = pure (Id.run (tell _ Id (.plain Id) target))

/-- A hint is asked of the function being called. -/
theorem asking_hintIn : Asking p line position
    (fun _ _ _ _ inquiry eval => p.hintIn inquiry eval line position)
    fun _ _ _ _ inquiry target => inquiry.orElse none (p.hintOf inquiry target) where
  looks _ _ _ _ _ _ := rfl
  plain _ _ _ _ := map_pure _ _

theorem asking_documentationIn : Asking p line position
    (fun _ _ _ _ inquiry eval => p.documentationIn inquiry eval line position)
    fun _ _ _ _ inquiry target => inquiry.orElse none (p.documentationOf inquiry target) where
  looks _ _ _ _ _ _ := rfl
  plain _ _ _ _ := map_pure _ _

namespace Asking

variable {p line position} {look : AskingLook α}
  {tell : ∀ (n m : Type → Type) [Monad n] [Monad m], Inquiry n m → Option Target → m α}

/-- By an inquiry that only answers, the lookup depends on the function being called. -/
theorem dependsOn_plain (h : Asking p line position look tell) :
    DependsOn p (callContext? line position) fun m _ eval => look _ m (.plain m) eval := by
  apply p.dependsOn_of_target line position fun target => Id.run (tell _ Id (.plain Id) target)
  intro m _ _ eval
  rw [h.looks]
  exact bind_congr fun target => h.plain m target

/-- A lookup whose context need not be evaluated does not evaluate it. -/
theorem evaluatesNothing (h : Asking p line position look tell)
    (hneeded : needsDocEvaluation line position = false) : look.EvaluatesNothing := by
  rw [needsDocEvaluation_eq] at hneeded
  refine ⟨h.dependsOn_plain.evaluatesNothing hneeded, fun n m _ _ _ inquiry eval => ?_⟩
  have htarget := p.dependsOn_targetIn line position
  -- the function is found without the evaluator, so that all that is asked is the same
  have hsome : p.targetIn (some eval) line position = _ :=
    htarget.evaluatesNothing hneeded m eval
  have hnone : p.targetIn (none : Option (EvaluatorIn m)) line position = _ := htarget.run_none m
  rw [h.looks, h.looks, hsome, hnone]

/-- A lookup whose context has to be evaluated hands its text to the evaluator. -/
theorem evaluates (h : Asking p line position look tell) {context : Cursor.Context}
    (hcontext : callContext? line position = some context) (hbare : context.isBare = false) :
    look.Evaluates context.text := by
  have hplain := h.dependsOn_plain
  have htarget := p.dependsOn_targetIn line position
  rw [hcontext] at hplain htarget
  -- the evaluator is called once, to find the function
  obtain ⟨found, hfound⟩ := htarget.evaluates hbare
  refine ⟨hplain.evaluates hbare, fun live n m _ _ inquiry => tell n m inquiry (found live), ?_⟩
  intro n m _ _ _ inquiry eval
  have hsome : p.targetIn (some eval) line position = found <$> eval context.text := hfound m eval
  rw [h.looks, hsome, bind_map_left]

end Asking

/-! ### Answers -/

variable {p annotated line position}

/-- What is offered where something can be completed. -/
theorem complete_of_completionAt {c : Cursor.Completion}
    (h : Cursor.completionAt line position = some c) (eval : Option Evaluator) :
    p.complete eval annotated line position =
      some (p.offer annotated c (Id.run (p.sourcesIn (m := Id) eval c.wanted))) := by
  rw [complete, completeIn, h]
  rfl

/-- Where nothing can be completed, nothing is offered. -/
theorem complete_of_none (h : Cursor.completionAt line position = none)
    (eval : Option Evaluator) : p.complete eval annotated line position = none := by
  rw [complete, completeIn, h]
  rfl

theorem offer_nothing (c : Cursor.Completion) :
    p.offer annotated c [.nothing] = ⟨c.start, c.stop, [], []⟩ := by
  cases annotated <;> rfl

/-- A member of what nobody may evaluate has no completions. -/
theorem complete_of_needsEvaluation (h : needsEvaluation line position = true) :
    ∃ offer, p.complete none annotated line position = some offer ∧
      offer.texts = [] ∧ offer.annotations = [] := by
  rw [needsEvaluation_eq, contextNeedsEvaluation_iff] at h
  obtain ⟨context, hcontext, hbare⟩ := h
  obtain ⟨c, hat, hwanted⟩ := Option.bind_eq_some_iff.mp hcontext
  rw [complete_of_completionAt hat]
  -- only a member has a context that may need an evaluator
  cases hc : c.wanted with
  | member found =>
    obtain rfl : found = context := by simpa [hc, Cursor.Wanted.context?] using hwanted
    refine ⟨⟨c.start, c.stop, [], []⟩, ?_, rfl, rfl⟩
    simp [sourcesIn, contextIn, hbare, memberSources, offer_nothing]
  | className => simp [hc, Cursor.Wanted.context?] at hwanted
  | variableName => simp [hc, Cursor.Wanted.context?] at hwanted
  | symbol => simp [hc, Cursor.Wanted.context?] at hwanted

/-- A method of what nobody may evaluate is not found. -/
theorem target_of_needsDocEvaluation (h : needsDocEvaluation line position = true) :
    Id.run (p.targetIn (m := Id) none line position) = none := by
  rw [needsDocEvaluation_eq, contextNeedsEvaluation_iff] at h
  obtain ⟨context, hcontext, hbare⟩ := h
  obtain ⟨call, hat, hcall⟩ := Option.bind_eq_some_iff.mp hcontext
  simp [targetIn, hat, hcall, contextIn, hbare, methodTarget?]

end ReplEngine.Program
