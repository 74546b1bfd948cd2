import ReplEngine.Proofs.Worker.Isolation

/-!
# Where lookups evaluate contexts

A worker looks things up in its own process, or in a copy of itself that is dropped.  It takes the
copy exactly if the context at the cursor has to be evaluated.  Nothing is handed to the evaluator
in the process of the worker: what is looked up there does not depend on how contexts are
evaluated, and whatever evaluating does to a store or prints, the worker is left as it was.

Other code can run in the process of the worker: there a lookup may ask the defaults of a function
to describe themselves (`asks`).  What that can change is said in the module on isolation.

## Key results

- `asks_of_needs`: a lookup that evaluates asks nothing in the worker
- `answer_evaluate`: a request whose context need not be evaluated is answered without evaluating
- `lookups_evaluate_on_copies`: what needs evaluation, what is found without it, and where it is
  done
-/

namespace ReplEngine.Worker

variable {μ ν : Type} {I : Interpreter μ ν}

/-- The context that a method looks something up on. -/
def contextFor? (method : String) (line : List Char) (position : Int) : Option Cursor.Context :=
  match method with
  | "complete" => Program.completionContext? line position
  | "hint" | "document" | "locate" => Program.callContext? line position
  | _ => none

/-- The context that a request asks to look something up on. -/
def lookupContext? (request : Wire.Message) : Option Cursor.Context := do
  let method ← (request.field "method").str?
  let body ← bodyFields? request
  let cursor ← (Cursor.Requested.ofJson (body.field "cursorOffset")).toOption
  contextFor? method (lineOf body) (cursor.position (lineOf body).length)

/-- A lookup whose context has to be evaluated runs on a copy, and asks nothing in the worker. -/
theorem asks_of_needs {request : Wire.Message}
    (h : Program.contextNeedsEvaluation (lookupContext? request) = true) :
    asks request = false := by
  -- what has to be evaluated is not looked up in place
  have hplace : ∀ {method : String} {body : Json}, method = "hint" ∨ method = "document" →
      (request.field "method").str? = some method → bodyFields? request = some body →
      looksInPlace body = false := by
    intro method body hmethod hfield hbody
    unfold looksInPlace
    cases hcursor : Cursor.Requested.ofJson (body.field "cursorOffset") with
    | error e => rfl
    | ok cursor =>
      have hcontext : lookupContext? request = Program.callContext? (lineOf body)
          (cursor.position (lineOf body).length) := by
        rcases hmethod with rfl | rfl <;>
          simp [lookupContext?, hfield, hbody, hcursor, Except.toOption, contextFor?]
      rw [hcontext, ← Program.needsDocEvaluation_eq] at h
      simp [h]
  unfold asks
  split
  · next hmethod hbody =>
    -- a search has no context
    simp [lookupContext?, hmethod, hbody, contextFor?, Program.contextNeedsEvaluation] at h
  · next hmethod hbody => exact hplace (.inl rfl) hmethod hbody
  · next hmethod hbody => exact hplace (.inr rfl) hmethod hbody
  · rfl

/-- Where no evaluation is needed, it does not matter how contexts are evaluated. -/
theorem answerAtCursor_evaluate {w : Worker μ ν} {request : Wire.Message} {body : Json}
    {needed : List Char → Int → Bool}
    {answer : Program → Option (Program.EvaluatorIn (Lookup μ ν)) → List Char →
      Cursor.Requested → Lookup μ ν Json}
    (hneeded : ∀ cursor, Cursor.Requested.ofJson (body.field "cursorOffset") = .ok cursor →
      needed (lineOf body) (cursor.position (lineOf body).length) = false)
    (evaluate : String → Store μ ν → Ran (Store μ ν) Entity) :
    w.answerAtCursor { I with evaluate := evaluate } request body needed answer =
      w.answerAtCursor I request body needed answer := by
  cases hcursor : Cursor.Requested.ofJson (body.field "cursorOffset") with
  | error e => simp only [answerAtCursor, hcursor]
  | ok cursor => simp [answerAtCursor, hcursor, hneeded cursor hcursor]

/-- Nor does it for any of the lookups whose context need not be evaluated. -/
theorem answerFields?_evaluate {w : Worker μ ν} {request : Wire.Message} {body : Json}
    {method : String} (hmethod : request.field "method" = .str method)
    (hbody : bodyFields? request = some body)
    (h : Program.contextNeedsEvaluation (lookupContext? request) = false)
    (evaluate : String → Store μ ν → Ran (Store μ ν) Entity) :
    w.answerFields? { I with evaluate := evaluate } request body method =
      w.answerFields? I request body method := by
  -- the context of the request is the one that the method looks at
  have hcontext : ∀ cursor, Cursor.Requested.ofJson (body.field "cursorOffset") = .ok cursor →
      Program.contextNeedsEvaluation (contextFor? method (lineOf body)
        (cursor.position (lineOf body).length)) = false := by
    intro cursor hcursor
    simpa [lookupContext?, hmethod, Json.str?, hbody, hcursor, Except.toOption] using h
  have hcomplete : method = "complete" → ∀ cursor,
      Cursor.Requested.ofJson (body.field "cursorOffset") = .ok cursor →
      Program.needsEvaluation (lineOf body) (cursor.position (lineOf body).length) = false := by
    rintro rfl cursor hcursor
    rw [Program.needsEvaluation_eq]
    exact hcontext cursor hcursor
  -- the lookups of a call share theirs
  have hcall : method = "hint" ∨ method = "document" ∨ method = "locate" → ∀ cursor,
      Cursor.Requested.ofJson (body.field "cursorOffset") = .ok cursor →
      Program.needsDocEvaluation (lineOf body) (cursor.position (lineOf body).length) = false := by
    rintro hmem cursor hcursor
    rw [Program.needsDocEvaluation_eq]
    rcases hmem with rfl | rfl | rfl <;> exact hcontext cursor hcursor
  unfold answerFields?
  split
  · exact congrArg some (answerAtCursor_evaluate (hcomplete rfl) evaluate)
  · rfl
  · exact congrArg some (answerAtCursor_evaluate (hcall (.inl rfl)) evaluate)
  · exact congrArg some (answerAtCursor_evaluate (hcall (.inr (.inl rfl))) evaluate)
  · exact congrArg some (answerAtCursor_evaluate (hcall (.inr (.inr rfl))) evaluate)
  · rfl
  · rfl

/-- A lookup whose context need not be evaluated is answered without evaluating anything. -/
theorem answer_evaluate {w : Worker μ ν} {request : Wire.Message}
    (hlookup : isEvaluate request = false)
    (h : Program.contextNeedsEvaluation (lookupContext? request) = false)
    (evaluate : String → Store μ ν → Ran (Store μ ν) Entity) :
    w.answer { I with evaluate := evaluate } request = w.answer I request := by
  unfold answer
  split
  · next hmethod => simp [isEvaluate, hmethod, Json.str?] at hlookup
  · next hmethod =>
    split
    · rfl
    · next hbody => rw [answerFields?_evaluate hmethod hbody h]
  · rfl

/-- Lookups evaluate nothing in the process of a worker.  If the context at the cursor need not be
    evaluated, completion and the lookups of a call hand nothing to an evaluator, whatever it would
    do, and answer as they do without one.  If it has to be, its text is all that they hand to an
    evaluator; without one, completion offers nothing and the others find nothing.  A worker
    evaluates only if it has to, and then not in its own process: whatever evaluating does, the
    worker is the same behind the answer and has printed nothing.  So is a worker whose lookup
    does not ask objects of the program to describe themselves; where describing them changes
    nothing, so is every worker behind a lookup. -/
theorem lookups_evaluate_on_copies (I : Interpreter μ ν) (w : Worker μ ν) (request : Wire.Message)
    (p : Program) (annotated : Bool) (line : List Char) (position : Int) :
    (Program.needsEvaluation line position = false →
      Program.EvaluatesNothing fun _ _ eval => p.completeIn eval annotated line position) ∧
    (Program.needsEvaluation line position = true →
      (∃ context, Program.completionContext? line position = some context ∧
        Program.Evaluates context.text fun _ _ eval =>
          p.completeIn eval annotated line position) ∧
      ∃ offer, p.complete none annotated line position = some offer ∧
        offer.texts = [] ∧ offer.annotations = []) ∧
    (Program.needsDocEvaluation line position = false →
      (Program.AskingLook.EvaluatesNothing fun _ _ _ _ inquiry eval =>
        p.hintIn inquiry eval line position) ∧
      (Program.AskingLook.EvaluatesNothing fun _ _ _ _ inquiry eval =>
        p.documentationIn inquiry eval line position) ∧
      Program.EvaluatesNothing fun _ _ eval => p.locateIn eval line position) ∧
    (Program.needsDocEvaluation line position = true →
      (∃ context, Program.callContext? line position = some context ∧
        (Program.AskingLook.Evaluates context.text fun _ _ _ _ inquiry eval =>
          p.hintIn inquiry eval line position) ∧
        (Program.AskingLook.Evaluates context.text fun _ _ _ _ inquiry eval =>
          p.documentationIn inquiry eval line position) ∧
        Program.Evaluates context.text fun _ _ eval => p.locateIn eval line position) ∧
      p.hint none line position = none ∧ p.documentation none line position = none ∧
        p.locate none line position = none) ∧
    (isEvaluate request = false →
      (Program.contextNeedsEvaluation (lookupContext? request) = true ∨ asks request = false →
        (w.answer I request).state = w ∧ (w.answer I request).output = "") ∧
      (Quiet I w.store → (w.answer I request).state = w) ∧
      (Program.contextNeedsEvaluation (lookupContext? request) = false →
        ∀ evaluate, w.answer { I with evaluate := evaluate } request = w.answer I request)) := by
  have hcomplete := p.dependsOn_completeIn annotated line position
  have hhint := p.asking_hintIn line position
  have hdocument := p.asking_documentationIn line position
  have hlocate := p.dependsOn_locateIn line position
  refine ⟨fun h => ?_, fun h => ⟨?_, Program.complete_of_needsEvaluation h⟩, fun h => ?_,
    fun h => ⟨?_, ?_⟩, fun h => ?_⟩
  · rw [Program.needsEvaluation_eq] at h
    exact hcomplete.evaluatesNothing h
  · rw [Program.needsEvaluation_eq, Program.contextNeedsEvaluation_iff] at h
    obtain ⟨context, hcontext, hbare⟩ := h
    rw [hcontext] at hcomplete
    exact ⟨context, hcontext, hcomplete.evaluates hbare⟩
  · refine ⟨hhint.evaluatesNothing h, hdocument.evaluatesNothing h, ?_⟩
    rw [Program.needsDocEvaluation_eq] at h
    exact hlocate.evaluatesNothing h
  · rw [Program.needsDocEvaluation_eq, Program.contextNeedsEvaluation_iff] at h
    obtain ⟨context, hcontext, hbare⟩ := h
    rw [hcontext] at hlocate
    exact ⟨context, hcontext, hhint.evaluates hcontext hbare, hdocument.evaluates hcontext hbare,
      hlocate.evaluates hbare⟩
  · have htarget := Program.target_of_needsDocEvaluation (p := p) h
    exact ⟨congrArg (fun target => Id.run ((Inquiry.plain Id).orElse none
        (p.hintOf (.plain Id) target))) htarget,
      congrArg (fun target => Id.run ((Inquiry.plain Id).orElse none
        (p.documentationOf (.plain Id) target))) htarget,
      congrArg (·.bind fun t => p.location? t.entity) htarget⟩
  · refine ⟨?_, fun hquiet => answer_state_of_quiet h hquiet, fun hbare => answer_evaluate h hbare⟩
    -- either way nothing is asked in the worker
    rintro (hneeds | hasks)
    · exact silent_answer h (asks_of_needs hneeds)
    · exact silent_answer h hasks

/-- A language where evaluating a context empties the scope and prints the text. -/
def meddlingLanguage : Interpreter Language.Memory Language.Datum :=
  { Language.interpreter {} with
    evaluate := fun text store =>
      { state := { store with scope := [] }, output := text, result := .ok (.value (.str text)) } }

/-- A worker that has a name in its scope. -/
def boundWorker : Worker Language.Memory Language.Datum :=
  { freshWorker with store := ⟨{}, [("f", .text "x")]⟩ }

/-- A request to complete at the end of a line. -/
def completionOf (line : String) : Wire.Message :=
  .request (.str "complete") (.obj [("line", .str line)])

/-- A context that is a call is evaluated on a copy, and one that is a name is not evaluated at
    all. -/
theorem lookups_evaluate_on_copies_meddling :
    (Program.needsEvaluation "f().up".toList 6 = true ∧
      ∃ offer, (meddlingLanguage.program boundWorker.store).complete none true "f().up".toList 6 =
        some offer ∧ offer.texts = [] ∧ offer.annotations = []) ∧
    (Program.needsEvaluation "f.up".toList 4 = false ∧
      Program.EvaluatesNothing fun _ _ eval =>
        (meddlingLanguage.program boundWorker.store).completeIn eval true "f.up".toList 4) ∧
    (Program.needsDocEvaluation "f().up(".toList 7 = true ∧
      (meddlingLanguage.program boundWorker.store).hint none "f().up(".toList 7 = none) ∧
    (Program.needsDocEvaluation "f.up(".toList 5 = false ∧
      Program.EvaluatesNothing fun _ _ eval =>
        (meddlingLanguage.program boundWorker.store).locateIn eval "f.up(".toList 5) ∧
    (isEvaluate (completionOf "f().up") = false ∧
      (boundWorker.answer meddlingLanguage (completionOf "f().up")).state = boundWorker ∧
      (boundWorker.answer meddlingLanguage (completionOf "f().up")).output = "") ∧
    isEvaluate (completionOf "f.up") = false ∧
      Program.contextNeedsEvaluation (lookupContext? (completionOf "f.up")) = false ∧
      ∀ evaluate, boundWorker.answer { meddlingLanguage with evaluate := evaluate }
        (completionOf "f.up") = boundWorker.answer meddlingLanguage (completionOf "f.up") := by
  have hcalled := lookups_evaluate_on_copies meddlingLanguage boundWorker (completionOf "f().up")
    (meddlingLanguage.program boundWorker.store) true "f().up".toList 6
  have hdotted := lookups_evaluate_on_copies meddlingLanguage boundWorker (completionOf "f.up")
    (meddlingLanguage.program boundWorker.store) true "f.up".toList 4
  have hcalls := lookups_evaluate_on_copies meddlingLanguage boundWorker (completionOf "f.up")
    (meddlingLanguage.program boundWorker.store) true "f().up(".toList 7
  have hnamed := lookups_evaluate_on_copies meddlingLanguage boundWorker (completionOf "f.up")
    (meddlingLanguage.program boundWorker.store) true "f.up(".toList 5
  -- a call has to be evaluated, and a name with a dot has not
  have hneeded : Program.needsEvaluation "f().up".toList 6 = true := by decide +kernel
  have hbare : Program.needsEvaluation "f.up".toList 4 = false := by decide +kernel
  have hcall : Program.needsDocEvaluation "f().up(".toList 7 = true := by decide +kernel
  have hname : Program.needsDocEvaluation "f.up(".toList 5 = false := by decide +kernel
  have hlookup : isEvaluate (completionOf "f().up") = false := by decide
  have hlookup' : isEvaluate (completionOf "f.up") = false := by decide
  have hquiet : asks (completionOf "f().up") = false := by decide +kernel
  have hcontext :
      Program.contextNeedsEvaluation (lookupContext? (completionOf "f.up")) = false := by
    decide +kernel
  exact ⟨⟨hneeded, (hcalled.2.1 hneeded).2⟩, ⟨hbare, hdotted.1 hbare⟩,
    ⟨hcall, (hcalls.2.2.2.1 hcall).2.1⟩, ⟨hname, (hnamed.2.2.1 hname).2.2⟩,
    ⟨hlookup, (hcalled.2.2.2.2 hlookup).1 (.inr hquiet)⟩,
    hlookup', hcontext, (hdotted.2.2.2.2 hlookup').2.2 hcontext⟩

end ReplEngine.Worker
