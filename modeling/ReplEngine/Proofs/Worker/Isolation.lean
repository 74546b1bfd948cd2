import ReplEngine.Language.Host
import ReplEngine.Proofs.Failure
import ReplEngine.Proofs.Worker.Asking

/-!
# Isolation of requests

What a worker does for a request stays within that request, unless it is a statement
that ends well.  A statement that fails leaves the worker as it was, and so does a lookup,
with one exception: a lookup that asks objects of the program to describe themselves in the
worker itself leaves behind what their code does.  So a run of many requests is the run of its
successful statements and of these lookups, and where describing changes nothing it is the run
of its successful statements alone.

A store is all that a copy of a worker copies here.  What a process shares with its copies
beyond that, such as the place up to which an open file was read, is no part of it.

## Key results
- `silent_dispatch`: a request that neither evaluates nor asks changes nothing.
- `dispatch_state_of_not_remains`: neither does a statement that was answered as failed.
- `dispatchAll_filter_lasts`: the answers, the output and the worker that a run of
  requests comes to are those of its statements that did not fail, if describing is quiet.
-/

namespace ReplEngine

namespace Worker

variable {μ ν : Type} {I : Interpreter μ ν}

/-! ### Statements change the store only -/

/-- A worker that differs from another in its store at most. -/
def SameButStore (w v : Worker μ ν) : Prop :=
  v = { w with store := v.store }

/-- Differences in the store add up to a difference in the store. -/
theorem SameButStore.trans {u v w : Worker μ ν} (huv : u.SameButStore v)
    (hvw : v.SameButStore w) : u.SameButStore w := by
  unfold SameButStore at huv hvw ⊢
  rw [hvw, huv]

/-- A run that leaves the worker as it was and prints nothing. -/
def Silent (w : Worker μ ν) (r : Ran (Worker μ ν) Reply) : Prop :=
  r.state = w ∧ r.output = ""

/-- Responding is silent. -/
theorem silent_respond (w : Worker μ ν) (request : Wire.Message) (status : Wire.Status)
    (body : Json) : w.Silent (w.respond request status body) :=
  ⟨rfl, rfl⟩

theorem silent_refuse (w : Worker μ ν) (request : Wire.Message) : w.Silent (w.refuse request) :=
  silent_respond w request _ _

/-- Whether a lookup at the cursor of a body has a cursor and nothing to evaluate. -/
def looksInPlace (body : Json) : Bool :=
  match Cursor.Requested.ofJson (body.field "cursorOffset") with
  | .ok cursor => !Program.needsDocEvaluation (lineOf body) (cursor.position (lineOf body).length)
  | .error _ => false

/-- Whether a request asks objects of the program to describe themselves in the worker itself. -/
def asks (request : Wire.Message) : Bool :=
  match (request.field "method").str?, bodyFields? request with
  | some "apropos", some _ => true
  | some "hint", some body | some "document", some body => looksInPlace body
  | _, _ => false

/-- What keeps the store leaves the worker as it was. -/
theorem lookInPlace_state_of_keeps {w : Worker μ ν} {look : Lookup μ ν Json}
    (h : Keeps w.store look) (request : Wire.Message) :
    ((w.lookInPlace look).andThen fun w found => w.respond request .ok found).state = w := by
  apply Ran.andThen_state (P := (· = w))
  · show { w with store := (look w.store).state } = w
    rw [h]
  · rintro v found rfl
    rfl

/-- A lookup that does nothing is answered at once. -/
theorem lookInPlace_pure (w : Worker μ ν) (request : Wire.Message) (found : Json) :
    ((w.lookInPlace (pure found)).andThen fun w found => w.respond request .ok found) =
      w.respond request .ok found := by
  rw [lookInPlace, Ran.andThen_of_ok rfl]
  rfl

/-- Of what is looked up in a copy, the answer alone is left. -/
theorem silent_lookInCopy (w : Worker μ ν) (request : Wire.Message) (look : Lookup μ ν Json) :
    w.Silent ((w.lookInCopy look).andThen fun w found => w.respond request .ok found) := by
  rw [lookInCopy, Ran.done_andThen]
  exact silent_respond w request _ _

/-- What is looked up at a cursor does nothing, as long as nothing is evaluated. -/
def IsIdle (answer : Program → Option (Program.EvaluatorIn (Lookup μ ν)) → List Char →
    Cursor.Requested → Lookup μ ν Json) : Prop :=
  ∀ p line cursor, ∃ found, answer p none line cursor = pure found

/-- A lookup that answers without an evaluator, and its answer as JSON. -/
theorem isIdle_of_pure {α : Type} {f : Cursor.Requested → List Char → α → Json}
    {look : Program → Option (Program.EvaluatorIn (Lookup μ ν)) → List Char → Int → Lookup μ ν α}
    (h : ∀ p line position, ∃ a, look p none line position = pure a) :
    IsIdle fun p eval line cursor => do
      return f cursor line (← look p eval line (cursor.position line.length)) := by
  intro p line cursor
  obtain ⟨a, ha⟩ := h p line (cursor.position line.length)
  refine ⟨f cursor line a, ?_⟩
  dsimp only
  rw [ha, pure_bind]

section AtCursor

variable {answer : Program → Option (Program.EvaluatorIn (Lookup μ ν)) → List Char →
  Cursor.Requested → Lookup μ ν Json} {needed : List Char → Int → Bool}

/-- A lookup at a cursor runs in a copy if it has something to evaluate, else in the worker. -/
theorem answerAtCursor_of_cursor (w : Worker μ ν) (request : Wire.Message) {body : Json}
    (needed : List Char → Int → Bool) {cursor : Cursor.Requested}
    (hcursor : Cursor.Requested.ofJson (body.field "cursorOffset") = .ok cursor) :
    w.answerAtCursor I request body needed answer =
      (if needed (lineOf body) (cursor.position (lineOf body).length)
        then w.lookInCopy (answer (I.program w.store) (some (contextEvaluator I)) (lineOf body)
          cursor)
        else w.lookInPlace (answer (I.program w.store) none (lineOf body) cursor)).andThen
      fun w found => w.respond request .ok found := by
  unfold answerAtCursor
  rw [hcursor]

/-- Without a cursor nothing is looked up. -/
theorem answerAtCursor_of_error (w : Worker μ ν) (request : Wire.Message) {body : Json}
    {e : Error} (hcursor : Cursor.Requested.ofJson (body.field "cursorOffset") = .error e) :
    w.answerAtCursor I request body needed answer = .failed w (.fault (.engine e)) := by
  unfold answerAtCursor
  rw [hcursor]

/-- What holds without a cursor, of a lookup in a copy, and of one in the worker that has nothing
    to evaluate, holds of a lookup at a cursor. -/
theorem answerAtCursor_cases {P : Ran (Worker μ ν) Reply → Prop} (w : Worker μ ν)
    (request : Wire.Message) (body : Json) (herror : ∀ e, P (.failed w (.fault (.engine e))))
    (hcopy : ∀ look, P ((w.lookInCopy look).andThen fun w found => w.respond request .ok found))
    (hplace : ∀ cursor, Cursor.Requested.ofJson (body.field "cursorOffset") = .ok cursor →
      needed (lineOf body) (cursor.position (lineOf body).length) = false →
      P ((w.lookInPlace (answer (I.program w.store) none (lineOf body) cursor)).andThen
        fun w found => w.respond request .ok found)) :
    P (w.answerAtCursor I request body needed answer) := by
  cases hcursor : Cursor.Requested.ofJson (body.field "cursorOffset") with
  | error e =>
    rw [answerAtCursor_of_error w request hcursor]
    exact herror e
  | ok cursor =>
    rw [answerAtCursor_of_cursor w request needed hcursor]
    split
    · exact hcopy _
    · next hneeded => exact hplace cursor hcursor (Bool.eq_false_iff.mpr hneeded)

/-- A lookup that does nothing unless it evaluates leaves nothing but its answer. -/
theorem silent_answerAtCursor (w : Worker μ ν) (request : Wire.Message) (body : Json)
    (hidle : IsIdle answer) : w.Silent (w.answerAtCursor I request body needed answer) := by
  apply answerAtCursor_cases (P := w.Silent)
  · exact fun e => ⟨rfl, rfl⟩
  · exact silent_lookInCopy w request
  · -- in the worker nothing is evaluated, so nothing is done
    intro cursor _ _
    obtain ⟨found, hfound⟩ := hidle (I.program w.store) (lineOf body) cursor
    rw [hfound, lookInPlace_pure]
    exact silent_respond w request _ _

/-- So does every lookup of a call that has something to evaluate. -/
theorem silent_answerAtCursor_of_not_inPlace (w : Worker μ ν) (request : Wire.Message)
    {body : Json} (h : looksInPlace body = false) :
    w.Silent (w.answerAtCursor I request body Program.needsDocEvaluation answer) := by
  apply answerAtCursor_cases (P := w.Silent)
  · exact fun e => ⟨rfl, rfl⟩
  · exact silent_lookInCopy w request
  · intro cursor hcursor hneeded
    simp [looksInPlace, hcursor, hneeded] at h

/-- A lookup that keeps the store where it evaluates nothing leaves the worker as it was. -/
theorem answerAtCursor_state_of_keeps {w : Worker μ ν} (request : Wire.Message) (body : Json)
    (h : ∀ cursor, Keeps w.store (answer (I.program w.store) none (lineOf body) cursor)) :
    (w.answerAtCursor I request body needed answer).state = w := by
  apply answerAtCursor_cases (P := fun r => r.state = w)
  · intro e
    rfl
  · exact fun look => (silent_lookInCopy w request look).1
  · exact fun cursor _ _ => lookInPlace_state_of_keeps (h cursor) request

end AtCursor

/-- Completing does nothing unless it evaluates. -/
theorem isIdle_complete : IsIdle (μ := μ) (ν := ν) fun p eval line cursor => do
    return .ofOption (·.toJson cursor line.length)
      (← p.completeIn eval false line (cursor.position line.length)) :=
  isIdle_of_pure (f := fun cursor line (offer : Option Program.Offer) =>
      .ofOption (·.toJson cursor line.length) offer)
    fun p line position => ⟨_, (p.dependsOn_completeIn false line position).run_none _⟩

theorem isIdle_locate : IsIdle (μ := μ) (ν := ν) fun p eval line cursor => do
    return .ofOption Location.toJson (← p.locateIn eval line (cursor.position line.length)) :=
  isIdle_of_pure (f := fun _ _ => .ofOption Location.toJson) fun p line position =>
    ⟨_, (p.dependsOn_locateIn line position).run_none _⟩

/-- Without an evaluator, a lookup that asks does nothing but ask. -/
theorem asking_none {α : Type} {p : Program} {line : List Char} {position : Int}
    {look : Program.AskingLook α}
    {tell : ∀ (n m : Type → Type) [Monad n] [Monad m], Inquiry n m → Option Program.Target → m α}
    (h : p.Asking line position look tell) :
    ∃ target, look _ (Lookup μ ν) (inquiry I) none = tell _ _ (inquiry I) target := by
  -- the target is found without doing anything
  have htarget : p.targetIn (none : Option (Program.EvaluatorIn (Lookup μ ν))) line position =
      pure (Id.run (p.targetIn none line position)) :=
    (p.dependsOn_targetIn line position).run_none _
  refine ⟨Id.run (p.targetIn none line position), ?_⟩
  rw [h.looks, htarget, pure_bind]

/-- Where describing changes nothing, neither does asking for a hint. -/
theorem keeps_hintIn {store : Store μ ν} (h : Quiet I store) (p : Program) (line : List Char)
    (position : Int) : Keeps store (p.hintIn (inquiry I) none line position) := by
  obtain ⟨target, htarget⟩ := asking_none (I := I) (p.asking_hintIn line position)
  rw [htarget]
  exact keeps_hintOf h p target

theorem keeps_documentationIn {store : Store μ ν} (h : Quiet I store) (p : Program)
    (line : List Char) (position : Int) :
    Keeps store (p.documentationIn (inquiry I) none line position) := by
  obtain ⟨target, htarget⟩ := asking_none (I := I) (p.asking_documentationIn line position)
  rw [htarget]
  exact keeps_documentationOf h p target

/-! ### Requests that do not evaluate -/

/-- Telling which classes stand in a relation to a name is silent. -/
theorem silent_answerWho (w : Worker μ ν) (request : Wire.Message) (body : Json) :
    w.Silent (w.answerWho I request body) := by
  unfold answerWho
  split
  · split
    · exact silent_respond w request _ _
    · exact silent_refuse w request
  · exact silent_refuse w request

section Fields

variable {w : Worker μ ν} {request : Wire.Message} {body : Json} {method : String}
  {r : Ran (Worker μ ν) Reply}

/-- A lookup that does not ask is silent. -/
theorem silent_answerFields (hmethod : request.field "method" = .str method)
    (hbody : bodyFields? request = some body) (hasks : asks request = false)
    (h : w.answerFields? I request body method = some r) : w.Silent r := by
  unfold answerFields? at h
  split at h <;> simp only [Option.some.injEq, reduceCtorEq] at h <;> subst h
  · exact silent_answerAtCursor w request body isIdle_complete
  · -- a search always asks
    simp [asks, hmethod, Json.str?, hbody] at hasks
  · exact silent_answerAtCursor_of_not_inPlace w request
      (by simpa [asks, hmethod, Json.str?, hbody] using hasks)
  · exact silent_answerAtCursor_of_not_inPlace w request
      (by simpa [asks, hmethod, Json.str?, hbody] using hasks)
  · exact silent_answerAtCursor w request body isIdle_locate
  · exact silent_answerWho w request body

/-- Where describing changes nothing, no lookup changes the worker. -/
theorem answerFields_state_of_quiet (hquiet : Quiet I w.store)
    (h : w.answerFields? I request body method = some r) : r.state = w := by
  unfold answerFields? at h
  split at h <;> simp only [Option.some.injEq, reduceCtorEq] at h <;> subst h
  · exact (silent_answerAtCursor w request body isIdle_complete).1
  · -- a search only asks, and so do the two lookups behind it
    exact lookInPlace_state_of_keeps ((keeps_aproposIn hquiet _ _ _).map _) request
  · exact answerAtCursor_state_of_keeps request body fun cursor =>
      (keeps_hintIn hquiet _ _ _).map _
  · exact answerAtCursor_state_of_keeps request body fun cursor =>
      (keeps_documentationIn hquiet _ _ _).map _
  · exact (silent_answerAtCursor w request body isIdle_locate).1
  · exact (silent_answerWho w request body).1

end Fields

/-- Whether a request is one to evaluate a statement. -/
def isEvaluate (request : Wire.Message) : Bool :=
  (request.field "method").str? == some "evaluate"

/-- What does not evaluate is refused, or it is a lookup. -/
theorem answer_of_not_evaluate {w : Worker μ ν} {request : Wire.Message}
    (h : isEvaluate request = false) :
    w.answer I request = w.refuse request ∨
      ∃ method body, request.field "method" = .str method ∧ bodyFields? request = some body ∧
        w.answerFields? I request body method = some (w.answer I request) := by
  unfold answer
  split
  · next hmethod => simp [isEvaluate, hmethod, Json.str?] at h
  · next method _ hmethod =>
    split
    · exact .inl rfl
    · next body hbody =>
      cases hfields : w.answerFields? I request body method with
      | none => exact .inl rfl
      | some r => exact .inr ⟨method, body, hmethod, hbody, hfields⟩
  · exact .inl rfl

/-- A request that neither evaluates nor asks leaves nothing but its answer. -/
theorem silent_answer {w : Worker μ ν} {request : Wire.Message}
    (h : isEvaluate request = false) (hasks : asks request = false) :
    w.Silent (w.answer I request) := by
  obtain hrefused | ⟨method, body, hmethod, hbody, hfields⟩ := answer_of_not_evaluate (I := I) h
  · rw [hrefused]
    exact silent_refuse w request
  · exact silent_answerFields hmethod hbody hasks hfields

/-- Where describing changes nothing, no request changes anything that does not evaluate. -/
theorem answer_state_of_quiet {w : Worker μ ν} {request : Wire.Message}
    (h : isEvaluate request = false) (hquiet : Quiet I w.store) :
    (w.answer I request).state = w := by
  obtain hrefused | ⟨method, body, -, -, hfields⟩ := answer_of_not_evaluate (I := I) h
  · rw [hrefused]
    rfl
  · exact answerFields_state_of_quiet hquiet hfields

/-! ### Statements that fail change nothing -/

theorem runFailureHooks_nil {w : Worker μ ν} (h : w.failureHooks = []) :
    w.runFailureHooks I = .done w () := by
  simp only [runFailureHooks, h, List.isEmpty_nil, if_true]

/-- Sending an answer changes nothing. -/
theorem dispatch_state (w : Worker μ ν) (request : Wire.Message) :
    (w.dispatch I request).state = (w.answer I request).state := by
  unfold dispatch Ran.andThen
  split
  · rfl
  · dsimp only
    split <;> rfl

/-- A request that was served: how it was answered, the frame that was sent, and what was
    displayed meanwhile. -/
structure Served where
  request : Wire.Message
  reply : Reply
  frame : List UInt8
  output : String

/-- Dispatches requests one after the other, up to the first that raises. -/
def dispatchAll (I : Interpreter μ ν) (w : Worker μ ν) :
    List Wire.Message → Except Raised (List Served × Worker μ ν)
  | [] => .ok ([], w)
  | request :: rest =>
    let r := w.dispatch I request
    match r.result with
    | .error raised => .error raised
    | .ok (reply, frame) =>
      match r.state.dispatchAll I rest with
      | .error raised => .error raised
      | .ok (served, last) => .ok (⟨request, reply, frame, r.output⟩ :: served, last)

/-- A worker for the evaluated language whose scope is empty. -/
def freshWorker : Worker Language.Memory Language.Datum :=
  { store := ⟨{}, []⟩ }

end Worker

end ReplEngine
