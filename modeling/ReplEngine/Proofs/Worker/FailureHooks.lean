import ReplEngine.Proofs.Worker.Answering

/-!
# What failure hooks leave behind

When a statement has failed, the worker runs its failure hooks.  They bind and replace names like
statements do, through the same operations, and any of them may raise.  They do so on a copy,
which is dropped, and the scope that was copied is put back, with the names that were bound from
outside.  A function that was defined before the copy was made still binds its global names in
the scope that was copied, so that a hook that calls one can leave a trace there (`Spares`).  The
statement is answered as failed even if a hook has raised.

## Key results

- `hooksEnd_runHooks`: hooks run in order up to the first that raises, each from the worker that
  the one before it has left
- `Spares.scope_eq`, `spares_of_memory`: hooks that spare the scope that was copied, and hooks
  that do because they leave the memory alone
- `answerEvaluate_of_fails`: what a statement that fails comes to
- `dispatch_of_fails_keeps`: the request as a whole
-/

namespace ReplEngine.Worker

variable {μ ν : Type} {I : Interpreter μ ν} {w : Worker μ ν} {request : Wire.Message}
  {statement expanded : String}

/-! ### Hooks in order -/

/-- Hooks that ran one after the other and ended well: the first from a worker `w`, each other one
    from the worker that the one before it has left, and the last one has left `v`. -/
inductive Passed (I : Interpreter μ ν) :
    (w : Worker μ ν) → List (Hook μ ν) → (output : String) → (v : Worker μ ν) → Prop
  | nil (w : Worker μ ν) : Passed I w [] "" w
  | cons {w v : Worker μ ν} {hook : Hook μ ν} {rest : List (Hook μ ν)} {output : String}
    (hhook : (w.runHook I hook).result = .ok ())
    (hrest : Passed I (w.runHook I hook).state rest output v) :
    Passed I w (hook :: rest) ((w.runHook I hook).output ++ output) v

/-- How a run of hooks ends: all of them have passed, or the ones before the first that raises. -/
inductive HooksEnd (I : Interpreter μ ν) (w : Worker μ ν) (hooks : List (Hook μ ν)) :
    Ran (Worker μ ν) Unit → Prop
  | finished {output : String} {v : Worker μ ν} (hpassed : Passed I w hooks output v) :
    HooksEnd I w hooks { state := v, output := output, result := .ok () }
  | raised {passed left : List (Hook μ ν)} {hook : Hook μ ν} {output : String} {v : Worker μ ν}
    {raised : Raised} (hhooks : hooks = passed ++ hook :: left)
    (hpassed : Passed I w passed output v) (hraised : (v.runHook I hook).result = .error raised) :
    HooksEnd I w hooks
      { state := (v.runHook I hook).state, output := output ++ (v.runHook I hook).output,
        result := .error raised }

/-- A hook that passes and the hooks behind it. -/
theorem HooksEnd.cons {hook : Hook μ ν} {rest : List (Hook μ ν)} {r : Ran (Worker μ ν) Unit}
    (hhook : (w.runHook I hook).result = .ok ())
    (hrest : HooksEnd I (w.runHook I hook).state rest r) :
    HooksEnd I w (hook :: rest) { r with output := (w.runHook I hook).output ++ r.output } := by
  cases hrest with
  | finished hpassed => exact .finished (.cons hhook hpassed)
  | @raised passed left last _ _ _ hhooks hpassed hraised =>
    -- the hook is one more of those that have passed
    have hsplit : hook :: rest = (hook :: passed) ++ last :: left := by
      rw [hhooks, List.cons_append]
    rw [← String.append_assoc]
    exact .raised hsplit (.cons hhook hpassed) hraised

/-- Hooks run in order, up to the first that raises. -/
theorem hooksEnd_runHooks (w : Worker μ ν) (hooks : List (Hook μ ν)) :
    HooksEnd I w hooks (w.runHooks I hooks) := by
  -- on the hooks, each from the worker that the one before it has left
  induction hooks generalizing w with
  | nil => exact .finished (.nil w)
  | cons hook rest ih =>
    rw [runHooks]
    cases hhook : (w.runHook I hook).result with
    | error raised =>
      -- the first raises, and none has passed before it
      have hsplit : hook :: rest = [] ++ hook :: rest := rfl
      have hend := HooksEnd.raised hsplit (.nil w) hhook
      rw [Ran.andThen_of_error hhook]
      rwa [String.empty_append] at hend
    | ok =>
      rw [Ran.andThen_of_ok hhook]
      exact .cons hhook (ih _)

/-! ### The scope that was copied -/

/-- Hooks of which none that runs changes the scope that is put back behind them. -/
def Spares (I : Interpreter μ ν) : Worker μ ν → List (Hook μ ν) → Prop
  | _, [] => True
  | w, hook :: rest =>
    (I.leaveCopy (w.runHook I hook).state.store).scope = (I.leaveCopy w.store).scope ∧
      ((w.runHook I hook).result = .ok () → Spares I (w.runHook I hook).state rest)

/-- What is put back behind hooks that spare it is what would have been before them. -/
theorem Spares.scope_eq {hooks : List (Hook μ ν)} (h : Spares I w hooks) :
    (I.leaveCopy (w.runHooks I hooks).state.store).scope = (I.leaveCopy w.store).scope := by
  -- on the hooks, up to the first that raises
  induction hooks generalizing w with
  | nil => rfl
  | cons hook rest ih =>
    obtain ⟨hfirst, hrest⟩ := h
    rw [runHooks]
    cases hhook : (w.runHook I hook).result with
    | error raised =>
      rw [Ran.andThen_of_error hhook]
      exact hfirst
    | ok =>
      rw [Ran.andThen_of_ok hhook]
      exact (ih (hrest hhook)).trans hfirst

/-- A hook that leaves the memory as it is, whatever it does to the scope and to the exports. -/
def KeepsMemory (I : Interpreter μ ν) (hook : Hook μ ν) : Prop :=
  ∀ w : Worker μ ν, (w.runHook I hook).state.store.memory = w.store.memory

/-- Hooks that leave the memory as it is spare the scope that was copied. -/
theorem spares_of_memory {hooks : List (Hook μ ν)} (h : ∀ hook ∈ hooks, KeepsMemory I hook) :
    Spares I w hooks := by
  -- on the hooks
  induction hooks generalizing w with
  | nil => trivial
  | cons hook rest ih =>
    refine ⟨?_, fun _ => ih fun hook hmem => h hook (by simp [hmem])⟩
    have hmemory := h hook (by simp) w
    -- what is put back depends on the memory alone
    calc (I.leaveCopy (w.runHook I hook).state.store).scope
        = (I.leaveCopy ⟨w.store.memory, (w.runHook I hook).state.store.scope⟩).scope := by
          rw [← hmemory]
      _ = (I.leaveCopy w.store).scope := I.leaveCopy_scope _ _ _

/-! ### What the failure hooks leave -/

/-- Behind the failure hooks only the store may be another one. -/
theorem sameButStore_runFailureHooks (w : Worker μ ν) :
    w.SameButStore (w.runFailureHooks I).state := by
  unfold runFailureHooks
  split <;> rfl

/-- What the failure hooks print is printed. -/
theorem runFailureHooks_output (w : Worker μ ν) :
    (w.runFailureHooks I).output = ((w.onCopy I).runHooks I w.failureHooks).output := by
  unfold runFailureHooks
  split
  · -- without hooks nothing is printed
    next hempty =>
    rw [List.isEmpty_iff.mp hempty]
    rfl
  · rfl

/-- The store is the one that the copy leaves. -/
theorem runFailureHooks_store (h : w.failureHooks ≠ []) :
    (w.runFailureHooks I).state.store =
      I.leaveCopy ((w.onCopy I).runHooks I w.failureHooks).state.store := by
  unfold runFailureHooks
  rw [if_neg (by simpa using h)]

/-- The scope is what it was, if the hooks spare it. -/
theorem runFailureHooks_scope (h : Spares I (w.onCopy I) w.failureHooks) :
    (w.runFailureHooks I).state.store.scope = w.store.scope := by
  -- a copy is made only if there are hooks
  by_cases hhooks : w.failureHooks = []
  · rw [runFailureHooks_nil hhooks]
    rfl
  · rw [runFailureHooks_store hhooks, h.scope_eq]
    exact I.leaveCopy_enterCopy w.store

/-! ### Statements that fail -/

/-- Behind the response to a failure the worker is what the failure hooks leave. -/
theorem respondFailed_state (w : Worker μ ν) (request : Wire.Message) :
    (w.respondFailed I request).state = (w.runFailureHooks I).state := by
  unfold respondFailed Ran.andThen
  split <;> rfl

/-- The response itself prints nothing. -/
theorem respondFailed_output (w : Worker μ ν) (request : Wire.Message) :
    (w.respondFailed I request).output = (w.runFailureHooks I).output := by
  unfold respondFailed Ran.andThen
  split
  · rfl
  · exact String.append_empty

/-- What a statement that fails has printed stands before what the failure hooks print, and the
    rest is up to them. -/
theorem answerEvaluate_of_fails (hexpand : w.expand statement = .ok expanded)
    (hfails : Fails (w.execute I statement expanded)) :
    w.answerEvaluate I request statement =
      { w.respondFailed I request with
        output := (w.execute I statement expanded).output ++
          (w.respondFailed I request).output } := by
  unfold answerEvaluate
  -- an error, or an exit with the status of one
  rcases hfails with ⟨f, text, hfault⟩ | ⟨code, hexit, hstatus⟩
  · simp only [hexpand, hfault]
  · simp only [hexpand, hexit, if_pos hstatus]

/-- Sending an answer prints nothing. -/
theorem dispatch_output (w : Worker μ ν) (request : Wire.Message) :
    (w.dispatch I request).output = (w.answer I request).output := by
  unfold dispatch Ran.andThen
  split
  · rfl
  · dsimp only
    split <;> exact String.append_empty

/-- An answer that has a frame is sent. -/
theorem dispatch_of_answer {reply : Reply} {frame : List UInt8}
    (hanswer : (w.answer I request).result = .ok reply)
    (hframe : Wire.pack reply.2.toJson = .ok frame) :
    (w.dispatch I request).result = .ok (reply, frame) := by
  rw [dispatch, Ran.andThen_of_ok hanswer, hframe]
  rfl

/-- The response to a statement that has failed. -/
def failedResponse : Wire.Message :=
  .response (.str "evaluate") Wire.Status.failed.name .null

/-- A statement that fails is answered as failed, if no failure hook asks to exit. -/
theorem dispatch_result_of_fails (hmethod : request.field "method" = .str "evaluate")
    (hbody : (request.field "body").string? = some statement)
    (hexpand : w.expand statement = .ok expanded)
    (hfails : Fails (w.execute I statement expanded))
    (hhooks : ∀ code, ((w.onCopy I).runHooks I w.failureHooks).result ≠ .error (.exit code)) :
    ∃ frame, Wire.pack failedResponse.toJson = .ok frame ∧
      (w.dispatch I request).result = .ok ((.failed, failedResponse), frame) := by
  have hnull : Json.isWritable .null = true := rfl
  obtain ⟨frame, hframe⟩ := Wire.exists_pack_response .failed hnull (by decide)
  have hanswer : (w.answer I request).result = .ok (.failed, failedResponse) := by
    rw [answer_of_statement w hmethod hbody, answerEvaluate_of_fails hexpand hfails]
    rw [respondFailed, Ran.andThen_of_ok (runFailureHooks_result hhooks), respond, hmethod]
    rfl
  exact ⟨frame, hframe, dispatch_of_answer hanswer hframe⟩

/-- A statement fails, and the failure hooks run.  Whatever they bind, replace or raise, the names
    that were bound from outside are the same behind them, and so is everything else about the
    worker but its store.  The hooks have run in order on a copy, each from the worker that the
    one before it has left, up to the first that raised; what they printed was printed, and the
    store is the one that the copy leaves.  If the hooks spare the scope that was copied, each of
    its names is bound to what it was bound to before, and no others are; hooks that only bind and
    replace names of the copy do spare it.  The statement is answered as failed, unless a hook
    asked to exit. -/
theorem dispatch_of_fails_keeps (I : Interpreter μ ν) {w : Worker μ ν} {request : Wire.Message}
    {statement expanded : String} (hmethod : request.field "method" = .str "evaluate")
    (hbody : (request.field "body").string? = some statement)
    (hexpand : w.expand statement = .ok expanded)
    (hfails : Fails (w.execute I statement expanded)) :
    (Spares I (w.onCopy I) w.failureHooks →
      (w.dispatch I request).state.store.scope = w.store.scope) ∧
    ((∀ hook ∈ w.failureHooks, KeepsMemory I hook) →
      (w.dispatch I request).state.store.scope = w.store.scope) ∧
    (w.failureHooks ≠ [] → (w.dispatch I request).state.store =
      I.leaveCopy ((w.onCopy I).runHooks I w.failureHooks).state.store) ∧
    (w.dispatch I request).state.exports = w.exports ∧
    w.SameButStore (w.dispatch I request).state ∧
    HooksEnd I (w.onCopy I) w.failureHooks ((w.onCopy I).runHooks I w.failureHooks) ∧
    (w.dispatch I request).output = (w.execute I statement expanded).output ++
      ((w.onCopy I).runHooks I w.failureHooks).output ∧
    ((∀ code, ((w.onCopy I).runHooks I w.failureHooks).result ≠ .error (.exit code)) →
      ∃ frame, Wire.pack failedResponse.toJson = .ok frame ∧
        (w.dispatch I request).result = .ok ((.failed, failedResponse), frame)) := by
  have hanswer := answer_of_statement (I := I) w hmethod hbody
  have hsame := sameButStore_runFailureHooks (I := I) w
  -- the worker, and what was printed, are those of the hooks
  have hstate : (w.dispatch I request).state = (w.runFailureHooks I).state := by
    rw [dispatch_state, hanswer, answerEvaluate_of_fails hexpand hfails]
    exact respondFailed_state w request
  have hexports : (w.runFailureHooks I).state.exports = w.exports := by
    rw [hsame]
  have houtput : (w.dispatch I request).output = (w.execute I statement expanded).output ++
      ((w.onCopy I).runHooks I w.failureHooks).output := by
    rw [dispatch_output, hanswer, answerEvaluate_of_fails hexpand hfails]
    dsimp only
    rw [respondFailed_output, runFailureHooks_output]
  rw [hstate]
  exact ⟨runFailureHooks_scope, fun h => runFailureHooks_scope (spares_of_memory h),
    runFailureHooks_store, hexports, hsame, hooksEnd_runHooks _ _, houtput,
    dispatch_result_of_fails hmethod hbody hexpand hfails⟩

/-- A worker that knows one name, with hooks that replace it, in the scope and from outside, that
    show what they see of each other, and of which the fourth raises. -/
def meddlingWorker : Worker Language.Memory Language.Datum :=
  { freshWorker with
    store := ⟨{}, [("x", .int 1)]⟩
    exports := [("x", .int 1)]
    failureHooks := [
      .code "x = 2",
      .callable fun seen =>
        { onScope := fun scope => bindEntry scope "x" (.int 7)
          onExports := fun _ => []
          bindings := [("y", (lookup? "x" seen).getD .none)] },
      .code "print(x, y)",
      .invalid "int",
      .code "print(3)"] }

/-- Whether a scope binds the name `x` to one, and nothing else. -/
def bindsOne : Bindings Language.Datum → Bool
  | [("x", .int n)] => n == 1
  | _ => false

/-- Two scopes that bind `x` to one and nothing else are the same. -/
theorem eq_of_bindsOne {scope scope' : Bindings Language.Datum} (h : bindsOne scope = true)
    (h' : bindsOne scope' = true) : scope = scope' := by
  have hone : ∀ b, bindsOne b = true → b = [("x", .int 1)] := by
    intro b hb
    unfold bindsOne at hb
    split at hb
    · rw [beq_iff_eq.mp hb]
    · cases hb
  rw [hone scope h, hone scope' h']

/-- A statement that asks for a name that is not bound. -/
def strayName : Wire.Message :=
  .request (.str "evaluate") (.str "z")

/-- Hooks that replace `x`, in the copy and from outside, leave it as it was. -/
theorem dispatch_of_fails_keeps_meddling :
    Fails (meddlingWorker.execute (Language.interpreter {}) "z" "z") ∧
    Spares (Language.interpreter {}) (meddlingWorker.onCopy (Language.interpreter {}))
      meddlingWorker.failureHooks ∧
    (meddlingWorker.dispatch (Language.interpreter {}) strayName).state.store.scope =
      [("x", .int 1)] ∧
    (meddlingWorker.dispatch (Language.interpreter {}) strayName).state.exports =
      [("x", .int 1)] ∧
    (meddlingWorker.dispatch (Language.interpreter {}) strayName).output = "7 2\n" ∧
    ∃ frame, Wire.pack failedResponse.toJson = .ok frame ∧
      (meddlingWorker.dispatch (Language.interpreter {}) strayName).result =
        .ok ((.failed, failedResponse), frame) := by
  have hfails : Fails (meddlingWorker.execute (Language.interpreter {}) "z" "z") :=
    .inl ⟨.unboundName, "", by decide +kernel⟩
  have hraised : ((meddlingWorker.onCopy (Language.interpreter {})).runHooks
      (Language.interpreter {}) meddlingWorker.failureHooks).result =
        .error (.fault (.notAHook "int")) := by
    decide +kernel
  have hmethod : strayName.field "method" = .str "evaluate" := rfl
  have hbody : (strayName.field "body").string? = some "z" := rfl
  have hexpand : meddlingWorker.expand "z" = .ok "z" := by decide +kernel
  -- none of the hooks that run changes the scope that was copied
  have hspares : Spares (Language.interpreter {}) (meddlingWorker.onCopy (Language.interpreter {}))
      meddlingWorker.failureHooks := by
    refine ⟨?_, fun _ => ⟨?_, fun _ => ⟨?_, fun _ => ⟨?_, fun _ => ⟨?_, fun _ => trivial⟩⟩⟩⟩⟩ <;>
      exact eq_of_bindsOne (by decide +kernel) (by decide +kernel)
  obtain ⟨hscope, -, -, hexports, -, -, -, hanswered⟩ :=
    dispatch_of_fails_keeps (Language.interpreter {}) hmethod hbody hexpand hfails
  refine ⟨hfails, hspares, hscope hspares, hexports, by decide +kernel, hanswered ?_⟩
  intro code hexit
  rw [hraised] at hexit
  cases hexit

/-- A worker whose failure hook calls a function. -/
def bumpingWorker : Worker Language.Memory Language.Datum :=
  { freshWorker with failureHooks := [.code "bump()"] }

/-- A binding, and a function that binds the same name globally. -/
def bumpingRequests : List Wire.Message :=
  [.request (.str "evaluate") (.str "n = 1"),
    .request (.str "evaluate") (.str "def bump():\n  global n\n  n = 5\n")]

/-- The number that a name is bound to behind requests, and how each of them was answered. -/
def numberBehind (w : Worker Language.Memory Language.Datum) (requests : List Wire.Message)
    (name : String) : Option (List Wire.Status × Option Int) :=
  (w.dispatchAll (Language.interpreter {}) requests).toOption.map fun run =>
    (run.1.map fun s => s.reply.1, (lookup? name run.2.store.scope).bind Language.int?)

/-- A statement that fails changes what a name of the scope is bound to, by way of a hook that
    calls a function from before. -/
theorem dispatch_of_fails_bumping :
    numberBehind bumpingWorker bumpingRequests "n" = some ([.ok, .ok], some 1) ∧
    numberBehind bumpingWorker (bumpingRequests ++ [strayName]) "n" =
      some ([.ok, .ok, .failed], some 5) := by
  decide +kernel

end ReplEngine.Worker
