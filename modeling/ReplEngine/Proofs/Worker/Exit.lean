import ReplEngine.Proofs.Worker.FailureHooks
import ReplEngine.Proofs.Worker.Service

/-!
# Statements that exit

A statement that asks to exit is answered by an exit with its status, the lowest byte of the
number that it gave, and the worker then stops.  One status stands for an error, though, and an
exit with that status is taken for one: the statement is answered as failed, and the worker goes
on as if nobody had asked it to stop.

## Key results

- `exitsWith_of_status_ne`: an exit is answered with its status, and nothing more is read
- `answer_of_status_eq`: an exit with the status of an error is answered like an error
- `exitsWith_iff_mod`: which exits are answered as such
-/

namespace ReplEngine.Worker

variable {μ ν : Type} {I : Interpreter μ ν} {w : Worker μ ν} {f : RequestFrame}
  {statement expanded : String} {code : ExitCode}

/-! ### Statuses -/

/-- A number is the status of an error if it leaves 255. -/
theorem status_number_eq_iff (n : Int) :
    (ExitCode.number n).status = abnormalStatus ↔ n % 256 = 255 := by
  rw [ExitCode.status, abnormalStatus]
  omega

/-- The response to a statement that has exited. -/
def exitResponse (status : Nat) : Wire.Message :=
  .response (.str "evaluate") Wire.Status.exited.name (.ofNat status)

/-- The response to an exit always fits in a frame. -/
theorem exists_pack_exitResponse (code : ExitCode) :
    ∃ frame, Wire.pack (exitResponse code.status).toJson = .ok frame := by
  -- a byte has three digits at most
  have hdigits : (Nat.toDigits 10 code.status).length ≤ 3 :=
    (Nat.length_toDigits_le_iff (by decide) (by decide)).mpr (by have := status_lt code; omega)
  have hlength : (Json.ofNat code.status).render.length ≤ 1000 := by
    have := Json.length_toString_le (code.status : Int)
    rw [Int.natAbs_natCast] at this
    rw [Json.ofNat, Json.render]
    omega
  exact Wire.exists_pack_response .exited (isWritable_status code) hlength

/-! ### Answers -/

/-- A worker that answers the request of a frame by an exit with a status, and in service reads
    nothing behind it. -/
structure ExitsWith (I : Interpreter μ ν) (w : Worker μ ν) (f : RequestFrame) (status : Nat) :
    Prop where
  answered : (w.answer I f.request).result = .ok (.exited, exitResponse status)
  stops : ∀ (fuel : Nat) (inlet : Wire.Inlet) (more : List UInt8), inlet.bytes = f.bytes ++ more →
    ∃ frame, Wire.pack (exitResponse status).toJson = .ok frame ∧
      (w.serveRequests I (fuel + 1) inlet).written = [frame] ∧
      (w.serveRequests I (fuel + 1) inlet).ending = .returned ∧
      (w.serveRequests I (fuel + 1) inlet).inlet.bytes = more

section Statement

variable (hmethod : f.request.field "method" = .str "evaluate")
  (hbody : (f.request.field "body").string? = some statement)
  (hexpand : w.expand statement = .ok expanded)
  (hexit : (w.execute I statement expanded).result = .error (.exit code))

include hmethod hbody hexpand hexit

/-- An exit is answered with its status, unless that is the status of an error. -/
theorem answer_of_status_ne (h : code.status ≠ abnormalStatus) :
    (w.answer I f.request).result = .ok (.exited, exitResponse code.status) := by
  rw [answer_of_statement w hmethod hbody]
  unfold answerEvaluate
  simp only [hexpand, hexit, if_neg h, respond, hmethod]
  rfl

/-- Behind an exit nothing is read. -/
theorem exitsWith_of_status_ne (h : code.status ≠ abnormalStatus) :
    ExitsWith I w f code.status := by
  have hanswer := answer_of_status_ne hmethod hbody hexpand hexit h
  refine ⟨hanswer, ?_⟩
  intro fuel inlet more hbytes
  obtain ⟨frame, hframe⟩ := exists_pack_exitResponse code
  obtain ⟨rest, hready, hrest⟩ := receiveReady_frame hbytes
  have hdispatch := dispatch_of_answer hanswer hframe
  refine ⟨frame, hframe, ?_⟩
  -- one round of service, with the frame of the exit as its last
  rw [serveRequests]
  simp only [hready, f.asRequest_eq, hdispatch]
  exact ⟨trivial, trivial, hrest⟩

/-- An exit with the status of an error is answered like an error, behind the failure hooks. -/
theorem answer_of_status_eq (h : code.status = abnormalStatus) :
    (w.answer I f.request).result = (w.respondFailed I f.request).result := by
  rw [answer_of_statement w hmethod hbody,
    answerEvaluate_of_fails hexpand (.inr ⟨code, hexit, h⟩)]

end Statement

/-- A failure is never answered by an exit. -/
theorem respondFailed_ne_exited (w : Worker μ ν) (request response : Wire.Message) :
    (w.respondFailed I request).result ≠ .ok (.exited, response) := by
  unfold respondFailed Ran.andThen
  split
  · simp
  · simp [respond, Ran.done]

/-- A statement ends with the wish to exit.  Without a number it is answered by an exit with the
    status 0, with a complaint by one with the status 1.  With a number it is answered by an exit
    with the number modulo 256 exactly if that is not 255, the status of an error; then it is
    answered as failed behind the failure hooks, unless one of them exits.  A worker that answers
    by an exit stops there, and no other exit is ever answered as failed. -/
theorem exitsWith_iff_mod (I : Interpreter μ ν) {w : Worker μ ν} {f : RequestFrame}
    {statement expanded : String} {code : ExitCode}
    (hmethod : f.request.field "method" = .str "evaluate")
    (hbody : (f.request.field "body").string? = some statement)
    (hexpand : w.expand statement = .ok expanded)
    (hexit : (w.execute I statement expanded).result = .error (.exit code)) :
    (code = .none → ExitsWith I w f 0) ∧
    (∀ text, code = .complaint text → ExitsWith I w f 1) ∧
    (∀ n : Int, code = .number n → (ExitsWith I w f (n % 256).toNat ↔ n % 256 ≠ 255)) ∧
    (∀ n : Int, code = .number n → n % 256 = 255 →
      (∀ code, ((w.onCopy I).runHooks I w.failureHooks).result ≠ .error (.exit code)) →
      ∃ frame, Wire.pack failedResponse.toJson = .ok frame ∧
        (w.dispatch I f.request).result = .ok ((.failed, failedResponse), frame)) ∧
    ((∃ response, (w.answer I f.request).result = .ok (.failed, response)) →
      ∃ n : Int, code = .number n ∧ n % 256 = 255) := by
  have hexits := exitsWith_of_status_ne hmethod hbody hexpand hexit
  refine ⟨?_, ?_, ?_, ?_, ?_⟩
  · rintro rfl
    exact hexits (by decide)
  · rintro text rfl
    have hone : (ExitCode.complaint text).status ≠ abnormalStatus := by
      rw [ExitCode.status]
      decide
    exact hexits hone
  · rintro n rfl
    constructor
    · -- the status of an error is answered behind the failure hooks, and never by an exit
      intro hn hmod
      have hanswer := hn.answered
      rw [answer_of_status_eq hmethod hbody hexpand hexit ((status_number_eq_iff n).mpr hmod)]
        at hanswer
      exact respondFailed_ne_exited w _ _ hanswer
    · intro hmod
      exact hexits fun hstatus => hmod ((status_number_eq_iff n).mp hstatus)
  · rintro n rfl hmod hhooks
    exact dispatch_result_of_fails hmethod hbody hexpand
      (.inr ⟨_, hexit, (status_number_eq_iff n).mpr hmod⟩) hhooks
  · rintro ⟨response, hfailed⟩
    -- an exit that is answered as such is not answered as failed
    have hstatus : code.status = abnormalStatus := by
      by_contra hne
      rw [(hexits hne).answered] at hfailed
      cases hfailed
    cases code with
    | none => exact absurd hstatus (by decide)
    | complaint text => exact absurd hstatus (show (1 : Nat) ≠ abnormalStatus by decide)
    | number n => exact ⟨n, rfl, (status_number_eq_iff n).mp hstatus⟩

/-- A statement that exits with the number -1. -/
def exitBelowZero : RequestFrame :=
  .ofRequest (.str "evaluate") (.str "raise SystemExit(-1)") (by decide) (by decide)
    (by decide +kernel)

/-- The exit of `exitBelowZero` goes unnoticed: it is answered as failed, and by no exit. -/
theorem exitBelowZero_answered_failed :
    (freshWorker.execute (Language.interpreter {}) "raise SystemExit(-1)"
      "raise SystemExit(-1)").result = .error (.exit (.number (-1))) ∧
    (freshWorker.answer (Language.interpreter {}) exitBelowZero.request).result =
      .ok (.failed, failedResponse) ∧
    ∀ status, ¬ ExitsWith (Language.interpreter {}) freshWorker exitBelowZero status := by
  have hexpand : freshWorker.expand "raise SystemExit(-1)" = .ok "raise SystemExit(-1)" := by
    decide +kernel
  -- minus one is 255 modulo 256
  have hexit : (freshWorker.execute (Language.interpreter {}) "raise SystemExit(-1)"
      "raise SystemExit(-1)").result = .error (.exit (.number (-1))) := by
    decide +kernel
  have hanswer := answer_of_status_eq (f := exitBelowZero) rfl rfl hexpand hexit (by decide)
  -- There are no failure hooks, so nothing stands between the exit and the response.
  have hfailed : (freshWorker.respondFailed (Language.interpreter {})
      exitBelowZero.request).result = .ok (.failed, failedResponse) := rfl
  rw [hfailed] at hanswer
  refine ⟨hexit, hanswer, ?_⟩
  intro status hexits
  rw [hexits.answered] at hanswer
  cases hanswer

/-- The frame of a statement that exits with a number beyond one byte. -/
def exitBeyondByte : RequestFrame :=
  .ofRequest (.str "evaluate") (.str "raise SystemExit(258)") (by decide) (by decide)
    (by decide +kernel)

/-- The number 258 is answered by an exit with the status 2. -/
theorem exitsWith_iff_mod_beyond :
    (freshWorker.execute (Language.interpreter {}) "raise SystemExit(258)"
      "raise SystemExit(258)").result = .error (.exit (.number 258)) ∧
    ExitsWith (Language.interpreter {}) freshWorker exitBeyondByte 2 := by
  have hexpand : freshWorker.expand "raise SystemExit(258)" = .ok "raise SystemExit(258)" := by
    decide +kernel
  have hexit : (freshWorker.execute (Language.interpreter {}) "raise SystemExit(258)"
      "raise SystemExit(258)").result = .error (.exit (.number 258)) := by
    decide +kernel
  have hexits := exitsWith_iff_mod (Language.interpreter {}) (f := exitBeyondByte) rfl rfl hexpand
    hexit
  exact ⟨hexit, (hexits.2.2.1 258 rfl).mpr (by decide)⟩

end ReplEngine.Worker
