import ReplEngine.Worker.Request
import ReplEngine.Session.Basic

/-!
# Workers as peers of a session

A session asks a worker that runs beside it.  A worker that has exited or broken down is
gone, and whoever asks it finds the connection closed.
-/

namespace ReplEngine.Worker

variable {μ ν : Type}

/-- The complaint of a session whose worker is gone. -/
def goneComplaint : String := Error.message .connectionClosed

/-- Asks a worker, if there still is one. -/
def peer (I : Interpreter μ ν) : Peer (Option (Worker μ ν)) := fun method body w? =>
  match w? with
  | none => { peer := none, result := .error goneComplaint }
  | some w =>
    let r := w.answer I (.request (.str method) body)
    match r.result with
    | .error _ => { peer := none, output := r.output, result := .error goneComplaint }
    | .ok (.exited, response) => { peer := none, output := r.output, result := .ok response }
    | .ok (_, response) => { peer := some r.state, output := r.output, result := .ok response }

end ReplEngine.Worker
