import ReplEngine.Worker.Request
import ReplEngine.Wire.Transport

/-!
# Service

A worker in service reads requests off a stream, one after the other, and writes a
response to each, until a statement exits.  Before the first request it runs its start
hooks and announces that it is ready.
-/

namespace ReplEngine

/-- How a service stops. -/
inductive ServiceEnd where
  /-- A statement has exited. -/
  | returned
  | raised (r : Raised)
  /-- Nothing has arrived, and more may come. -/
  | waiting

/-- What a service leaves behind. -/
structure Service (μ ν : Type) where
  worker : Worker μ ν
  inlet : Wire.Inlet
  /-- What was written, piece by piece. -/
  written : List (List UInt8) := []
  output : String := ""
  ending : ServiceEnd

namespace Worker

variable {μ ν : Type} (I : Interpreter μ ν)

/-- Answers a request and writes the answer as a frame, which fails if it does not fit one. -/
def dispatch (w : Worker μ ν) (request : Wire.Message) :
    Ran (Worker μ ν) (Reply × List UInt8) :=
  (w.answer I request).andThen fun w reply =>
    match Wire.pack reply.2.toJson with
    | .error e => .failed w (.fault (.engine e))
    | .ok frame => .done w (reply, frame)

/-- Serves the requests of a stream.  Every request takes bytes off the stream, so that
`fuel` bounds their number. -/
def serveRequests (fuel : Nat) (w : Worker μ ν) (inlet : Wire.Inlet) : Service μ ν :=
  match fuel with
  | 0 => { worker := w, inlet := inlet, ending := .waiting }
  | fuel + 1 =>
    let stop (inlet : Wire.Inlet) (e : Error) : Service μ ν :=
      { worker := w, inlet := inlet, ending := .raised (.fault (.engine e)) }
    match inlet.receiveReady with
    | (.error e, inlet) => stop inlet e
    | (.ok none, inlet) => { worker := w, inlet := inlet, ending := .waiting }
    | (.ok (some message), inlet) =>
      match message.asRequest with
      | .error e => stop inlet e
      | .ok request =>
        let r := w.dispatch I request
        match r.result with
        | .error raised =>
          { worker := r.state, inlet := inlet, output := r.output, ending := .raised raised }
        | .ok ((status, _), frame) =>
          let rest : Service μ ν := match status with
            | .exited => { worker := r.state, inlet := inlet, ending := .returned }
            | _ => r.state.serveRequests fuel inlet
          { rest with written := frame :: rest.written, output := r.output ++ rest.output }

end Worker

end ReplEngine
