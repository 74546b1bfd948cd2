import ReplEngine.Worker.Basic
import ReplEngine.Wire.Message
import ReplEngine.Value.Message

/-!
# Requests to a worker

A worker answers each request with one response.  A statement runs on a copy of the
worker, which takes its place if the statement succeeds and is dropped if it fails.
Contexts of completions and lookups are evaluated on a copy that is always dropped.  A lookup
that has nothing to evaluate runs in the worker itself, and there it may ask objects of the
program to describe themselves.
-/

namespace ReplEngine

/-- What a symbol tells, as JSON; a value that cannot travel is told by its text. -/
def Annotation.toJson (a : Annotation) : Json :=
  .obj (a.map fun (key, value) =>
    (key, match value.toJson with
      | .ok j => j
      | .error _ => .ofString? value.text.toOption))

/-- An offer as JSON, with the cursor that was asked for. -/
def Program.Offer.toJson (o : Program.Offer) (cursor : Cursor.Requested) (length : Nat) : Json :=
  .obj [("start", .int o.start), ("end", cursor.report length),
    ("completions", .ofStrings o.texts)]

/-- A place in a file as JSON. -/
def Location.toJson (l : Location) : Json :=
  .obj [("file", .str l.file), ("line", (l.line.map fun n => .int n.toInt).getD .null)]

/-- An answer as JSON, null if there is none. -/
def Json.ofOption {α : Type} (f : α → Json) : Option α → Json
  | some a => f a
  | none => .null

namespace Worker

variable {μ ν : Type} (I : Interpreter μ ν)

/-- What answering a request comes to: how it ended, and the response. -/
abbrev Reply := Wire.Status × Wire.Message

/-- Answers a request. -/
def respond (w : Worker μ ν) (request : Wire.Message) (status : Wire.Status) (body : Json) :
    Ran (Worker μ ν) Reply :=
  .done w (status, .response (request.field "method") status.name body)

/-- Refuses a request. -/
def refuse (w : Worker μ ν) (request : Wire.Message) : Ran (Worker μ ν) Reply :=
  w.respond request .failed
    (.obj [("error", .str ("bad request: " ++ (request.field "method").text))])

/-- The exit status that stands for an error. -/
def abnormalStatus : Nat := 255

/-- Answers that a statement has failed, after the failure hooks. -/
def respondFailed (w : Worker μ ν) (request : Wire.Message) : Ran (Worker μ ν) Reply :=
  (w.runFailureHooks I).andThen fun w _ => w.respond request .failed .null

/-- Evaluates a statement.  A statement that fails leaves nothing but what it printed; an
exit with the status of an error counts as a failure. -/
def answerEvaluate (w : Worker μ ν) (request : Wire.Message) (statement : String) :
    Ran (Worker μ ν) Reply :=
  match w.expand statement with
  | .error r => .failed w r
  | .ok expanded =>
    let r := w.execute I statement expanded
    let reply := match r.result with
      | .ok _ => r.state.respond request .ok .null
      | .error (.exit code) =>
        if code.status = abnormalStatus then w.respondFailed I request
        else w.respond request .exited (.ofNat code.status)
      | .error (.fault _ _) => w.respondFailed I request
    { reply with output := r.output ++ reply.output }

/-- The fields of a request's body, which may be missing. -/
def bodyFields? (request : Wire.Message) : Option Json :=
  match request.field "body" with
  | .null => some (.obj [])
  | .obj fields => some (.obj fields)
  | .looseObj fields => some (.looseObj fields)
  | _ => none

/-- A lookup in a process, whose store it may change, and which may print and ask to exit. -/
def Lookup (μ ν α : Type) : Type :=
  Store μ ν → Ran (Store μ ν) α

instance : Monad (Lookup μ ν) where
  pure a := fun store => .done store a
  bind look next := fun store => (look store).andThen fun store a => next a store

/-- Evaluates contexts in the process that looks something up. -/
def contextEvaluator : Program.EvaluatorIn (Lookup μ ν) := fun text store =>
  let r := I.evaluate text store
  { state := r.state, output := r.output, result := .ok r.result.toOption }

/-- Asks the objects of the process that looks something up. -/
def inquiry : Inquiry (ExceptT Error (Lookup μ ν)) (Lookup μ ν) where
  describe
    | .data v => ExceptT.mk (pure v.repr)
    | .object number => ExceptT.mk fun store => (I.describe number store).caught
  lift x := ExceptT.mk (pure x)
  attempt x := x.run

/-- Looks something up in the worker itself. -/
def lookInPlace {α : Type} (w : Worker μ ν) (look : Lookup μ ν α) : Ran (Worker μ ν) α :=
  (look w.store).mapState fun store => { w with store := store }

/-- Looks something up in a copy of the worker, of which nothing is left but the answer.  There
is none if the copy exits. -/
def lookInCopy (w : Worker μ ν) (look : Lookup μ ν Json) : Ran (Worker μ ν) Json :=
  .done w ((look w.store).result.toOption.getD .null)

/-- The line that a body is about. -/
def lineOf (body : Json) : List Char :=
  ((body.field? "line").map (·.text.toList)).getD []

/-- Looks something up at the cursor of a body.  A context is evaluated only if that is needed,
and then on a copy of the worker. -/
def answerAtCursor (w : Worker μ ν) (request : Wire.Message) (body : Json)
    (needed : List Char → Int → Bool)
    (answer : Program → Option (Program.EvaluatorIn (Lookup μ ν)) → List Char →
      Cursor.Requested → Lookup μ ν Json) :
    Ran (Worker μ ν) Reply :=
  match Cursor.Requested.ofJson (body.field "cursorOffset") with
  | .error e => .failed w (.fault (.engine e))
  | .ok cursor =>
    let line := lineOf body
    let p := I.program w.store
    let looked := if needed line (cursor.position line.length)
      then w.lookInCopy (answer p (some (contextEvaluator I)) line cursor)
      else w.lookInPlace (answer p none line cursor)
    looked.andThen fun w found => w.respond request .ok found

/-- Answers a request for completions. -/
def answerComplete (w : Worker μ ν) (request : Wire.Message) (body : Json) :
    Ran (Worker μ ν) Reply :=
  w.answerAtCursor I request body Program.needsEvaluation fun p eval line cursor => do
    return .ofOption (·.toJson cursor line.length)
      (← p.completeIn eval false line (cursor.position line.length))

/-- Answers a lookup of the function being called. -/
def answerLookup {α : Type} (w : Worker μ ν) (request : Wire.Message) (body : Json)
    (toJson : α → Json)
    (look : Program → Option (Program.EvaluatorIn (Lookup μ ν)) → List Char → Int →
      Lookup μ ν (Option α)) :
    Ran (Worker μ ν) Reply :=
  w.answerAtCursor I request body Program.needsDocEvaluation fun p eval line cursor => do
    return .ofOption toJson (← look p eval line (cursor.position line.length))

/-- Answers a search for symbols. -/
def answerApropos (w : Worker μ ν) (request : Wire.Message) (body : Json) :
    Ran (Worker μ ν) Reply :=
  let look : Lookup μ ν Json := do
    let found ← (I.program w.store).aproposIn (inquiry I) (.ofJson (body.field "filter"))
      (.ofJson (body.field "kind"))
    return .arr (found.map Annotation.toJson)
  (w.lookInPlace look).andThen fun w found => w.respond request .ok found

/-- Answers which classes stand in a relation to a name. -/
def answerWho (w : Worker μ ν) (request : Wire.Message) (body : Json) : Ran (Worker μ ν) Reply :=
  match (body.field "relation").string?, (body.field "name").string? with
  | some relation, some name =>
    if (Relation.ofName? relation).isSome then
      let found := (I.program w.store).who relation name
      w.respond request .ok (.arr (found.map Annotation.toJson))
    else w.refuse request
  | _, _ => w.refuse request

/-- Answers a request about a body of fields; `none` for an unknown method. -/
def answerFields? (w : Worker μ ν) (request : Wire.Message) (body : Json) (method : String) :
    Option (Ran (Worker μ ν) Reply) :=
  match method with
  | "complete" => some (w.answerComplete I request body)
  | "apropos" => some (w.answerApropos I request body)
  | "hint" => some (w.answerLookup I request body .str (Program.hintIn (inquiry I)))
  | "document" => some (w.answerLookup I request body .str (Program.documentationIn (inquiry I)))
  | "locate" => some (w.answerLookup I request body Location.toJson Program.locateIn)
  | "who" => some (w.answerWho I request body)
  | _ => none

/-- Answers a request. -/
def answer (w : Worker μ ν) (request : Wire.Message) : Ran (Worker μ ν) Reply :=
  match request.field "method" with
  | .str "evaluate" =>
    match (request.field "body").string? with
    | some statement => w.answerEvaluate I request statement
    | none => w.refuse request
  | .str method =>
    match bodyFields? request with
    | none => w.refuse request
    | some body => (w.answerFields? I request body method).getD (w.refuse request)
  | _ => w.refuse request

end Worker

end ReplEngine
