import ReplEngine.Json.SourceText
import ReplEngine.Error

/-!
# Messages

The two ends of a session exchange requests and responses.  A message is a JSON
object that says by its field `type` which of the two it is; what else it holds,
and in which order, is kept.
-/

namespace ReplEngine.Wire

/-- The two kinds of messages. -/
inductive Kind where
  | request
  | response
deriving Repr, DecidableEq

/-- How a request ended. -/
inductive Status where
  | ok
  | exited
  | failed
deriving Repr, DecidableEq

/-- The name of a status on the wire. -/
def Status.name : Status → String
  | .ok => "ok"
  | .exited => "exited"
  | .failed => "failed"

/-- The status of a name. -/
def Status.ofName? : String → Option Status
  | "ok" => some .ok
  | "exited" => some .exited
  | "failed" => some .failed
  | _ => none

/-- A message: its kind and the object with all of its fields. -/
structure Message where
  kind : Kind
  toJson : Json

namespace Message

/-- The field of a message, null when it has none of that name. -/
def field (m : Message) (key : String) : Json :=
  m.toJson.field key

/-- A message as the text that complaints show. -/
def shown (m : Message) : String :=
  m.toJson.sourceText

/-- The message that a JSON value is. -/
def ofJson (j : Json) : Except Error Message :=
  if j.isObject then
    match j.field "type" with
    | .str "request" => .ok ⟨.request, j⟩
    | .str "response" => .ok ⟨.response, j⟩
    | kind => .error (kind.unhashable?.elim (.notAMessage j.sourceText) .unhashable)
  else .error (.notAMessage j.sourceText)

/-- A request. -/
def request (method body : Json) : Message :=
  ⟨.request, .obj [("type", .str "request"), ("method", method), ("body", body)]⟩

/-- A response to a request, which it names by its method. -/
def response (method : Json) (status : String) (body : Json) : Message :=
  ⟨.response, .obj [("type", .str "response"), ("method", method), ("status", .str status),
    ("body", body)]⟩

/-- The status of a response. -/
def status? (m : Message) : Option Status :=
  (m.field "status").str?.bind Status.ofName?

/-- The message, if it is a request. -/
def asRequest (m : Message) : Except Error Message :=
  match m.kind with
  | .request => .ok m
  | .response => .error (.notARequest m.shown)

/-- The message and its status, if it is a response with a known status. -/
def asResponse (m : Message) : Except Error (Message × Status) :=
  match m.kind with
  | .request => .error (.notAResponse m.shown)
  | .response =>
    match m.status? with
    | some status => .ok (m, status)
    | none => .error ((m.field "status").unhashable?.elim (.notAResponse m.shown) .unhashable)

end Message

end ReplEngine.Wire
