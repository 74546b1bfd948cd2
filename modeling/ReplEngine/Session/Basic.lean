import ReplEngine.Session.Event
import ReplEngine.Session.Completion
import ReplEngine.Scan.Statement

/-!
# Sessions

A session reads lines, cuts them into statements, and has a worker evaluate one statement
after the other.  What is left of the lines is kept in a buffer and stands before the next
line.  Lines that start with a colon ask for something about the program instead.

The worker is a `Peer`: all that a session knows about it is what it answers.
-/

namespace ReplEngine

/-- Whether a text holds nothing but blank lines and comments. -/
def isCommentary (text : String) : Bool :=
  (Text.splitLines text.toList).all fun l => Text.isBlank l || (Text.trimLeft l).head? == some '#'

/-- The statement that is sent when the input ends. -/
def endStatement : String := "raise SystemExit(0)"

/-- The prompt for a line that continues the buffer. -/
def continuationPrompt : String := "*> "

/-- The prompt for a line: its number and the prompt of the session, or the prompt for
continued lines, which ends at the same column. -/
def promptFor (prompt : String) (number : Int) (buffer : String) : String :=
  "[" ++ toString number ++ "] " ++
    if buffer.isEmpty then prompt else Text.padLeft prompt.length continuationPrompt

/-- What a peer does with a request: its new state, what it printed, and its response or
a complaint about the connection. -/
structure Asked (σ : Type) where
  peer : σ
  output : String := ""
  result : Except String Wire.Message

/-- Something that answers requests. -/
abbrev Peer (σ : Type) := String → Json → σ → Asked σ

/-- How a session ends: with an exit code, or by a response that cannot be used. -/
inductive SessionEnd where
  | code (n : Nat)
  | crashed (e : Error)

/-- A session with a worker. -/
structure Session (σ : Type) where
  peer : σ
  prompt : String := "quill> "
  /-- Whether the first failure ends the session. -/
  stopOnFailure : Bool := false
  /-- Whether the lines that are read are printed. -/
  echo : Bool := false
  /-- What was typed and not sent. -/
  buffer : String := ""
  /-- The number of the next line. -/
  number : Nat := 1
  /-- What has happened. -/
  events : List Event := []
  ending : Option SessionEnd := none

namespace Session

variable {σ : Type}

/-- Notes an event. -/
def log (s : Session σ) (e : Event) : Session σ :=
  { s with events := s.events ++ [e] }

/-- Prints a text, if there is one. -/
def print (s : Session σ) (text : String) : Session σ :=
  if text.isEmpty then s else s.log (.out text)

/-- Ends the session. -/
def finish (s : Session σ) (ending : SessionEnd) : Session σ :=
  { s with ending := some ending }

/-- Ends the session with a complaint. -/
def fail (s : Session σ) (complaint : String) : Session σ :=
  (s.log (.err ("quill: " ++ complaint ++ "\n"))).finish (.code 1)

/-- Asks the worker. -/
def ask (peer : Peer σ) (s : Session σ) (method : String) (body : Json) :
    Except String Wire.Message × Session σ :=
  let a := peer method body s.peer
  (a.result, ({ s with peer := a.peer }.log (.request method body)).print a.output)

/-- Sends the statement that ends the worker; whatever it answers, the session has
failed. -/
def abandon (peer : Peer σ) (s : Session σ) : Session σ :=
  match s.ask peer "evaluate" (.str (endStatement ++ "\n")) with
  | (.error complaint, s) => s.fail complaint
  | (.ok _, s) => s.finish (.code 1)

/-- Evaluates statements one after the other, up to the first that fails or exits. -/
def evaluateAll (peer : Peer σ) (s : Session σ) : List String → Session σ
  | [] => s
  | statement :: rest =>
    if Text.isBlank statement.toList then s.evaluateAll peer rest
    else
      match s.ask peer "evaluate" (.str statement) with
      | (.error complaint, s) => s.fail complaint
      | (.ok response, s) =>
        match response.status? with
        | some .exited => (s.log .saved).finish (.code 0)
        | some .failed => if s.stopOnFailure then s.abandon peer else s
        | _ => s.evaluateAll peer rest

/-- The line that tells about a symbol. -/
def symbolLine (info : Json) : Except Error String := do
  let description ← info.partOrNull "description"
  let name ← (← info.part "name").padded 32
  let kind ← (← info.part "kind").padded 16
  let text := if description.isTruthy then description.text else ""
  return String.ofList (Text.trimRight (name ++ " " ++ kind ++ " " ++ text).toList)

/-- Prints a line for each item, up to the first that cannot be used. -/
def printEach (line : Json → Except Error String) (s : Session σ) : List Json → Session σ
  | [] => s
  | item :: rest =>
    match line item with
    | .ok text => (s.print (text ++ "\n")).printEach line rest
    | .error e => s.finish (.crashed e)

/-- Prints a line for each item of a body. -/
def printItems (line : Json → Except Error String) (s : Session σ) (body : Json) : Session σ :=
  match body.walkIfAny with
  | .ok items => s.printEach line items
  | .error e => s.finish (.crashed e)

/-- How commands are written. -/
def usage : String :=
  "usage: :doc <name> | :apropos <terms...> | :who <implements|extends|uses> <Name>"

/-- Asks the worker and goes on with its response. -/
def asking (peer : Peer σ) (s : Session σ) (method : String) (body : Json)
    (next : Session σ → Wire.Message → Session σ) : Session σ :=
  match s.ask peer method body with
  | (.error complaint, s) => s.fail complaint
  | (.ok response, s) => next s response

/-- Shows the documentation of a name. -/
def showDoc (peer : Peer σ) (s : Session σ) (name : String) : Session σ :=
  let call := if Text.endsWith "(" name then name else name ++ "("
  let body := Json.obj [("line", .str call), ("cursorOffset", .ofNat call.length)]
  s.asking peer "document" body fun s response =>
    let body := response.field "body"
    s.print ((if body.isTruthy then body.text else "No documentation for " ++ name) ++ "\n")

/-- Shows the symbols that match all terms. -/
def showApropos (peer : Peer σ) (s : Session σ) (terms : List String) : Session σ :=
  let body := Json.obj [("filter", .ofStrings terms), ("kind", .null)]
  s.asking peer "apropos" body fun s response =>
    s.printItems symbolLine (response.field "body")

/-- Shows the classes that stand in a relation to a name. -/
def showWho (peer : Peer σ) (s : Session σ) (relation name : String) : Session σ :=
  let body := Json.obj [("relation", .str relation), ("name", .str name)]
  s.asking peer "who" body fun s response =>
    match response.status? with
    | some .ok => s.printItems (fun info => Json.text <$> info.part "name") (response.field "body")
    | _ =>
      match (response.field "body").part "error" with
      | .ok e => s.log (.err ("quill: " ++ e.text ++ "\n"))
      | .error e => s.finish (.crashed e)

/-- Carries out a command. -/
def command (peer : Peer σ) (s : Session σ) (line : List Char) : Session σ :=
  match (Text.words line).map String.ofList with
  | ["doc", name] => s.showDoc peer name
  | "apropos" :: term :: terms => s.showApropos peer (term :: terms)
  | ["who", relation, name] => s.showWho peer relation name
  | _ => s.log (.err (usage ++ "\n"))

/-- The completions of a word that ends at the cursor of a line.  Without an answer there
are none. -/
def complete (peer : Peer σ) (s : Session σ) (line : String) (cursor : Int) (word : String) :
    Except Error (List String) × Session σ :=
  let body := Json.obj
    [("line", .str line), ("cursorOffset", .int cursor), ("wordFragment", .str word)]
  match s.ask peer "complete" body with
  | (.error _, s) => (.ok [], s)
  | (.ok response, s) =>
    let body := response.field "body"
    match response.status?, body.isTruthy with
    | some .ok, true => (candidates line cursor word body, s)
    | _, _ => (.ok [], s)

/-- Offers completions while a line is read. -/
def offer (peer : Peer σ) (s : Session σ) (line : String) (cursor : Int) (word : String) :
    Session σ :=
  match s.complete peer line cursor word with
  | (.ok texts, s) => s.log (.completions texts)
  | (.error e, s) => s.finish (.crashed e)

/-- Cuts the buffer and a further line into statements, keeps the rest, and evaluates the
statements. -/
def scan (peer : Peer σ) (s : Session σ) (line : String) : Session σ :=
  let (statements, rest) := Scan.statementsOf (s.buffer ++ line ++ "\n")
  let kept := { s with
    buffer := if isCommentary rest then "" else rest
    number := if statements.isEmpty then s.number else s.number + 1 }
  kept.evaluateAll peer statements

/-- Whether a line is a command. -/
def isCommand (line : String) : Bool :=
  (Text.trimLeft line.toList).head? == some ':'

/-- The prompt for the next line. -/
def nextPrompt (s : Session σ) : String :=
  promptFor s.prompt s.number s.buffer

/-- Reads a line; `none` is the end of the input. -/
def readLine (s : Session σ) (line : Option String) : Session σ :=
  let echoed := match s.echo, line with
    | true, some text => s.log (.echo (s.nextPrompt ++ text ++ "\n"))
    | _, _ => s
  echoed.log (.read line)

/-- Takes a line that was read. -/
def takeLine (peer : Peer σ) (s : Session σ) (line : Option String) : Session σ :=
  match line with
  | none => { s with buffer := "" }.scan peer endStatement
  | some line =>
    let s := if Text.isBlank line.toList then s else s.log (.history line)
    if s.buffer.isEmpty && isCommand line then
      s.command peer ((Text.trim line.toList).drop 1)
    else s.scan peer line

/-- Drops what was typed before. -/
def clear (s : Session σ) : Session σ :=
  { s with buffer := "" }

/-- Asks for a line, unless the session is over. -/
def await (s : Session σ) : Session σ :=
  match s.ending with
  | some _ => s
  | none => s.log (.prompt s.nextPrompt)

/-- Takes what comes from the user. -/
def take (peer : Peer σ) (s : Session σ) (input : Input) : Session σ :=
  match s.ending with
  | some _ => s
  | none =>
    match input with
    | .line text => ((s.readLine (some text)).takeLine peer (some text)).await
    | .cleared text => ((s.readLine text).clear.takeLine peer text).await
    | .complete line cursor word => s.offer peer line cursor word
    | .endOfInput => ((s.readLine none).takeLine peer none).await

/-- Takes the end of the input again and again until the session is over; `fuel` bounds
how often. -/
def takeEnd (peer : Peer σ) (s : Session σ) : (fuel : Nat) → Session σ
  | 0 => s
  | fuel + 1 =>
    match s.ending with
    | some _ => s
    | none => (s.take peer .endOfInput).takeEnd peer fuel

/-- Starts a session whose worker has announced itself, or has not. -/
def announce (s : Session σ) : Except String Unit → Session σ
  | .ok _ => s.await
  | .error complaint => s.fail complaint

/-- Runs a session on all of its input, and on the end of it at most `ends` times. -/
def run (peer : Peer σ) (s : Session σ) (inputs : List Input) (ends : Nat) : Session σ :=
  (inputs.foldl (fun s input => s.take peer input) s).takeEnd peer ends

/-- The exit code of a session, if no response has broken it; a session that has not ended
counts as failed. -/
def exitCode (s : Session σ) : Except Error Nat :=
  match s.ending with
  | some (.code n) => .ok n
  | some (.crashed e) => .error e
  | none => .ok 1

end Session

end ReplEngine
