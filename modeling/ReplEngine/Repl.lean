import ReplEngine.Language.Host
import ReplEngine.Settings
import ReplEngine.Worker.Peer

/-!
# The interactive interpreter

A worker for the evaluated language and a session in front of it, set up from settings.
-/

namespace ReplEngine

/-- How often the end of the input is sent to a worker that does not stop. -/
def Repl.patience : Nat := 16

/-- An interpreter that has not been started. -/
structure Repl where
  prompt : String
  worker : Worker Language.Memory Language.Datum

namespace Repl

/-- The session of an interpreter; without a worker when that has stopped. -/
abbrev ReplSession := Session (Option (Worker Language.Memory Language.Datum))

/-- How an interpreter is run. -/
structure Mode where
  /-- Whether the banner is shown. -/
  welcome : Bool := true
  /-- Whether the first failure ends the session. -/
  stopOnFailure : Bool := false
  /-- Whether the lines that are read are printed. -/
  echo : Bool := false

/-- Binds names for source to data of a larger memory. -/
def bind (r : Repl) (brought : Bindings Language.Datum × Language.Memory) : Repl :=
  let store := { r.worker.store with memory := brought.2 }
  { r with worker := { r.worker with store := store }.setLocals brought.1 }

/-- Binds names for source to values. -/
def setLocals (r : Repl) (entries : List (String × Value)) : Repl :=
  r.bind (r.worker.store.memory.bringBindings entries)

/-- Binds names for source to parts of the program that the interpreter runs in. -/
def setEntities (r : Repl) (entries : List (String × Entity)) : Repl :=
  r.bind (r.worker.store.memory.bringEntities entries)

/-- Adds a rule for the expansion of statements. -/
def addRule (r : Repl) (rule : Expansion.Rule) : Repl :=
  { r with worker := { r.worker with rules := r.worker.rules ++ [rule] } }

/-- Adds hooks that run at the start. -/
def onStart (r : Repl) (hooks : List (Hook Language.Memory Language.Datum)) : Repl :=
  { r with worker := { r.worker with startHooks := r.worker.startHooks ++ hooks } }

/-- Adds hooks that run after a failure. -/
def onFailure (r : Repl) (hooks : List (Hook Language.Memory Language.Datum)) : Repl :=
  { r with worker := { r.worker with failureHooks := r.worker.failureHooks ++ hooks } }

/-- Changes the inspector. -/
def setInspector (r : Repl) (inspector : Inspector) : Repl :=
  { r with worker := { r.worker with inspector := inspector } }

/-- Sets an interpreter up, in a program.  The templates of its rules are filled by
`render`. -/
def ofSettings (render : Expansion.Renderer) (s : Settings) (program : Program) :
    Except Error Repl := do
  let rules ← s.rules.mapM fun r => Expansion.Rule.ofJson render r.pattern (.str r.template)
  let base : Repl := { prompt := s.prompt, worker := { store := ⟨{ host := program }, []⟩ } }
  let bound := (base.setLocals s.locals).setInspector s.inspector
  let hooked := (bound.onStart (s.startHooks.map .code)).onFailure (s.failureHooks.map .code)
  return rules.foldl addRule hooked

/-- A line of the banner. -/
def bannerLine (topic text : String) : String :=
  Text.padLeft 16 topic ++ ": " ++ text ++ "\n"

/-- The banner. -/
def banner (version languageVersion : String) : String :=
  "quill " ++ version ++ "\n" ++ "Python " ++ languageVersion ++ "\n" ++
  bannerLine "Exit" "Control+D or exit()" ++
  bannerLine "Clear Line" "Control+C" ++
  bannerLine "Past Results" "Stored in _" ++
  bannerLine "Lookups" ":doc, :apropos, :who"

/-- The version of the interpreter. -/
def version : String := "0.1.0"

/-- The version of the evaluated language. -/
def languageVersion : String := "3.X"

/-- Starts the worker and the session in front of it, up to the first prompt. -/
def start (r : Repl) (host : Language.Host) (mode : Mode) : ReplSession :=
  let I := Language.interpreter host
  let started := r.worker.start I
  let s : ReplSession :=
    { peer := some started.state, prompt := r.prompt, stopOnFailure := mode.stopOnFailure,
      echo := mode.echo }
  let s := (if mode.welcome then s.print (banner version languageVersion) else s).print
    started.output
  match started.result with
  | .ok _ => s.announce (.ok ())
  | .error _ => { s with peer := none }.announce (.error Worker.goneComplaint)

/-- The worker as the session sees it. -/
def peer (host : Language.Host) : Peer (Option (Worker Language.Memory Language.Datum)) :=
  Worker.peer (Language.interpreter host)

/-- Runs an interpreter on all of its input. -/
def run (r : Repl) (host : Language.Host) (mode : Mode) (inputs : List Input) : ReplSession :=
  (r.start host mode).run (peer host) inputs patience

end Repl

end ReplEngine
