import ReplEngine.Evaluation
import ReplEngine.Expansion

/-!
# Workers

A worker owns the scope that statements run in.  A statement is expanded by rules, run,
and run again as long as its value is source that was deferred; the last value is bound
to `_` and shown.  Hooks run in the scope like statements, or bind names themselves.
-/

namespace ReplEngine

/-- What a hook that is called does: it changes the memory, the scope and the exports as it
likes, binds names in the scope and the exports, prints, and may fail. -/
structure HookEffect (μ ν : Type) where
  onMemory : μ → μ := id
  onScope : Bindings ν → Bindings ν := id
  onExports : Bindings ν → Bindings ν := id
  /-- The names that it binds, behind the changes. -/
  bindings : Bindings ν := []
  output : String := ""
  raised : Option Raised := none

/-- Something to run when a session starts or a statement fails. -/
inductive Hook (μ ν : Type) where
  /-- Source. -/
  | code (source : String)
  /-- Something to call with the visible names of the scope. -/
  | callable (f : Bindings ν → HookEffect μ ν)
  /-- Neither, by the name of its type. -/
  | invalid (typeName : String)

/-- A worker. -/
structure Worker (μ ν : Type) where
  store : Store μ ν
  /-- The names that were bound from outside. -/
  exports : Bindings ν := []
  startHooks : List (Hook μ ν) := []
  failureHooks : List (Hook μ ν) := []
  inspector : Inspector := .dump
  rules : List Expansion.Rule := Expansion.builtIn

namespace Worker

variable {μ ν : Type} (I : Interpreter μ ν)

/-- The names of the scope that are shown. -/
def visibleScope (w : Worker μ ν) : Bindings ν :=
  w.store.scope.filter fun b => !hiddenNames.contains b.1

/-- Changes the scope. -/
def setScope (w : Worker μ ν) (scope : Bindings ν) : Worker μ ν :=
  { w with store := { w.store with scope := scope } }

/-- Binds names from outside. -/
def setLocals (w : Worker μ ν) (bindings : Bindings ν) : Worker μ ν :=
  { w.setScope (bindEntries w.store.scope bindings) with
    exports := bindEntries w.exports bindings }

/-- Runs source in the scope. -/
def runSource (w : Worker μ ν) (source : String) : Ran (Worker μ ν) (Option ν) :=
  (I.run source w.store).mapState fun store => { w with store := store }

/-- Runs a hook. -/
def runHook (w : Worker μ ν) : Hook μ ν → Ran (Worker μ ν) Unit
  | .code source => (w.runSource I source).andThen fun w _ => .done w ()
  | .callable f =>
    let effect := f w.visibleScope
    let changed := { w with
      store := ⟨effect.onMemory w.store.memory, effect.onScope w.store.scope⟩
      exports := effect.onExports w.exports }
    { state := changed.setLocals effect.bindings, output := effect.output,
      result := match effect.raised with
        | some r => .error r
        | none => .ok () }
  | .invalid typeName => .failed w (.fault (.notAHook typeName))

/-- Runs hooks in order, up to the first that fails. -/
def runHooks (w : Worker μ ν) : List (Hook μ ν) → Ran (Worker μ ν) Unit
  | [] => .done w ()
  | hook :: rest => (w.runHook I hook).andThen fun w _ => w.runHooks rest

/-- The worker with a copy of its scope and of its exports in their place. -/
def onCopy (w : Worker μ ν) : Worker μ ν :=
  { w with store := { w.store with memory := I.enterCopy w.store } }

/-- Runs the failure hooks on a copy of the scope and of the exports, which is dropped
when they end; what they do to the memory stays, and so does what functions that were defined
before do to the scope that was copied.  An error of a hook is dropped too, but not the wish
to exit. -/
def runFailureHooks (w : Worker μ ν) : Ran (Worker μ ν) Unit :=
  if w.failureHooks.isEmpty then .done w ()
  else
    let r := (w.onCopy I).runHooks I w.failureHooks
    { state := { w with store := I.leaveCopy r.state.store }, output := r.output,
      result := match r.result with
        | .error (.exit code) => .error (.exit code)
        | _ => .ok () }

/-- How often deferred source is run before it counts as endless. -/
def deferredPasses : Nat := 16

/-- The source that a value defers. -/
def deferred? (value : Option ν) : Option String :=
  (value.bind I.text?).bind Expansion.deferred?

/-- Expands source; what goes wrong is an error of the engine. -/
def expand (w : Worker μ ν) (source : String) : Except Raised String :=
  match Expansion.expand w.rules source.toList with
  | .ok expanded => .ok (String.ofList expanded)
  | .error e => .error (.fault (.engine e))

/-- Runs deferred source until a value is not deferred, at most `passes` times more. -/
def settle (w : Worker μ ν) (passes : Nat) (value : Option ν) : Ran (Worker μ ν) (Option ν) :=
  match deferred? I value with
  | none => .done w value
  | some source =>
    match passes with
    | 0 => .failed w (.fault (.unsettled deferredPasses))
    | passes + 1 =>
      match w.expand source with
      | .error r => .failed w r
      | .ok expanded => (w.runSource I expanded).andThen fun w value => w.settle passes value

/-- Binds the value of a statement to `_` and shows it, if it has one. -/
def present (w : Worker μ ν) (value : Option ν) : Ran (Worker μ ν) Unit :=
  match value with
  | none => .done w ()
  | some v =>
    if I.isNone v then .done w ()
    else
      let w := w.setScope (bindEntry w.store.scope "_" v)
      let shown := (I.inspect w.inspector v w.store).mapState fun store => { w with store := store }
      shown.andThen fun w line => { state := w, output := line ++ "\n", result := .ok () }

/-- Runs a statement that was expanded.  Only a statement that the expansion has changed
can defer source. -/
def execute (w : Worker μ ν) (statement expanded : String) : Ran (Worker μ ν) Unit :=
  (w.runSource I expanded).andThen fun w value =>
    let settled := if expanded == statement then .done w value
      else w.settle I deferredPasses value
    settled.andThen fun w value => w.present I value

/-- Expands a statement and runs it. -/
def evaluate (w : Worker μ ν) (statement : String) : Ran (Worker μ ν) Unit :=
  match w.expand statement with
  | .error r => .failed w r
  | .ok expanded => w.execute I statement expanded

/-- Binds the exported names and runs the start hooks. -/
def start (w : Worker μ ν) : Ran (Worker μ ν) Unit :=
  (w.setScope (bindEntries w.store.scope w.exports)).runHooks I w.startHooks

end Worker

end ReplEngine
