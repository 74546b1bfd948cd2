import ReplEngine.Language.Fault
import ReplEngine.Layout
import ReplEngine.Program.Lookup

/-!
# Evaluation

What a worker asks of the language it evaluates.  The worker knows nothing about the
language but this: source runs in a store, prints, and ends with a value, an error or
the wish to exit.  Showing a value and describing an object may run source too.

What source does outside its store, such as to a file that it shares with a copy of
the worker, is no part of a run.
-/

namespace ReplEngine

/-- Names bound to values, in the order of their first binding. -/
abbrev Bindings (ν : Type) := List (String × ν)

/-- What source runs in: a memory and the names of a scope. -/
structure Store (μ ν : Type) where
  memory : μ
  scope : Bindings ν

/-- What a run leaves behind: a state, what was printed, and how it ended.  The state
is there however the run ended. -/
structure Ran (σ α : Type) where
  state : σ
  output : String := ""
  result : Except Raised α

namespace Ran

variable {σ τ α β : Type}

/-- A run that does nothing. -/
def done (state : σ) (a : α) : Ran σ α :=
  { state := state, result := .ok a }

/-- A run that only fails. -/
def failed (state : σ) (r : Raised) : Ran σ α :=
  { state := state, result := .error r }

/-- A run, and behind it another one if it ended well. -/
def andThen (r : Ran σ α) (next : σ → α → Ran σ β) : Ran σ β :=
  match r.result with
  | .error e => { state := r.state, output := r.output, result := .error e }
  | .ok a =>
    let n := next r.state a
    { n with output := r.output ++ n.output }

/-- The run seen as a run on a larger state. -/
def mapState (f : σ → τ) (r : Ran σ α) : Ran τ α :=
  { state := f r.state, output := r.output, result := r.result }

/-- The run with its error, if it ended with one, as an answer.  The wish to exit stays. -/
def caught (r : Ran σ α) : Ran σ (Except Error α) :=
  { state := r.state, output := r.output,
    result := match r.result with
      | .ok a => .ok (.ok a)
      | .error (.fault _ text) => .ok (.error (.description text))
      | .error (.exit code) => .error (.exit code) }

end Ran

/-- A language that a worker evaluates, with memories `μ` and values `ν`. -/
structure Interpreter (μ ν : Type) where
  /-- Runs source; the answer is the value of the expression that it ends with. -/
  run : String → Store μ ν → Ran (Store μ ν) (Option ν)
  /-- The memory for source that runs in a copy of the scope: what was defined before goes on
  to see the scope that was copied, and to bind names in it. -/
  enterCopy : Store μ ν → μ
  /-- The store for source that runs in the scope again, behind what has run in a copy. -/
  leaveCopy : Store μ ν → Store μ ν
  /-- As long as nothing runs, the scope that was copied stays what it was. -/
  leaveCopy_enterCopy : ∀ store, (leaveCopy ⟨enterCopy store, store.scope⟩).scope = store.scope
  /-- What becomes of the copy does not matter for the scope that was copied. -/
  leaveCopy_scope : ∀ (memory : μ) (copy copy' : Bindings ν),
    (leaveCopy ⟨memory, copy⟩).scope = (leaveCopy ⟨memory, copy'⟩).scope
  /-- Whether a value stands for nothing. -/
  isNone : ν → Bool
  /-- The text that a value is. -/
  text? : ν → Option String
  /-- The line that shows a value. -/
  inspect : Inspector → ν → Store μ ν → Ran (Store μ ν) String
  /-- What introspection sees of a store. -/
  program : Store μ ν → Program
  /-- The text by which an object of the program describes itself. -/
  describe : (number : Nat) → Store μ ν → Ran (Store μ ν) String
  /-- Evaluates the context of a completion. -/
  evaluate : String → Store μ ν → Ran (Store μ ν) Entity

end ReplEngine
