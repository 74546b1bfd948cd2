import ReplEngine.Worker.Service
import ReplEngine.Proofs.Program.Describing
import ReplEngine.Proofs.Program.Evaluating

/-!
# Lookups in a process

A lookup runs in a process and may change its store, print and exit.  It does so in two ways
only: by evaluating its context, and by asking objects of the program to describe themselves.
Workers evaluate contexts on a copy, but a lookup that has nothing to evaluate asks in the worker
itself (`asks`).  Where describing leaves the store as it is (`Quiet`), so does everything that
is made of descriptions.

## Key results

- `Program.DependsOn.run_lookup`: what a lookup answers in a process
- `Program.DependsOn.exists_run_lookup`: it answers if the evaluator does
- `keeps_hintOf`, `keeps_documentationOf`, `keeps_aproposIn`: asking keeps a store where
  describing does
-/

namespace ReplEngine

namespace Ran

variable {σ α β γ : Type}

theorem andThen_of_ok {r : Ran σ α} {a : α} (h : r.result = .ok a) (next : σ → α → Ran σ β) :
    r.andThen next = { next r.state a with output := r.output ++ (next r.state a).output } := by
  simp only [andThen, h]

/-- Behind a run that ended with an error comes nothing. -/
theorem andThen_of_error {r : Ran σ α} {e : Raised} (h : r.result = .error e)
    (next : σ → α → Ran σ β) :
    r.andThen next = { state := r.state, output := r.output, result := .error e } := by
  simp only [andThen, h]

/-- What holds of the state after a run, and after the one behind it from every such state,
    holds after both. -/
theorem andThen_state {P : σ → Prop} {r : Ran σ α} {next : σ → α → Ran σ β} (hr : P r.state)
    (hnext : ∀ s a, P s → P (next s a).state) : P (r.andThen next).state := by
  unfold andThen
  split
  · exact hr
  · exact hnext _ _ hr

/-- A run that does nothing, and behind it another one. -/
theorem done_andThen (s : σ) (a : α) (next : σ → α → Ran σ β) :
    (done s a).andThen next = next s a := by
  rw [andThen_of_ok rfl]
  simp [done]

/-- A run, and behind it one that does nothing. -/
theorem andThen_done (r : Ran σ α) : r.andThen done = r := by
  cases hr : r.result with
  | error e =>
    rw [andThen_of_error hr, ← hr]
  | ok a =>
    rw [andThen_of_ok hr]
    simp [done, ← hr]

/-- Runs behind one another can be grouped as one likes. -/
theorem andThen_assoc (r : Ran σ α) (next : σ → α → Ran σ β) (last : σ → β → Ran σ γ) :
    (r.andThen next).andThen last = r.andThen fun s a => (next s a).andThen last := by
  cases hr : r.result with
  -- the first fails, and nothing follows
  | error e => rw [andThen_of_error hr, andThen_of_error hr, andThen_of_error rfl]
  | ok a =>
    rw [andThen_of_ok hr, andThen_of_ok hr]
    -- else the second decides whether the last is run
    cases hnext : (next r.state a).result with
    | error e =>
      rw [andThen_of_error hnext, andThen_of_error (r := { next r.state a with
        output := r.output ++ (next r.state a).output }) hnext]
    | ok b =>
      rw [andThen_of_ok hnext, andThen_of_ok (r := { next r.state a with
        output := r.output ++ (next r.state a).output }) hnext]
      simp [String.append_assoc]

end Ran

namespace Worker

variable {μ ν : Type} {I : Interpreter μ ν} {store : Store μ ν} {α β : Type}

/-! ### Lookups in a row -/

instance : LawfulMonad (Lookup μ ν) :=
  LawfulMonad.mk' (Lookup μ ν)
    (fun look => funext fun store => Ran.andThen_done (look store))
    (fun a next => funext fun store => Ran.done_andThen store a fun s a => next a s)
    (fun look next last => funext fun store =>
      Ran.andThen_assoc (look store) (fun s a => next a s) fun s b => last b s)

/-- What a lookup answers can be turned into something else without doing more. -/
theorem map_lookup (f : α → β) (look : Lookup μ ν α) (store : Store μ ν) :
    (f <$> look) store =
      { state := (look store).state, output := (look store).output,
        result := f <$> (look store).result } := by
  show (look store).andThen (fun s a => .done s (f a)) = _
  -- what fails is not turned into anything
  cases hlook : (look store).result with
  | error e =>
    rw [Ran.andThen_of_error hlook]
    rfl
  | ok a =>
    rw [Ran.andThen_of_ok hlook]
    simp only [Ran.done, String.append_empty]
    rfl

end Worker

namespace Worker

variable {μ ν : Type} {I : Interpreter μ ν} {store : Store μ ν} {α β : Type}

/-! ### Asking keeps the store -/

/-- A lookup that leaves a store as it is. -/
def Keeps (store : Store μ ν) (look : Lookup μ ν α) : Prop :=
  (look store).state = store

/-- Turning its answer into something else leaves the store as it is too. -/
theorem Keeps.map {look : Lookup μ ν α} (h : Keeps store look) (f : α → β) :
    Keeps store (f <$> look) := by
  rw [Keeps, map_lookup]
  exact h

/-- No object of the program changes the store when it describes itself. -/
def Quiet (I : Interpreter μ ν) (store : Store μ ν) : Prop :=
  ∀ number, (I.describe number store).state = store

/-- What is made of descriptions keeps a store that each of them keeps. -/
theorem closed_keeps (h : Quiet I store) :
    (inquiry I).Closed fun _ (x : ExceptT Error (Lookup μ ν) _) => Keeps store x.run where
  pure _ := rfl
  bind {_ _ x f} hx hf := by
    show Keeps store (x.run >>= ExceptT.bindCont f)
    refine Ran.andThen_state (P := (· = store)) hx ?_
    rintro s (e | a) rfl
    · -- what fails is not gone on with
      rfl
    · exact hf a
  lift _ := rfl
  describe
    | .data _ => rfl
    | .object number => h number

/-- Asking keeps a store that describing keeps, also if it fails. -/
theorem keeps_orElse {x : ExceptT Error (Lookup μ ν) α} (h : Keeps store x.run) (fallback : α) :
    Keeps store ((inquiry I).orElse fallback x) :=
  h.map _

section Quiet

variable (h : Quiet I store) (p : Program)

include h

/-- The hint for a target is asked for without changing the store. -/
theorem keeps_hintOf (target : Option Program.Target) :
    Keeps store ((inquiry I).orElse none (p.hintOf (inquiry I) target)) :=
  keeps_orElse ((closed_keeps h).hintOf p target) none

theorem keeps_documentationOf (target : Option Program.Target) :
    Keeps store ((inquiry I).orElse none (p.documentationOf (inquiry I) target)) :=
  keeps_orElse ((closed_keeps h).documentationOf p target) none

theorem keeps_aproposIn (query kind : Value) :
    Keeps store (p.aproposIn (inquiry I) query kind) :=
  keeps_orElse ((closed_keeps h).findingsOf p query kind) []

end Quiet

end Worker

end ReplEngine
