import Mathlib.Order.Basic
import ReplEngine.Proofs.Worker.Isolation
import ReplEngine.Template

/-!
# Statements that defer source

A statement that the expansion has changed may come to a value that is source again, deferred to
a further pass.  The passes go on up to the first value that is not deferred, and there are at
most sixteen of them behind the first run.

How often source is run does not show in what a run leaves behind, so it is counted by a language
that keeps a record of all it is asked to run and is the same in everything else.

## Key results

- `execute_of_ne`: a statement that was changed is sixteen passes, and then at most one value more
  to look at
- `passAt_of_le`: from the first value that is not deferred on, the passes do nothing
- `execute_recorded`: the record of a statement
- `execute_settles`: where a statement stops, what it leaves, and how often it runs source
-/

namespace ReplEngine

namespace Ran

variable {σ τ α β : Type}

/-- A run that nothing follows. -/
theorem andThen_eq_self {r : Ran σ α} {next : σ → α → Ran σ α}
    (h : ∀ a, r.result = .ok a → next r.state a = .done r.state a) : r.andThen next = r := by
  cases hr : r.result with
  | error e =>
    rw [andThen_of_error hr, ← hr]
  | ok a =>
    rw [andThen_of_ok hr, h a hr, done, ← hr, String.append_empty]

/-- A change of the state can be made behind both runs in place of between them. -/
theorem mapState_andThen {f g : σ → τ} {r : Ran σ α} {next : σ → α → Ran σ β}
    {next' : τ → α → Ran τ β}
    (hok : ∀ a, r.result = .ok a → next' (f r.state) a = (next r.state a).mapState g)
    (herror : ∀ e, r.result = .error e → f r.state = g r.state) :
    (r.mapState f).andThen next' = (r.andThen next).mapState g := by
  cases hr : r.result with
  | error e => simp only [andThen, mapState, hr, herror e hr]
  | ok a => simp only [andThen, mapState, hr, hok a hr]

end Ran

/-- Deferred source is what stands behind the mark. -/
theorem Expansion.deferred?_eq_some_iff {value text : String} :
    deferred? value = some text ↔ value = "return " ++ text := by
  have hmark : "return ".toList = deferredMark := rfl
  rw [deferred?, ← String.toList_inj, String.toList_append, hmark]
  split
  · -- the mark is there, and what is behind it is the source
    next hstart =>
    obtain ⟨rest, hrest⟩ := List.isPrefixOf_iff_prefix.mp hstart
    rw [← hrest, List.drop_left, Option.some.injEq, List.append_cancel_left_eq,
      ← String.toList_inj, String.toList_ofList]
  · next hstart =>
    refine iff_of_false (by simp) fun htext => hstart ?_
    exact List.isPrefixOf_iff_prefix.mpr ⟨text.toList, htext.symm⟩

namespace Worker

variable {μ ν : Type} (I : Interpreter μ ν)

/-! ### Passes -/

/-- The pass behind a value: nothing if the value is not deferred, and else the source that it
    defers, expanded and run. -/
def again (w : Worker μ ν) (value : Option ν) : Ran (Worker μ ν) (Option ν) :=
  match deferred? I value with
  | none => .done w value
  | some text =>
    match w.expand text with
    | .error raised => .failed w raised
    | .ok source => w.runSource I source

/-- A statement that was expanded, up to a pass. -/
def passAt (w : Worker μ ν) (expanded : String) : Nat → Ran (Worker μ ν) (Option ν)
  | 0 => w.runSource I expanded
  | k + 1 => (w.passAt expanded k).andThen fun v value => v.again I value

/-- A pass that comes to a text that starts with the mark of deferred source. -/
def IsDeferredAt (w : Worker μ ν) (expanded : String) (k : Nat) : Prop :=
  ∃ x text, (w.passAt I expanded k).result = .ok (some x) ∧ I.text? x = some ("return " ++ text)

variable {I} {w : Worker μ ν} {expanded statement : String} {k : Nat}

/-- A value is deferred if it has a text that starts with the mark. -/
theorem deferred?_eq_some_iff {value : Option ν} {text : String} :
    deferred? I value = some text ↔ ∃ x, value = some x ∧ I.text? x = some ("return " ++ text) := by
  rw [deferred?, Option.bind_eq_some_iff]
  simp only [Option.bind_eq_some_iff, Expansion.deferred?_eq_some_iff]
  constructor
  · rintro ⟨_, ⟨x, hx, htext⟩, rfl⟩
    exact ⟨x, hx, htext⟩
  · rintro ⟨x, hx, htext⟩
    exact ⟨_, ⟨x, hx, htext⟩, rfl⟩

/-- A pass defers source if it comes to a value that does. -/
theorem isDeferredAt_iff : IsDeferredAt I w expanded k ↔
    ∃ value text, (w.passAt I expanded k).result = .ok value ∧ deferred? I value = some text := by
  simp only [deferred?_eq_some_iff]
  constructor
  · rintro ⟨x, text, hx, htext⟩
    exact ⟨some x, text, hx, x, rfl, htext⟩
  · rintro ⟨_, text, hvalue, x, rfl, htext⟩
    exact ⟨x, text, hvalue, htext⟩

/-- A pass that defers nothing has a value that defers nothing. -/
theorem deferred?_eq_none_of_not {value : Option ν} (h : ¬ IsDeferredAt I w expanded k)
    (hvalue : (w.passAt I expanded k).result = .ok value) : deferred? I value = none := by
  rw [Option.eq_none_iff_forall_ne_some]
  intro text htext
  exact h (isDeferredAt_iff.mpr ⟨value, text, hvalue, htext⟩)

instance : Decidable (IsDeferredAt I w expanded k) :=
  match hvalue : (w.passAt I expanded k).result with
  | .error e => .isFalse (by
    rintro ⟨x, text, hx, -⟩
    cases hvalue.symm.trans hx)
  | .ok value =>
    match htext : deferred? I value with
    | some text => .isTrue (isDeferredAt_iff.mpr ⟨value, text, hvalue, htext⟩)
    | none => .isFalse (by
      rw [isDeferredAt_iff]
      rintro ⟨value', text, hvalue', htext'⟩
      cases hvalue.symm.trans hvalue'
      cases htext.symm.trans htext')

/-- Behind a value that is not deferred the pass does nothing. -/
theorem again_of_none {value : Option ν} (h : deferred? I value = none) (w : Worker μ ν) :
    w.again I value = .done w value := by
  rw [again, h]

theorem settle_of_none {value : Option ν} (h : deferred? I value = none) (w : Worker μ ν)
    (passes : Nat) : w.settle I passes value = .done w value := by
  rw [settle.eq_def, h]

/-- One pass of the loop. -/
theorem settle_succ (w : Worker μ ν) (passes : Nat) (value : Option ν) :
    w.settle I (passes + 1) value =
      (w.again I value).andThen fun v value => v.settle I passes value := by
  -- behind a value that is not deferred neither side does anything
  cases hvalue : deferred? I value with
  | none =>
    rw [settle_of_none hvalue, again_of_none hvalue, Ran.done_andThen, settle_of_none hvalue]
  | some text =>
    rw [settle.eq_def, again]
    simp only [hvalue]
    cases w.expand text with
    | error raised => rfl
    | ok source => rfl

/-- Passes that the loop has left to make may be made before it. -/
theorem passAt_andThen_settle (w : Worker μ ν) (expanded : String) (k passes : Nat) :
    ((w.passAt I expanded k).andThen fun v value => v.settle I passes value) =
      (w.passAt I expanded (k + passes)).andThen fun v value => v.settle I 0 value := by
  induction passes generalizing k with
  | zero => rfl
  | succ passes ih =>
    -- the first pass that the loop makes becomes the last one before it
    have hnext : k + (passes + 1) = k + 1 + passes := by omega
    rw [hnext, ← ih (k + 1), passAt, Ran.andThen_assoc]
    simp only [settle_succ]

/-- A statement that was not changed is run once, and its value is shown. -/
theorem execute_of_eq (w : Worker μ ν) (statement : String) :
    w.execute I statement statement =
      (w.passAt I statement 0).andThen fun v value => v.present I value := by
  rw [execute, passAt]
  simp only [beq_self_eq_true, if_true, Ran.done_andThen]

/-- A statement that was changed: behind the last pass its value must not be deferred. -/
theorem execute_of_ne (h : expanded ≠ statement) (w : Worker μ ν) :
    w.execute I statement expanded =
      ((w.passAt I expanded 16).andThen fun v value => v.settle I 0 value).andThen
        fun v value => v.present I value := by
  have hloop := passAt_andThen_settle (I := I) w expanded 0 16
  rw [Nat.zero_add] at hloop
  rw [← hloop, Ran.andThen_assoc, execute, passAt]
  simp only [beq_eq_false_iff_ne.mpr h, Bool.false_eq_true, if_false, deferredPasses]

/-! ### Where the passes end -/

/-- Behind a pass that raises, or comes to a value that is not deferred, nothing is done. -/
theorem passAt_succ_of_not (h : ¬ IsDeferredAt I w expanded k) :
    w.passAt I expanded (k + 1) = w.passAt I expanded k := by
  rw [passAt]
  apply Ran.andThen_eq_self
  intro value hvalue
  exact again_of_none (deferred?_eq_none_of_not h hvalue) _

theorem passAt_of_le {n : Nat} (h : ¬ IsDeferredAt I w expanded k) (hn : k ≤ n) :
    w.passAt I expanded n = w.passAt I expanded k := by
  -- on the passes from there on
  induction hn with
  | refl => rfl
  | @step n hn ih =>
    -- the pass before is the same run, so it has not deferred anything either
    have hstill : ¬ IsDeferredAt I w expanded n := by
      rw [IsDeferredAt, ih]
      exact h
    rw [passAt_succ_of_not hstill, ih]

/-- A statement that stops within sixteen passes. -/
theorem execute_of_not (hne : expanded ≠ statement) (hk : k ≤ 16)
    (h : ¬ IsDeferredAt I w expanded k) :
    w.execute I statement expanded =
      (w.passAt I expanded k).andThen fun v value => v.present I value := by
  -- the loop has nothing left to look at
  have hstill : (w.passAt I expanded k).andThen (fun v value => v.settle I 0 value) =
      w.passAt I expanded k := by
    apply Ran.andThen_eq_self
    intro value hvalue
    exact settle_of_none (deferred?_eq_none_of_not h hvalue) _ 0
  rw [execute_of_ne hne, passAt_of_le h hk, hstill]

/-- A statement that does not stop within sixteen passes. -/
theorem execute_of_deferred (hne : expanded ≠ statement) (h : IsDeferredAt I w expanded 16) :
    w.execute I statement expanded =
      { state := (w.passAt I expanded 16).state
        output := (w.passAt I expanded 16).output
        result := .error (.fault (.unsettled 16)) } := by
  obtain ⟨value, text, hvalue, htext⟩ := isDeferredAt_iff.mp h
  -- the value behind the last pass is deferred still
  have hlast (v : Worker μ ν) :
      v.settle I 0 value = .failed v (.fault (.unsettled deferredPasses)) := by
    rw [settle.eq_def, htext]
  rw [execute_of_ne hne, Ran.andThen_of_ok hvalue, hlast]
  exact congrArg (fun output => Ran.mk _ output _) String.append_empty

/-! ### What is left of a statement -/

/-- The showing of a value, which finds the value bound to `_`. -/
def showing (I : Interpreter μ ν) (w : Worker μ ν) (x : ν) : Ran (Store μ ν) String :=
  I.inspect w.inspector x (w.setScope (bindEntry w.store.scope "_" x)).store

/-- How a statement ends behind the pass that it stops at: what the pass raises goes on, and a
    value that stands for something is bound to `_` and shown once, on a line of its own, behind
    what the value itself prints when it is shown. -/
structure Ends (I : Interpreter μ ν) (r : Ran (Worker μ ν) (Option ν))
    (s : Ran (Worker μ ν) Unit) : Prop where
  raised : ∀ e, r.result = .error e →
    s = { state := r.state, output := r.output, result := .error e }
  nothing : ∀ value, r.result = .ok value → (∀ x, value = some x → I.isNone x = true) →
    s = { state := r.state, output := r.output, result := .ok () }
  bound : ∀ x, r.result = .ok (some x) → I.isNone x = false →
    s.state = { r.state with store := (r.state.showing I x).state }
  shown : ∀ x line, r.result = .ok (some x) → I.isNone x = false →
    (r.state.showing I x).result = .ok line →
    s.output = r.output ++ ((r.state.showing I x).output ++ (line ++ "\n")) ∧ s.result = .ok ()
  unshown : ∀ x e, r.result = .ok (some x) → I.isNone x = false →
    (r.state.showing I x).result = .error e →
    s.output = r.output ++ (r.state.showing I x).output ∧ s.result = .error e

/-- A value that stands for nothing is not shown. -/
theorem present_of_isNone {value : Option ν} (h : ∀ x, value = some x → I.isNone x = true)
    (w : Worker μ ν) : w.present I value = .done w () := by
  cases value with
  | none => rfl
  | some x => rw [present, if_pos (h x rfl)]

theorem present_of_some {x : ν} (hsome : I.isNone x = false) (w : Worker μ ν) :
    w.present I (some x) =
      ((w.showing I x).mapState fun store => { w with store := store }).andThen fun w line =>
        { state := w, output := line ++ "\n", result := .ok () } := by
  rw [present, hsome]
  rfl

theorem present_of_line {x : ν} {line : String} (hsome : I.isNone x = false)
    (hline : (w.showing I x).result = .ok line) :
    w.present I (some x) =
      { state := { w with store := (w.showing I x).state },
        output := (w.showing I x).output ++ (line ++ "\n"), result := .ok () } := by
  rw [present_of_some hsome, Ran.andThen_of_ok (by rw [Ran.mapState, hline])]
  rfl

theorem present_of_error {x : ν} {e : Raised} (hsome : I.isNone x = false)
    (he : (w.showing I x).result = .error e) :
    w.present I (some x) =
      { state := { w with store := (w.showing I x).state },
        output := (w.showing I x).output, result := .error e } := by
  rw [present_of_some hsome, Ran.andThen_of_error (by rw [Ran.mapState, he])]
  rfl

/-- Behind a run its value is presented, and so a statement ends. -/
theorem ends_andThen_present (r : Ran (Worker μ ν) (Option ν)) :
    Ends I r (r.andThen fun v value => v.present I value) := by
  constructor
  case raised =>
    intro e he
    exact Ran.andThen_of_error he _
  case nothing =>
    intro value hvalue hnone
    rw [Ran.andThen_of_ok hvalue, present_of_isNone hnone]
    exact congrArg (fun output => Ran.mk _ output _) String.append_empty
  -- the value is bound whether or not it can be shown
  case bound =>
    intro x hx hsome
    rw [Ran.andThen_of_ok hx]
    cases hline : (r.state.showing I x).result with
    | error e => rw [present_of_error hsome hline]
    | ok line => rw [present_of_line hsome hline]
  case shown =>
    intro x line hx hsome hline
    rw [Ran.andThen_of_ok hx, present_of_line hsome hline]
    exact ⟨rfl, rfl⟩
  case unshown =>
    intro x e hx hsome he
    rw [Ran.andThen_of_ok hx, present_of_error hsome he]
    exact ⟨rfl, rfl⟩

/-! ### The record of what is run -/

end Worker

/-- A language that keeps a record of the source that it is asked to run, in order. -/
def Interpreter.recording {μ ν : Type} (I : Interpreter μ ν) :
    Interpreter (μ × List String) ν where
  run source store := (I.run source ⟨store.memory.1, store.scope⟩).mapState fun left =>
    ⟨(left.memory, store.memory.2 ++ [source]), left.scope⟩
  enterCopy store := (I.enterCopy ⟨store.memory.1, store.scope⟩, store.memory.2)
  leaveCopy store :=
    let left := I.leaveCopy ⟨store.memory.1, store.scope⟩
    ⟨(left.memory, store.memory.2), left.scope⟩
  leaveCopy_enterCopy store := I.leaveCopy_enterCopy ⟨store.memory.1, store.scope⟩
  leaveCopy_scope memory copy copy' := I.leaveCopy_scope memory.1 copy copy'
  isNone := I.isNone
  text? := I.text?
  inspect inspector x store :=
    (I.inspect inspector x ⟨store.memory.1, store.scope⟩).mapState fun left =>
      ⟨(left.memory, store.memory.2), left.scope⟩
  program store := I.program ⟨store.memory.1, store.scope⟩
  describe number store := (I.describe number ⟨store.memory.1, store.scope⟩).mapState fun left =>
    ⟨(left.memory, store.memory.2), left.scope⟩
  evaluate source store := (I.evaluate source ⟨store.memory.1, store.scope⟩).mapState fun left =>
    ⟨(left.memory, store.memory.2), left.scope⟩

/-- A hook that leaves the record alone. -/
def Hook.recorded {μ ν : Type} : Hook μ ν → Hook (μ × List String) ν
  | .code source => .code source
  | .callable f => .callable fun scope =>
    { f scope with onMemory := fun memory => ((f scope).onMemory memory.1, memory.2) }
  | .invalid typeName => .invalid typeName

namespace Worker

variable {μ ν : Type} {I : Interpreter μ ν} {w : Worker μ ν} {expanded : String} {k : Nat}

/-- A worker with a record. -/
def recorded (w : Worker μ ν) (record : List String) : Worker (μ × List String) ν :=
  { w with
    store := ⟨(w.store.memory, record), w.store.scope⟩
    startHooks := w.startHooks.map Hook.recorded
    failureHooks := w.failureHooks.map Hook.recorded }

/-- The source that a value makes the next pass run. -/
def nextSource? (I : Interpreter μ ν) (w : Worker μ ν) (value : Option ν) : Option String :=
  (deferred? I value).bind fun text => (w.expand text).toOption

/-- The source that a pass runs, if there is one. -/
def sourceAt (I : Interpreter μ ν) (w : Worker μ ν) (expanded : String) : Nat → Option String
  | 0 => some expanded
  | k + 1 => (w.passAt I expanded k).result.toOption.bind
      ((w.passAt I expanded k).state.nextSource? I)

/-- The source that a statement runs, in order: the record of a language that keeps one. -/
def sourcesRun (I : Interpreter μ ν) (w : Worker μ ν) (statement expanded : String) :
    List String :=
  ((w.recorded []).execute I.recording statement expanded).state.store.memory.2

/-- Source that is run is recorded. -/
theorem runSource_recorded (w : Worker μ ν) (record : List String) (source : String) :
    (w.recorded record).runSource I.recording source =
      (w.runSource I source).mapState (·.recorded (record ++ [source])) :=
  rfl

/-- A pass records the source that it runs, if there is one. -/
theorem again_recorded (w : Worker μ ν) (record : List String) (value : Option ν) :
    (w.recorded record).again I.recording value =
      (w.again I value).mapState (·.recorded (record ++ (w.nextSource? I value).toList)) := by
  have hdeferred : deferred? I.recording value = deferred? I value := rfl
  have hexpand (text : String) : (w.recorded record).expand text = w.expand text := rfl
  unfold again nextSource?
  rw [hdeferred]
  -- nothing is deferred, it cannot be expanded, or it is run
  cases deferred? I value with
  | none => simp [Ran.done, Ran.mapState]
  | some text =>
    simp only [hexpand, Option.bind_some]
    cases w.expand text with
    | error raised => simp [Ran.failed, Ran.mapState, Except.toOption]
    | ok source => exact runSource_recorded w record source

/-- Showing a value records nothing. -/
theorem present_recorded (w : Worker μ ν) (record : List String) (value : Option ν) :
    (w.recorded record).present I.recording value =
      (w.present I value).mapState (·.recorded record) := by
  cases value with
  | none => rfl
  | some x =>
    cases hsome : I.isNone x with
    | true =>
      have hnone : ∀ y, some x = some y → I.isNone y = true := by
        intro y hy
        rwa [← Option.some.inj hy]
      rw [present_of_isNone hnone, present_of_isNone (I := I.recording) hnone]
      rfl
    | false =>
      have hrecording : I.recording.isNone x = false := hsome
      -- the value is shown in the same store, beside the record
      have hshowing : ((w.recorded record).showing I.recording x).result =
          (w.showing I x).result := rfl
      cases hline : (w.showing I x).result with
      | error e =>
        rw [present_of_error hsome hline, present_of_error hrecording (hshowing.trans hline)]
        rfl
      | ok line =>
        rw [present_of_line hsome hline, present_of_line hrecording (hshowing.trans hline)]
        rfl

theorem filterMap_range_succ {α : Type} (f : Nat → Option α) (n : Nat) :
    (List.range (n + 1)).filterMap f = (List.range n).filterMap f ++ (f n).toList := by
  rw [List.range_succ, List.filterMap_append]
  cases h : f n with
  | none => simp [h]
  | some a => simp [h]

/-- The record up to a pass: the source of each pass, as long as there is one. -/
theorem passAt_recorded (w : Worker μ ν) (record : List String) (expanded : String) (k : Nat) :
    (w.recorded record).passAt I.recording expanded k =
      (w.passAt I expanded k).mapState
        (·.recorded (record ++ (List.range (k + 1)).filterMap (w.sourceAt I expanded))) := by
  -- pass by pass
  induction k with
  | zero => exact runSource_recorded w record expanded
  | succ k ih =>
    rw [passAt, ih, passAt, filterMap_range_succ _ (k + 1), ← List.append_assoc]
    apply Ran.mapState_andThen
    · intro value hvalue
      have hsource : w.sourceAt I expanded (k + 1) =
          (w.passAt I expanded k).state.nextSource? I value := by
        simp [sourceAt, hvalue, Except.toOption]
      rw [hsource]
      exact again_recorded _ _ value
    · intro e he
      -- Nothing is run behind a pass that has raised.
      have hsource : w.sourceAt I expanded (k + 1) = none := by
        simp [sourceAt, he, Except.toOption]
      rw [hsource, Option.toList_none, List.append_nil]

/-- The look at the last value records nothing. -/
theorem settle_zero_recorded (w : Worker μ ν) (record : List String) (value : Option ν) :
    (w.recorded record).settle I.recording 0 value =
      (w.settle I 0 value).mapState (·.recorded record) := by
  have hdeferred : deferred? I.recording value = deferred? I value := rfl
  rw [settle.eq_def, settle.eq_def, hdeferred]
  cases deferred? I value with
  | none => rfl
  | some text => rfl

/-- The record of a statement. -/
theorem execute_recorded (w : Worker μ ν) (record : List String) (statement expanded : String) :
    (w.recorded record).execute I.recording statement expanded =
      (w.execute I statement expanded).mapState (·.recorded (record ++
        if expanded = statement then [expanded]
        else (List.range 17).filterMap (w.sourceAt I expanded))) := by
  -- the value is presented beside the record
  have hpresent (r : Ran (Worker μ ν) (Option ν)) (record : List String) :
      ((r.mapState (·.recorded record)).andThen fun v value => v.present I.recording value) =
        (r.andThen fun v value => v.present I value).mapState (·.recorded record) :=
    Ran.mapState_andThen (fun value _ => present_recorded _ record value) (fun _ _ => rfl)
  split
  · next h =>
    subst h
    rw [execute_of_eq, execute_of_eq, passAt_recorded]
    exact hpresent _ _
  · next h =>
    rw [execute_of_ne h, execute_of_ne h, passAt_recorded, ← hpresent]
    congr 1
    exact Ran.mapState_andThen (fun value _ => settle_zero_recorded _ _ value) (fun _ _ => rfl)

/-- A statement that was not changed runs once, and any other one pass by pass. -/
theorem sourcesRun_eq (w : Worker μ ν) (statement expanded : String) :
    w.sourcesRun I statement expanded = if expanded = statement then [expanded]
      else (List.range 17).filterMap (w.sourceAt I expanded) := by
  rw [sourcesRun, execute_recorded, List.nil_append]
  rfl

/-! ### How much is run -/

/-- What is there in the first places and in no other. -/
theorem length_filterMap_range {α : Type} {f : Nat → Option α} {m n : Nat} (hm : m ≤ n)
    (hsome : ∀ j < m, (f j).isSome = true) (hnone : ∀ j, m ≤ j → j < n → f j = none) :
    ((List.range n).filterMap f).length = m := by
  induction n generalizing m with
  | zero =>
    rw [Nat.le_zero.mp hm]
    rfl
  | succ n ih =>
    rw [filterMap_range_succ, List.length_append]
    -- the last place is one of the first, or there is nothing in it
    by_cases hlast : m = n + 1
    · obtain ⟨a, ha⟩ := Option.isSome_iff_exists.mp (hsome n (by omega))
      rw [ih (Nat.le_refl n) (fun j hj => hsome j (by omega)) (by omega), ha, hlast]
      rfl
    · rw [ih (by omega) hsome (fun j hj hn => hnone j hj (by omega)),
        hnone n (by omega) (Nat.lt_succ_self n)]
      rfl

/-- A pass that comes to a value, behind passes that have deferred it, has run source. -/
theorem isSome_sourceAt {value : Option ν} (hbefore : ∀ j < k, IsDeferredAt I w expanded j)
    (hvalue : (w.passAt I expanded k).result = .ok value) :
    (w.sourceAt I expanded k).isSome = true := by
  cases k with
  | zero => rfl
  | succ k =>
    obtain ⟨before, text, hpass, htext⟩ := isDeferredAt_iff.mp (hbefore k (Nat.lt_succ_self k))
    -- the pass before has deferred source, and it could be expanded
    rw [passAt, Ran.andThen_of_ok hpass] at hvalue
    simp only [again, htext] at hvalue
    cases hexpand : (w.passAt I expanded k).state.expand text with
    | error raised =>
      rw [hexpand] at hvalue
      cases hvalue
    | ok source => simp [sourceAt, nextSource?, hpass, htext, hexpand, Except.toOption]

theorem isSome_sourceAt_of_le {value : Option ν} {j : Nat}
    (hbefore : ∀ j < k, IsDeferredAt I w expanded j)
    (hvalue : (w.passAt I expanded k).result = .ok value) (hj : j ≤ k) :
    (w.sourceAt I expanded j).isSome = true := by
  rcases Nat.lt_or_eq_of_le hj with hlt | rfl
  · obtain ⟨_, _, hpass, _⟩ := hbefore j hlt
    exact isSome_sourceAt (fun i hi => hbefore i (by omega)) hpass
  · exact isSome_sourceAt hbefore hvalue

/-- Behind a value that is not deferred no source is run. -/
theorem sourceAt_eq_none {j : Nat} (h : ¬ IsDeferredAt I w expanded k) (hj : k < j) :
    w.sourceAt I expanded j = none := by
  cases j with
  | zero => omega
  | succ j =>
    rw [sourceAt, passAt_of_le h (Nat.le_of_lt_succ hj)]
    cases hvalue : (w.passAt I expanded k).result with
    | error e => rfl
    | ok value =>
      simp [nextSource?, deferred?_eq_none_of_not h hvalue, Except.toOption]

/-- What is raised behind the passes is raised by the value when it is shown. -/
theorem exists_showing_of_present {value : Option ν} {e : Raised}
    (h : (w.present I value).result = .error e) :
    ∃ x, value = some x ∧ (w.showing I x).result = .error e := by
  cases value with
  | none => cases h
  | some x =>
    refine ⟨x, rfl, ?_⟩
    -- what stands for nothing is not shown
    cases hsome : I.isNone x with
    | true =>
      rw [present, hsome] at h
      cases h
    | false =>
      cases hline : (w.showing I x).result with
      | error e' =>
        rw [present_of_error hsome hline] at h
        cases h
        rfl
      | ok line =>
        rw [present_of_line hsome hline] at h
        cases h

/-- A statement and the source that it defers.  A statement that the expansion has left as it was
    runs once.  Any other goes on from one deferred value to the next, and stops at the first pass
    that raises or comes to a value that is not deferred; if none does up to the sixteenth pass,
    the statement raises that it does not settle, and it raises that for no other reason unless a
    pass does, or the value when it is shown.  Source is run at most seventeen times, as often as
    the record says that a language keeps of it.  The value that a statement stops at is bound to
    `_` and shown once, if it stands for something. -/
theorem execute_settles (I : Interpreter μ ν) (w : Worker μ ν) (statement expanded : String) :
    (w.recorded []).execute I.recording statement expanded =
      (w.execute I statement expanded).mapState
        (·.recorded (w.sourcesRun I statement expanded)) ∧
    (w.sourcesRun I statement expanded).length ≤ 17 ∧
    (expanded = statement →
      w.sourcesRun I statement expanded = [expanded] ∧
      Ends I (w.passAt I expanded 0) (w.execute I statement expanded)) ∧
    (expanded ≠ statement →
      w.sourcesRun I statement expanded = (List.range 17).filterMap (w.sourceAt I expanded) ∧
      (∀ k ≤ 16, (∀ j < k, IsDeferredAt I w expanded j) → ¬ IsDeferredAt I w expanded k →
        Ends I (w.passAt I expanded k) (w.execute I statement expanded) ∧
        ∀ value, (w.passAt I expanded k).result = .ok value →
          (w.sourcesRun I statement expanded).length = k + 1) ∧
      ((∀ k ≤ 16, IsDeferredAt I w expanded k) →
        w.execute I statement expanded =
          { state := (w.passAt I expanded 16).state
            output := (w.passAt I expanded 16).output
            result := .error (.fault (.unsettled 16)) } ∧
        (w.sourcesRun I statement expanded).length = 17) ∧
      ((∀ k ≤ 16, ∀ e, (w.passAt I expanded k).result ≠ .error e) →
        (∀ k ≤ 16, ∀ x, (w.passAt I expanded k).result = .ok (some x) →
          ((w.passAt I expanded k).state.showing I x).result ≠
            .error (.fault (.unsettled 16))) →
        ((w.execute I statement expanded).result = .error (.fault (.unsettled 16)) ↔
          ∀ k ≤ 16, IsDeferredAt I w expanded k))) := by
  have hruns := sourcesRun_eq (I := I) w statement expanded
  refine ⟨?_, ?_, ?_, ?_⟩
  · rw [execute_recorded, List.nil_append, hruns]
  · rw [hruns]
    split
    · exact Nat.le_of_ble_eq_true rfl
    · exact List.length_filterMap_le _ _
  · -- a statement that was not changed
    rintro rfl
    refine ⟨by rw [hruns, if_pos rfl], ?_⟩
    rw [execute_of_eq]
    exact ends_andThen_present _
  · intro hne
    rw [if_neg hne] at hruns
    refine ⟨hruns, ?_, ?_, ?_⟩
    · -- pass `k` is the first that defers nothing
      intro k hk hbefore hlast
      rw [execute_of_not hne hk hlast]
      refine ⟨ends_andThen_present _, ?_⟩
      intro value hvalue
      rw [hruns]
      apply length_filterMap_range (by omega)
      · intro j hj
        exact isSome_sourceAt_of_le hbefore hvalue (Nat.le_of_lt_succ hj)
      · intro j hj _
        exact sourceAt_eq_none hlast hj
    · -- every pass defers, so every pass up to the last one has run source
      intro hall
      refine ⟨execute_of_deferred hne (hall 16 (Nat.le_refl 16)), ?_⟩
      obtain ⟨value, _, hvalue, _⟩ := hall 16 (Nat.le_refl 16)
      rw [hruns]
      apply length_filterMap_range (Nat.le_refl 17)
      · intro j hj
        exact isSome_sourceAt_of_le (fun i hi => hall i (by omega)) hvalue (Nat.le_of_lt_succ hj)
      · omega
    · -- where no pass raises, only the bound on the passes does
      intro hclear hshown
      constructor
      · intro hunsettled k hk
        by_contra hnot
        rw [execute_of_not hne hk hnot] at hunsettled
        cases hvalue : (w.passAt I expanded k).result with
        | error e => exact hclear k hk e hvalue
        | ok value =>
          rw [Ran.andThen_of_ok hvalue] at hunsettled
          obtain ⟨x, rfl, hx⟩ := exists_showing_of_present hunsettled
          exact hshown k hk x hvalue hx
      · intro hall
        rw [execute_of_deferred hne (hall 16 (Nat.le_refl 16))]

/-- A worker with one rule, which has a name stand for source that is deferred. -/
def deferringWorker (name source : String) : Worker Language.Memory Language.Datum :=
  { freshWorker with
    rules := (Expansion.Rule.ofJson Template.render name (.str source)).toOption.toList }

/-- A statement that does not settle, and one that settles in its second run. -/
theorem execute_settles_never_or_once :
    ((deferringWorker "x" "'return x'").execute (Language.interpreter {}) "x"
      "'return x'").result = .error (.fault (.unsettled 16)) ∧
    ((deferringWorker "x" "'return x'").sourcesRun (Language.interpreter {}) "x"
      "'return x'").length = 17 ∧
    ((deferringWorker "y" "'return 5'").execute (Language.interpreter {}) "y"
      "'return 5'").output = " → 5\n" ∧
    Ends (Language.interpreter {})
      ((deferringWorker "y" "'return 5'").passAt (Language.interpreter {}) "'return 5'" 1)
      ((deferringWorker "y" "'return 5'").execute (Language.interpreter {}) "y" "'return 5'") ∧
    ((deferringWorker "y" "'return 5'").sourcesRun (Language.interpreter {}) "y"
      "'return 5'").length = 2 := by
  obtain ⟨-, -, -, hnever⟩ := execute_settles (Language.interpreter {})
    (deferringWorker "x" "'return x'") "x" "'return x'"
  obtain ⟨-, -, hall, -⟩ := hnever (by decide)
  obtain ⟨hunsettled, hseventeen⟩ := hall (by decide +kernel)
  obtain ⟨-, -, -, honce⟩ := execute_settles (Language.interpreter {})
    (deferringWorker "y" "'return 5'") "y" "'return 5'"
  -- the second pass comes to a number
  obtain ⟨-, hstops, -, -⟩ := honce (by decide)
  obtain ⟨hends, htwo⟩ := hstops 1 (by decide) (by decide +kernel) (by decide +kernel)
  have hok : ((deferringWorker "y" "'return 5'").passAt (Language.interpreter {}) "'return 5'"
      1).result.isOk = true := by
    decide +kernel
  refine ⟨by rw [hunsettled], hseventeen, by decide +kernel, hends, ?_⟩
  cases hpass : ((deferringWorker "y" "'return 5'").passAt (Language.interpreter {}) "'return 5'"
      1).result with
  | error e =>
    rw [hpass] at hok
    cases hok
  | ok value => exact htwo value hpass

end Worker

end ReplEngine
