import Mathlib.Data.List.Forall2
import ReplEngine.Error

/-!
# Success and failure

What is known of a computation of several steps, each of which may fail: when it succeeds, and
with which errors it fails (`FailsBy`).  A walk through a list stops at the first failure.

## Key results

- `bind_eq_ok_iff`, `bind_eq_error_iff`: the outcomes of two steps
- `mapM_eq_ok_iff`, `mapM_eq_error_iff`: the outcomes of a walk through a list
- `FailsBy.bind`, `FailsBy.mapM`: a reason for all failures of the steps is one for the whole
-/

namespace ReplEngine

variable {α β : Type} {x : Except Error α} {f : α → Except Error β} {e : Error}

/-- Two steps succeed if both do. -/
theorem bind_eq_ok_iff {b : β} : x >>= f = .ok b ↔ ∃ a, x = .ok a ∧ f a = .ok b := by
  cases x with
  | error e => simp [bind, Except.bind]
  | ok a => simp [bind, Except.bind]

/-- Two steps fail with the first, or with the second behind the first. -/
theorem bind_eq_error_iff :
    x >>= f = .error e ↔ x = .error e ∨ ∃ a, x = .ok a ∧ f a = .error e := by
  cases x with
  | error e => simp [bind, Except.bind]
  | ok a => simp [bind, Except.bind]

/-- A walk succeeds if each of its steps does. -/
theorem mapM_eq_ok_iff {items : List α} {results : List β} :
    items.mapM f = .ok results ↔ List.Forall₂ (fun item b => f item = .ok b) items results := by
  induction items generalizing results with
  | nil => simp [pure, Except.pure, eq_comm]
  | cons item items ih =>
    rw [List.mapM_cons, List.forall₂_cons_left_iff]
    simp only [bind_eq_ok_iff, ih, pure, Except.pure, Except.ok.injEq]
    constructor
    · rintro ⟨b, hb, rest, hrest, rfl⟩
      exact ⟨b, rest, hb, hrest, rfl⟩
    · rintro ⟨b, rest, hb, hrest, rfl⟩
      exact ⟨b, hb, rest, hrest, rfl⟩

/-- A walk fails at the first item at which a step does. -/
theorem mapM_eq_error_iff {items : List α} :
    items.mapM f = .error e ↔ ∃ before item after, items = before ++ item :: after ∧
      (∀ passed ∈ before, ∃ b, f passed = .ok b) ∧ f item = .error e := by
  induction items with
  | nil => simp [pure, Except.pure]
  | cons item items ih =>
    rw [List.mapM_cons]
    simp only [bind_eq_error_iff, ih, pure, Except.pure, reduceCtorEq, and_false, exists_false,
      or_false]
    constructor
    · rintro (h | ⟨b, hb, before, next, after, rfl, hbefore, hnext⟩)
      · exact ⟨[], item, items, rfl, by simp, h⟩
      · exact ⟨item :: before, next, after, rfl, List.forall_mem_cons.mpr ⟨⟨b, hb⟩, hbefore⟩, hnext⟩
    · rintro ⟨before, next, after, hitems, hbefore, hnext⟩
      -- the item that fails is the first one, or one of those behind it
      cases before with
      | nil =>
        cases hitems
        exact .inl hnext
      | cons first before =>
        cases hitems
        obtain ⟨⟨b, hb⟩, hbefore⟩ := List.forall_mem_cons.mp hbefore
        exact .inr ⟨b, hb, before, next, after, rfl, hbefore, hnext⟩

/-- What fails, if at all, with an error of a given sort. -/
def FailsBy (reason : Error → Prop) (x : Except Error α) : Prop :=
  ∀ e, x = .error e → reason e

namespace FailsBy

variable {reason : Error → Prop}

theorem ok (a : α) : FailsBy reason (.ok a) :=
  fun _ h => nomatch h

theorem error (h : reason e) : FailsBy reason (.error e : Except Error α) := by
  intro e' he
  cases he
  exact h

/-- Two steps fail by a reason if each does. -/
theorem bind (hx : FailsBy reason x) (hf : ∀ a, FailsBy reason (f a)) :
    FailsBy reason (x >>= f) := by
  intro e h
  rcases bind_eq_error_iff.mp h with h | ⟨a, -, h⟩
  · exact hx e h
  · exact hf a e h

/-- A walk fails by a reason if each step does. -/
theorem mapM {items : List α} (h : ∀ item ∈ items, FailsBy reason (f item)) :
    FailsBy reason (items.mapM f) := by
  intro e he
  obtain ⟨before, item, after, rfl, -, hitem⟩ := mapM_eq_error_iff.mp he
  exact h item (by simp) e hitem

end FailsBy

end ReplEngine
