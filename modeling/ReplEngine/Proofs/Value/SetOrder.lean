import Mathlib.Data.List.Perm.Basic
import ReplEngine.Value.Order

/-!
# The order in which sets are shown

Sorting with a comparison that can refuse a pair neither loses nor repeats an item, and it does
not look at what the items carry along.  So the members of a set are shown in an order that
their texts have no part in.

## Key results

- `Sorting.sort?_map`: sorting commutes with a map that keeps the comparison
- `Sorting.perm_of_sort?`: sorting permutes
- `Value.inSetOrder_map`, `Value.perm_shownOrder`: the same for the members of a set
-/

namespace ReplEngine

namespace Sorting

variable {α β : Type}

/-! ### Items that carry something along -/

section Map

variable {less : α → α → Option Bool} {less' : β → β → Option Bool} {f : α → β}

/-- The items of a run are told by the comparison. -/
private theorem takeRun_map (h : ∀ a b, less' (f a) (f b) = less a b) (run : List α) (last : α)
    (items : List α) :
    takeRun less' (run.map f) (f last) (items.map f) =
      (takeRun less run last items).map fun r => (r.1.map f, r.2.map f) := by
  -- on the items, up to the first that does not go on
  induction items generalizing run last with
  | nil => rfl
  | cons x items ih =>
    rw [List.map_cons, takeRun, takeRun, h]
    cases less last x with
    | none => rfl
    | some goesOn =>
      cases goesOn with
      | true => exact ih (x :: run) x
      | false => rfl

private theorem leadingRun_map (h : ∀ a b, less' (f a) (f b) = less a b) (items : List α) :
    leadingRun less' (items.map f) =
      (leadingRun less items).map fun r => (r.1.map f, r.2.map f) := by
  -- the first two items decide whether the run rises or falls
  match items with
  | [] => rfl
  | [x] => rfl
  | x :: y :: rest =>
    rw [List.map_cons, List.map_cons, leadingRun, leadingRun, h]
    cases less y x with
    | none => rfl
    | some falls =>
      cases falls with
      | true =>
        have hrun : takeRun (fun last z => less' z last) ([y, x].map f) (f y) (rest.map f) =
            (takeRun (fun last z => less z last) [y, x] y rest).map
              fun r => (r.1.map f, r.2.map f) :=
          takeRun_map (fun a b => h b a) [y, x] y rest
        exact hrun
      | false =>
        have hrun :
            takeRun (fun last z => (less' z last).map (!·)) ([y, x].map f) (f y) (rest.map f) =
            (takeRun (fun last z => (less z last).map (!·)) [y, x] y rest).map
              fun r => (r.1.map f, r.2.map f) :=
          takeRun_map (fun a b => by rw [h]) [y, x] y rest
        simp only [Option.bind_eq_bind, Option.bind_some, Bool.false_eq_true, if_false]
        rw [show [f y, f x] = [y, x].map f from rfl, hrun]
        cases takeRun (fun last z => (less z last).map (!·)) [y, x] y rest with
        | none => rfl
        | some r => simp

private theorem placeOf_map (h : ∀ a b, less' (f a) (f b) = less a b) (x : α) (sorted : List α)
    (fuel low high : Nat) :
    placeOf less' (f x) (sorted.map f) fuel low high = placeOf less x sorted fuel low high := by
  -- on the steps of the search
  induction fuel generalizing low high with
  | zero => rfl
  | succ fuel ih =>
    rw [placeOf, placeOf]
    split
    · dsimp only
      rw [List.getElem?_map]
      cases sorted[(low + high) / 2]? with
      | none => rfl
      | some y =>
        simp only [Option.map_some, h, ih]
    · rfl

/-- An item is put in the same place. -/
private theorem insert_map (h : ∀ a b, less' (f a) (f b) = less a b) (sorted : List α) (x : α) :
    insert less' (sorted.map f) (f x) = (insert less sorted x).map (·.map f) := by
  rw [insert, insert, List.length_map, placeOf_map h]
  cases placeOf less x sorted sorted.length 0 sorted.length with
  | none => rfl
  | some place => simp

private theorem foldlM_insert_map (h : ∀ a b, less' (f a) (f b) = less a b)
    (items sorted : List α) :
    (items.map f).foldlM (insert less') (sorted.map f) =
      (items.foldlM (insert less) sorted).map (·.map f) := by
  -- on the items that are still to be put in
  induction items generalizing sorted with
  | nil => rfl
  | cons x items ih =>
    rw [List.map_cons, List.foldlM_cons, List.foldlM_cons, insert_map h]
    cases insert less sorted x with
    | none => rfl
    | some sorted' => exact ih sorted'

/-- Sorting commutes with a map that keeps the comparison. -/
theorem sort?_map (h : ∀ a b, less' (f a) (f b) = less a b) (items : List α) :
    sort? less' (items.map f) = (sort? less items).map (·.map f) := by
  rw [sort?, sort?, leadingRun_map h]
  cases leadingRun less items with
  | none => rfl
  | some r => exact foldlM_insert_map h r.2 r.1

end Map

/-! ### Nothing is lost -/

variable {less : α → α → Option Bool}

/-- A run and what is left of the items are the items. -/
private theorem perm_of_takeRun {run items run' rest : List α} {last : α}
    (h : takeRun less run last items = some (run', rest)) : (run' ++ rest).Perm (run ++ items) := by
  -- on the items; one that goes on moves over to the run
  induction items generalizing run last with
  | nil =>
    cases h
    exact List.Perm.refl _
  | cons x items ih =>
    rw [takeRun] at h
    cases hless : less last x with
    | none => rw [hless] at h; cases h
    | some goesOn =>
      rw [hless] at h
      cases goesOn with
      | true => exact (ih h).trans List.perm_middle.symm
      | false =>
        cases h
        exact List.Perm.refl _

/-- So are the leading run and the rest, even when the run is turned round. -/
private theorem perm_of_leadingRun {items run rest : List α}
    (h : leadingRun less items = some (run, rest)) : (run ++ rest).Perm items := by
  match items with
  | [] => cases h; exact List.Perm.refl _
  | [x] => cases h; exact List.Perm.refl _
  | x :: y :: items =>
    -- the first two have changed places
    have hswap : ([y, x] ++ items).Perm (x :: y :: items) := List.Perm.swap x y items
    rw [leadingRun] at h
    cases hless : less y x with
    | none => rw [hless] at h; cases h
    | some falls =>
      rw [hless] at h
      cases falls with
      | true => exact (perm_of_takeRun h).trans hswap
      | false =>
        simp only [Option.bind_eq_bind, Option.bind_some, Bool.false_eq_true, if_false,
          Option.bind_eq_some_iff] at h
        obtain ⟨⟨reversed, after⟩, hrun, heq⟩ := h
        cases heq
        exact ((List.reverse_perm reversed).append_right after).trans
          ((perm_of_takeRun hrun).trans hswap)

/-- An item that is put into a list is added to it. -/
private theorem perm_of_insert {sorted sorted' : List α} {x : α}
    (h : insert less sorted x = some sorted') : sorted'.Perm (x :: sorted) := by
  simp only [insert, Option.bind_eq_bind, Option.bind_eq_some_iff] at h
  obtain ⟨place, -, heq⟩ := h
  cases heq
  have hmiddle : (sorted.take place ++ x :: sorted.drop place).Perm
      (x :: (sorted.take place ++ sorted.drop place)) := List.perm_middle
  rwa [List.take_append_drop] at hmiddle

private theorem perm_of_foldlM {items sorted sorted' : List α}
    (h : items.foldlM (insert less) sorted = some sorted') : sorted'.Perm (sorted ++ items) := by
  -- on the items that are still to be put in
  induction items generalizing sorted with
  | nil =>
    cases h
    rw [List.append_nil]
  | cons x items ih =>
    rw [List.foldlM_cons] at h
    cases hinsert : insert less sorted x with
    | none => rw [hinsert] at h; cases h
    | some next =>
      rw [hinsert] at h
      exact (ih h).trans (((perm_of_insert hinsert).append_right items).trans List.perm_middle.symm)

/-- Sorting permutes. -/
theorem perm_of_sort? {items sorted : List α} (h : sort? less items = some sorted) :
    sorted.Perm items := by
  simp only [sort?, Option.bind_eq_bind, Option.bind_eq_some_iff] at h
  obtain ⟨⟨run, rest⟩, hrun, hfold⟩ := h
  exact (perm_of_foldlM hfold).trans (perm_of_leadingRun hrun)

end Sorting

/-! ### Members of sets -/

namespace Value

/-- Values in the order in which a set of them is shown. -/
def shownOrder (items : List Value) : List Value :=
  (Sorting.sort? less? items).getD items

/-- The order in which members are shown is one of them all. -/
theorem perm_shownOrder (items : List Value) : (shownOrder items).Perm items := by
  unfold shownOrder
  cases h : Sorting.sort? less? items with
  | none => exact List.Perm.refl _
  | some sorted => exact Sorting.perm_of_sort? h

/-- What members carry along has no part in their order. -/
theorem inSetOrder_map {α : Type} (f : Value → α) (items : List Value) :
    inSetOrder (items.map fun v => (v, f v)) = (shownOrder items).map fun v => (v, f v) := by
  have hsort : Sorting.sort? (fun a b : Value × α => a.1.less? b.1) (items.map fun v => (v, f v)) =
      (Sorting.sort? less? items).map (·.map fun v => (v, f v)) :=
    Sorting.sort?_map (fun _ _ => rfl) items
  rw [inSetOrder, hsort, shownOrder]
  cases Sorting.sort? less? items with
  | none => rfl
  | some sorted => rfl

end Value

end ReplEngine
