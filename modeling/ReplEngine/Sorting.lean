/-!
# Sorting with comparisons that can fail

Sorts a list with a comparison that may refuse a pair.  The leading run is kept
(reversed if it falls strictly), and every further item is put in its place by
binary search, behind the items that are not greater.  The sort is stable, and it
fails as soon as a refused pair is compared.
-/

namespace ReplEngine.Sorting

variable {α : Type}

/-- Splits off the rest of a run that goes on as long as `goesOn` holds between
neighbours.  The run is collected reversed. -/
def takeRun (goesOn : α → α → Option Bool) (run : List α) (last : α) :
    List α → Option (List α × List α)
  | [] => some (run, [])
  | x :: rest => do
    if ← goesOn last x then takeRun goesOn (x :: run) x rest
    else return (run, x :: rest)

/-- The leading run in rising order, and the items behind it. -/
def leadingRun (less : α → α → Option Bool) : List α → Option (List α × List α)
  | [] => some ([], [])
  | [x] => some ([x], [])
  | x :: y :: rest => do
    if ← less y x then takeRun (fun last z => less z last) [y, x] y rest
    else
      let (run, rest) ← takeRun (fun last z => (less z last).map (!·)) [y, x] y rest
      return (run.reverse, rest)

/-- The place of an item in a sorted list, between `low` and `high`. -/
def placeOf (less : α → α → Option Bool) (x : α) (sorted : List α) :
    (fuel low high : Nat) → Option Nat
  | 0, low, _ => some low
  | fuel + 1, low, high =>
    if low < high then
      let middle := (low + high) / 2
      match sorted[middle]? with
      | none => some low
      | some y => do
        if ← less x y then placeOf less x sorted fuel low middle
        else placeOf less x sorted fuel (middle + 1) high
    else some low

/-- Puts an item into a sorted list. -/
def insert (less : α → α → Option Bool) (sorted : List α) (x : α) : Option (List α) := do
  let place ← placeOf less x sorted sorted.length 0 sorted.length
  return sorted.take place ++ x :: sorted.drop place

/-- The list in rising order; `none` if a pair that was compared has no order. -/
def sort? (less : α → α → Option Bool) (items : List α) : Option (List α) := do
  let (run, rest) ← leadingRun less items
  rest.foldlM (insert less) run

end ReplEngine.Sorting
