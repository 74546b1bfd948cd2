import ReplEngine.Proofs.Value.SetOrder

/-!
# Sorting by a comparison that is never refused

Where a comparison decides every pair, and does so as an order does, sorting succeeds and no item
of the result stands behind one that should follow it.  The leading run is in order because
neighbours are; every further item is put between those that need not stand behind it and those
that it need not stand behind, which is what the binary search finds.

So the result depends on the items alone and not on how they were arranged, if any two of them are
told apart.

## Key results

- `exists_sort?`: sorting succeeds, and puts the items in order
- `sort?_eq_of_perm`: items that are told apart are sorted alike, however they were arranged
-/

namespace ReplEngine.Sorting

variable {α : Type} {less : α → α → Option Bool}

/-- The item `a` need not stand behind `b`. -/
def NotAfter (less : α → α → Option Bool) (a b : α) : Prop :=
  less b a = some false

/-- The comparison decides every pair, in the way of an order. -/
structure Decides (less : α → α → Option Bool) : Prop where
  total : ∀ a b, less a b = some true ∨ less a b = some false
  asymm : ∀ {a b}, less a b = some true → NotAfter less a b
  trans : ∀ {a b c}, NotAfter less a b → NotAfter less b c → NotAfter less a c

/-- No item stands behind one that should follow it. -/
abbrev InOrder (less : α → α → Option Bool) (items : List α) : Prop :=
  items.Pairwise (NotAfter less)

/-! ### The leading run -/

/-- A run whose neighbours are related is related throughout. -/
theorem pairwise_of_takeRun (R : α → α → Prop) {goesOn : α → α → Option Bool}
    (htrans : ∀ {a b c}, R a b → R b c → R a c)
    (hgoesOn : ∀ {a b}, goesOn a b = some true → R b a) {last : α} {run items run' rest : List α}
    (hrun : (last :: run).Pairwise R)
    (h : takeRun goesOn (last :: run) last items = some (run', rest)) : run'.Pairwise R := by
  -- on the items; the run is kept from its end
  induction items generalizing run last with
  | nil =>
    cases h
    exact hrun
  | cons x items ih =>
    rw [takeRun] at h
    cases hx : goesOn last x with
    | none => rw [hx] at h; cases h
    | some on =>
      rw [hx] at h
      cases on with
      | false =>
        cases h
        exact hrun
      | true =>
        -- the next item is related to the last one, and by that to all before it
        have hlast := hgoesOn hx
        apply ih _ h
        rw [List.pairwise_cons]
        refine ⟨fun b hb => ?_, hrun⟩
        rcases List.mem_cons.mp hb with rfl | hb
        · exact hlast
        · exact htrans hlast (List.rel_of_pairwise_cons hrun hb)

/-- If every pair is decided, a run can be taken. -/
theorem exists_takeRun {goesOn : α → α → Option Bool}
    (h : ∀ a b, goesOn a b = some true ∨ goesOn a b = some false) (run : List α) (last : α)
    (items : List α) : ∃ r, takeRun goesOn run last items = some r := by
  induction items generalizing run last with
  | nil => exact ⟨_, rfl⟩
  | cons x items ih =>
    rw [takeRun]
    rcases h last x with hx | hx
    · rw [hx]
      exact ih (x :: run) x
    · rw [hx]
      exact ⟨_, rfl⟩

/-- There is a leading run, and it is in order: a falling one is turned round. -/
theorem exists_leadingRun (hless : Decides less) (items : List α) :
    ∃ run rest, leadingRun less items = some (run, rest) ∧ InOrder less run := by
  match items with
  | [] => exact ⟨[], [], rfl, .nil⟩
  | [x] => exact ⟨[x], [], rfl, List.pairwise_singleton _ x⟩
  | x :: y :: rest =>
    rw [leadingRun]
    rcases hless.total y x with hfalls | hrises
    · -- a run that falls is kept as it was collected
      obtain ⟨⟨run, after⟩, hrun⟩ := exists_takeRun (fun a b => hless.total b a) [y, x] y rest
      rw [hfalls]
      refine ⟨run, after, hrun, ?_⟩
      apply pairwise_of_takeRun (NotAfter less) hless.trans hless.asymm _ hrun
      simpa using hless.asymm hfalls
    · have htotal : ∀ a b, (less b a).map (!·) = some true ∨ (less b a).map (!·) = some false := by
        intro a b
        rcases hless.total b a with h | h <;> simp [h]
      obtain ⟨⟨run, after⟩, hrun⟩ := exists_takeRun htotal [y, x] y rest
      rw [hrises]
      refine ⟨run.reverse, after, ?_, ?_⟩
      · simp only [Option.bind_eq_bind, Option.bind_some, Bool.false_eq_true, if_false]
        rw [hrun]
        rfl
      · -- collected from its end, a rising run falls
        have hfalling : run.Pairwise fun a b => NotAfter less b a := by
          apply pairwise_of_takeRun (fun a b => NotAfter less b a)
            (fun hab hbc => hless.trans hbc hab) _ _ hrun
          · intro a b h
            rcases hless.total b a with hba | hba
            · simp [hba] at h
            · exact hba
          · simpa [NotAfter] using hrises
        exact List.pairwise_reverse.mpr hfalling

/-! ### The place of an item -/

/-- The place of an item `x` in a list is not before `low` and not behind `high`: what stands before
    `low` need not stand behind `x`, and `x` need not stand behind what follows from `high` on. -/
structure IsPlace (less : α → α → Option Bool) (x : α) (sorted : List α) (low high : Nat) :
    Prop where
  before : ∀ i (hi : i < sorted.length), i < low → NotAfter less sorted[i] x
  behind : ∀ i (hi : i < sorted.length), high ≤ i → NotAfter less x sorted[i]

/-- Binary search finds the place of an item between two bounds of it. -/
theorem exists_placeOf (hless : Decides less) {x : α} {sorted : List α}
    (hsorted : InOrder less sorted) {fuel low high : Nat} (hfuel : high ≤ low + fuel)
    (hlow : low ≤ high) (hhigh : high ≤ sorted.length) (h : IsPlace less x sorted low high) :
    ∃ place, placeOf less x sorted fuel low high = some place ∧
      IsPlace less x sorted place place := by
  -- what stands before another item need not stand behind it
  have hle : ∀ {i j : Nat} (hi : i < sorted.length) (hj : j < sorted.length), i < j →
      NotAfter less sorted[i] sorted[j] :=
    fun hi hj hij => List.pairwise_iff_getElem.mp hsorted _ _ hi hj hij
  induction fuel generalizing low high with
  | zero =>
    obtain rfl : low = high := by omega
    exact ⟨low, rfl, h⟩
  | succ fuel ih =>
    rw [placeOf]
    by_cases hlt : low < high
    · have hmiddle : (low + high) / 2 < sorted.length := by omega
      simp only [if_pos hlt, List.getElem?_eq_getElem hmiddle]
      rcases hless.total x sorted[(low + high) / 2] with hx | hx
      · -- the item belongs before the middle
        have hplace : IsPlace less x sorted low ((low + high) / 2) := by
          refine ⟨h.before, fun i hi hmi => ?_⟩
          rcases Nat.eq_or_lt_of_le hmi with rfl | hmi
          · exact hless.asymm hx
          · exact hless.trans (hless.asymm hx) (hle hmiddle hi hmi)
        rw [hx]
        exact ih (by omega) (by omega) (by omega) hplace
      · -- or behind it
        have hplace : IsPlace less x sorted ((low + high) / 2 + 1) high := by
          refine ⟨fun i hi him => ?_, h.behind⟩
          rcases Nat.eq_or_lt_of_le (Nat.le_of_lt_succ him) with rfl | him
          · exact hx
          · exact hless.trans (hle hi hmiddle him) hx
        rw [hx]
        exact ih (by omega) (by omega) (by omega) hplace
    · obtain rfl : low = high := by omega
      rw [if_neg hlt]
      exact ⟨low, rfl, h⟩

/-- An item can be put into a list that is in order, and it stays so. -/
theorem exists_insert (hless : Decides less) {sorted : List α} (hsorted : InOrder less sorted)
    (x : α) : ∃ sorted', insert less sorted x = some sorted' ∧ InOrder less sorted' := by
  -- the search starts with the whole list
  have hends : IsPlace less x sorted 0 sorted.length :=
    ⟨fun i hi h => by omega, fun i hi h => by omega⟩
  have hfound : ∃ place, placeOf less x sorted sorted.length 0 sorted.length = some place ∧
      IsPlace less x sorted place place :=
    exists_placeOf hless hsorted (by omega) (by omega) (by omega) hends
  obtain ⟨place, hplace, hbounds⟩ := hfound
  refine ⟨sorted.take place ++ x :: sorted.drop place, ?_, ?_⟩
  · rw [insert, hplace]
    rfl
  · have hbefore : ∀ a ∈ sorted.take place, NotAfter less a x := by
      intro a ha
      obtain ⟨i, hi, rfl⟩ := List.mem_iff_getElem.mp ha
      rw [List.getElem_take]
      simp only [List.length_take] at hi
      exact hbounds.before i (by omega) (by omega)
    have hbehind : ∀ b ∈ sorted.drop place, NotAfter less x b := by
      intro b hb
      obtain ⟨i, hi, rfl⟩ := List.mem_iff_getElem.mp hb
      rw [List.getElem_drop]
      simp only [List.length_drop] at hi
      exact hbounds.behind (place + i) (by omega) (by omega)
    rw [InOrder, List.pairwise_append, List.pairwise_cons]
    refine ⟨hsorted.sublist (List.take_sublist _ _),
      ⟨hbehind, hsorted.sublist (List.drop_sublist _ _)⟩, fun a ha b hb => ?_⟩
    rcases List.mem_cons.mp hb with rfl | hb
    · exact hbefore a ha
    · exact hless.trans (hbefore a ha) (hbehind b hb)

theorem exists_foldlM_insert (hless : Decides less) {sorted : List α}
    (hsorted : InOrder less sorted) (items : List α) :
    ∃ sorted', items.foldlM (insert less) sorted = some sorted' ∧ InOrder less sorted' := by
  induction items generalizing sorted with
  | nil => exact ⟨sorted, rfl, hsorted⟩
  | cons x items ih =>
    obtain ⟨next, hnext, hinOrder⟩ := exists_insert hless hsorted x
    rw [List.foldlM_cons, hnext]
    exact ih hinOrder

/-! ### Sorting -/

/-- Sorting by a comparison that decides every pair succeeds, and puts the items in order. -/
theorem exists_sort? (hless : Decides less) (items : List α) :
    ∃ sorted, sort? less items = some sorted ∧ InOrder less sorted := by
  obtain ⟨run, rest, hrun, hinOrder⟩ := exists_leadingRun hless items
  rw [sort?, hrun]
  exact exists_foldlM_insert hless hinOrder rest

/-- Items that are told apart are sorted alike, however they were arranged. -/
theorem sort?_eq_of_perm (hless : Decides less) {items items' : List α} (hperm : items.Perm items')
    (hapart : ∀ a ∈ items, ∀ b ∈ items, NotAfter less a b → NotAfter less b a → a = b) :
    sort? less items = sort? less items' := by
  obtain ⟨sorted, hsort, hinOrder⟩ := exists_sort? hless items
  obtain ⟨sorted', hsort', hinOrder'⟩ := exists_sort? hless items'
  have hsorted := perm_of_sort? hsort
  have hsorted' := (perm_of_sort? hsort').trans hperm.symm
  -- two lists of the same items that are both in order
  have heq : sorted = sorted' := by
    apply List.Perm.eq_of_pairwise _ hinOrder hinOrder' (hsorted.trans hsorted'.symm)
    intro a b ha hb
    exact hapart a (hsorted.mem_iff.mp ha) b (hsorted'.mem_iff.mp hb)
  rw [hsort, hsort', heq]

end ReplEngine.Sorting
