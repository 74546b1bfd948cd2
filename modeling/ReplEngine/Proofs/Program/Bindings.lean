import Mathlib.Data.List.Nodup
import ReplEngine.Program.Basic

/-!
# Bindings

Namespaces are lists of entries that are searched from the front.  Where no key is bound twice
(`IsMapping`) the order does not matter for what a key stands for, and being found is being an
entry.  Binding keys one after the other keeps that, and the last binding of a key wins.

## Key results

- `IsMapping.lookup?_eq_some_iff`: in a mapping, what is found under a key are its entries
- `isMapping_bindEntries`: binding keys in order gives a mapping
- `lookup?_bindEntries`: the last of several bindings is found
-/

namespace ReplEngine

variable {α : Type} {entries : List (String × α)} {key : String} {value : α}

/-- No key is bound twice. -/
def IsMapping (entries : List (String × α)) : Prop :=
  (entries.map (·.1)).Nodup

instance (entries : List (String × α)) : Decidable (IsMapping entries) :=
  inferInstanceAs (Decidable (List.Nodup _))

/-- The library has which members `eraseDups` keeps, but not that it keeps each once. -/
theorem nodup_eraseDups {κ : Type} [BEq κ] [LawfulBEq κ] (keys : List κ) :
    keys.eraseDups.Nodup := by
  cases keys with
  | nil => simp
  | cons key rest =>
    rw [List.eraseDups_cons, List.nodup_cons]
    constructor
    · simp
    · exact nodup_eraseDups _
termination_by keys.length
decreasing_by exact Nat.lt_succ_of_le (List.length_filter_le _ _)

/-! ### Finding a key -/

@[simp]
theorem lookup?_nil (key : String) : lookup? key ([] : List (String × α)) = none := rfl

/-- The first entry is looked at first. -/
theorem lookup?_cons (key : String) (entry : String × α) (rest : List (String × α)) :
    lookup? key (entry :: rest) =
      if entry.1 = key then some entry.2 else lookup? key rest := by
  by_cases h : entry.1 = key <;> simp [lookup?, h]

theorem lookup?_append (key : String) (front back : List (String × α)) :
    lookup? key (front ++ back) = (lookup? key front).or (lookup? key back) := by
  simp [lookup?, List.find?_append, Option.map_or]

/-- Only keys that are kept are found. -/
theorem lookup?_filter (keep : String → Bool) (key : String) (entries : List (String × α)) :
    lookup? key (entries.filter fun entry => keep entry.1) =
      if keep key then lookup? key entries else none := by
  -- on the entries
  induction entries with
  | nil => simp
  | cons entry rest ih =>
    -- the entry has the key or not, and is kept or not
    by_cases hkey : entry.1 = key
    · by_cases hkeep : keep key = true <;> simp [lookup?_cons, hkey, hkeep, ih]
    · by_cases hkeep : keep entry.1 = true <;> simp [lookup?_cons, hkey, hkeep, ih]

/-- What is found is there. -/
theorem mem_of_lookup? (h : lookup? key entries = some value) : (key, value) ∈ entries := by
  obtain ⟨entry, hfound, rfl⟩ := Option.map_eq_some_iff.mp h
  have hkey : entry.1 = key := by simpa using List.find?_some hfound
  rw [← hkey]
  exact List.mem_of_find?_eq_some hfound

/-- Nothing is found of a key that is not bound. -/
theorem lookup?_eq_none_iff : lookup? key entries = none ↔ key ∉ entries.map (·.1) := by
  simp only [lookup?, Option.map_eq_none_iff, List.find?_eq_none, beq_iff_eq, List.mem_map,
    not_exists, not_and]

theorem lookup?_isSome_iff : (lookup? key entries).isSome = true ↔ key ∈ entries.map (·.1) := by
  simp [← Option.ne_none_iff_isSome, lookup?_eq_none_iff]

/-- If no key is bound twice, what is there is found. -/
theorem IsMapping.lookup?_eq_some_iff (h : IsMapping entries) :
    lookup? key entries = some value ↔ (key, value) ∈ entries := by
  refine ⟨mem_of_lookup?, fun hmem => ?_⟩
  -- on the entries, the first of which is looked at first
  induction entries with
  | nil => simp at hmem
  | cons entry rest ih =>
    obtain ⟨hentry, hrest⟩ := List.nodup_cons.mp h
    rw [lookup?_cons]
    rcases List.mem_cons.mp hmem with rfl | hmem
    · simp
    · -- an entry before it has another key, or the key would be bound twice
      have hkey : entry.1 ≠ key := by
        intro heq
        apply hentry
        show entry.1 ∈ rest.map (·.1)
        rw [heq]
        exact List.mem_map_of_mem hmem
      rw [if_neg hkey]
      exact ih hrest hmem

/-- If no key is bound twice, the order does not matter. -/
theorem IsMapping.lookup?_reverse (h : IsMapping entries) :
    lookup? key entries.reverse = lookup? key entries := by
  have hreverse : IsMapping entries.reverse := by
    show (entries.reverse.map (·.1)).Nodup
    rw [List.map_reverse]
    exact List.nodup_reverse.mpr h
  apply Option.ext
  intro value
  rw [hreverse.lookup?_eq_some_iff, h.lookup?_eq_some_iff, List.mem_reverse]

/-! ### Binding keys -/

/-- A binding is found by its key, and the others as before. -/
theorem lookup?_bindEntry (entries : List (String × α)) (bound : String) (value : α)
    (key : String) : lookup? key (bindEntry entries bound value) =
      if bound = key then some value else lookup? key entries := by
  induction entries with
  | nil => simp [bindEntry, lookup?_cons]
  | cons entry rest ih =>
    rw [bindEntry]
    -- the place of the key is here, or further behind
    by_cases hentry : entry.1 = bound
    · by_cases hkey : bound = key <;> simp [lookup?_cons, hentry, hkey]
    · by_cases hkey : bound = key
      · subst hkey
        simp [lookup?_cons, hentry, ih]
      · simp [lookup?_cons, hentry, ih, hkey]

/-- A known key keeps its place, a new one goes to the end. -/
theorem keys_bindEntry (entries : List (String × α)) (bound : String) (value : α) :
    (bindEntry entries bound value).map (·.1) =
      if bound ∈ entries.map (·.1) then entries.map (·.1) else entries.map (·.1) ++ [bound] := by
  induction entries with
  | nil => simp [bindEntry]
  | cons entry rest ih =>
    rw [bindEntry]
    by_cases hentry : entry.1 = bound
    · simp [hentry]
    · have hne : bound ≠ entry.1 := fun h => hentry h.symm
      by_cases hrest : bound ∈ rest.map (·.1)
      · rw [if_pos hrest] at ih
        simp [hentry, ih, hrest]
      · rw [if_neg hrest] at ih
        simp [hentry, hne, ih, hrest]

/-- Binding a key does not bind it twice. -/
theorem IsMapping.bindEntry (h : IsMapping entries) (bound : String) (value : α) :
    IsMapping (bindEntry entries bound value) := by
  show ((ReplEngine.bindEntry entries bound value).map (·.1)).Nodup
  rw [keys_bindEntry]
  split
  · exact h
  · rename_i hnew
    exact List.Nodup.append h (List.nodup_singleton _) (by simpa using hnew)

theorem IsMapping.bindEntries (h : IsMapping entries) (more : List (String × α)) :
    IsMapping (bindEntries entries more) := by
  induction more generalizing entries with
  | nil => exact h
  | cons entry more ih => exact ih (h.bindEntry entry.1 entry.2)

/-- Entries that are bound one after the other are a mapping. -/
theorem isMapping_bindEntries (more : List (String × α)) :
    IsMapping (bindEntries [] more) :=
  have hnone : IsMapping ([] : List (String × α)) := List.nodup_nil
  hnone.bindEntries more

/-- The last of several bindings is found. -/
theorem lookup?_bindEntries (entries more : List (String × α)) (key : String) :
    lookup? key (bindEntries entries more) =
      (lookup? key more.reverse).or (lookup? key entries) := by
  induction more generalizing entries with
  | nil => rfl
  | cons entry more ih =>
    -- the first binding is made first, so that every later one of its key is found instead
    show lookup? key (bindEntries (bindEntry entries entry.1 entry.2) more) = _
    rw [ih, lookup?_bindEntry, List.reverse_cons, lookup?_append, lookup?_cons, lookup?_nil]
    by_cases hkey : entry.1 = key <;> simp [hkey]

end ReplEngine
