import Mathlib.Data.List.Induction
import ReplEngine.Program.Source
import ReplEngine.Proofs.Failure
import ReplEngine.Proofs.Program.Bindings

/-!
# Members grouped over all classes

The members that all classes declare are put into groups by a key, one after the other, and each
group becomes a symbol.  Adding a member to its group adds nothing else and loses nothing
(`insertGrouped_perm`), and what the groups are after a whole run can be said without the run:
the keys in the order in which they first come up, each with its members in their order
(`foldl_insertGrouped`).

## Key results

- `foldl_insertGrouped`, `foldl_insertGrouped_perm`: what a run of additions leaves
- `pairwise_idxOf_eraseDups`: keys without repetition stand in the order of their first place
- `isGrouping_symbolsByKey`: the symbols of such groups lose and repeat nothing
- `groupedSymbols_isGrouping`: the symbols over all classes are such a grouping
-/

namespace ReplEngine

section Groups

variable {κ α : Type} [DecidableEq κ]

/-- The items of a key, in their order. -/
def itemsOf (keyed : List (κ × α)) (key : κ) : List α :=
  (keyed.filter fun e => e.1 == key).map (·.2)

/-- An item at the end goes to the items of its key. -/
theorem itemsOf_concat (keyed : List (κ × α)) (e : κ × α) (key : κ) :
    itemsOf (keyed ++ [e]) key =
      if e.1 = key then itemsOf keyed key ++ [e.2] else itemsOf keyed key := by
  by_cases h : e.1 = key <;> simp [itemsOf, h]

/-- A key without items did not come up. -/
theorem itemsOf_eq_nil_iff {keyed : List (κ × α)} {key : κ} :
    itemsOf keyed key = [] ↔ key ∉ keyed.map (·.1) := by
  simp only [itemsOf, List.map_eq_nil_iff, List.filter_eq_nil_iff, beq_iff_eq, List.mem_map,
    not_exists, not_and]

theorem mem_itemsOf {keyed : List (κ × α)} {key : κ} {item : α} :
    item ∈ itemsOf keyed key ↔ (key, item) ∈ keyed := by
  simp [itemsOf]

/-! ### Adding one item -/

/-- Adding an item to its group loses and repeats nothing. -/
theorem insertGrouped_perm (groups : List (κ × List α)) (key : κ) (item : α) :
    ((insertGrouped groups key item).flatMap (·.2)).Perm (groups.flatMap (·.2) ++ [item]) := by
  induction groups with
  | nil => simp [insertGrouped]
  | cons group rest ih =>
    rw [insertGrouped]
    by_cases h : group.1 = key
    · -- the item goes before the items of the later groups
      simp only [h, beq_self_eq_true, if_true, List.flatMap_cons, List.append_assoc]
      exact List.Perm.append_left _ List.perm_append_comm
    · simp only [beq_eq_false_iff_ne.mpr h, Bool.false_eq_true, if_false, List.flatMap_cons,
        List.append_assoc]
      exact List.Perm.append_left _ ih

/-- An item with a new key makes a group at the end. -/
theorem insertGrouped_of_not_mem {groups : List (κ × List α)} {key : κ}
    (h : key ∉ groups.map (·.1)) (item : α) :
    insertGrouped groups key item = groups ++ [(key, [item])] := by
  induction groups with
  | nil => rfl
  | cons group rest ih =>
    -- no group on the way has the key
    have hne : group.1 ≠ key := fun heq => h (by simp [heq])
    have hrest : key ∉ rest.map (·.1) := fun hmem => h (by simp_all)
    simp [insertGrouped, hne, ih hrest]

/-- An item with a known key goes to the end of its group. -/
theorem insertGrouped_map_of_mem {keys : List κ} (hkeys : keys.Nodup) {key : κ} (h : key ∈ keys)
    (items : κ → List α) (item : α) :
    insertGrouped (keys.map fun k => (k, items k)) key item =
      keys.map fun k => (k, if key = k then items k ++ [item] else items k) := by
  induction keys with
  | nil => simp at h
  | cons k rest ih =>
    obtain ⟨hk, hrest⟩ := List.nodup_cons.mp hkeys
    by_cases hkey : k = key
    · -- no later group has this key
      have hothers : ∀ k' ∈ rest, key ≠ k' := fun k' hk' heq => hk (hkey ▸ heq ▸ hk')
      subst hkey
      simp only [List.map_cons, insertGrouped, beq_self_eq_true, if_true, List.cons.injEq, true_and]
      apply List.map_congr_left
      intro k' hk'
      rw [if_neg (hothers k' hk')]
    · have hmem : key ∈ rest := by
        rcases List.mem_cons.mp h with heq | hmem
        · exact absurd heq.symm hkey
        · exact hmem
      have hne : key ≠ k := fun heq => hkey heq.symm
      simp [insertGrouped, hkey, hne, ih hrest hmem]

/-! ### Adding all items -/

/-- Adding all items loses and repeats nothing. -/
theorem foldl_insertGrouped_perm (keyed : List (κ × α)) (groups : List (κ × List α)) :
    ((keyed.foldl (fun groups e => insertGrouped groups e.1 e.2) groups).flatMap (·.2)).Perm
      (groups.flatMap (·.2) ++ keyed.map (·.2)) := by
  induction keyed generalizing groups with
  | nil => simp
  | cons e keyed ih =>
    rw [List.foldl_cons, List.map_cons]
    have hstep := (insertGrouped_perm groups e.1 e.2).append_right (keyed.map (·.2))
    rw [List.append_assoc] at hstep
    exact (ih _).trans hstep

/-- A key at the end is kept if it is new. -/
theorem eraseDups_concat (keys : List κ) (key : κ) :
    (keys ++ [key]).eraseDups = if key ∈ keys then keys.eraseDups else keys.eraseDups ++ [key] := by
  rw [List.eraseDups_append]
  by_cases h : key ∈ keys <;> simp [List.removeAll, List.eraseDups_cons, h]

/-- The groups after a run: the keys in the order in which they first came up, each with its
    items in their order. -/
theorem foldl_insertGrouped (keyed : List (κ × α)) :
    keyed.foldl (fun groups e => insertGrouped groups e.1 e.2) [] =
      (keyed.map (·.1)).eraseDups.map fun key => (key, itemsOf keyed key) := by
  -- induction from the end, where the run adds
  induction keyed using List.reverseRecOn with
  | nil => rfl
  | append_singleton keyed e ih =>
    rw [List.foldl_append, ih, List.map_append, List.map_singleton, eraseDups_concat]
    simp only [List.foldl_cons, List.foldl_nil]
    by_cases hknown : e.1 ∈ keyed.map (·.1)
    · -- a known key: the item joins its group
      rw [if_pos hknown,
        insertGrouped_map_of_mem (nodup_eraseDups _) (List.mem_eraseDups.mpr hknown)]
      apply List.map_congr_left
      intro key _
      rw [itemsOf_concat]
    · -- a new key: its group has this item only
      have hnew : e.1 ∉ ((keyed.map (·.1)).eraseDups.map
          fun key => (key, itemsOf keyed key)).map (·.1) := by
        simpa using hknown
      rw [if_neg hknown, insertGrouped_of_not_mem hnew, List.map_append, List.map_singleton,
        itemsOf_concat, if_pos rfl, itemsOf_eq_nil_iff.mpr hknown, List.nil_append]
      congr 1
      apply List.map_congr_left
      intro key hkey
      have hne : e.1 ≠ key := by
        intro heq
        exact hknown (heq ▸ List.mem_eraseDups.mp hkey)
      rw [itemsOf_concat, if_neg hne]

/-- Keys without repetition stand in the order of their first place. -/
theorem pairwise_idxOf_eraseDups (keys : List κ) :
    keys.eraseDups.Pairwise fun k k' => keys.idxOf k < keys.idxOf k' := by
  induction keys using List.reverseRecOn with
  | nil => simp
  | append_singleton keys key ih =>
    -- the places of the keys that were there before stay
    have hplaces : keys.eraseDups.Pairwise
        fun k k' => (keys ++ [key]).idxOf k < (keys ++ [key]).idxOf k' := by
      apply ih.imp_of_mem
      intro k k' hk hk' hlt
      rw [List.idxOf_append_of_mem (List.mem_eraseDups.mp hk),
        List.idxOf_append_of_mem (List.mem_eraseDups.mp hk')]
      exact hlt
    rw [eraseDups_concat]
    split
    · exact hplaces
    · rename_i hnew
      apply List.pairwise_append.mpr
      refine ⟨hplaces, List.pairwise_singleton _ _, ?_⟩
      intro k hk k' hk'
      obtain rfl := List.mem_singleton.mp hk'
      have hkeys : k ∈ keys := List.mem_eraseDups.mp hk
      rw [List.idxOf_append_of_mem hkeys, List.idxOf_append_of_notMem hnew]
      exact Nat.lt_of_lt_of_le (List.idxOf_lt_length_of_mem hkeys) (Nat.le_add_right _ _)

end Groups

/-! ### Symbols of groups -/

/-- The candidates of a symbol are given members in their order, and only where there are several
    is it a group. -/
structure Symbol.UnfoldsTo (s : Symbol) (items : List Member) : Prop where
  candidates_eq : s.candidates = items.map Candidate.member
  several : ∀ first rest, s = .group first rest → 2 ≤ items.length

/-- The first candidate, which stands for the symbol, is one of the members. -/
theorem Symbol.UnfoldsTo.exists_first {s : Symbol} {items : List Member} (h : s.UnfoldsTo items) :
    ∃ m ∈ items, s.first = .member m := by
  have hfirst : s.first ∈ s.candidates := by cases s <;> simp [first, candidates]
  rw [h.candidates_eq] at hfirst
  obtain ⟨m, hm, heq⟩ := List.mem_map.mp hfirst
  exact ⟨m, hm, heq.symm⟩

/-- A group that is not empty has a symbol. -/
theorem exists_symbolOfGroup {items : List Member} (h : items ≠ []) :
    ∃ s, symbolOfGroup items = some s ∧ s.UnfoldsTo items := by
  cases items with
  | nil => exact absurd rfl h
  | cons m rest =>
    -- one member stands for itself, and several are a group
    cases rest with
    | nil => exact ⟨.single (.member m), rfl, rfl, by simp⟩
    | cons m' rest =>
      refine ⟨.group (.member m) ((m' :: rest).map Candidate.member), rfl, rfl, ?_⟩
      intro _ _ _
      simp

/-- Groups that are not empty have a symbol each. -/
theorem forall₂_symbolOfGroup {κ : Type} {groups : List (κ × List Member)}
    (h : ∀ group ∈ groups, group.2 ≠ []) :
    List.Forall₂ (fun group s => Symbol.UnfoldsTo s group.2) groups
      (groups.filterMap fun group => symbolOfGroup group.2) := by
  induction groups with
  | nil => exact .nil
  | cons group rest ih =>
    obtain ⟨s, hs, hunfolds⟩ := exists_symbolOfGroup (h group (by simp))
    simp only [List.filterMap_cons, hs]
    exact .cons hunfolds (ih fun group' hgroup' => h group' (List.mem_cons_of_mem _ hgroup'))

/-- Unfolded, the symbols of groups are the members of the groups. -/
theorem flatMap_candidates_of_forall₂ {κ : Type} {groups : List (κ × List Member)}
    {symbols : List Symbol}
    (h : List.Forall₂ (fun group s => Symbol.UnfoldsTo s group.2) groups symbols) :
    symbols.flatMap Symbol.candidates = (groups.flatMap (·.2)).map Candidate.member := by
  induction h with
  | nil => rfl
  | cons hhead _ ih =>
    rw [List.flatMap_cons, List.flatMap_cons, List.map_append, hhead.candidates_eq, ih]

/-- What stands in the second list has a partner in the first. -/
theorem exists_of_mem_forall₂ {α β : Type} {R : α → β → Prop} {xs : List α} {ys : List β}
    (h : List.Forall₂ R xs ys) {y : β} (hy : y ∈ ys) : ∃ x ∈ xs, R x y := by
  obtain ⟨i, hi, rfl⟩ := List.getElem_of_mem hy
  have hi' : i < xs.length := by rwa [h.length_eq]
  exact ⟨xs[i], List.getElem_mem hi', h.get hi' hi⟩

/-- Symbols that group members by their keys. -/
structure IsGrouping {κ : Type} [DecidableEq κ] (members : List Member) (keys : List κ)
    (symbols : List Symbol) : Prop where
  /-- Unfolded, the symbols are the members, each as often as it was there. -/
  conserves : (symbols.flatMap Symbol.candidates).Perm (members.map Candidate.member)
  /-- Each symbol has a key of its own and unfolds to all members of that key, in their order.
      The symbols stand in the order in which their keys first come up. -/
  byKey : ∃ order : List κ, order.Nodup ∧
    order.Pairwise (fun key key' => keys.idxOf key < keys.idxOf key') ∧
    List.Forall₂ (fun key s => Symbol.UnfoldsTo s (itemsOf (keys.zip members) key)) order symbols

namespace IsGrouping

variable {κ : Type} [DecidableEq κ] {members : List Member} {keys : List κ} {symbols : List Symbol}

/-- Each symbol has a key. -/
theorem exists_key (h : IsGrouping members keys symbols) {s : Symbol} (hs : s ∈ symbols) :
    ∃ key, s.UnfoldsTo (itemsOf (keys.zip members) key) := by
  obtain ⟨order, -, -, hunfolds⟩ := h.byKey
  obtain ⟨key, -, hkey⟩ := exists_of_mem_forall₂ hunfolds hs
  exact ⟨key, hkey⟩

/-- A symbol stands for one of the members. -/
theorem exists_member (h : IsGrouping members keys symbols) {s : Symbol} (hs : s ∈ symbols) :
    ∃ m ∈ members, s.first = .member m := by
  obtain ⟨key, hunfolds⟩ := h.exists_key hs
  obtain ⟨m, hm, hfirst⟩ := hunfolds.exists_first
  exact ⟨m, (List.of_mem_zip (mem_itemsOf.mp hm)).2, hfirst⟩

/-- Every member is among those of a symbol, which stands for a member of the same key. -/
theorem exists_symbol (h : IsGrouping members keys symbols) {m : Member} (hm : m ∈ members) :
    ∃ s ∈ symbols, ∃ key m', (key, m) ∈ keys.zip members ∧ (key, m') ∈ keys.zip members ∧
      s.first = .member m' := by
  have hcandidate : Candidate.member m ∈ symbols.flatMap Symbol.candidates :=
    h.conserves.mem_iff.mpr (List.mem_map_of_mem hm)
  obtain ⟨s, hs, hcandidate⟩ := List.mem_flatMap.mp hcandidate
  obtain ⟨key, hunfolds⟩ := h.exists_key hs
  rw [hunfolds.candidates_eq, List.mem_map] at hcandidate
  -- the symbol that has the member unfolds to all members of one key
  obtain ⟨m₀, hm₀, heq⟩ := hcandidate
  obtain rfl : m₀ = m := Candidate.member.inj heq
  obtain ⟨m', hm', hfirst⟩ := hunfolds.exists_first
  exact ⟨s, hs, key, m', mem_itemsOf.mp hm₀, mem_itemsOf.mp hm', hfirst⟩

end IsGrouping

/-- The symbols of members that are put into their groups one after the other. -/
def symbolsByKey {κ : Type} [BEq κ] (members : List Member) (keys : List κ) : List Symbol :=
  ((keys.zip members).foldl (fun groups e => insertGrouped groups e.1 e.2) []).filterMap
    fun group => symbolOfGroup group.2

/-- The symbols of such groups lose and repeat nothing. -/
theorem isGrouping_symbolsByKey {κ : Type} [DecidableEq κ] {members : List Member}
    {keys : List κ} (hlength : keys.length = members.length) :
    IsGrouping members keys (symbolsByKey members keys) := by
  have hkeys : (keys.zip members).map (·.1) = keys := List.map_fst_zip (Nat.le_of_eq hlength)
  have hmembers : (keys.zip members).map (·.2) = members :=
    List.map_snd_zip (Nat.le_of_eq hlength.symm)
  have hperm := foldl_insertGrouped_perm (keys.zip members) []
  rw [symbolsByKey]
  rw [foldl_insertGrouped, hkeys] at hperm ⊢
  -- a key comes up with an item at least
  have hitems : ∀ group ∈ keys.eraseDups.map fun key => (key, itemsOf (keys.zip members) key),
      group.2 ≠ [] := by
    intro group hgroup hnil
    obtain ⟨key, hkey, rfl⟩ := List.mem_map.mp hgroup
    rw [itemsOf_eq_nil_iff, hkeys] at hnil
    exact hnil (List.mem_eraseDups.mp hkey)
  have hunfolds := forall₂_symbolOfGroup hitems
  constructor
  · rw [flatMap_candidates_of_forall₂ hunfolds]
    have hcandidates := hperm.map Candidate.member
    rwa [hmembers] at hcandidates
  · exact ⟨keys.eraseDups, nodup_eraseDups _, pairwise_idxOf_eraseDups _,
      List.forall₂_map_left_iff.mp hunfolds⟩

/-! ### Grouping the members of a program -/

section Keys

variable {κ α : Type}

/-- Keys are made for all items, or the first that cannot be made is the failure. -/
theorem mapM_cases (keyOf : α → Except Error κ) (items : List α) :
    (∃ keys, items.mapM keyOf = .ok keys ∧
      List.Forall₂ (fun item key => keyOf item = .ok key) items keys) ∨
    ∃ e, items.mapM keyOf = .error e ∧ ∃ item ∈ items, keyOf item = .error e := by
  cases hwalk : items.mapM keyOf with
  | ok keys => exact .inl ⟨keys, rfl, mapM_eq_ok_iff.mp hwalk⟩
  | error e =>
    obtain ⟨before, item, after, rfl, -, hitem⟩ := mapM_eq_error_iff.mp hwalk
    exact .inr ⟨e, rfl, item, by simp, hitem⟩

/-- Items can be walked through with their keys, or the keys alone. -/
theorem mapM_with_key (keyOf : α → Except Error κ) (items : List α) :
    items.mapM (fun item => do return (← keyOf item, item)) =
      (fun keys : List κ => keys.zip items) <$> items.mapM keyOf := by
  induction items with
  | nil => rfl
  | cons item items ih =>
    rw [List.mapM_cons, List.mapM_cons, ih]
    cases keyOf item with
    | error e => rfl
    | ok key =>
      cases items.mapM keyOf with
      | error e => rfl
      | ok keys => rfl

end Keys

namespace Program

variable {κ : Type} [DecidableEq κ]

/-- The members are listed, then their keys are made, and then they are grouped. -/
theorem groupedSymbols_eq (p : Program) (g : MemberGroup) (keyOf : Member → Except Error κ) :
    p.groupedSymbols g keyOf = do
      let names ← p.declaredTypes
      let keys ← (p.declaredBy g names).mapM keyOf
      return symbolsByKey (p.declaredBy g names) keys := by
  rw [groupedSymbols, groupedSymbolsIn]
  simp only [Inquiry.plain_lift, mapM_with_key, bind_map_left]
  rfl

/-- The walk over the declared names is the concatenation, over those that stand for something, of
    the members that each declares itself. -/
theorem declaredBy_eq_flatten (p : Program) (g : MemberGroup) (names : List String) :
    p.declaredBy g names = ((names.filterMap p.resolve?).map fun e =>
      (p.membersOf e g.visibility false false).filter fun m => g.includes m.kind).flatten := by
  rw [declaredBy, List.flatMap_def]
  rfl

/-- The members that the classes of a program declare are grouped by any key.  For each declared
    name that stands for something take the members of the group that it declares itself, and put
    all of them behind each other: the symbols are a grouping of these, unless the classes cannot
    be told or a key cannot be made. -/
theorem groupedSymbols_isGrouping (p : Program) (g : MemberGroup)
    (keyOf : Member → Except Error κ) :
    (∃ e, p.groupedSymbols g keyOf = .error e ∧
      (p.declaredTypes = .error e ∨ ∃ names, p.declaredTypes = .ok names ∧
        ∃ name ∈ names, ∃ entity, p.resolve? name = some entity ∧
          ∃ m ∈ p.membersOf entity g.visibility false false,
            g.includes m.kind = true ∧ keyOf m = .error e)) ∨
    ∃ names members keys symbols, p.declaredTypes = .ok names ∧
      members = ((names.filterMap p.resolve?).map fun entity =>
        (p.membersOf entity g.visibility false false).filter fun m => g.includes m.kind).flatten ∧
      List.Forall₂ (fun m key => keyOf m = .ok key) members keys ∧
      p.groupedSymbols g keyOf = .ok symbols ∧ IsGrouping members keys symbols := by
  rw [groupedSymbols_eq]
  cases p.declaredTypes with
  | error e => exact .inl ⟨e, rfl, .inl rfl⟩
  | ok names =>
    simp only [bind, Except.bind]
    rcases mapM_cases keyOf (p.declaredBy g names) with
      ⟨keys, hkeys, hall⟩ | ⟨e, hfails, m, hm, hkey⟩
    · rw [hkeys]
      exact .inr ⟨names, _, keys, _, rfl, declaredBy_eq_flatten p g names, hall, rfl,
        isGrouping_symbolsByKey hall.length_eq.symm⟩
    · rw [hfails]
      -- the member without a key is declared by a name that stands for something
      obtain ⟨entity, hentity, hmember⟩ := List.mem_flatMap.mp hm
      obtain ⟨name, hname, hresolve⟩ := List.mem_filterMap.mp hentity
      obtain ⟨hdeclared, hincluded⟩ := List.mem_filter.mp hmember
      exact .inl ⟨e, rfl, .inr ⟨names, rfl, name, hname, entity, hresolve, m, hdeclared,
        hincluded, hkey⟩⟩

end Program

end ReplEngine
