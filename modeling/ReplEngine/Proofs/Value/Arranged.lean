import ReplEngine.Proofs.Value.SetOrder
import ReplEngine.Value.Literal

/-!
# Values that literals give

The values that have literals, and what showing one of them does to it: the members of its sets
come in the order in which they are shown.  That makes no difference to equality, on either
side of it, so that a value equals the one that is read from its text.

Sets and mappings are lists here, so that being well formed is a condition: members and keys
can be keys, and no two of them are equal.

## Key results

- `literal_induction`: induction over values that have literals
- `same_arranged_left`, `same_arranged_right`: equality does not see the order of members
- `same_self`: a value equals itself
-/

namespace ReplEngine.Value

/-! ### Values that have literals -/

/-- Whether values can be the members of one set: each can be a key, and no two are equal,
    whichever of them is asked. -/
def areKeys : List Value → Bool
  | [] => true
  | v :: rest =>
    Literal.isKey v && rest.all (fun w => !v.same w && !w.same v) && areKeys rest

mutual

/-- Whether a value has a literal: it is built of constants, whole numbers that are not too
    long, strings, byte strings, lists, tuples, sets and mappings. -/
def isLiteral : Value → Bool
  | none | bool _ | str _ | bytes _ => true
  | int n => Json.isShort n
  | list items | tuple items => areLiterals items
  | set items | frozenset items => areLiterals items && areKeys items
  | dict entries => areLiteralEntries entries && areKeys (entries.map (·.1))
  | _ => false

/-- Whether all items have literals. -/
def areLiterals : List Value → Bool
  | [] => true
  | v :: rest => isLiteral v && areLiterals rest

/-- Whether all keys and values have literals. -/
def areLiteralEntries : List (Value × Value) → Bool
  | [] => true
  | (key, value) :: rest => isLiteral key && isLiteral value && areLiteralEntries rest

end

mutual

/-- The level of the deepest part of a value that has a literal, the value itself being at level
    zero. -/
def depth : Value → Nat
  | list items | tuple items | set items | frozenset items => depthItems items
  | dict entries => depthEntries entries
  | _ => 0

/-- The level of the deepest part of items that are at level one. -/
def depthItems : List Value → Nat
  | [] => 0
  | v :: rest => max (depth v + 1) (depthItems rest)

/-- The level of the deepest part of keys and values that are at level one. -/
def depthEntries : List (Value × Value) → Nat
  | [] => 0
  | (key, value) :: rest => max (max (depth key + 1) (depth value + 1)) (depthEntries rest)

end

/-- All items have literals. -/
theorem areLiterals_iff {items : List Value} :
    areLiterals items = true ↔ ∀ v ∈ items, v.isLiteral = true := by
  -- on the items
  induction items with
  | nil => simp [areLiterals]
  | cons v items ih => simp [areLiterals, ih]

/-- All keys and values have literals. -/
theorem areLiteralEntries_iff {entries : List (Value × Value)} :
    areLiteralEntries entries = true ↔
      ∀ e ∈ entries, e.1.isLiteral = true ∧ e.2.isLiteral = true := by
  induction entries with
  | nil => simp [areLiteralEntries]
  | cons e entries ih => simp [areLiteralEntries, ih, and_assoc]

/-- No two values are equal, in either order. -/
abbrev Differ (v w : Value) : Prop :=
  v.same w = false ∧ w.same v = false

/-- Members can be keys, and any two differ. -/
theorem areKeys_iff {items : List Value} :
    areKeys items = true ↔ (∀ v ∈ items, Literal.isKey v = true) ∧ items.Pairwise Differ := by
  -- on the members; each is compared with all behind it
  induction items with
  | nil => simp [areKeys]
  | cons v items ih =>
    rw [areKeys, Bool.and_eq_true, Bool.and_eq_true, ih, List.all_eq_true, List.forall_mem_cons,
      List.pairwise_cons]
    simp only [Bool.and_eq_true, Bool.not_eq_true']
    constructor
    · rintro ⟨⟨hv, hdiffer⟩, hkeys, hpairwise⟩
      exact ⟨⟨hv, hkeys⟩, hdiffer, hpairwise⟩
    · rintro ⟨⟨hv, hkeys⟩, hdiffer, hpairwise⟩
      exact ⟨⟨hv, hdiffer⟩, hkeys, hpairwise⟩

/-- An item lies deeper than the list. -/
theorem depth_lt_of_mem {items : List Value} {v : Value} (h : v ∈ items) :
    v.depth + 1 ≤ depthItems items := by
  induction items with
  | nil => simp at h
  | cons w items ih =>
    rw [depthItems]
    rcases List.mem_cons.mp h with rfl | h
    · exact Nat.le_max_left _ _
    · exact Nat.le_trans (ih h) (Nat.le_max_right _ _)

theorem depth_lt_of_mem_entries {entries : List (Value × Value)} {e : Value × Value}
    (h : e ∈ entries) :
    e.1.depth + 1 ≤ depthEntries entries ∧ e.2.depth + 1 ≤ depthEntries entries := by
  -- on the entries
  induction entries with
  | nil => simp at h
  | cons f entries ih =>
    obtain ⟨key, value⟩ := f
    rw [depthEntries]
    rcases List.mem_cons.mp h with rfl | h
    · dsimp only
      omega
    · have hrest := ih h
      omega

/-- A list of values with literals has one. -/
theorem isLiteral_list {items : List Value} (h : ∀ v ∈ items, v.isLiteral = true) :
    (list items).isLiteral = true :=
  areLiterals_iff.mpr h

theorem isLiteral_set {items : List Value} (h : ∀ v ∈ items, v.isLiteral = true)
    (hkeys : areKeys items = true) : (set items).isLiteral = true := by
  rw [isLiteral, areLiterals_iff.mpr h, hkeys, Bool.and_self]

theorem isLiteral_dict {entries : List (Value × Value)}
    (h : ∀ e ∈ entries, e.1.isLiteral = true ∧ e.2.isLiteral = true)
    (hkeys : areKeys (entries.map (·.1)) = true) : (dict entries).isLiteral = true := by
  rw [isLiteral, areLiteralEntries_iff.mpr h, hkeys, Bool.and_self]

/-- Induction over values that have literals: a collection has what its items have, a mapping
    what its keys and values have. -/
@[elab_as_elim]
theorem literal_induction {motive : (v : Value) → v.isLiteral = true → Prop}
    (none : motive .none rfl) (bool : ∀ b, motive (.bool b) rfl)
    (int : ∀ n (h : Json.isShort n = true), motive (.int n) h)
    (str : ∀ s, motive (.str s) rfl) (bytes : ∀ b, motive (.bytes b) rfl)
    (list : ∀ items (h : ∀ v ∈ items, v.isLiteral = true),
      (∀ v hv, motive v (h v hv)) → motive (.list items) (isLiteral_list h))
    (tuple : ∀ items (h : ∀ v ∈ items, v.isLiteral = true),
      (∀ v hv, motive v (h v hv)) → motive (.tuple items) (isLiteral_list h))
    (set : ∀ items (h : ∀ v ∈ items, v.isLiteral = true) (hkeys : areKeys items = true),
      (∀ v hv, motive v (h v hv)) → motive (.set items) (isLiteral_set h hkeys))
    (frozenset : ∀ items (h : ∀ v ∈ items, v.isLiteral = true) (hkeys : areKeys items = true),
      (∀ v hv, motive v (h v hv)) → motive (.frozenset items) (isLiteral_set h hkeys))
    (dict : ∀ entries (h : ∀ e ∈ entries, e.1.isLiteral = true ∧ e.2.isLiteral = true)
      (hkeys : areKeys (entries.map (·.1)) = true),
      (∀ e he, motive e.1 (h e he).1 ∧ motive e.2 (h e he).2) →
        motive (.dict entries) (isLiteral_dict h hkeys))
    (v : Value) (h : v.isLiteral = true) : motive v h := by
  -- items are smaller than the list that holds them, which is smaller than the collection
  induction hn : sizeOf v using Nat.strongRecOn generalizing v with
  | ind n ih =>
    -- the case of any list of items
    have hitems : ∀ {items : List Value}, sizeOf items < n →
        (h : ∀ w ∈ items, w.isLiteral = true) → ∀ w hw, motive w (h w hw) :=
      fun hsize hliteral w hw =>
        ih _ (Nat.lt_trans (List.sizeOf_lt_of_mem hw) hsize) w (hliteral w hw) rfl
    cases v with
    | none => exact none
    | bool b => exact bool b
    | int n => exact int n h
    | str s => exact str s
    | bytes b => exact bytes b
    | list items =>
      have hliteral := areLiterals_iff.mp h
      exact list items hliteral (hitems (by rw [← hn, Value.list.sizeOf_spec]; omega) hliteral)
    | tuple items =>
      have hliteral := areLiterals_iff.mp h
      exact tuple items hliteral (hitems (by rw [← hn, Value.tuple.sizeOf_spec]; omega) hliteral)
    | set items =>
      obtain ⟨hall, hkeys⟩ := Bool.and_eq_true_iff.mp h
      have hliteral := areLiterals_iff.mp hall
      exact set items hliteral hkeys
        (hitems (by rw [← hn, Value.set.sizeOf_spec]; omega) hliteral)
    | frozenset items =>
      obtain ⟨hall, hkeys⟩ := Bool.and_eq_true_iff.mp h
      have hliteral := areLiterals_iff.mp hall
      exact frozenset items hliteral hkeys
        (hitems (by rw [← hn, Value.frozenset.sizeOf_spec]; omega) hliteral)
    | dict entries =>
      obtain ⟨hall, hkeys⟩ := Bool.and_eq_true_iff.mp h
      have hentries := areLiteralEntries_iff.mp hall
      refine dict entries hentries hkeys fun e he => ?_
      have hsize := List.sizeOf_lt_of_mem he
      obtain ⟨key, value⟩ := e
      rw [Prod.mk.sizeOf_spec] at hsize
      rw [Value.dict.sizeOf_spec] at hn
      exact ⟨ih _ (by omega) key (hentries _ he).1 rfl, ih _ (by omega) value (hentries _ he).2 rfl⟩
    -- no other value has a literal
    | _ => simp [isLiteral] at h

/-! ### Members in the order in which they are shown -/

mutual

/-- A value with the members of its sets in the order in which they are shown. -/
def arranged : Value → Value
  | list items => .list ((arrangedItems items).map (·.2))
  | tuple items => .tuple ((arrangedItems items).map (·.2))
  | set items => .set ((inSetOrder (arrangedItems items)).map (·.2))
  | frozenset items => .frozenset ((inSetOrder (arrangedItems items)).map (·.2))
  | dict entries => .dict (arrangedEntries entries)
  | v => v

/-- Items, and what they become. -/
def arrangedItems : List Value → List (Value × Value)
  | [] => []
  | v :: rest => (v, arranged v) :: arrangedItems rest

/-- What entries become. -/
def arrangedEntries : List (Value × Value) → List (Value × Value)
  | [] => []
  | (key, value) :: rest => (arranged key, arranged value) :: arrangedEntries rest

end

/-- Items with what they become. -/
theorem arrangedItems_eq (items : List Value) :
    arrangedItems items = items.map fun v => (v, v.arranged) := by
  induction items with
  | nil => rfl
  | cons v items ih => rw [arrangedItems, ih, List.map_cons]

/-- Entries become what their keys and values become. -/
theorem arrangedEntries_eq (entries : List (Value × Value)) :
    arrangedEntries entries = entries.map fun e => (e.1.arranged, e.2.arranged) := by
  induction entries with
  | nil => rfl
  | cons e entries ih => rw [arrangedEntries, ih, List.map_cons]

/-- A list keeps its order. -/
@[simp] theorem arranged_list (items : List Value) :
    (list items).arranged = list (items.map arranged) := by
  rw [arranged, arrangedItems_eq, List.map_map]
  rfl

@[simp] theorem arranged_tuple (items : List Value) :
    (tuple items).arranged = tuple (items.map arranged) := by
  rw [arranged, arrangedItems_eq, List.map_map]
  rfl

/-- The members of a set are put in the order in which they are shown. -/
@[simp] theorem arranged_set (items : List Value) :
    (set items).arranged = set ((shownOrder items).map arranged) := by
  rw [arranged, arrangedItems_eq, inSetOrder_map, List.map_map]
  rfl

@[simp] theorem arranged_frozenset (items : List Value) :
    (frozenset items).arranged = frozenset ((shownOrder items).map arranged) := by
  rw [arranged, arrangedItems_eq, inSetOrder_map, List.map_map]
  rfl

/-- A mapping keeps the order of its entries. -/
@[simp] theorem arranged_dict (entries : List (Value × Value)) :
    (dict entries).arranged = dict (entries.map fun e => (e.1.arranged, e.2.arranged)) := by
  rw [arranged, arrangedEntries_eq]

/-! ### Equality -/

/-- Items are compared one by one. -/
theorem sameItems_map {f g : Value → Value} {xs ys : List Value}
    (h : ∀ x ∈ xs, ∀ y ∈ ys, (f x).same (g y) = x.same y) :
    sameItems (xs.map f) (ys.map g) = sameItems xs ys := by
  induction xs generalizing ys with
  | nil => cases ys <;> simp [sameItems]
  | cons x xs ih =>
    cases ys with
    | nil => simp [sameItems]
    | cons y ys =>
      rw [List.map_cons, List.map_cons, sameItems, sameItems, h x (by simp) y (by simp),
        ih fun x' hx y' hy => h x' (List.mem_cons_of_mem _ hx) y' (List.mem_cons_of_mem _ hy)]

/-- Each of the values equals one of the others. -/
theorem allWithin_eq (xs ys : List Value) :
    allWithin xs ys = xs.all fun x => ys.any (x.same ·) := by
  induction xs with
  | nil => rw [allWithin, List.all_nil]
  | cons x xs ih => rw [allWithin, ih, List.all_cons]

/-- Each of the entries equals one of the others. -/
theorem entriesWithin_eq (xs ys : List (Value × Value)) :
    entriesWithin xs ys = xs.all fun x => ys.any fun y => x.1.same y.1 && x.2.same y.2 := by
  induction xs with
  | nil => rw [entriesWithin, List.all_nil]
  | cons x xs ih => rw [entriesWithin, ih, List.all_cons]

section Reordered

variable {α : Type} {p q : α → Bool} {xs ys : List α}

/-- What holds of some item does not depend on the order. -/
private theorem any_eq_of_perm (hperm : ys.Perm xs) (h : ∀ x ∈ xs, p x = q x) :
    ys.any p = xs.any q := by
  rw [Bool.eq_iff_iff, List.any_eq_true, List.any_eq_true]
  constructor
  · rintro ⟨x, hx, hp⟩
    have hmem := hperm.mem_iff.mp hx
    exact ⟨x, hmem, (h x hmem).symm.trans hp⟩
  · rintro ⟨x, hx, hq⟩
    exact ⟨x, hperm.mem_iff.mpr hx, (h x hx).trans hq⟩

private theorem all_eq_of_perm (hperm : ys.Perm xs) (h : ∀ x ∈ xs, p x = q x) :
    ys.all p = xs.all q := by
  rw [Bool.eq_iff_iff, List.all_eq_true, List.all_eq_true]
  constructor
  · exact fun hall x hx => (h x hx).symm.trans (hall x (hperm.mem_iff.mpr hx))
  · intro hall x hx
    have hmem := hperm.mem_iff.mp hx
    exact (h x hmem).trans (hall x hmem)

end Reordered

/-- The order of members does not matter to the values that are looked for. -/
private theorem allWithin_arranged_left {items : List Value}
    (h : ∀ v ∈ items, ∀ b, v.arranged.same b = v.same b) (ys : List Value) :
    allWithin ((shownOrder items).map arranged) ys = allWithin items ys := by
  rw [allWithin_eq, allWithin_eq, List.all_map]
  exact all_eq_of_perm (perm_shownOrder items) fun v hv => by
    simp only [Function.comp_apply, h v hv]

private theorem allWithin_arranged_right {xs items : List Value}
    (h : ∀ x ∈ xs, ∀ v ∈ items, x.same v.arranged = x.same v) :
    allWithin xs ((shownOrder items).map arranged) = allWithin xs items := by
  rw [allWithin_eq, allWithin_eq]
  -- the values themselves keep their order
  refine all_eq_of_perm (.refl xs) fun x hx => ?_
  rw [List.any_map]
  exact any_eq_of_perm (perm_shownOrder items) (h x hx)

/-- Equality does not see the order of members on its left side. -/
theorem same_arranged_left {a : Value} (ha : a.isLiteral = true) (b : Value) :
    a.arranged.same b = a.same b := by
  -- on the left side; the right side is any value
  induction a, ha using literal_induction generalizing b with
  | none => rfl
  | bool _ => rfl
  | int _ _ => rfl
  | str _ => rfl
  | bytes _ => rfl
  | list items _ ih =>
    rw [arranged_list, same, same]
    cases b.plain with
    | list ys =>
      -- item by item, with the right side as it is
      have hmap : sameItems (items.map arranged) (ys.map id) = sameItems items ys :=
        sameItems_map fun x hx y _ => ih x hx y
      rwa [List.map_id] at hmap
    | _ => rfl
  | tuple items _ ih =>
    rw [arranged_tuple, same, same]
    cases b.plain.tupleItems? with
    | some ys =>
      have hmap : sameItems (items.map arranged) (ys.map id) = sameItems items ys :=
        sameItems_map fun x hx y _ => ih x hx y
      rwa [List.map_id] at hmap
    | none => rfl
  | set items _ _ ih =>
    rw [arranged_set, same, same, List.length_map, (perm_shownOrder items).length_eq]
    simp only [allWithin_arranged_left ih]
  | frozenset items _ _ ih =>
    rw [arranged_frozenset, same, same, List.length_map, (perm_shownOrder items).length_eq]
    simp only [allWithin_arranged_left ih]
  | dict entries _ _ ih =>
    -- a mapping looks for each of its entries on the other side
    have hall : ∀ ys, entriesWithin (entries.map fun e => (e.1.arranged, e.2.arranged)) ys =
        entriesWithin entries ys := by
      intro ys
      rw [entriesWithin_eq, entriesWithin_eq, List.all_map]
      exact all_eq_of_perm (.refl entries) fun e he => by
        simp only [Function.comp_apply, (ih e he).1, (ih e he).2]
    rw [arranged_dict, same, same, List.length_map]
    simp only [hall]

/-- Equality does not see the order of members on its right side. -/
theorem same_arranged_right {a b : Value} (ha : a.isLiteral = true) (hb : b.isLiteral = true) :
    a.same b.arranged = a.same b := by
  -- only a collection of the same kind looks at the items, and then item by item or all to all
  induction b, hb using literal_induction generalizing a with
  | none => rfl
  | bool _ => rfl
  | int _ _ => rfl
  | str _ => rfl
  | bytes _ => rfl
  | list ys _ ih =>
    rw [arranged_list]
    cases a with
    | list xs =>
      -- the items of the left side have literals too
      have hxs := areLiterals_iff.mp ha
      simpa [same, plain] using sameItems_map (f := id) fun x hx y hy => ih y hy (hxs x hx)
    | extended _ _ => simp [isLiteral] at ha
    | _ => simp [same, plain, tupleItems?, number?]
  | tuple ys _ ih =>
    rw [arranged_tuple]
    cases a with
    | tuple xs =>
      have hxs := areLiterals_iff.mp ha
      simpa [same, plain, tupleItems?] using
        sameItems_map (f := id) fun x hx y hy => ih y hy (hxs x hx)
    | extended _ _ => simp [isLiteral] at ha
    | namedTuple _ _ => simp [isLiteral] at ha
    | _ => simp [same, plain, number?]
  | set ys _ _ ih =>
    rw [arranged_set]
    cases a with
    | set xs | frozenset xs =>
      have hxs := areLiterals_iff.mp (Bool.and_eq_true_iff.mp ha).1
      have hall := allWithin_arranged_right fun x hx y hy => ih y hy (hxs x hx)
      simp [same, plain, hall, (perm_shownOrder ys).length_eq]
    | extended _ _ => simp [isLiteral] at ha
    | _ => simp [same, plain, tupleItems?, number?]
  | frozenset ys _ _ ih =>
    rw [arranged_frozenset]
    cases a with
    | set xs | frozenset xs =>
      have hxs := areLiterals_iff.mp (Bool.and_eq_true_iff.mp ha).1
      have hall := allWithin_arranged_right fun x hx y hy => ih y hy (hxs x hx)
      simp [same, plain, hall, (perm_shownOrder ys).length_eq]
    | extended _ _ => simp [isLiteral] at ha
    | _ => simp [same, plain, tupleItems?, number?]
  | dict ys _ _ ih =>
    rw [arranged_dict]
    cases a with
    | dict xs =>
      have hxs := areLiteralEntries_iff.mp (Bool.and_eq_true_iff.mp ha).1
      have hall : entriesWithin xs (ys.map fun e => (e.1.arranged, e.2.arranged)) =
          entriesWithin xs ys := by
        rw [entriesWithin_eq, entriesWithin_eq]
        refine all_eq_of_perm (.refl xs) fun x hx => ?_
        rw [List.any_map]
        refine any_eq_of_perm (.refl ys) fun y hy => ?_
        rw [Function.comp_apply, (ih y hy).1 (hxs x hx).1, (ih y hy).2 (hxs x hx).2]
      simp [same, plain, hall]
    | extended _ _ => simp [isLiteral] at ha
    | orderedDict _ => simp [isLiteral] at ha
    | _ => simp [same, plain, tupleItems?, number?]

/-- Items equal themselves, one by one. -/
theorem sameItems_self {items : List Value} (h : ∀ v ∈ items, v.same v = true) :
    sameItems items items = true := by
  induction items with
  | nil => rw [sameItems]
  | cons v items ih =>
    rw [sameItems, h v (by simp), ih fun w hw => h w (List.mem_cons_of_mem _ hw), Bool.and_self]

theorem allWithin_self {items : List Value} (h : ∀ v ∈ items, v.same v = true) :
    allWithin items items = true := by
  rw [allWithin_eq, List.all_eq_true]
  exact fun v hv => List.any_eq_true.mpr ⟨v, hv, h v hv⟩

/-- A value equals itself. -/
theorem same_self {v : Value} (h : v.isLiteral = true) : v.same v = true := by
  -- each item is compared with itself, or found among all
  induction v, h using literal_induction with
  | none => simp [same, plain]
  | bool b => simp [same, plain, number?, Exact.equal, Exact.less]
  | int n _ => simp [same, plain, number?, Exact.equal, Exact.less]
  | str _ => simp [same, plain]
  | bytes _ => simp [same, plain]
  | list items _ ih => simpa [same, plain] using sameItems_self ih
  | tuple items _ ih => simpa [same, plain, tupleItems?] using sameItems_self ih
  | set items _ _ ih => simpa [same, plain] using allWithin_self ih
  | frozenset items _ _ ih => simpa [same, plain] using allWithin_self ih
  | dict entries _ _ ih =>
    have hall : entriesWithin entries entries = true := by
      rw [entriesWithin_eq, List.all_eq_true]
      exact fun e he => List.any_eq_true.mpr ⟨e, he, by simp only [ih e he, Bool.and_self]⟩
    simpa [same, plain] using hall

/-! ### Keys -/

/-- The order of members does not change whether a value can be a key. -/
theorem unhashable?_arranged {v : Value} (h : v.isLiteral = true) :
    v.arranged.unhashable? = v.unhashable? := by
  induction v, h using literal_induction with
  | tuple items _ ih =>
    rw [arranged_tuple, unhashable?, unhashable?]
    -- a tuple is looked through item by item
    induction items with
    | nil => rfl
    | cons v items ihs =>
      rw [List.map_cons, unhashableItem?, unhashableItem?, ih v (by simp),
        ihs (fun w hw => by simp_all) fun w hw => ih w (List.mem_cons_of_mem _ hw)]
  | _ => simp [unhashable?, arranged]

/-- Members stay members of one set, in any order. -/
theorem areKeys_arranged {xs ys : List Value} (hperm : ys.Perm xs)
    (hliteral : ∀ v ∈ xs, v.isLiteral = true) (h : areKeys xs = true) :
    areKeys (ys.map arranged) = true := by
  obtain ⟨hkeys, hdiffer⟩ := areKeys_iff.mp h
  have hys : ∀ v ∈ ys, v.isLiteral = true := fun v hv => hliteral v (hperm.mem_iff.mp hv)
  refine areKeys_iff.mpr ⟨fun v hv => ?_, List.pairwise_map.mpr ?_⟩
  · obtain ⟨w, hw, rfl⟩ := List.mem_map.mp hv
    rw [Literal.isKey, unhashable?_arranged (hys w hw)]
    exact hkeys w (hperm.mem_iff.mp hw)
  · -- differing is symmetric, so that it holds of the pairs in any order
    have hpairwise := (hperm.pairwise_iff fun h => And.symm h).mpr hdiffer
    refine hpairwise.imp_of_mem fun {v w} hv hw hdiffer => ?_
    rwa [Differ, same_arranged_left (hys v hv), same_arranged_left (hys w hw),
      same_arranged_right (hys v hv) (hys w hw), same_arranged_right (hys w hw) (hys v hv)]

end ReplEngine.Value
