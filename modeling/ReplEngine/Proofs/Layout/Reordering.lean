import ReplEngine.Proofs.Layout.Parts
import ReplEngine.Proofs.Value.Kinds

/-!
# Values with sets in another arrangement

The members of a set come in no particular order, and where they are sorted before they are shown
the text of the set does not give away in which order they came.  That is so for members of one
kind of which no two are equal, in sets anywhere inside a value.

Members of a kind hold no sets themselves, so that a rearranged set has the very members of the
other one.

## Key results

- `Value.Reordered`: values that differ in the arrangement of the members of sets only
- `render_eq_of_reordered`: such values have one text
-/

namespace ReplEngine

namespace Value

/-- The values differ in the arrangement of the members of sets only, anywhere in them. -/
inductive Reordered : Value → Value → Prop where
  | same (v : Value) : Reordered v v
  | members {v w : Value} {items : List Value} (hset : v.isSet = true)
    (hhollow : v.hollow = w.hollow) (hperm : v.parts.Perm items)
    (hparts : ∀ p ∈ items.zip w.parts, Reordered p.1 p.2) : Reordered v w
  | parts {v w : Value} (hset : v.isSet = false) (hwhole : v.isWhole = false)
    (hhollow : v.hollow = w.hollow)
    (hparts : ∀ p ∈ v.parts.zip w.parts, Reordered p.1 p.2) : Reordered v w

/-- The values are of one kind, and no two of them are equal. -/
def AreOfOneKind (items : List Value) : Prop :=
  (∃ kind : Kind, ∀ v ∈ items, kind.admits v = true) ∧
    items.Pairwise fun a b => a.same b = false

/-! ### Members of a kind hold no sets -/

/-- A value of a kind is no set. -/
theorem isSet_of_admits {kind : Kind} {v : Value} (h : kind.admits v = true) :
    v.isSet = false := by
  cases kind with
  | integer => cases v <;> simp [Kind.admits, isSet] at h ⊢
  | text => cases v <;> simp [Kind.admits, isSet] at h ⊢
  | bytes => cases v <;> simp [Kind.admits, isSet] at h ⊢
  | tuple kinds => cases v <;> simp [Kind.admits, isSet] at h ⊢

/-- The items of a tuple of some kinds have kinds. -/
theorem exists_admits_of_mem {kinds : List Kind} {items : List Value} {v : Value}
    (h : Kind.admitsAll kinds items = true) (hv : v ∈ items) :
    ∃ kind : Kind, kind.admits v = true := by
  induction items generalizing kinds with
  | nil => simp at hv
  | cons x items ih =>
    cases kinds with
    | nil => simp [Kind.admitsAll] at h
    | cons kind kinds =>
      rw [Kind.admitsAll, Bool.and_eq_true] at h
      rcases List.mem_cons.mp hv with rfl | hv
      · exact ⟨kind, h.1⟩
      · exact ih h.2 hv

/-- A value of a kind is a tuple of such values, or it has no parts. -/
theorem parts_of_admits {kind : Kind} {v : Value} (h : kind.admits v = true) :
    v.parts = [] ∨ ∃ kinds items, v = tuple items ∧ Kind.admitsAll kinds items = true := by
  cases kind with
  | tuple kinds =>
    obtain ⟨items, hitems⟩ := exists_of_tuple h
    exact .inr ⟨kinds, items, hitems⟩
  | integer | text | bytes =>
    cases v <;> simp [Kind.admits, parts, apart] at h ⊢

/-- What is a tuple without its parts is the tuple of its parts. -/
theorem eq_tuple_of_hollow {w : Value} {items : List Value} (h : tuple items = w.hollow) :
    w = tuple w.parts := by
  unfold hollow at h
  unfold parts
  fun_cases apart w
  case case2 => rfl
  case case20 => grind [apart]
  all_goals simp [apart] at h

/-- There is nothing to rearrange in a value of a kind. -/
theorem eq_of_reordered {kind : Kind} {v w : Value} (hv : kind.admits v = true)
    (h : Reordered v w) : v = w := by
  -- on how the values differ; there are no sets among values of a kind
  induction h generalizing kind with
  | same v => rfl
  | members hset _ _ _ _ => simp [isSet_of_admits hv] at hset
  | @parts v w _ _ hhollow _ ih =>
    rcases parts_of_admits hv with hnil | ⟨kinds, items, rfl, hkinds⟩
    · have hnil' : w.parts = [] := by
        have hlength := length_parts_eq hhollow
        simpa [hnil] using hlength.symm
      rw [← hollow_of_parts_eq_nil hnil, hhollow, hollow_of_parts_eq_nil hnil']
    · -- a tuple: its items are the same one by one
      have hitems : items.map id = w.parts.map id := by
        apply map_eq_map_of_zip (length_parts_eq hhollow)
        intro p hp
        obtain ⟨kind, hkind⟩ := exists_admits_of_mem hkinds (List.of_mem_zip hp).1
        exact ih p hp hkind
      rw [List.map_id, List.map_id] at hitems
      rw [eq_tuple_of_hollow hhollow, ← hitems]

/-- The members of a set and of a rearranged one are the same, in some order. -/
theorem perm_of_reordered {kind : Kind} {items items' rest : List Value}
    (hkind : ∀ v ∈ items, kind.admits v = true) (hperm : items.Perm items')
    (hlength : items.length = rest.length) (h : ∀ p ∈ items'.zip rest, Reordered p.1 p.2) :
    items.Perm rest := by
  -- the members themselves are not rearranged within
  have heq : items'.map id = rest.map id := by
    apply map_eq_map_of_zip (hperm.length_eq.symm.trans hlength)
    intro p hp
    exact eq_of_reordered (hkind p.1 (hperm.mem_iff.mpr (List.of_mem_zip hp).1)) (h p hp)
  rw [List.map_id, List.map_id] at heq
  exact heq ▸ hperm

end Value

namespace Layout

open Value (Kind PartAt Reordered AreOfOneKind)

/-! ### Texts of rearranged sets -/

/-- Only the order in which its members are shown counts for the text of a set. -/
theorem arrangeSet_congr (l : Layout) (level : Int) (name : String) (wrapped : Bool)
    (f : Value → Except Error String) {items items' : List Value}
    (h : Value.shownOrder items = Value.shownOrder items') :
    l.arrangeSet level name wrapped (items.map fun v => (v, f v)) =
      l.arrangeSet level name wrapped (items'.map fun v => (v, f v)) := by
  -- both have as many members
  have hempty : items.isEmpty = items'.isEmpty := by
    have hlength := (Value.perm_shownOrder items).length_eq
    rw [h, (Value.perm_shownOrder items').length_eq] at hlength
    rw [Bool.eq_iff_iff, List.isEmpty_iff_length_eq_zero, List.isEmpty_iff_length_eq_zero, hlength]
  rw [arrangeSet, arrangeSet, Value.inSetOrder_map, Value.inSetOrder_map, h, List.isEmpty_map,
    List.isEmpty_map, hempty]

@[inherit_doc arrangeSet_congr]
theorem assemble_congr_of_isSet (l : Layout) (level : Int) {hollow : Value}
    (hset : hollow.isSet = true) (f : Value → Except Error String) {items items' : List Value}
    (h : Value.shownOrder items = Value.shownOrder items') :
    l.assemble level hollow (items.map fun v => (v, f v)) =
      l.assemble level hollow (items'.map fun v => (v, f v)) := by
  fun_cases Value.isSet hollow
  all_goals simp_all [Value.isSet, assemble, l.arrangeSet_congr level _ _ f h]

/-- Sets with the same members of one kind have one text. -/
theorem render_eq_of_members (l : Layout) (level : Int) {v w : Value} (hset : v.isSet = true)
    (hhollow : v.hollow = w.hollow) (hkind : AreOfOneKind v.parts) (hperm : v.parts.Perm w.parts) :
    l.render level v = l.render level w := by
  by_cases hlevel : l.maxDepth < level
  · rw [render_of_deep l hlevel, render_of_deep l hlevel]
  · obtain ⟨⟨kind, hadmits⟩, hapart⟩ := hkind
    have hwhole : v.isWhole = false := Value.isWhole_of_isSet hset
    have hwhole' : w.isWhole = false := by
      rw [← Value.isWhole_hollow, ← hhollow, Value.isWhole_hollow, hwhole]
    rw [render_eq_assemble l hlevel hwhole, render_eq_assemble l hlevel hwhole', ← hhollow]
    apply assemble_congr_of_isSet
    · rw [Value.isSet_hollow, hset]
    · exact Value.shownOrder_eq_of_perm hadmits hapart hperm

/-- Values with rearranged sets have one text, if the members of each are of one kind. -/
theorem render_eq_of_reordered_of_kinds {l : Layout} {level : Int} {v w : Value}
    (h : Reordered v w)
    (hsets : ∀ n x, PartAt n v x → x.isSet = true → AreOfOneKind x.parts) :
    l.render level v = l.render level w := by
  -- on how the values differ; the level varies
  induction h generalizing level with
  | same v => rfl
  | @members v w items hset hhollow hperm hparts _ =>
    have hkind := hsets 0 v (.self v) hset
    obtain ⟨⟨kind, hadmits⟩, -⟩ := id hkind
    apply render_eq_of_members l level hset hhollow hkind
    exact Value.perm_of_reordered hadmits hperm (Value.length_parts_eq hhollow) hparts
  | parts hset hwhole hhollow _ ih =>
    apply render_congr l level hset hwhole hhollow
    intro p hp
    apply ih p hp
    intro n x hx
    exact hsets (n + 1) x (.part (List.of_mem_zip hp).1 hx)

/-- Values that differ in the arrangement of the members of sets only have one text, if the
    members of each set are of one kind and no two of them are equal.  Data has such a text. -/
theorem render_eq_of_reordered (l : Layout) (level : Int) {v w : Value} (h : Reordered v w)
    (hsets : ∀ n x, PartAt n v x → x.isSet = true → AreOfOneKind x.parts) :
    l.render level v = l.render level w ∧
      ((∀ n x, PartAt n v x → x.isData = true) →
        ∃ text, l.render level v = .ok text ∧ l.render level w = .ok text) := by
  have heq : l.render level v = l.render level w := render_eq_of_reordered_of_kinds h hsets
  refine ⟨heq, fun hdata => ?_⟩
  -- data describes itself wherever it has no parts
  have hshown : ∃ text, l.render level v = .ok text := by
    apply exists_render l
    intro n x _ hx hleaf
    rw [Value.isWhole_of_isData (hdata n x hx)] at hleaf
    exact Value.exists_repr_of_isData (hdata n x hx) (hleaf.resolve_right Bool.false_ne_true)
  obtain ⟨text, htext⟩ := hshown
  exact ⟨text, htext, heq ▸ htext⟩

/-- A set among other values, and one as a key. -/
def crate (numbers pairs : List Value) : Value :=
  .list [.set numbers, .dict [(.frozenset pairs, .none)]]

/-- Numbers, and pairs that start alike, turned round in both sets. -/
theorem render_eq_of_reordered_crate :
    ∃ text,
      ({ width := 9 } : Layout).render 0 (crate [.int 2, .bool true, .int 30]
        [.tuple [.int 1, .str "b"], .tuple [.int 1, .str "a"]]) = .ok text ∧
      ({ width := 9 } : Layout).render 0 (crate [.int 30, .bool true, .int 2]
        [.tuple [.int 1, .str "a"], .tuple [.int 1, .str "b"]]) = .ok text := by
  -- a truth value is a whole number too
  have hnumbers : AreOfOneKind [.int 2, .bool true, .int 30] := by
    refine ⟨⟨.integer, ?_⟩, ?_⟩
    · simp only [List.forall_mem_cons]
      exact ⟨rfl, rfl, rfl, by simp⟩
    · simp [Value.same, Value.number?, Value.plain, Value.equal_integers]
  have hpairs : AreOfOneKind [.tuple [.int 1, .str "b"], .tuple [.int 1, .str "a"]] := by
    refine ⟨⟨.tuple [.integer, .text], ?_⟩, ?_⟩
    · simp only [List.forall_mem_cons]
      exact ⟨rfl, rfl, by simp⟩
    · simp [Value.same, Value.sameItems, Value.plain, Value.tupleItems?]
  -- one set is an item, and the other a key of a mapping
  have hreordered : Reordered (crate [.int 2, .bool true, .int 30]
      [.tuple [.int 1, .str "b"], .tuple [.int 1, .str "a"]]) (crate [.int 30, .bool true, .int 2]
      [.tuple [.int 1, .str "a"], .tuple [.int 1, .str "b"]]) := by
    apply Reordered.parts (by rfl) (by rfl) (by rfl)
    simp only [crate, Value.parts, Value.apart, List.zip_cons_cons, List.forall_mem_cons]
    refine ⟨?_, ?_, by simp⟩
    · apply Reordered.members (by rfl) (by rfl) (List.reverse_perm _).symm
      simp [Value.parts, Value.apart, Reordered.same]
    · apply Reordered.parts (by rfl) (by rfl) (by rfl)
      simp only [Value.parts, Value.apart, List.map_cons, List.map_nil, List.cons_append,
        List.nil_append, List.zip_cons_cons, List.forall_mem_cons]
      refine ⟨?_, Reordered.same _, by simp⟩
      apply Reordered.members (by rfl) (by rfl) (List.reverse_perm _).symm
      simp [Value.parts, Value.apart, Reordered.same]
  -- part by part
  have hinside : ∀ n x, PartAt n (crate [.int 2, .bool true, .int 30]
      [.tuple [.int 1, .str "b"], .tuple [.int 1, .str "a"]]) x →
      x.isData = true ∧ (x.isSet = true → AreOfOneKind x.parts) := by
    simp [@Value.forall_partAt_iff _ (.list _), @Value.forall_partAt_iff _ (.set _),
      @Value.forall_partAt_iff _ (.dict _), @Value.forall_partAt_iff _ (.frozenset _),
      @Value.forall_partAt_iff _ (.tuple _), @Value.forall_partAt_iff _ (.int _),
      @Value.forall_partAt_iff _ (.bool _), @Value.forall_partAt_iff _ (.str _),
      @Value.forall_partAt_iff _ .none, crate, Value.parts, Value.apart, Value.isData,
      Value.isSet, hnumbers, hpairs]
  exact (render_eq_of_reordered { width := 9 } 0 hreordered fun n x hx => (hinside n x hx).2).2
    fun n x hx => (hinside n x hx).1

end Layout

end ReplEngine
