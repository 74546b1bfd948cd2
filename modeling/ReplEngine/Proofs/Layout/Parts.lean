import ReplEngine.Proofs.Layout.ReadBack

/-!
# Parts of a value

What is shown of a collection is put together from the texts of its parts, which stand one level
deeper.  A value is taken apart here into its parts and what is left without them, and `render` is
shown to look at nothing else: at the value without its parts, and at the texts of these.  There
are two exceptions: sets, since the order of their members is that of the members themselves, and
objects with attributes of a class of their own, which are described as a whole.

## Key results

- `Value.parts_induction`: what holds of a value if it holds of its parts holds of all values
- `Layout.render_eq_assemble`: the text of a value from the texts of its parts
- `Layout.render_congr`: values that differ in their parts only, whose texts do not differ
- `Layout.Assembled`: how a text is put together from the texts of parts
- `Layout.exists_render_of_parts`: a value whose parts are shown is shown by such a text
- `Layout.exists_render`: a value is shown if all is that is not too deep
-/

namespace ReplEngine

namespace Value

/-- A value taken apart: the value with nothing in the place of each of its parts, and the parts
    in order.  The keys of a mapping stand before its values. -/
def apart : Value → Value × List Value
  | list items => (list (items.map fun _ => none), items)
  | tuple items => (tuple (items.map fun _ => none), items)
  | set items => (set (items.map fun _ => none), items)
  | frozenset items => (frozenset (items.map fun _ => none), items)
  | dict entries =>
    (dict (entries.map fun _ => (none, none)), entries.map (·.1) ++ entries.map (·.2))
  | orderedDict entries =>
    (orderedDict (entries.map fun _ => (none, none)), entries.map (·.1) ++ entries.map (·.2))
  | mappingView entries =>
    (mappingView (entries.map fun _ => (none, none)), entries.map (·.1) ++ entries.map (·.2))
  | extended name (list items) => (extended name (list (items.map fun _ => none)), items)
  | extended name (tuple items) => (extended name (tuple (items.map fun _ => none)), items)
  | extended name (set items) => (extended name (set (items.map fun _ => none)), items)
  | extended name (frozenset items) => (extended name (frozenset (items.map fun _ => none)), items)
  | extended name (dict entries) =>
    (extended name (dict (entries.map fun _ => (none, none))),
      entries.map (·.1) ++ entries.map (·.2))
  | extended name (orderedDict entries) =>
    (extended name (orderedDict (entries.map fun _ => (none, none))),
      entries.map (·.1) ++ entries.map (·.2))
  | extended name (record fields) =>
    (extended name (record (fields.map fun f => (f.1, none))), fields.map (·.2))
  | extended name (namedTuple base fields) =>
    (extended name (namedTuple base (fields.map fun f => (f.1, none))), fields.map (·.2))
  | extended name (dataclass base fields) =>
    (extended name (dataclass base (fields.map fun f => (f.1, f.2.1, none))), fields.map (·.2.2))
  | record fields => (record (fields.map fun f => (f.1, none)), fields.map (·.2))
  | namedTuple name fields =>
    (namedTuple name (fields.map fun f => (f.1, none)), fields.map (·.2))
  | dataclass name fields =>
    (dataclass name (fields.map fun f => (f.1, f.2.1, none)), fields.map (·.2.2))
  | v => (v, [])

/-- A value with nothing in the place of its parts. -/
def hollow (v : Value) : Value :=
  v.apart.1

/-- The parts of a value. -/
def parts (v : Value) : List Value :=
  v.apart.2

/-- Whether a value is a set, of whatever class. -/
def isSet : Value → Bool
  | set _ | frozenset _ | extended _ (set _) | extended _ (frozenset _) => true
  | _ => false

/-- Whether a value is described as a whole, its parts with it: an object with attributes of a
    class of its own. -/
def isWhole : Value → Bool
  | extended _ (record _) => true
  | _ => false

/-- The words that stand in the text of a value besides the texts of its parts. -/
def words : Value → List String
  | set _ => ["set"]
  | frozenset _ => ["frozenset", "frozenset("]
  | orderedDict _ => ["OrderedDict("]
  | mappingView _ => ["mappingproxy("]
  | extended name (namedTuple _ fields) => name :: fields.map (·.1)
  | extended name (dataclass _ fields) => name :: fields.map (·.1)
  | extended name _ => [name, name ++ "(", "frozenset("]
  | record fields => "namespace" :: fields.map (·.1)
  | namedTuple name fields => name :: fields.map (·.1)
  | dataclass name fields => name :: fields.map (·.1)
  | _ => []

/-- Whether a value is data: a number, a text or another primitive, a collection, or named values
    of some sort. -/
def isData : Value → Bool
  | none | bool _ | int _ | float _ | complex _ _ | str _ | bytes _ | ellipsis | notImplemented
  | list _ | tuple _ | set _ | frozenset _ | dict _
  | record _ | namedTuple _ _ | dataclass _ _ => true
  | _ => false

/-- The value `x` is `n` levels below `v`. -/
inductive PartAt : Nat → Value → Value → Prop where
  | self (v : Value) : PartAt 0 v v
  | part {n : Nat} {v p x : Value} (hp : p ∈ v.parts) (h : PartAt n p x) : PartAt (n + 1) v x

/-- What holds of all that is in a value holds of the value and of all that is in its parts. -/
theorem forall_partAt_iff {P : Value → Prop} {v : Value} :
    (∀ n x, PartAt n v x → P x) ↔ P v ∧ ∀ p ∈ v.parts, ∀ n x, PartAt n p x → P x := by
  constructor
  · intro h
    exact ⟨h 0 v (.self v), fun p hp n x hx => h (n + 1) x (.part hp hx)⟩
  · intro ⟨hv, hparts⟩ n x hx
    cases hx with
    | self => exact hv
    | part hp hx => exact hparts _ hp _ x hx

/-! ### Induction over parts -/

section Size

variable {p : Value} {n : Nat}

/-- An item is smaller than what has the items. -/
private theorem lt_of_mem_items {items : List Value} (h : p ∈ items) (hn : sizeOf items < n) :
    sizeOf p < n :=
  Nat.lt_trans (List.sizeOf_lt_of_mem h) hn

/-- A key or a value is smaller than what has the entries. -/
private theorem lt_of_mem_entries {entries : List (Value × Value)}
    (h : p ∈ entries.map (·.1) ++ entries.map (·.2)) (hn : sizeOf entries < n) : sizeOf p < n := by
  have hpart : ∃ e ∈ entries, p = e.1 ∨ p = e.2 := by
    simp only [List.mem_append, List.mem_map] at h
    grind
  obtain ⟨⟨key, value⟩, he, hp⟩ := hpart
  have hsize := List.sizeOf_lt_of_mem he
  rw [Prod.mk.sizeOf_spec] at hsize
  rcases hp with rfl | rfl <;> omega

/-- The value of a field is smaller than what has the fields. -/
private theorem lt_of_mem_fields {fields : List (String × Value)} (h : p ∈ fields.map (·.2))
    (hn : sizeOf fields < n) : sizeOf p < n := by
  obtain ⟨⟨name, value⟩, hf, rfl⟩ := List.mem_map.mp h
  have hsize := List.sizeOf_lt_of_mem hf
  rw [Prod.mk.sizeOf_spec] at hsize
  show sizeOf value < n
  omega

private theorem lt_of_mem_shown {fields : List (String × Bool × Value)}
    (h : p ∈ fields.map (·.2.2)) (hn : sizeOf fields < n) : sizeOf p < n := by
  obtain ⟨⟨name, shown, value⟩, hf, rfl⟩ := List.mem_map.mp h
  have hsize := List.sizeOf_lt_of_mem hf
  rw [Prod.mk.sizeOf_spec, Prod.mk.sizeOf_spec] at hsize
  show sizeOf value < n
  omega

/-- A part is smaller than the value. -/
theorem sizeOf_lt_of_mem_parts {v : Value} (h : p ∈ v.parts) : sizeOf p < sizeOf v := by
  unfold parts apart at h
  -- lists, tuples and sets have items, mappings have entries, and records have fields
  split at h
  iterate 4
    · exact lt_of_mem_items h (by simp +arith)
  iterate 3
    · exact lt_of_mem_entries h (by simp +arith)
  iterate 4
    · exact lt_of_mem_items h (by simp +arith)
  iterate 2
    · exact lt_of_mem_entries h (by simp +arith)
  iterate 2
    · exact lt_of_mem_fields h (by simp +arith)
  · exact lt_of_mem_shown h (by simp +arith)
  iterate 2
    · exact lt_of_mem_fields h (by simp +arith)
  · exact lt_of_mem_shown h (by simp +arith)
  · simp at h

end Size

/-- What holds of a value as soon as it holds of the parts of the value holds of all values. -/
theorem parts_induction {P : Value → Prop} (h : ∀ v, (∀ p ∈ v.parts, P p) → P v) (v : Value) :
    P v :=
  h v fun p _ => parts_induction h p
termination_by v
decreasing_by exact sizeOf_lt_of_mem_parts (by assumption)

/-- Whether a value is a set does not depend on its members. -/
theorem isSet_hollow (v : Value) : v.hollow.isSet = v.isSet := by
  unfold hollow apart
  split <;> rfl

/-- Whether a value is described as a whole does not depend on its parts. -/
theorem isWhole_hollow (v : Value) : v.hollow.isWhole = v.isWhole := by
  unfold hollow apart
  split <;> rfl

/-- Sets are shown by their members. -/
theorem isWhole_of_isSet {v : Value} (h : v.isSet = true) : v.isWhole = false := by
  fun_cases isSet v <;> simp_all [isSet, isWhole]

/-- Data is shown by its parts. -/
theorem isWhole_of_isData {v : Value} (h : v.isData = true) : v.isWhole = false := by
  cases v <;> simp [isData] at h ⊢ <;> rfl

/-- How many parts a value has shows in what is left without them. -/
theorem length_parts_hollow (v : Value) : v.hollow.parts.length = v.parts.length := by
  unfold hollow parts
  fun_cases apart v <;> simp [apart]

/-- Values that differ in their parts only have as many of them. -/
theorem length_parts_eq {v w : Value} (h : v.hollow = w.hollow) :
    v.parts.length = w.parts.length := by
  rw [← length_parts_hollow, h, length_parts_hollow]

/-- Nothing is missing in a value without parts. -/
theorem hollow_of_parts_eq_nil {v : Value} (h : v.parts = []) : v.hollow = v := by
  unfold parts at h
  unfold hollow
  fun_cases apart v <;> simp_all [apart]

/-- Data without parts describes itself. -/
theorem exists_repr_of_isData {v : Value} (hdata : v.isData = true) (h : v.parts = []) :
    ∃ text, v.repr = .ok text := by
  cases v <;> simp only [isData, Bool.false_eq_true] at hdata
  all_goals simp only [parts, apart, List.append_eq_nil_iff, List.map_eq_nil_iff, and_self] at h
  all_goals first | exact ⟨_, rfl⟩ | (subst h; exact ⟨_, rfl⟩)

/-- Lists that agree one by one have the same images. -/
theorem map_eq_map_of_zip {α β γ : Type} {f : α → γ} {g : β → γ} {xs : List α} {ys : List β}
    (hlength : xs.length = ys.length) (h : ∀ p ∈ xs.zip ys, f p.1 = g p.2) :
    xs.map f = ys.map g := by
  -- on both lists at once
  induction xs generalizing ys with
  | nil =>
    cases ys with
    | nil => rfl
    | cons y ys => simp at hlength
  | cons x xs ih =>
    cases ys with
    | nil => simp at hlength
    | cons y ys =>
      rw [List.zip_cons_cons, List.forall_mem_cons] at h
      rw [List.map_cons, List.map_cons, h.1, ih (by simpa using hlength) h.2]

end Value

namespace Layout

open Value (PartAt)

/-! ### Texts from the texts of parts -/

/-- The texts of fields are those of their values. -/
theorem renderFields_eq (l : Layout) (level : Int) (fields : List (String × Value)) :
    l.renderFields level fields = fields.map fun f => (f.1, l.render level f.2) := by
  induction fields with
  | nil => rw [renderFields, List.map_nil]
  | cons f fields ih => rw [renderFields, ih, List.map_cons]

/-- The names of the fields that are shown, with their texts. -/
def shownTexts {α : Type} : List (String × Bool × Value) → List α → List (String × α)
  | (name, shown, _) :: fields, text :: texts =>
    if shown then (name, text) :: shownTexts fields texts else shownTexts fields texts
  | _, _ => []

/-- The texts of the fields that are not hidden are those of their values. -/
theorem renderShown_eq (l : Layout) (level : Int) (fields : List (String × Bool × Value)) :
    l.renderShown level fields =
      shownTexts (fields.map fun f => (f.1, f.2.1, Value.none))
        ((fields.map (·.2.2)).map (l.render level)) := by
  induction fields with
  | nil => rw [renderShown]; rfl
  | cons f fields ih =>
    rw [renderShown, ih]
    rfl

/-- The text of a value that has no parts to show. -/
def leafText : Value → Except Error String
  | .function name qualname | .method name qualname => .ok (functionText name qualname)
  | .builtin name => .ok (functionText name name)
  | .classType module qualname false => .ok ("<class " ++ module ++ "." ++ qualname ++ ">")
  | .module name => .ok ("<module " ++ name ++ ">")
  | v => v.repr

/-- The text of a value from the value without its parts, the parts, and their texts. -/
def assemble (l : Layout) (level : Int) (hollow : Value)
    (parts : List (Value × Except Error String)) : Except Error String :=
  let texts := parts.map (·.2)
  let pairs (n : Nat) := (texts.take n).zip (texts.drop n)
  match hollow with
  | .list _ | .extended _ (.list _) => return l.arrange level "[" "]" "" (← texts.mapM id)
  | .tuple _ | .extended _ (.tuple _) => do
    let parts ← texts.mapM id
    return l.arrange level "(" ")" (if parts.length == 1 then "," else "") parts
  | .set _ => l.arrangeSet level "set" false parts
  | .frozenset _ => l.arrangeSet level "frozenset" true parts
  | .extended name (.set _) => l.arrangeSet level name false parts
  | .extended name (.frozenset _) => l.arrangeSet level name true parts
  | .dict entries => l.arrangeEntries level (pairs entries.length)
  | .orderedDict entries =>
    return "OrderedDict(" ++ (← l.arrangeEntries level (pairs entries.length)) ++ ")"
  | .mappingView entries =>
    return "mappingproxy(" ++ (← l.arrangeEntries level (pairs entries.length)) ++ ")"
  | .extended name (.dict entries) | .extended name (.orderedDict entries) =>
    return name ++ "(" ++ (← l.arrangeEntries level (pairs entries.length)) ++ ")"
  | .record fields => l.arrangeFields level "namespace" ((fields.map (·.1)).zip texts)
  | .namedTuple name fields | .extended name (.namedTuple _ fields) =>
    l.arrangeFields level name ((fields.map (·.1)).zip texts)
  | .dataclass name fields | .extended name (.dataclass _ fields) =>
    l.arrangeFields level name (shownTexts fields texts)
  | v => leafText v

/-- Nothing is shown of a value that is too deep. -/
theorem render_of_deep (l : Layout) {level : Int} (hlevel : l.maxDepth < level) (v : Value) :
    l.render level v = .ok "..." := by
  rw [render.eq_def, if_pos hlevel]

/-- What is described as a whole is shown by its description, however deep its parts are. -/
theorem render_of_isWhole (l : Layout) {level : Int} (hlevel : ¬ l.maxDepth < level) {v : Value}
    (hwhole : v.isWhole = true) : l.render level v = v.repr := by
  fun_cases Value.isWhole v
  · rw [render.eq_def, if_neg hlevel]
  · simp_all [Value.isWhole]

/-- A value that is not too deep is shown by its parts: nothing of them but their texts counts,
    except for the order of the members of a set. -/
theorem render_eq_assemble (l : Layout) {level : Int} (hlevel : ¬ l.maxDepth < level) {v : Value}
    (hwhole : v.isWhole = false) :
    l.render level v =
      l.assemble level v.hollow (v.parts.map fun p => (p, l.render (level + 1) p)) := by
  unfold Value.hollow Value.parts
  fun_cases Value.apart v
  -- the one kind of value that is described as a whole
  case case14 => simp [Value.isWhole] at hwhole
  case case20 =>
    -- a value without parts is left as it is
    rw [render.eq_def, if_neg hlevel]
    unfold assemble leafText
    dsimp only
    split
    all_goals grind
  -- the others are put together alike
  all_goals rw [render, if_neg hlevel]
  all_goals simp [assemble, renderItems_eq, renderEntries_eq, renderFields_eq, renderShown_eq,
    List.mapM_map, Function.comp_def, List.zip_map']

/-- Unless it is a set, a value is put together from the texts of its parts alone. -/
theorem assemble_congr (l : Layout) (level : Int) {hollow : Value} (hset : hollow.isSet = false)
    {ps qs : List (Value × Except Error String)} (h : ps.map (·.2) = qs.map (·.2)) :
    l.assemble level hollow ps = l.assemble level hollow qs := by
  unfold assemble
  rw [h]
  split
  all_goals first | rfl | cases hset

/-- Values that differ in their parts only, and these not in their texts, have one text. -/
theorem render_congr (l : Layout) (level : Int) {v w : Value} (hset : v.isSet = false)
    (hwhole : v.isWhole = false) (hhollow : v.hollow = w.hollow)
    (hparts : ∀ p ∈ v.parts.zip w.parts, l.render (level + 1) p.1 = l.render (level + 1) p.2) :
    l.render level v = l.render level w := by
  by_cases hlevel : l.maxDepth < level
  · rw [render_of_deep l hlevel, render_of_deep l hlevel]
  · -- the texts of the parts are the same, and there are as many
    have htexts := Value.map_eq_map_of_zip (Value.length_parts_eq hhollow) hparts
    have hwhole' : w.isWhole = false := by
      rw [← Value.isWhole_hollow, ← hhollow, Value.isWhole_hollow, hwhole]
    rw [render_eq_assemble l hlevel hwhole, render_eq_assemble l hlevel hwhole', hhollow]
    apply assemble_congr
    · rw [← hhollow, Value.isSet_hollow, hset]
    · rw [List.map_map, List.map_map]
      exact htexts

/-! ### Values that are shown -/

/-- How the text of a value is put together, at a level, from texts of parts that satisfy `Q`. -/
inductive Assembled (l : Layout) (level : Int) (Q : String → Prop) : Value → String → Prop where
  | leaf {v : Value} {text : String} (hv : v.parts = []) (htext : leafText v = .ok text) :
    Assembled l level Q v text
  | items {v : Value} {opening closing trailing : String} {texts : List String}
    (hmarks : (opening, closing, trailing) ∈
      [("[", "]", ""), ("(", ")", ""), ("(", ")", ","), ("\x7b", "\x7d", "")])
    (htexts : ∀ text ∈ texts, Q text) :
    Assembled l level Q v (l.arrange level opening closing trailing texts)
  | entries {v : Value} {pairs : List (String × String)} (hpairs : ∀ p ∈ pairs, Q p.1 ∧ Q p.2) :
    Assembled l level Q v (l.arrange level "\x7b" "\x7d" "" (pairs.map Value.entryText))
  | fields {v : Value} {owner : String} {pairs : List (String × String)} (howner : owner ∈ v.words)
    (hpairs : ∀ p ∈ pairs, p.1 ∈ v.words ∧ Q p.2) :
    Assembled l level Q v
      (owner ++ l.arrange level "(" ")" "" (pairs.map fun p => p.1 ++ "=" ++ p.2))
  | noMembers {v : Value} {name : String} (hname : name ∈ v.words) :
    Assembled l level Q v (name ++ "()")
  | wrapped {v : Value} {lead text : String} (hlead : lead ∈ v.words)
    (h : Assembled l level Q v text) : Assembled l level Q v (lead ++ text ++ ")")

section Shown

variable {f : Value → Except Error String} {Q : String → Prop} {l : Layout} {level : Int}

/-- If each of some items has a text, they all have. -/
theorem exists_mapM_texts {α : Type} {f : α → Except Error String} {items : List α}
    (h : ∀ a ∈ items, ∃ text, f a = .ok text ∧ Q text) :
    ∃ texts, items.mapM f = .ok texts ∧ ∀ text ∈ texts, Q text := by
  induction items with
  | nil => exact ⟨[], rfl, by simp⟩
  | cons a items ih =>
    obtain ⟨text, htext, hQ⟩ := h a List.mem_cons_self
    obtain ⟨texts, htexts, hQs⟩ := ih fun b hb => h b (List.mem_cons_of_mem _ hb)
    refine ⟨text :: texts, ?_, by simpa using ⟨hQ, hQs⟩⟩
    rw [List.mapM_cons, htext, htexts]
    rfl

/-- The members of a set that all have texts. -/
theorem exists_arrangeSet {v : Value} {items : List Value} {name : String} {wrapped : Bool}
    (hname : name ∈ v.words) (hwrapped : wrapped = true → "frozenset(" ∈ v.words)
    (h : ∀ m ∈ items, ∃ text, f m = .ok text ∧ Q text) :
    ∃ text, l.arrangeSet level name wrapped (items.map fun m => (m, f m)) = .ok text ∧
      Assembled l level Q v text := by
  rw [arrangeSet, Value.inSetOrder_map, List.mapM_map]
  by_cases hitems : items = []
  · refine ⟨_, ?_, .noMembers hname⟩
    simp [hitems]
    rfl
  · -- the members are shown in another order, but they are the same
    have hshown : ∀ m ∈ Value.shownOrder items, ∃ text, f m = .ok text ∧ Q text :=
      fun m hm => h m ((Value.perm_shownOrder items).mem_iff.mp hm)
    obtain ⟨texts, htexts, hQ⟩ := exists_mapM_texts hshown
    have hbody : Assembled l level Q v (l.arrange level "\x7b" "\x7d" "" texts) :=
      .items (by simp) hQ
    simp only [List.isEmpty_map, List.isEmpty_iff, hitems, if_false]
    rw [show (Value.shownOrder items).mapM ((·.2) ∘ fun m => (m, f m)) = .ok texts from htexts]
    cases wrapped with
    | false => exact ⟨_, rfl, hbody⟩
    | true => exact ⟨_, rfl, .wrapped (hwrapped rfl) hbody⟩

/-- The entries of a mapping whose keys and values all have texts. -/
theorem exists_arrangeEntries (v : Value)
    {entries : List (Except Error String × Except Error String)}
    (h : ∀ e ∈ entries, (∃ text, e.1 = .ok text ∧ Q text) ∧ ∃ text, e.2 = .ok text ∧ Q text) :
    ∃ text, l.arrangeEntries level entries = .ok text ∧ Assembled l level Q v text := by
  obtain ⟨keys, hkeys, hQkeys⟩ := exists_mapM_texts fun e he => (h e he).1
  obtain ⟨values, hvalues, hQvalues⟩ := exists_mapM_texts fun e he => (h e he).2
  have hpairs : ∀ p ∈ keys.zip values, Q p.1 ∧ Q p.2 := fun p hp =>
    ⟨hQkeys _ (List.of_mem_zip hp).1, hQvalues _ (List.of_mem_zip hp).2⟩
  refine ⟨_, ?_, .entries hpairs⟩
  rw [arrangeEntries, hkeys, hvalues]
  rfl

/-- The fields of an owner that all have texts. -/
theorem exists_arrangeFields {v : Value} {owner : String}
    {fields : List (String × Except Error String)} (howner : owner ∈ v.words)
    (h : ∀ x ∈ fields, x.1 ∈ v.words ∧ ∃ text, x.2 = .ok text ∧ Q text) :
    ∃ text, l.arrangeFields level owner fields = .ok text ∧ Assembled l level Q v text := by
  -- each field has a text, and so has their row
  have hparts : ∃ pairs : List (String × String), (∀ p ∈ pairs, p.1 ∈ v.words ∧ Q p.2) ∧
      (fields.mapM fun x => do return x.1 ++ "=" ++ (← x.2)) =
        .ok (pairs.map fun p => p.1 ++ "=" ++ p.2) := by
    induction fields with
    | nil => exact ⟨[], by simp, rfl⟩
    | cons x fields ih =>
      obtain ⟨hname, text, htext, hQ⟩ := h x List.mem_cons_self
      obtain ⟨pairs, hpairs, hrest⟩ := ih fun y hy => h y (List.mem_cons_of_mem _ hy)
      refine ⟨(x.1, text) :: pairs, ?_, ?_⟩
      · exact List.forall_mem_cons.mpr ⟨⟨hname, hQ⟩, hpairs⟩
      · rw [List.mapM_cons, hrest, htext]
        rfl
  obtain ⟨pairs, hpairs, htexts⟩ := hparts
  refine ⟨_, ?_, .fields howner hpairs⟩
  rw [arrangeFields]
  exact congrArg (fun r : Except Error (List String) => r.bind fun parts =>
    .ok (owner ++ l.arrange level "(" ")" "" parts)) htexts

/-- What describes itself is shown if it has no parts. -/
theorem exists_leafText {v : Value} (h : ∃ text, v.repr = .ok text) :
    ∃ text, leafText v = .ok text := by
  unfold leafText
  split
  all_goals first | exact ⟨_, rfl⟩ | exact h

/-- What is shown of fields are their names and texts. -/
theorem mem_shownTexts {α : Type} {fields : List (String × Bool × Value)} {texts : List α}
    {x : String × α} (h : x ∈ shownTexts fields texts) :
    x.1 ∈ fields.map (·.1) ∧ x.2 ∈ texts := by
  fun_induction shownTexts fields texts with
  | case1 name _ fields text texts ih =>
    rcases List.mem_cons.mp h with rfl | h
    · simp
    · exact ⟨List.mem_cons_of_mem _ (ih h).1, List.mem_cons_of_mem _ (ih h).2⟩
  | case2 name _ _ fields text texts _ ih =>
    exact ⟨List.mem_cons_of_mem _ (ih h).1, List.mem_cons_of_mem _ (ih h).2⟩
  | case3 => simp at h

/-- A value can be put together if all its parts have texts, and it has one itself where it has no
    parts. -/
theorem exists_assemble {hollow : Value} {items : List Value}
    (hwhole : hollow.isWhole = false) (h : ∀ p ∈ items, ∃ text, f p = .ok text ∧ Q text)
    (hleaf : hollow.parts = [] → ∃ text, leafText hollow = .ok text) :
    ∃ text, l.assemble level hollow (items.map fun p => (p, f p)) = .ok text ∧
      Assembled l level Q hollow text := by
  have htexts : ∀ e ∈ items.map f, ∃ text, e = .ok text ∧ Q text := by
    simpa using h
  have hitems : ∃ texts, (items.map f).mapM id = .ok texts ∧ ∀ text ∈ texts, Q text :=
    exists_mapM_texts htexts
  obtain ⟨texts, hmap, hQ⟩ := hitems
  -- only a tuple of one item has a comma behind it
  have hcomma : ∀ n : Nat, ("(", ")", if n == 1 then "," else "") ∈
      [("[", "]", ""), ("(", ")", ""), ("(", ")", ","), ("\x7b", "\x7d", "")] := by
    intro n
    split <;> simp
  -- the first half of the parts are the keys
  have hentries : ∀ n, ∃ text,
      l.arrangeEntries level (((items.map f).take n).zip ((items.map f).drop n)) = .ok text ∧
        Assembled l level Q hollow text := by
    intro n
    apply exists_arrangeEntries
    intro e he
    exact ⟨htexts _ (List.mem_of_mem_take (List.of_mem_zip he).1),
      htexts _ (List.mem_of_mem_drop (List.of_mem_zip he).2)⟩
  have hfields : ∀ owner fields, owner ∈ hollow.words →
      (∀ x ∈ fields, x.1 ∈ hollow.words ∧ x.2 ∈ items.map f) →
      ∃ text, l.arrangeFields level owner fields = .ok text ∧ Assembled l level Q hollow text := by
    intro owner fields howner hmem
    exact exists_arrangeFields howner fun x hx => ⟨(hmem x hx).1, htexts _ (hmem x hx).2⟩
  have hsecond : (items.map fun p => (p, f p)).map (·.2) = items.map f := by
    simp
  unfold assemble
  rw [hsecond]
  dsimp only
  -- one case for each kind of value
  split
  · exact ⟨_, by rw [hmap]; rfl, .items (by simp) hQ⟩
  · exact ⟨_, by rw [hmap]; rfl, .items (by simp) hQ⟩
  · exact ⟨_, by rw [hmap]; rfl, .items (hcomma texts.length) hQ⟩
  · exact ⟨_, by rw [hmap]; rfl, .items (hcomma texts.length) hQ⟩
  · exact exists_arrangeSet (by simp [Value.words]) (by simp) h
  · exact exists_arrangeSet (by simp [Value.words]) (by simp [Value.words]) h
  · exact exists_arrangeSet (by simp [Value.words]) (by simp) h
  · exact exists_arrangeSet (by simp [Value.words]) (by simp [Value.words]) h
  -- mappings, by themselves or with a name around them
  · exact hentries _
  iterate 4
    · obtain ⟨text, htext, hform⟩ := hentries _
      exact ⟨_, by rw [htext]; rfl, .wrapped (by simp [Value.words]) hform⟩
  -- records, with all fields or with those that are shown
  iterate 3
    · exact hfields _ _ (by simp [Value.words]) fun x hx =>
        ⟨List.mem_cons_of_mem _ (List.of_mem_zip hx).1, (List.of_mem_zip hx).2⟩
  iterate 2
    · exact hfields _ _ (by simp [Value.words]) fun x hx =>
        ⟨List.mem_cons_of_mem _ (mem_shownTexts hx).1, (mem_shownTexts hx).2⟩
  · -- whatever else there is has no parts
    have hparts : hollow.parts = [] := by
      unfold Value.parts Value.apart
      split <;> grind [Value.isWhole]
    obtain ⟨text, htext⟩ := hleaf hparts
    exact ⟨text, htext, .leaf hparts htext⟩

end Shown

/-- A value that is not too deep is put together from the texts of its parts, if these have some,
    and it has one itself where it has no parts. -/
theorem exists_render_of_parts (l : Layout) {level : Int} {Q : String → Prop} {v : Value}
    (hlevel : ¬ l.maxDepth < level) (hwhole : v.isWhole = false)
    (hparts : ∀ p ∈ v.parts, ∃ text, l.render (level + 1) p = .ok text ∧ Q text)
    (hleaf : v.parts = [] → ∃ text, v.repr = .ok text) :
    ∃ text, l.render level v = .ok text ∧ Assembled l level Q v.hollow text := by
  rw [render_eq_assemble l hlevel hwhole]
  apply exists_assemble (by rw [Value.isWhole_hollow, hwhole]) hparts
  intro hnil
  -- what has no parts is shown by its description
  have hnone : v.parts = [] := by
    have hlength := v.length_parts_hollow
    simpa [hnil] using hlength.symm
  rw [Value.hollow_of_parts_eq_nil hnone]
  exact exists_leafText (hleaf hnone)

/-- A value is shown if all that describes itself is, of what is not too deep in it. -/
theorem exists_render (l : Layout) {v : Value} {level : Int}
    (h : ∀ (n : Nat) (x : Value), (n : Int) ≤ l.maxDepth - level → PartAt n v x →
      x.parts = [] ∨ x.isWhole = true → ∃ text, x.repr = .ok text) :
    ∃ text, l.render level v = .ok text := by
  -- on the parts; the level varies
  induction v using Value.parts_induction generalizing level with
  | h v ih =>
    by_cases hlevel : l.maxDepth < level
    · exact ⟨_, render_of_deep l hlevel v⟩
    · -- what is not too deep in a part is not too deep in the value
      have hparts : ∀ p ∈ v.parts, ∃ text, l.render (level + 1) p = .ok text ∧ True := by
        intro p hp
        simp only [and_true]
        apply ih p hp
        intro n x hn hx
        exact h (n + 1) x (by omega) (.part hp hx)
      have hself := h 0 v (by omega) (.self v)
      cases hwhole : v.isWhole with
      | true =>
        obtain ⟨text, htext⟩ := hself (.inr hwhole)
        exact ⟨text, by rw [render_of_isWhole l hlevel hwhole, htext]⟩
      | false =>
        obtain ⟨text, htext, -⟩ :=
          exists_render_of_parts l hlevel hwhole hparts fun hnil => hself (.inl hnil)
        exact ⟨text, htext⟩

end Layout

end ReplEngine
