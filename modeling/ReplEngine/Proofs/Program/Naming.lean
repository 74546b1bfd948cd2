import ReplEngine.Proofs.Program.Grouping
import ReplEngine.Proofs.Program.Listing
import ReplEngine.Proofs.Text.Cutting

/-!
# Names of classes and what they stand for

A program keeps the classes that have a name in a table, which is filled from the built-in scope,
the scope and the modules in it; what a dotted name stands for is looked up from the scope on.
This relates the two.  A name without dots is looked up in the same scopes that filled the table
(`lookup?_types`), but the table passes over what is no class, so that a class of the built-in
scope stays in it where the scope gives its name to something else.  A dotted name is recorded for
an entry of a module, and the lookup goes the same way to that entry.

## Key results

- `lookup?_types`: the table at a name without dots
- `mem_types_source`: which entries the names of the table come from
- `HasPlainNames.resolve?_eq_class_iff`: where no name has a dot, when a class is found
- `types_agrees_resolve`: where table and lookup agree
-/

namespace ReplEngine.Program

variable {p : Program} {name : String} {id : ObjectId} {table : List (String × ObjectId)}

/-! ### What an entry of the scope brings in -/

/-- What a filter that can fail has kept comes from one of the items. -/
theorem exists_of_mem_filterMapM {α β : Type} {f : α → Except Error (Option β)} {items : List α}
    {found : List β} (h : items.filterMapM f = .ok found) {y : β} (hy : y ∈ found) :
    ∃ x ∈ items, f x = .ok (some y) := by
  -- on the items; an item that is dropped leaves what was kept
  induction items generalizing found with
  | nil => cases h; simp at hy
  | cons x items ih =>
    rw [List.filterMapM_cons] at h
    cases hx : f x with
    | error e => rw [hx] at h; cases h
    | ok result =>
      rw [hx] at h
      cases result with
      | none =>
        obtain ⟨x', hx', hfx'⟩ := ih h hy
        exact ⟨x', List.mem_cons_of_mem _ hx', hfx'⟩
      | some z =>
        cases hrest : items.filterMapM f with
        | error e => simp [hrest, bind, Except.bind] at h
        | ok rest =>
          obtain rfl : z :: rest = found := by
            simpa [hrest, bind, Except.bind, pure, Except.pure] using h
          rcases List.mem_cons.mp hy with rfl | hy
          · exact ⟨x, by simp, hx⟩
          · obtain ⟨x', hx', hfx'⟩ := ih hrest hy
            exact ⟨x', List.mem_cons_of_mem _ hx', hfx'⟩

/-- An entry of a module is recorded under a dotted name, if it is a class. -/
theorem moduleType?_eq_some {info : ModuleInfo} {key entry : String} {e : Entity}
    (h : p.moduleType? key info entry e = .ok (some (name, id))) :
    p.classId? e = some id ∧ name = key ++ "." ++ entry := by
  rw [moduleType?] at h
  cases hclass : p.classId? e with
  | none => simp [hclass] at h
  | some cls =>
    simp only [hclass] at h
    split at h
    · -- its home could not be told
      cases h
    · split at h
      · -- the class is left out, or this is its entry
        simp only [Except.ok.injEq, Option.ite_none_right_eq_some, Option.some.injEq,
          Prod.mk.injEq] at h
        obtain ⟨-, rfl, rfl⟩ := h
        exact ⟨rfl, rfl⟩
      · cases h

/-- An entry of the scope brings in a class under its own name, or the entries of a module under
    dotted ones. -/
theorem scopeTypes_cases {key : String} {e : Entity} {found : List (String × ObjectId)}
    (h : p.scopeTypes key e = .ok found) :
    (∃ cls, p.classId? e = some cls ∧ found = [(key, cls)]) ∨
    (p.classId? e = none ∧ ∀ entry ∈ found, ∃ info last, p.module? e = some info ∧
      (last, Entity.object entry.2) ∈ moduleEntries info ∧ entry.1 = key ++ "." ++ last) := by
  rw [scopeTypes] at h
  cases hclass : p.classId? e with
  | some cls =>
    simp only [hclass] at h
    cases h
    exact .inl ⟨cls, rfl, rfl⟩
  | none =>
    refine .inr ⟨rfl, ?_⟩
    intro entry hentry
    cases hmodule : p.module? e with
    | none =>
      simp only [hclass, hmodule] at h
      cases h
      cases hentry
    | some info =>
      simp only [hclass, hmodule] at h
      -- a module: each entry that was kept is a class of it
      obtain ⟨item, hitem, htype⟩ := exists_of_mem_filterMapM h hentry
      obtain ⟨hid, hname⟩ := moduleType?_eq_some htype
      obtain ⟨hobject, -⟩ := exists_class_of_classId? hid
      refine ⟨info, item.1, rfl, ?_, hname⟩
      rw [← hobject]
      exact hitem

theorem dot_mem_append (first last : String) : '.' ∈ (first ++ "." ++ last).toList := by
  simp [String.toList_append]

/-- With one dot in all, the dot tells the parts of a name. -/
theorem append_dot_inj {first last first' last' : String} (hfirst : '.' ∉ first.toList)
    (hlast : '.' ∉ last.toList) (h : first ++ "." ++ last = first' ++ "." ++ last') :
    first = first' ∧ last = last' := by
  have hchars : first.toList ++ '.' :: last.toList = first'.toList ++ '.' :: last'.toList := by
    simpa [String.toList_append] using congrArg String.toList h
  -- the only dot on either side is the one between the parts
  obtain ⟨hfirst, -, hlast⟩ := (List.append_cons_inj_of_notMem hfirst hlast).mp hchars
  exact ⟨String.toList_inj.mp hfirst, String.toList_inj.mp hlast⟩

/-- A name without dots can only be that of the entry itself. -/
theorem lookup?_scopeTypes {key : String} {e : Entity} {found : List (String × ObjectId)}
    (h : p.scopeTypes key e = .ok found) (hdots : '.' ∉ name.toList) :
    lookup? name found.reverse = if key = name then p.classId? e else none := by
  obtain ⟨cls, hclass, rfl⟩ | ⟨hclass, hfound⟩ := scopeTypes_cases h
  · rw [hclass, List.reverse_singleton, lookup?_cons, lookup?_nil]
  · -- no class: the entries of a module have dotted names
    rw [hclass, ite_self, lookup?_eq_none_iff]
    intro hmem
    obtain ⟨entry, hentry, rfl⟩ := List.mem_map.mp hmem
    obtain ⟨-, last, -, -, hname⟩ := hfound entry (List.mem_reverse.mp hentry)
    rw [hname] at hdots
    exact hdots (dot_mem_append key last)

/-! ### The table of classes -/

/-- The entries of the scope that are shown. -/
def shownScope (p : Program) : List (String × Entity) :=
  p.scope.filter fun entry => !hiddenNames.contains entry.1

/-- Leaving entries out does not bind a name twice. -/
theorem isMapping_shownScope (h : IsMapping p.scope) : IsMapping p.shownScope :=
  List.Nodup.sublist (List.filter_sublist.map Prod.fst) h

theorem mem_shownScope_iff {entry : String × Entity} :
    entry ∈ p.shownScope ↔ entry ∈ p.scope ∧ entry.1 ∉ hiddenNames := by
  simp [shownScope]

/-- The table is filled with the built-in classes and then with what each shown entry of the scope
    brings in. -/
theorem exists_named_of_types (h : p.types = .ok table) :
    ∃ named, List.Forall₂ (fun entry found => p.scopeTypes entry.1 entry.2 = .ok found)
        p.shownScope named ∧
      table = bindEntries [] (p.builtinTypes ++ named.flatten) := by
  rw [types] at h
  rcases mapM_cases (fun entry => p.scopeTypes entry.1 entry.2) p.shownScope with
    ⟨named, hnamed, hall⟩ | ⟨e, hfails, -⟩
  · -- every entry could be looked at
    refine ⟨named, hall, ?_⟩
    rw [shownScope] at hnamed
    simp only [hnamed, bind, Except.bind] at h
    cases h
    rfl
  · -- one could not, and there would be no table
    rw [shownScope] at hfails
    simp only [hfails, bind, Except.bind] at h
    cases h

/-- The table has no name twice. -/
theorem isMapping_types (h : p.types = .ok table) : IsMapping table := by
  obtain ⟨named, -, rfl⟩ := exists_named_of_types h
  exact isMapping_bindEntries _

/-- What the scope brings in comes before what is built in. -/
theorem lookup?_table {named : List (List (String × ObjectId))} (key : String) :
    lookup? key (bindEntries [] (p.builtinTypes ++ named.flatten)) =
      (lookup? key named.flatten.reverse).or (lookup? key p.builtinTypes.reverse) := by
  rw [lookup?_bindEntries, List.reverse_append, lookup?_append, lookup?_nil, Option.or_none]

/-- A name without dots is brought in by the entry of that name alone. -/
theorem lookup?_named {scope : List (String × Entity)} {named : List (List (String × ObjectId))}
    (h : List.Forall₂ (fun entry found => p.scopeTypes entry.1 entry.2 = .ok found) scope named)
    (hscope : IsMapping scope) (hdots : '.' ∉ name.toList) :
    lookup? name named.flatten.reverse = (lookup? name scope).bind p.classId? := by
  -- on the scope, entry by entry with what it brings in
  induction h with
  | nil => rfl
  | @cons entry found scope named hfound hrest ih =>
    obtain ⟨hentry, hscope⟩ := List.nodup_cons.mp hscope
    rw [List.flatten_cons, List.reverse_append, lookup?_append, ih hscope,
      lookup?_scopeTypes hfound hdots, lookup?_cons]
    -- what comes later wins, but no later entry has this name
    by_cases hname : entry.1 = name
    · have hnone : lookup? name scope = none := lookup?_eq_none_iff.mpr (hname ▸ hentry)
      rw [if_pos hname, if_pos hname, hnone]
      rfl
    · rw [if_neg hname, if_neg hname, Option.or_none]

/-- Of the built-in scope the table takes the public classes. -/
theorem mem_builtinTypes_iff :
    (name, id) ∈ p.builtinTypes ↔
      isPrivate name = false ∧ ∃ e, (name, e) ∈ p.builtins ∧ p.classId? e = some id := by
  rw [builtinTypes, List.mem_filterMap]
  constructor
  · rintro ⟨⟨key, e⟩, hentry, hfound⟩
    by_cases hprivate : isPrivate key = true
    · simp [hprivate] at hfound
    · obtain ⟨hclass, rfl⟩ : p.classId? e = some id ∧ key = name := by
        simpa [hprivate, and_comm] using hfound
      exact ⟨by simpa using hprivate, e, hentry, hclass⟩
  · rintro ⟨hpublic, e, hentry, hclass⟩
    exact ⟨(name, e), hentry, by simp [hpublic, hclass]⟩

theorem lookup?_builtinTypes (h : IsMapping p.builtins) (name : String) :
    lookup? name p.builtinTypes.reverse =
      if isPrivate name then none else (lookup? name p.builtins).bind p.classId? := by
  have hmem : ∀ id, (name, id) ∈ p.builtinTypes ↔
      (if isPrivate name then none else (lookup? name p.builtins).bind p.classId?) = some id := by
    intro id
    rw [mem_builtinTypes_iff]
    simp only [← h.lookup?_eq_some_iff, Option.ite_none_left_eq_some, Option.bind_eq_some_iff,
      Bool.not_eq_true]
  cases hfound : lookup? name p.builtinTypes.reverse with
  | some id => exact ((hmem id).mp (List.mem_reverse.mp (mem_of_lookup? hfound))).symm
  | none =>
    -- whatever passes the test is an entry, and would have been found
    apply Eq.symm
    apply Option.eq_none_iff_forall_ne_some.mpr
    intro id hid
    apply lookup?_eq_none_iff.mp hfound
    exact List.mem_map.mpr ⟨(name, id), List.mem_reverse.mpr ((hmem id).mpr hid), rfl⟩

/-- The table at a name without dots: the class that the scope gives the name to, or else the
    public class of the built-in scope. -/
theorem lookup?_types (htypes : p.types = .ok table) (hscope : IsMapping p.scope)
    (hbuiltins : IsMapping p.builtins) (hdots : '.' ∉ name.toList) :
    lookup? name table = ((lookup? name p.shownScope).bind p.classId?).or
      (if isPrivate name then none else (lookup? name p.builtins).bind p.classId?) := by
  obtain ⟨named, hnamed, rfl⟩ := exists_named_of_types htypes
  rw [lookup?_table, lookup?_named hnamed (isMapping_shownScope hscope) hdots,
    lookup?_builtinTypes hbuiltins]

/-- Every name of the table is that of a built-in entry, of an entry of the scope, or of an entry
    of a module in the scope. -/
theorem mem_types_source (htypes : p.types = .ok table) (h : (name, id) ∈ table) :
    name ∈ p.builtins.map (·.1) ∨ name ∈ p.scope.map (·.1) ∨
      ∃ first last e info, name = first ++ "." ++ last ∧ (first, e) ∈ p.shownScope ∧
        p.module? e = some info ∧ (last, Entity.object id) ∈ moduleEntries info := by
  obtain ⟨named, hnamed, rfl⟩ := exists_named_of_types htypes
  rw [← (isMapping_bindEntries _).lookup?_eq_some_iff, lookup?_table, Option.or_eq_some_iff] at h
  rcases h with hlocal | ⟨-, hbuiltin⟩
  · -- brought in by the scope: as a class, or through a module
    obtain ⟨found, hfound, hmem⟩ :=
      List.mem_flatten.mp (List.mem_reverse.mp (mem_of_lookup? hlocal))
    obtain ⟨entry, hentry, hbrings⟩ := exists_of_mem_forall₂ hnamed hfound
    obtain ⟨cls, -, rfl⟩ | ⟨-, hentries⟩ := scopeTypes_cases hbrings
    · obtain ⟨rfl, -⟩ := Prod.mk.inj (List.mem_singleton.mp hmem)
      exact .inr (.inl (List.mem_map_of_mem (mem_shownScope_iff.mp hentry).1))
    · obtain ⟨info, last, hmodule, hobject, hname⟩ := hentries _ hmem
      exact .inr (.inr ⟨entry.1, last, entry.2, info, hname, hentry, hmodule, hobject⟩)
  · obtain ⟨-, e, hentry, -⟩ :=
      mem_builtinTypes_iff.mp (List.mem_reverse.mp (mem_of_lookup? hbuiltin))
    exact .inl (List.mem_map.mpr ⟨_, hentry, rfl⟩)

/-- A name with one dot that is itself no entry is that of an entry of a module. -/
theorem exists_module_of_mem_types (htypes : p.types = .ok table) {first last : String}
    (hfirst : '.' ∉ first.toList) (hlast : '.' ∉ last.toList)
    (hscope : lookup? (first ++ "." ++ last) p.scope = none)
    (hbuiltins : lookup? (first ++ "." ++ last) p.builtins = none)
    (h : (first ++ "." ++ last, id) ∈ table) :
    ∃ e info, (first, e) ∈ p.shownScope ∧ p.module? e = some info ∧
      (last, Entity.object id) ∈ moduleEntries info := by
  rcases mem_types_source htypes h with
    hentry | hentry | ⟨first', last', e, info, hname, hentry, hmodule, hmem⟩
  · exact absurd hentry (lookup?_eq_none_iff.mp hbuiltins)
  · exact absurd hentry (lookup?_eq_none_iff.mp hscope)
  · -- the parts are those of the name that was asked for
    obtain ⟨rfl, rfl⟩ := append_dot_inj hfirst hlast hname
    exact ⟨e, info, hentry, hmodule, hmem⟩

/-- No name has a dot, of the scopes or of the modules in the scope. -/
structure HasPlainNames (p : Program) : Prop where
  scope : ∀ name ∈ p.scope.map (·.1), '.' ∉ name.toList
  builtins : ∀ name ∈ p.builtins.map (·.1), '.' ∉ name.toList
  modules : ∀ entry ∈ p.scope, ∀ info, p.module? entry.2 = some info →
    ∀ name ∈ (moduleEntries info).map (·.1), '.' ∉ name.toList

namespace HasPlainNames

/-- Among plain names there is none of two parts. -/
theorem lookup?_eq_none {α : Type} {entries : List (String × α)}
    (h : ∀ name ∈ entries.map (·.1), '.' ∉ name.toList) (first last : String) :
    lookup? (first ++ "." ++ last) entries = none := by
  rw [lookup?_eq_none_iff]
  intro hmem
  exact h _ hmem (dot_mem_append first last)

/-- Where names are plain, the dotted names of the table have two parts. -/
theorem exists_parts (hplain : HasPlainNames p) (htypes : p.types = .ok table)
    (h : (name, id) ∈ table) (hdot : '.' ∈ name.toList) :
    ∃ first last, name = first ++ "." ++ last ∧ '.' ∉ first.toList ∧ '.' ∉ last.toList := by
  rcases mem_types_source htypes h with
    hentry | hentry | ⟨first, last, e, info, hname, hentry, hmodule, hmem⟩
  · exact absurd hdot (hplain.builtins name hentry)
  · exact absurd hdot (hplain.scope name hentry)
  · have hscope := (mem_shownScope_iff.mp hentry).1
    exact ⟨first, last, hname, hplain.scope first (List.mem_map.mpr ⟨_, hscope, rfl⟩),
      hplain.modules _ hscope info hmodule last (List.mem_map.mpr ⟨_, hmem, rfl⟩)⟩

end HasPlainNames

/-! ### What a name stands for -/

/-- What is shown is found as in the scope, and what is hidden is not. -/
theorem lookup?_shownScope (name : String) :
    lookup? name p.shownScope = if name ∈ hiddenNames then none else lookup? name p.scope := by
  rw [shownScope, lookup?_filter fun key => !hiddenNames.contains key]
  by_cases h : name ∈ hiddenNames <;> simp [h]

/-- The first part of a name is looked up in the shown scope and then among the built-in names. -/
theorem head?_eq (name : String) :
    p.head? name = (lookup? name p.shownScope).or (lookup? name p.builtins) := by
  rw [head?, lookup?_shownScope]
  simp

/-- A name without dots is its own first part. -/
theorem resolve?_of_no_dots (hdots : '.' ∉ name.toList) : p.resolve? name = p.head? name := by
  rw [resolve?, Text.splitAtChar_eq_splitOn, List.splitOn_eq_singleton hdots, List.map_singleton,
    String.ofList_toList]
  simp

/-- The parts behind the first are followed one after the other. -/
theorem resolve?_append {first : String} (hfirst : '.' ∉ first.toList) (rest : String) :
    p.resolve? (first ++ "." ++ rest) = (p.head? first).bind fun e =>
      ((Text.splitAtChar '.' rest.toList).map String.ofList).foldlM p.follow? e := by
  have hsplit : Text.splitAtChar '.' (first ++ "." ++ rest).toList =
      first.toList :: Text.splitAtChar '.' rest.toList := by
    rw [Text.splitAtChar_eq_splitOn, Text.splitAtChar_eq_splitOn, String.toList_append,
      String.toList_append, List.append_assoc]
    exact List.splitOn_append_cons_self_of_not_mem hfirst _
  rw [resolve?, hsplit, List.map_cons, String.ofList_toList]

/-- Of two parts the second is followed from the first. -/
theorem resolve?_member {first last : String} (hfirst : '.' ∉ first.toList)
    (hlast : '.' ∉ last.toList) :
    p.resolve? (first ++ "." ++ last) = (p.head? first).bind fun e => p.follow? e last := by
  rw [resolve?_append hfirst, Text.splitAtChar_eq_splitOn, List.splitOn_eq_singleton hlast,
    List.map_singleton, String.ofList_toList]
  simp

/-- An entry of a module is found through the module. -/
theorem follow?_module {e : Entity} {info : ModuleInfo} {last : String}
    (hmodule : p.module? e = some info) (hmem : (last, Entity.object id) ∈ moduleEntries info) :
    p.follow? e last = some (.object id) := by
  -- only an object can be a module, and its entries are its attributes
  have hattribute : p.attribute? e last = some (.object id) := by
    cases e with
    | object key =>
      rw [module?] at hmodule
      split at hmodule
      · rename_i info' hobject
        cases hmodule
        rw [attribute?, hobject]
        exact (isMapping_bindEntries _).lookup?_eq_some_iff.mpr hmem
      · cases hmodule
    | _ => cases hmodule
  simp [follow?, hattribute, hmodule, unwrap]

/-- Only a name that stands for nothing makes the lookup fail. -/
theorem resolve_eq_ok_iff {e : Entity} : p.resolve name = .ok e ↔ p.resolve? name = some e := by
  rw [resolve]
  cases p.resolve? name <;> simp

theorem isPrivate_of_hidden : ∀ name ∈ hiddenNames, isPrivate name = true := by
  decide

/-- A name without dots is recorded for the class that the scope binds it to, or for the built-in
    class of that name where the scope does not bind it to a class. -/
theorem mem_types_cases (htypes : p.types = .ok table) (hscope : IsMapping p.scope)
    (hbuiltins : IsMapping p.builtins) (hdots : '.' ∉ name.toList) (h : (name, id) ∈ table) :
    name ∉ hiddenNames ∧ p.classId? (.object id) = some id ∧
      (lookup? name p.scope = some (.object id) ∨
        (lookup? name p.scope).bind p.classId? = none ∧
          lookup? name p.builtins = some (.object id)) := by
  have hfound := (isMapping_types htypes).lookup?_eq_some_iff.mpr h
  rw [lookup?_types htypes hscope hbuiltins hdots, lookup?_shownScope] at hfound
  -- a hidden name is private, and the table takes none of those from the built-in scope
  have hvisible : name ∉ hiddenNames := by
    intro hhidden
    simp [hhidden, isPrivate_of_hidden name hhidden] at hfound
  rw [if_neg hvisible, Option.or_eq_some_iff, Option.ite_none_left_eq_some] at hfound
  refine ⟨hvisible, ?_⟩
  rcases hfound with hlocal | ⟨hlocal, -, hbuiltin⟩
  · obtain ⟨e, hbound, hclass⟩ := Option.bind_eq_some_iff.mp hlocal
    obtain ⟨rfl, -⟩ := exists_class_of_classId? hclass
    exact ⟨hclass, .inl hbound⟩
  · obtain ⟨e, hbound, hclass⟩ := Option.bind_eq_some_iff.mp hbuiltin
    obtain ⟨rfl, -⟩ := exists_class_of_classId? hclass
    exact ⟨hclass, .inr ⟨hlocal, hbound⟩⟩

/-- A recorded name without dots stands for what the scope binds it to, or else for its class. -/
theorem resolve?_of_mem_types (htypes : p.types = .ok table) (hscope : IsMapping p.scope)
    (hbuiltins : IsMapping p.builtins) (hdots : '.' ∉ name.toList) (h : (name, id) ∈ table) :
    p.resolve? name = some ((lookup? name p.scope).getD (.object id)) := by
  obtain ⟨hvisible, -, hbound | ⟨-, hbound⟩⟩ := mem_types_cases htypes hscope hbuiltins hdots h
  · rw [resolve?_of_no_dots hdots, head?_eq, lookup?_shownScope, if_neg hvisible, hbound]
    rfl
  · -- what the scope binds the name to comes first, class or not
    rw [resolve?_of_no_dots hdots, head?_eq, lookup?_shownScope, if_neg hvisible, hbound]
    cases lookup? name p.scope <;> rfl

/-- It stands for its class unless the scope binds it to what is none. -/
theorem resolve?_eq_class_iff (htypes : p.types = .ok table) (hscope : IsMapping p.scope)
    (hbuiltins : IsMapping p.builtins) (hdots : '.' ∉ name.toList) (h : (name, id) ∈ table) :
    p.resolve? name = some (.object id) ↔
      ∀ e, lookup? name p.scope = some e → (p.classId? e).isSome = true := by
  rw [resolve?_of_mem_types htypes hscope hbuiltins hdots h]
  obtain ⟨-, hclass, hbound | ⟨hother, -⟩⟩ := mem_types_cases htypes hscope hbuiltins hdots h
  · simp [hbound, hclass]
  · cases hbound : lookup? name p.scope with
    | none => simp
    | some e =>
      -- what the scope binds the name to is no class, and hence not the recorded one
      have hnone : p.classId? e = none := by rwa [hbound] at hother
      have hne : e ≠ .object id := by
        rintro rfl
        rw [hclass] at hnone
        cases hnone
      simp [hnone, hne]

/-- The name of an entry of a module stands for its class. -/
theorem resolve?_of_mem_module (htypes : p.types = .ok table) (hscope : IsMapping p.scope)
    {first last : String} (hfirst : '.' ∉ first.toList) (hlast : '.' ∉ last.toList)
    (hunscoped : lookup? (first ++ "." ++ last) p.scope = none)
    (hunbuilt : lookup? (first ++ "." ++ last) p.builtins = none)
    (h : (first ++ "." ++ last, id) ∈ table) :
    p.resolve? (first ++ "." ++ last) = some (.object id) := by
  obtain ⟨e, info, hentry, hmodule, hmem⟩ :=
    exists_module_of_mem_types htypes hfirst hlast hunscoped hunbuilt h
  have hshown := (isMapping_shownScope hscope).lookup?_eq_some_iff.mpr hentry
  rw [resolve?_member hfirst hlast, head?_eq, hshown]
  exact follow?_module hmodule hmem

/-- Where names are plain, a class can only be missed because the scope gives its name away. -/
theorem HasPlainNames.resolve?_eq_class_iff (hplain : HasPlainNames p)
    (htypes : p.types = .ok table) (hscope : IsMapping p.scope) (hbuiltins : IsMapping p.builtins)
    (h : (name, id) ∈ table) :
    p.resolve? name = some (.object id) ↔
      ∀ e, lookup? name p.scope = some e → (p.classId? e).isSome = true := by
  -- a dotted name is that of an entry of a module, which no scope can give away
  by_cases hdot : '.' ∈ name.toList
  · obtain ⟨first, last, rfl, hfirst, hlast⟩ := hplain.exists_parts htypes h hdot
    have hunscoped := HasPlainNames.lookup?_eq_none hplain.scope first last
    have hunbuilt := HasPlainNames.lookup?_eq_none hplain.builtins first last
    refine iff_of_true (resolve?_of_mem_module htypes hscope hfirst hlast hunscoped hunbuilt h) ?_
    intro e hbound
    rw [hunscoped] at hbound
    cases hbound
  · exact Program.resolve?_eq_class_iff htypes hscope hbuiltins hdot h

/-- The table of classes and the lookup of names.  Where no name has a dot they agree on a name
    exactly if the scope does not bind it to what is no class.  In general a name without dots
    stands for what the scope binds it to, or else for the class of the table; the name of an entry
    of a module stands for the class of the table; and a dotted name whose first part is unbound
    stands for nothing, even if the table has it. -/
theorem types_agrees_resolve (p : Program) (table : List (String × ObjectId))
    (htypes : p.types = .ok table) (hscope : IsMapping p.scope) (hbuiltins : IsMapping p.builtins)
    (name : String) (id : ObjectId) (h : (name, id) ∈ table) :
    p.typeNamed? name = .ok (some id) ∧
    (HasPlainNames p → (p.resolve name = .ok (.object id) ↔
      ∀ e, lookup? name p.scope = some e → (p.classId? e).isSome = true)) ∧
    ('.' ∉ name.toList →
      p.resolve name = .ok ((lookup? name p.scope).getD (.object id)) ∧
      (p.resolve name = .ok (.object id) ↔
        ∀ e, lookup? name p.scope = some e → (p.classId? e).isSome = true)) ∧
    (∀ first last, name = first ++ "." ++ last → '.' ∉ first.toList → '.' ∉ last.toList →
      lookup? name p.scope = none → lookup? name p.builtins = none →
      p.resolve name = .ok (.object id)) ∧
    ∀ first rest, name = first ++ "." ++ rest → '.' ∉ first.toList → p.head? first = none →
      p.resolve name = .error (.unresolved name) := by
  simp only [resolve_eq_ok_iff]
  refine ⟨?_, ?_, ?_, ?_, ?_⟩
  · -- the table finds what it has
    have hfound := (isMapping_types htypes).lookup?_eq_some_iff.mpr h
    simp [typeNamed?, htypes, hfound, bind, Except.bind, pure, Except.pure]
  · intro hplain
    exact hplain.resolve?_eq_class_iff htypes hscope hbuiltins h
  · intro hdots
    exact ⟨resolve?_of_mem_types htypes hscope hbuiltins hdots h,
      resolve?_eq_class_iff htypes hscope hbuiltins hdots h⟩
  · rintro first last rfl hfirst hlast hunscoped hunbuilt
    exact resolve?_of_mem_module htypes hscope hfirst hlast hunscoped hunbuilt h
  · -- nothing to start from
    rintro first rest rfl hfirst hunbound
    rw [resolve, resolve?_append hfirst, hunbound]
    rfl

/-- A class without members. -/
def emptyClass (name home : String) : ProgramObject :=
  .classObject { name := name, qualname := name, home := home }

/-- A module with one class. -/
def shapesModule : ModuleInfo :=
  { name := "shapes", attributes := [("Square", .object "Square")] }

/-- A scope that gives the names of two built-in classes away, one of them to another class. -/
def shelfProgram : Program :=
  { objects := [("int", emptyClass "int" "builtins"), ("list", emptyClass "list" "builtins"),
      ("Integer", emptyClass "Integer" "__main__"), ("Square", emptyClass "Square" "shapes"),
      ("shapes", .moduleObject shapesModule)]
    scope := [("list", .value (.int 5)), ("int", .object "Integer"), ("shapes", .object "shapes")]
    builtins := [("int", .object "int"), ("list", .object "list")] }

/-- The same scope with a class under a name that has a dot. -/
def labelledShelf : Program :=
  { shelfProgram with scope := shelfProgram.scope ++ [("old.Square", .object "Square")] }

/-- No name of that scope has a dot. -/
theorem hasPlainNames_shelf : HasPlainNames shelfProgram where
  scope := by decide
  builtins := by decide
  modules := by
    intro entry hentry info hmodule
    simp only [shelfProgram, List.mem_cons, List.not_mem_nil, or_false] at hentry
    rcases hentry with rfl | rfl | rfl
    · cases hmodule
    · cases hmodule
    · have hshapes : shelfProgram.module? (.object "shapes") = some shapesModule := rfl
      obtain rfl : shapesModule = info := Option.some.inj (hshapes.symm.trans hmodule)
      decide

/-- All five parts, over the shelf and its copy with a dotted name. -/
theorem types_agrees_resolve_shelf :
    HasPlainNames shelfProgram ∧
    shelfProgram.types = .ok [("int", "Integer"), ("list", "list"), ("shapes.Square", "Square")] ∧
    shelfProgram.resolve "int" = .ok (.object "Integer") ∧
    shelfProgram.resolve "list" = .ok (.value (.int 5)) ∧
    shelfProgram.resolve "shapes.Square" = .ok (.object "Square") ∧
    labelledShelf.types = .ok [("int", "Integer"), ("list", "list"), ("shapes.Square", "Square"),
      ("old.Square", "Square")] ∧
    labelledShelf.resolve "shapes.Square" = .ok (.object "Square") ∧
    labelledShelf.resolve "old.Square" = .error (.unresolved "old.Square") := by
  have htypes : shelfProgram.types =
      .ok [("int", "Integer"), ("list", "list"), ("shapes.Square", "Square")] := by decide +kernel
  have htypes' : labelledShelf.types = .ok [("int", "Integer"), ("list", "list"),
      ("shapes.Square", "Square"), ("old.Square", "Square")] := by decide +kernel
  have agrees := types_agrees_resolve shelfProgram _ htypes (by decide) (by decide)
  have labelled := types_agrees_resolve labelledShelf _ htypes' (by decide) (by decide)
  refine ⟨hasPlainNames_shelf, htypes, ?_, ?_, ?_, htypes', ?_, ?_⟩
  · exact ((agrees "int" "Integer" (by decide)).2.2.1 (by decide)).1
  · exact ((agrees "list" "list" (by decide)).2.2.1 (by decide)).1
  · apply ((agrees "shapes.Square" "Square" (by decide)).2.1 hasPlainNames_shelf).mpr
    intro e hbound
    cases hbound
  · exact (labelled "shapes.Square" "Square" (by decide)).2.2.2.1 "shapes" "Square" rfl
      (by decide) (by decide) rfl rfl
  · exact (labelled "old.Square" "Square" (by decide)).2.2.2.2 "old" "Square" rfl (by decide) rfl

/-- The table keeps a built-in class whose name the scope gives to a number. -/
theorem types_keeps_shadowed_list :
    shelfProgram.declaredTypes = .ok ["int", "list", "shapes.Square"] ∧
    shelfProgram.typeNamed? "list" = .ok (some "list") ∧
    shelfProgram.resolve "list" = .ok (.value (.int 5)) ∧
    shelfProgram.resolve "list" ≠ .ok (.object "list") := by
  have hvalue : shelfProgram.resolve "list" = .ok (.value (.int 5)) := rfl
  refine ⟨by decide +kernel, by decide +kernel, hvalue, ?_⟩
  rw [hvalue]
  intro h
  cases h

end ReplEngine.Program
