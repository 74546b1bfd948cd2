import Mathlib.Data.List.Perm.Basic
import ReplEngine.Program.Source
import ReplEngine.Proofs.Program.Bindings

/-!
# What member listings show

The members of a class are the first entries of their names along the order of lookup, and what
an instance has beside them are its own attributes.  Names are told apart before anything is left
out, so that each listing is a filter of the full one, and a name that is hidden still hides
(`membersOf_eq`).  The groups that completion shows split a listing by the kinds of its members.

## Key results

- `mem_classMembers_iff`: a member of a class is the first entry of its name
- `membersOf_eq`: every listing as a filter
- `filter_classMembers_own`: what a class itself has among all its members
- `offers_membersOf`, `offers_staticMembersOf`: completion shows a listing, each member once
-/

namespace ReplEngine

/-! ### Entries -/

namespace Program

variable (p : Program)

/-- The first class that has an entry of a name, and that entry. -/
def firstBinding? (classes : List ClassRef) (name : String) : Option (ClassRef × Entity) :=
  classes.findSome? fun c => (lookup? name (p.entriesOf c)).map fun e => (c, e)

/-- The first class is searched first. -/
theorem firstBinding?_cons (c : ClassRef) (classes : List ClassRef) (name : String) :
    p.firstBinding? (c :: classes) name =
      ((lookup? name (p.entriesOf c)).map fun e => (c, e)).or (p.firstBinding? classes name) := by
  rw [firstBinding?, List.findSome?_cons]
  cases lookup? name (p.entriesOf c) <;> rfl

/-- Attribute lookup on a class finds the first entry along its lineage. -/
theorem inherited?_eq (id : ObjectId) (name : String) :
    p.inherited? id name = (p.firstBinding? (p.lineage id) name).map (·.2) := by
  rw [inherited?]
  -- along the lineage, class by class
  induction p.lineage id with
  | nil => rfl
  | cons c classes ih =>
    rw [List.findSome?_cons, firstBinding?_cons]
    cases lookup? name (p.entriesOf c) with
    | none => exact ih
    | some e => rfl

/-- An entry is left out if its name came up before. -/
theorem firstOccurrences_cons (seen : List String) (u : ClassRef × String × Entity)
    (rest : List (ClassRef × String × Entity)) :
    firstOccurrences seen (u :: rest) =
      if u.2.1 ∈ seen then firstOccurrences seen rest
      else u :: firstOccurrences (u.2.1 :: seen) rest := by
  rw [firstOccurrences]
  simp only [List.contains_eq_mem, decide_eq_true_eq]

/-- What is kept is the first entry of its name. -/
theorem mem_firstOccurrences_iff {seen : List String}
    {entries : List (ClassRef × String × Entity)} {t : ClassRef × String × Entity} :
    t ∈ firstOccurrences seen entries ↔
      t.2.1 ∉ seen ∧ entries.find? (fun u => u.2.1 == t.2.1) = some t := by
  induction entries generalizing seen with
  | nil => simp [firstOccurrences]
  | cons u rest ih =>
    rw [firstOccurrences_cons]
    by_cases hname : u.2.1 = t.2.1
    · -- an entry of this name: it is `t`, or it hides `t`
      rw [List.find?_cons_of_pos (by simpa using hname), hname]
      by_cases hseen : t.2.1 ∈ seen
      · simp [hseen, ih]
      · simp [hseen, ih, eq_comm]
    · have hne : t ≠ u := fun heq => hname (by rw [heq])
      have hne' : t.2.1 ≠ u.2.1 := fun heq => hname heq.symm
      rw [List.find?_cons_of_neg (by simpa using hname)]
      by_cases hseen : u.2.1 ∈ seen
      · simp [hseen, ih]
      · simp [hseen, ih, hne, hne']

/-- No name is kept twice. -/
theorem nodup_firstOccurrences (seen : List String)
    (entries : List (ClassRef × String × Entity)) :
    ((firstOccurrences seen entries).map (·.2.1)).Nodup := by
  induction entries generalizing seen with
  | nil => exact List.nodup_nil
  | cons u rest ih =>
    rw [firstOccurrences_cons]
    split
    · exact ih seen
    · rw [List.map_cons, List.nodup_cons]
      refine ⟨?_, ih _⟩
      -- a name that was kept is among those that came up
      intro hmem
      obtain ⟨t, ht, hname⟩ := List.mem_map.mp hmem
      exact (mem_firstOccurrences_iff.mp ht).1 (by simp [hname])

/-- The entry of a name among those of a class. -/
theorem find?_map_entries (c : ClassRef) (entries : List (String × Entity)) (name : String) :
    (entries.map fun e => (c, e.1, e.2)).find? (fun u => u.2.1 == name) =
      (lookup? name entries).map fun e => (c, name, e) := by
  induction entries with
  | nil => rfl
  | cons e rest ih =>
    rw [List.map_cons, lookup?_cons]
    by_cases h : e.1 = name
    · rw [List.find?_cons_of_pos (by simpa using h), if_pos h, h]
      rfl
    · rw [List.find?_cons_of_neg (by simpa using h), if_neg h, ih]

/-- The first entry of a name along a lineage is that of the first class which has the name. -/
theorem find?_lineageEntries (classes : List ClassRef) (name : String) :
    (p.lineageEntries classes).find? (fun u => u.2.1 == name) =
      (p.firstBinding? classes name).map fun found => (found.1, name, found.2) := by
  induction classes with
  | nil => rfl
  | cons c classes ih =>
    rw [lineageEntries, List.flatMap_cons, List.find?_append, firstBinding?_cons,
      find?_map_entries]
    cases lookup? name (p.entriesOf c) with
    | none => exact ih
    | some e => rfl

/-! ### Members of a class -/

/-- A member has the name of its entry. -/
@[simp]
theorem classify_name (c : ClassRef) (name : String) (raw : Entity) :
    (p.classify c name raw).name = name := by
  cases raw with
  | static function => rfl
  | classLevel function => rfl
  | _ =>
    simp only [classify]
    split_ifs <;> rfl

/-- A member that is the first entry of its name. -/
def IsFirstOf (classes : List ClassRef) (m : Member) : Prop :=
  ∃ c raw, p.firstBinding? classes m.name = some (c, raw) ∧ m = p.classify c m.name raw

theorem classMembers_eq (classes : List ClassRef) :
    p.classMembers classes = (firstOccurrences [] (p.lineageEntries classes)).map
      fun t => p.classify t.1 t.2.1 t.2.2 := rfl

/-- The members along a lineage are the first entries of their names. -/
theorem mem_classMembers_iff {classes : List ClassRef} {m : Member} :
    m ∈ p.classMembers classes ↔ p.IsFirstOf classes m := by
  rw [classMembers_eq, List.mem_map]
  constructor
  · -- the first entry of a name among all entries is that of the first class which has the name
    rintro ⟨t, ht, rfl⟩
    have hfound := (mem_firstOccurrences_iff.mp ht).2
    rw [find?_lineageEntries] at hfound
    obtain ⟨found, hfirst, hfound⟩ := Option.map_eq_some_iff.mp hfound
    refine ⟨found.1, found.2, by simpa using hfirst, ?_⟩
    rw [classify_name, ← hfound]
  · rintro ⟨c, raw, hfirst, hm⟩
    refine ⟨(c, m.name, raw), mem_firstOccurrences_iff.mpr ⟨by simp, ?_⟩, hm.symm⟩
    rw [find?_lineageEntries, hfirst]
    rfl

/-- The names of the members are those that are kept. -/
theorem classMembers_names (classes : List ClassRef) :
    (p.classMembers classes).map (·.name) =
      (firstOccurrences [] (p.lineageEntries classes)).map (·.2.1) := by
  rw [classMembers_eq, List.map_map]
  apply List.map_congr_left
  intro t _
  simp

/-- No name is listed twice. -/
theorem nodup_classMembers (classes : List ClassRef) :
    ((p.classMembers classes).map (·.name)).Nodup := by
  rw [classMembers_names]
  exact nodup_firstOccurrences _ _

/-- A name is listed if a class has it. -/
theorem name_mem_classMembers_iff {classes : List ClassRef} {name : String} :
    name ∈ (p.classMembers classes).map (·.name) ↔
      (p.firstBinding? classes name).isSome = true := by
  rw [List.mem_map]
  constructor
  · rintro ⟨m, hm, rfl⟩
    obtain ⟨c, raw, hfirst, -⟩ := p.mem_classMembers_iff.mp hm
    rw [hfirst]
    rfl
  · intro h
    obtain ⟨found, hfirst⟩ := Option.isSome_iff_exists.mp h
    refine ⟨p.classify found.1 name found.2, ?_, by simp⟩
    exact p.mem_classMembers_iff.mpr ⟨found.1, found.2, by simpa using hfirst, by simp⟩

/-- What comes later is judged by all names before it. -/
theorem exists_firstOccurrences_append (seen : List String)
    (own rest : List (ClassRef × String × Entity)) :
    ∃ seen', (∀ name, name ∈ seen' ↔ name ∈ own.map (·.2.1) ∨ name ∈ seen) ∧
      firstOccurrences seen (own ++ rest) =
        firstOccurrences seen own ++ firstOccurrences seen' rest := by
  -- on the front: each name of it is either known or becomes so
  induction own generalizing seen with
  | nil => exact ⟨seen, by simp, rfl⟩
  | cons u own ih =>
    rw [List.cons_append, firstOccurrences_cons, firstOccurrences_cons]
    by_cases hseen : u.2.1 ∈ seen
    · obtain ⟨seen', hnames, happend⟩ := ih seen
      rw [if_pos hseen, if_pos hseen]
      refine ⟨seen', fun name => ?_, happend⟩
      by_cases hname : name = u.2.1 <;> simp [hnames, hname, hseen]
    · obtain ⟨seen', hnames, happend⟩ := ih (u.2.1 :: seen)
      rw [if_neg hseen, if_neg hseen, happend]
      refine ⟨seen', fun name => ?_, rfl⟩
      by_cases hname : name = u.2.1 <;> simp [hnames, hname]

/-- Of the entries that are kept, those with names of the front are the ones of the front. -/
theorem filter_firstOccurrences_own (own rest : List (ClassRef × String × Entity)) :
    (firstOccurrences [] (own ++ rest)).filter (fun t => own.map (·.2.1) |>.contains t.2.1) =
      firstOccurrences [] own := by
  obtain ⟨seen', hnames, happend⟩ := exists_firstOccurrences_append [] own rest
  -- what the front keeps has a name of the front
  have hkept : (firstOccurrences [] own).filter (fun t => own.map (·.2.1) |>.contains t.2.1) =
      firstOccurrences [] own := by
    apply List.filter_eq_self.mpr
    intro t ht
    have hmem := List.mem_of_find?_eq_some (mem_firstOccurrences_iff.mp ht).2
    simpa using ⟨_, _, hmem⟩
  -- and what comes later has not, for it would have come up
  have hdropped : (firstOccurrences seen' rest).filter
      (fun t => own.map (·.2.1) |>.contains t.2.1) = [] := by
    apply List.filter_eq_nil_iff.mpr
    intro t ht hown
    apply (mem_firstOccurrences_iff.mp ht).1
    exact (hnames t.2.1).mpr (.inl (List.contains_iff_mem.mp hown))
  rw [happend, List.filter_append, hkept, hdropped, List.append_nil]

/-- Among the members along a lineage, those whose name the first class has are its own. -/
theorem filter_classMembers_own (c : ClassRef) (classes : List ClassRef) :
    (p.classMembers (c :: classes)).filter (fun m => (lookup? m.name (p.entriesOf c)).isSome) =
      p.classMembers [c] := by
  -- the first class is the front of the lineage
  have hown : p.lineageEntries [c] = (p.entriesOf c).map fun e => (c, e.1, e.2) := by
    simp [lineageEntries]
  have hentries : p.lineageEntries (c :: classes) =
      p.lineageEntries [c] ++ p.lineageEntries classes := by
    simp [lineageEntries]
  have hnames : (p.lineageEntries [c]).map (·.2.1) = (p.entriesOf c).map (·.1) := by
    rw [hown, List.map_map]
    rfl
  rw [classMembers_eq, classMembers_eq, hentries, List.filter_map,
    ← filter_firstOccurrences_own (p.lineageEntries [c]) (p.lineageEntries classes)]
  congr 1
  apply List.filter_congr
  intro t _
  rw [Bool.eq_iff_iff, Function.comp_apply, classify_name, lookup?_isSome_iff, hnames,
    List.contains_iff_mem]

/-! ### Contexts -/

/-- The class whose members an entity has: a class has its own, anything else but a module those
    of its class. -/
def memberClass? (e : Entity) : Option ObjectId :=
  (p.classId? e).or ((p.typed? e).map (·.1))

/-- The attributes that an entity has beside the members of its class. -/
def ownAttributes (e : Entity) : List (String × Entity) :=
  ((p.typed? e).map (·.2)).getD []

/-- The classes that are searched for the members of a class. -/
def searched (cls : ObjectId) (inherited : Bool) : List ClassRef :=
  if inherited then p.lineage cls else [.declared cls]

variable {p} {e : Entity} {cls : ObjectId}

/-- Only the object of a class is a class. -/
theorem exists_class_of_classId? (h : p.classId? e = some cls) :
    e = .object cls ∧ ∃ info, p.object? cls = some (.classObject info) := by
  cases e with
  | object id =>
    rw [classId?] at h
    split_ifs at h with hclass
    cases h
    rw [class?] at hclass
    split at hclass
    · rename_i info hinfo
      exact ⟨rfl, info, hinfo⟩
    · cases hclass
  | _ => cases h

/-- An instance is an object with a class, and has each attribute once. -/
theorem exists_object_of_instance? {i : ObjectId × List (String × Entity)}
    (h : p.instance? e = some i) :
    (∃ id attributes, e = .object id ∧ p.object? id = some (.instanceOf i.1 attributes)) ∧
      IsMapping i.2 := by
  cases e with
  | object id =>
    rw [instance?] at h
    split at h
    · rename_i cls attributes hobject
      cases h
      exact ⟨⟨id, attributes, rfl, hobject⟩, isMapping_bindEntries _⟩
    · cases h
  | _ => cases h

/-- A class and a module are not typed like anything else. -/
theorem typed?_of_object {id : ObjectId}
    (h : (∃ info, p.object? id = some (.classObject info)) ∨
      ∃ info, p.object? id = some (.moduleObject info)) : p.typed? (.object id) = none := by
  rcases h with ⟨info, hinfo⟩ | ⟨info, hinfo⟩ <;>
    simp [typed?, instance?, plainClassName?, hinfo]

/-- What is typed by a class is no module. -/
theorem module?_of_typed? {i : ObjectId × List (String × Entity)} (h : p.typed? e = some i) :
    p.module? e = none := by
  cases e with
  | object id =>
    rw [module?]
    split
    · next info hinfo =>
      rw [typed?_of_object (.inr ⟨info, hinfo⟩)] at h
      cases h
    · rfl
  | _ => rfl

/-- A plain value has each attribute once. -/
theorem isMapping_plainAttributes (e : Entity) : IsMapping (plainAttributes e) := by
  unfold plainAttributes
  split
  · split
    · exact isMapping_bindEntries _
    · exact isMapping_bindEntries _
    · exact List.nodup_nil
  · exact List.nodup_nil

/-- What is typed by a class has each attribute once. -/
theorem isMapping_of_typed? {i : ObjectId × List (String × Entity)} (h : p.typed? e = some i) :
    IsMapping i.2 := by
  rw [typed?, Option.or_eq_some_iff] at h
  rcases h with hinstance | ⟨-, hplain⟩
  · exact (exists_object_of_instance? hinstance).2
  · obtain ⟨cls, -, rfl⟩ := Option.map_eq_some_iff.mp hplain
    exact isMapping_plainAttributes e

/-- An entity with members is a class or typed by one, not both, and no module. -/
theorem memberClass?_cases (h : p.memberClass? e = some cls) :
    p.module? e = none ∧
      ((p.classId? e = some cls ∧ p.typed? e = none) ∨
        (p.classId? e = none ∧ ∃ attributes, p.typed? e = some (cls, attributes))) := by
  rw [memberClass?] at h
  cases hclass : p.classId? e with
  | some id =>
    -- a class is not an instance, and no module
    rw [hclass] at h
    cases h
    obtain ⟨rfl, info, hinfo⟩ := exists_class_of_classId? hclass
    exact ⟨by rw [module?, hinfo], .inl ⟨rfl, typed?_of_object (.inl ⟨info, hinfo⟩)⟩⟩
  | none =>
    rw [hclass, Option.none_or] at h
    obtain ⟨i, htyped, rfl⟩ := Option.map_eq_some_iff.mp h
    exact ⟨module?_of_typed? htyped, .inr ⟨rfl, i.2, htyped⟩⟩

/-- No attribute is there twice. -/
theorem isMapping_ownAttributes : IsMapping (p.ownAttributes e) := by
  rw [ownAttributes]
  cases htyped : p.typed? e with
  | none => exact List.nodup_nil
  | some i => exact isMapping_of_typed? htyped

/-- A class has no attributes beside its members. -/
theorem ownAttributes_of_class (h : p.classId? e = some cls) : p.ownAttributes e = [] := by
  obtain ⟨rfl, info, hinfo⟩ := exists_class_of_classId? h
  rw [ownAttributes, typed?_of_object (.inl ⟨info, hinfo⟩)]
  rfl

/-! ### Listings -/

/-- Whether a listing shows a member, by its name. -/
def isShown (showPrivate : Bool) (m : Member) : Bool :=
  showPrivate || !isPrivate m.name

/-- Whether a listing shows a member, by its kind. -/
def isVisible (visibility : Visibility) (m : Member) : Bool :=
  visibility != .staticLevel || m.kind.isStatic

@[simp]
theorem isVisible_instanceLevel (m : Member) : isVisible .instanceLevel m = true := rfl

@[simp]
theorem isVisible_staticLevel (m : Member) : isVisible .staticLevel m = m.kind.isStatic := rfl

/-- A listing shows members of the class that are filtered by name and kind, and behind them the
    own attributes of an instance, filtered by name. -/
theorem membersOf_eq (h : p.memberClass? e = some cls) (visibility : Visibility)
    (showPrivate inherited : Bool) :
    p.membersOf e visibility showPrivate inherited =
      (p.classMembers (p.searched cls inherited)).filter
          (fun m => isShown showPrivate m && isVisible visibility m) ++
        (if visibility == .instanceLevel then
            p.ownMembers cls (p.classMembers (p.searched cls inherited)) (p.ownAttributes e)
          else []).filter (isShown showPrivate) := by
  obtain ⟨hmodule, ⟨hclass, -⟩ | ⟨hclass, attributes, htyped⟩⟩ := memberClass?_cases h
  · -- a class has no attributes beside its members
    have hown : p.ownAttributes e = [] := ownAttributes_of_class hclass
    rw [membersOf, hmodule, hclass, hown]
    cases visibility <;> simp [ownMembers, searched, isShown, isVisible]
  · have hown : p.ownAttributes e = attributes := by rw [ownAttributes, htyped]; rfl
    rw [membersOf, hmodule, hclass, htyped, hown]
    rfl

/-- An own attribute is listed if its name is not listed yet. -/
theorem mem_ownMembers_iff {listed : List Member} {attributes : List (String × Entity)}
    {m : Member} :
    m ∈ p.ownMembers cls listed attributes ↔
      m.name ∉ listed.map (·.name) ∧ ∃ value, (m.name, value) ∈ attributes ∧
        m = ⟨m.name, .property, .str (p.qualifiedName (.declared cls)), value, false⟩ := by
  rw [ownMembers, List.mem_map]
  constructor
  · rintro ⟨a, ha, rfl⟩
    obtain ⟨hmem, hnew⟩ := List.mem_filter.mp ha
    exact ⟨by simpa using hnew, a.2, hmem, rfl⟩
  · rintro ⟨hnew, value, hmem, hm⟩
    refine ⟨(m.name, value), List.mem_filter.mpr ⟨hmem, ?_⟩, hm.symm⟩
    simpa using hnew

/-- The own attributes are listed in their order. -/
theorem ownMembers_names (listed : List Member) (attributes : List (String × Entity)) :
    ((p.ownMembers cls listed attributes).map (·.name)).Sublist (attributes.map (·.1)) := by
  rw [ownMembers, List.map_map]
  have hfilter : (attributes.filter fun a => !listed.any fun m => m.name == a.1).Sublist
      attributes := List.filter_sublist
  exact hfilter.map Prod.fst

/-- A member that an instance has of its own: an attribute whose name no class has. -/
def IsOwnOf (p : Program) (e : Entity) (cls : ObjectId) (classes : List ClassRef) (m : Member) :
    Prop :=
  p.firstBinding? classes m.name = none ∧ ∃ value, lookup? m.name (p.ownAttributes e) = some value ∧
    m = ⟨m.name, .property, .str (p.qualifiedName (.declared cls)), value, false⟩

/-- What is listed are members of the classes that are searched, and own attributes. -/
theorem mem_membersOf_iff (h : p.memberClass? e = some cls) {visibility : Visibility}
    {showPrivate inherited : Bool} {m : Member} :
    m ∈ p.membersOf e visibility showPrivate inherited ↔
      isShown showPrivate m = true ∧
        ((p.IsFirstOf (p.searched cls inherited) m ∧ isVisible visibility m = true) ∨
          (p.IsOwnOf e cls (p.searched cls inherited) m ∧ visibility = .instanceLevel)) := by
  -- an own attribute whose name no class has
  have hown : m ∈ p.ownMembers cls (p.classMembers (p.searched cls inherited))
      (p.ownAttributes e) ↔ p.IsOwnOf e cls (p.searched cls inherited) m := by
    rw [mem_ownMembers_iff, name_mem_classMembers_iff, Bool.not_eq_true, Option.isSome_eq_false_iff,
      Option.isNone_iff_eq_none, IsOwnOf]
    simp only [isMapping_ownAttributes.lookup?_eq_some_iff]
  rw [membersOf_eq h, List.mem_append, List.mem_filter, List.mem_filter, mem_classMembers_iff]
  by_cases hinstance : visibility = .instanceLevel
  · simp only [hinstance, beq_self_eq_true, if_true, hown, Bool.and_eq_true]
    grind
  · simp only [beq_eq_false_iff_ne.mpr hinstance, Bool.and_eq_true]
    grind

/-- No name is listed twice. -/
theorem nodup_membersOf (h : p.memberClass? e = some cls) (visibility : Visibility)
    (showPrivate inherited : Bool) :
    ((p.membersOf e visibility showPrivate inherited).map (·.name)).Nodup := by
  rw [membersOf_eq h, List.map_append]
  have hlisted := p.nodup_classMembers (p.searched cls inherited)
  apply List.Nodup.append
  · exact hlisted.sublist (List.filter_sublist.map _)
  · split
    · have hown : ((p.ownMembers cls (p.classMembers (p.searched cls inherited))
          (p.ownAttributes e)).map (·.name)).Nodup :=
        List.Nodup.sublist (ownMembers_names _ _) isMapping_ownAttributes
      exact hown.sublist (List.filter_sublist.map _)
    · exact List.nodup_nil
  · -- an own attribute is listed only if no class has its name
    intro name hclass hown
    obtain ⟨m, hm, rfl⟩ := List.mem_map.mp hown
    have hm := (List.mem_filter.mp hm).1
    split at hm
    · apply (mem_ownMembers_iff.mp hm).1
      exact (List.filter_sublist.map _).subset hclass
    · cases hm

/-- What is no class and of no known class has members only if it is a module. -/
theorem membersOf_of_module (h : p.memberClass? e = none) (visibility : Visibility)
    (showPrivate inherited : Bool) :
    p.membersOf e visibility showPrivate inherited =
      ((p.module? e).elim [] fun info => (moduleEntries info).map fun entry =>
        p.moduleMember (moduleName info) entry.1 entry.2).filter (isShown showPrivate) := by
  obtain ⟨hclass, htyped⟩ : p.classId? e = none ∧ p.typed? e = none := by
    simpa [memberClass?] using h
  rw [membersOf, hclass, htyped]
  cases p.module? e <;> rfl

/-- Leaving out private names takes members away. -/
theorem filter_isShown (e : Entity) (visibility : Visibility) (inherited : Bool) :
    p.membersOf e visibility false inherited =
      (p.membersOf e visibility true inherited).filter fun m => !isPrivate m.name := by
  cases hclass : p.memberClass? e with
  | some cls =>
    rw [membersOf_eq hclass, membersOf_eq hclass, List.filter_append, List.filter_filter,
      List.filter_filter]
    simp only [isShown, Bool.false_or, Bool.true_or, Bool.true_and, Bool.and_true]
    rfl
  | none =>
    rw [membersOf_of_module hclass, membersOf_of_module hclass, List.filter_filter]
    simp only [isShown, Bool.true_or, Bool.and_true]
    rfl

/-- A class is listed with its members alone. -/
theorem membersOf_of_class (h : p.classId? e = some cls) (visibility : Visibility)
    (showPrivate inherited : Bool) :
    p.membersOf e visibility showPrivate inherited =
      (p.classMembers (p.searched cls inherited)).filter
        fun m => isShown showPrivate m && isVisible visibility m := by
  have hclass : p.memberClass? e = some cls := by rw [memberClass?, h]; rfl
  rw [membersOf_eq hclass, ownAttributes_of_class h]
  cases visibility <;> simp [ownMembers]

/-- Leaving out members of an instance takes members away. -/
theorem filter_isStatic (h : p.classId? e = some cls) (showPrivate inherited : Bool) :
    p.membersOf e .staticLevel showPrivate inherited =
      (p.membersOf e .instanceLevel showPrivate inherited).filter fun m => m.kind.isStatic := by
  rw [membersOf_of_class h, membersOf_of_class h, List.filter_filter]
  apply List.filter_congr
  intro m _
  simp [Bool.and_comm]

/-! ### The members of the class itself -/

/-- A class among some objects stands first in its lineage. -/
theorem exists_lineageIn_eq_cons {objects : List (ObjectId × ProgramObject)} {info : ClassInfo}
    (h : lookup? cls objects = some (.classObject info)) :
    ∃ ancestors, lineageIn objects cls = .declared cls :: ancestors := by
  induction objects with
  | nil => cases h
  | cons entry earlier ih =>
    obtain ⟨id, object⟩ := entry
    -- the class itself, or an object behind it
    by_cases hid : id = cls
    · obtain rfl : object = .classObject info := by simpa [lookup?_cons, hid] using h
      rw [lineageIn, if_pos (beq_iff_eq.mpr hid)]
      exact ⟨_, rfl⟩
    · have hearlier : lookup? cls earlier = some (.classObject info) := by
        simpa [lookup?_cons, hid] using h
      obtain ⟨ancestors, hlineage⟩ := ih hearlier
      refine ⟨ancestors, ?_⟩
      cases object <;> simp [lineageIn, hid, hlineage]

/-- A class stands first in its lineage.  Bases come earlier among the objects, so that the
    objects are searched from the end; with distinct ids that finds the same object. -/
theorem exists_lineage_eq_cons (hids : IsMapping p.objects) (h : p.classId? e = some cls) :
    ∃ ancestors, p.lineage cls = .declared cls :: ancestors := by
  obtain ⟨-, info, hinfo⟩ := exists_class_of_classId? h
  rw [object?, ← hids.lookup?_reverse] at hinfo
  exact exists_lineageIn_eq_cons hinfo

/-- Leaving out ancestors takes members away. -/
theorem filter_own (hids : IsMapping p.objects) (h : p.classId? e = some cls)
    (visibility : Visibility) (showPrivate : Bool) :
    p.membersOf e visibility showPrivate false =
      (p.membersOf e visibility showPrivate true).filter
        fun m => (lookup? m.name (p.entriesOf (.declared cls))).isSome := by
  -- both listings filter members by the same tests, which can be swapped with that for own names
  obtain ⟨ancestors, hlineage⟩ := exists_lineage_eq_cons hids h
  have hown := p.filter_classMembers_own (.declared cls) ancestors
  rw [membersOf_of_class h, membersOf_of_class h, List.filter_filter]
  simp only [searched, if_true, Bool.false_eq_true, if_false]
  rw [hlineage, ← hown, List.filter_filter]
  apply List.filter_congr
  intro m _
  rw [Bool.and_comm]

/-! ### What completion shows of a listing -/

/-- An item that one of several tests lets through goes to that test's part, and to no other. -/
theorem flatMap_filter_cons_perm {γ α : Type} (tests : List γ) (passes : γ → α → Bool) (x : α)
    (items : List α) :
    (tests.flatMap fun t => (x :: items).filter (passes t)).Perm
      (List.replicate (tests.countP fun t => passes t x) x ++
        tests.flatMap fun t => items.filter (passes t)) := by
  induction tests with
  | nil => simp
  | cons t tests ih =>
    rw [List.flatMap_cons, List.flatMap_cons]
    -- the item comes first in the part of this test, or is not in it
    by_cases hx : passes t x = true
    · rw [List.filter_cons_of_pos hx, List.countP_cons, if_pos hx, List.replicate_succ,
        List.cons_append, List.cons_append]
      apply List.Perm.cons
      exact (ih.append_left _).trans (List.perm_append_comm_assoc _ _ _)
    · rw [List.filter_cons_of_neg hx, List.countP_cons, if_neg hx, Nat.add_zero]
      exact (ih.append_left _).trans (List.perm_append_comm_assoc _ _ _)

/-- If each item passes one test, the parts make up the items. -/
theorem flatMap_filter_perm {γ α : Type} {tests : List γ} {passes : γ → α → Bool}
    {items : List α} (h : ∀ x ∈ items, tests.countP (fun t => passes t x) = 1) :
    (tests.flatMap fun t => items.filter (passes t)).Perm items := by
  induction items with
  | nil => simp
  | cons x items ih =>
    have hstep := flatMap_filter_cons_perm tests passes x items
    rw [h x (by simp)] at hstep
    have hitems := ih fun y hy => h y (List.mem_cons_of_mem _ hy)
    exact hstep.trans (hitems.cons x)

/-- Sources show members, each once: on demand all of them, and to the empty prefix the public
    ones. -/
def Offers (p : Program) (sources : Sources) (showPrivate : Bool) (members : List Member) : Prop :=
  ∃ symbols, sources.symbols p showPrivate = .ok symbols ∧
    (showPrivate = false → sources.completions p "" = .ok symbols) ∧
    symbols.Perm (members.map fun m => .single (.member m))

/-- The empty prefix completes to every public symbol. -/
theorem completions_empty (sources : Sources) :
    sources.completions p "" = sources.symbols p false := by
  -- for one source: nothing is filtered
  have hall : ∀ s : Source, s.completions p "" = s.symbols p false := by
    intro s
    have hpublic : isPrivate "" = false := by decide
    rw [Source.completions, hpublic]
    cases s.symbols p false with
    | error e => rfl
    | ok symbols =>
      apply congrArg Except.ok
      apply List.filter_eq_self.mpr
      intro symbol _
      cases s.isCaseSensitive <;> rfl
  rw [Sources.completions, Sources.symbols]
  congr 2
  exact funext hall

/-- The symbols of groups of members are the members, group by group. -/
theorem symbols_members (groups : List MemberGroup) (e : Entity) (showPrivate : Bool) :
    Sources.symbols p showPrivate (groups.map fun g => .members g e true) =
      .ok ((groups.flatMap fun g => g.members p e showPrivate true).map
        fun m => .single (.member m)) := by
  have hgroup : Source.symbols p showPrivate ∘ (fun g => Source.members g e true) = fun g =>
      pure ((g.members p e showPrivate true).map fun m => .single (.member m)) := rfl
  rw [Sources.symbols, List.mapM_map, hgroup, List.mapM_pure, List.map_flatMap]
  rfl

/-- Groups that share out the kinds show each listed member once. -/
theorem offers_of_kinds {groups : List MemberGroup} {visibility : Visibility}
    {showPrivate : Bool} (hvisibility : ∀ g ∈ groups, g.visibility = visibility)
    (hkinds : ∀ m ∈ p.membersOf e visibility showPrivate true,
      groups.countP (fun g => g.includes m.kind) = 1) :
    Offers p (groups.map fun g => .members g e true) showPrivate
      (p.membersOf e visibility showPrivate true) := by
  -- every group filters the same listing by its kinds
  have hmembers : (groups.flatMap fun g => g.members p e showPrivate true) =
      groups.flatMap fun g =>
        (p.membersOf e visibility showPrivate true).filter fun m => g.includes m.kind := by
    apply List.flatMap_congr
    intro g hg
    rw [MemberGroup.members, hvisibility g hg]
  refine ⟨_, symbols_members groups e showPrivate, ?_, ?_⟩
  · rintro rfl
    rw [completions_empty]
    exact symbols_members groups e false
  · rw [hmembers]
    exact (flatMap_filter_perm hkinds).map _

/-- Methods and properties share out the members of an instance. -/
theorem offers_membersOf (e : Entity) (showPrivate : Bool) :
    Offers p (.membersOf e) showPrivate (p.membersOf e .instanceLevel showPrivate true) := by
  show Offers p ([MemberGroup.methods, .properties].map fun g => .members g e true) showPrivate _
  apply offers_of_kinds
  · simp [MemberGroup.visibility]
  · intro m _
    cases m.kind <;> rfl

/-- Three groups share out the members of a class that need no instance. -/
theorem offers_staticMembersOf (h : p.memberClass? e = some cls) (showPrivate : Bool) :
    Offers p (.staticMembersOf e) showPrivate (p.membersOf e .staticLevel showPrivate true) := by
  show Offers p ([MemberGroup.staticMethods, .staticProperties, .classConstants].map
    fun g => .members g e true) showPrivate _
  apply offers_of_kinds
  · simp [MemberGroup.visibility]
  · intro m hm
    -- a listed member needs no instance
    have hstatic : m.kind.isStatic = true := by
      obtain ⟨-, ⟨-, hvisible⟩ | ⟨-, hlevel⟩⟩ := (mem_membersOf_iff h).mp hm
      · exact hvisible
      · cases hlevel
    generalize m.kind = kind at hstatic
    revert hstatic
    cases kind <;> decide

/-- Listings of members follow the lookup of attributes.  Each name is listed once; a member of
    the class is the first entry of its name among the classes that are searched, and an own
    attribute is listed where no class has its name.  Leaving out private names, or members of an
    instance, or ancestors, only takes members away.  Completion shows each listed member once. -/
theorem membersOf_follows_lookup (p : Program) (hids : IsMapping p.objects) (e : Entity)
    (cls : ObjectId) (h : p.memberClass? e = some cls) :
    (∀ visibility showPrivate inherited,
      ((p.membersOf e visibility showPrivate inherited).map (·.name)).Nodup ∧
      ∀ m, m ∈ p.membersOf e visibility showPrivate inherited ↔
        isShown showPrivate m = true ∧
          ((p.IsFirstOf (p.searched cls inherited) m ∧ isVisible visibility m = true) ∨
            (p.IsOwnOf e cls (p.searched cls inherited) m ∧ visibility = .instanceLevel))) ∧
    (∀ visibility inherited, p.membersOf e visibility false inherited =
      (p.membersOf e visibility true inherited).filter fun m => !isPrivate m.name) ∧
    (p.classId? e = some cls →
      (∀ name, p.attribute? e name = (p.firstBinding? (p.lineage cls) name).map (·.2)) ∧
      (∀ showPrivate inherited, p.membersOf e .staticLevel showPrivate inherited =
        (p.membersOf e .instanceLevel showPrivate inherited).filter fun m => m.kind.isStatic) ∧
      (∀ visibility showPrivate, p.membersOf e visibility showPrivate false =
        (p.membersOf e visibility showPrivate true).filter
          fun m => (lookup? m.name (p.entriesOf (.declared cls))).isSome) ∧
      ∀ showPrivate, Offers p (.staticMembersOf e) showPrivate
        (p.membersOf e .staticLevel showPrivate true)) ∧
    ((p.instance? e).isSome = true → ∀ showPrivate, Offers p (.membersOf e) showPrivate
      (p.membersOf e .instanceLevel showPrivate true)) := by
  refine ⟨?_, filter_isShown e, ?_, fun _ => offers_membersOf e⟩
  · intro visibility showPrivate inherited
    exact ⟨nodup_membersOf h visibility showPrivate inherited, fun m => mem_membersOf_iff h⟩
  · intro hclass
    refine ⟨?_, filter_isStatic hclass, filter_own hids hclass, offers_staticMembersOf h⟩
    intro name
    obtain ⟨rfl, info, hinfo⟩ := exists_class_of_classId? hclass
    rw [attribute?, hinfo, ← inherited?_eq]

/-- Two classes and an instance.  The subclass overrides a static method by a computed attribute,
    and its instance has an attribute of the name of a method. -/
def drawingProgram : Program :=
  { objects := [
      ("draw", .function { name := "draw", params := [], file := "drawing", line := 1 }),
      ("Shape", .classObject
        { name := "Shape", qualname := "Shape", home := "__main__"
          attributes := [("draw", { entity := .object "draw" }),
            ("unit", { entity := .static "draw" }), ("SIDES", { entity := .value (.int 0) })] }),
      ("Square", .classObject
        { name := "Square", qualname := "Square", home := "__main__", bases := ["Shape"]
          attributes := [("SIDES", { entity := .value (.int 4) }),
            ("_draft", { entity := .static "draw" }),
            ("unit", { entity := .property (some "draw") })] }),
      ("tile", .instanceOf "Square" [("side", .value (.int 2)), ("draw", .value (.int 3))])] }

theorem membersOf_follows_lookup_drawing :
    IsMapping drawingProgram.objects ∧
    drawingProgram.memberClass? (.object "tile") = some "Square" ∧
    (drawingProgram.membersOf (.object "tile") .instanceLevel false true).map (·.name) =
      ["SIDES", "unit", "draw", "side"] ∧
    Offers drawingProgram (.membersOf (.object "tile")) false
      (drawingProgram.membersOf (.object "tile") .instanceLevel false true) ∧
    drawingProgram.classId? (.object "Square") = some "Square" ∧
    ((drawingProgram.membersOf (.object "Square") .instanceLevel false true).filter
      fun m => m.kind.isStatic).map (·.name) = ["SIDES"] ∧
    drawingProgram.membersOf (.object "Square") .staticLevel false true =
      (drawingProgram.membersOf (.object "Square") .instanceLevel false true).filter
        fun m => m.kind.isStatic := by
  have hids : IsMapping drawingProgram.objects := by decide
  have htile : drawingProgram.memberClass? (.object "tile") = some "Square" := by decide +kernel
  have hsquare : drawingProgram.classId? (.object "Square") = some "Square" := by decide +kernel
  have hclass : drawingProgram.memberClass? (.object "Square") = some "Square" := by decide +kernel
  have ofTile := membersOf_follows_lookup drawingProgram hids (.object "tile") "Square" htile
  have ofSquare := membersOf_follows_lookup drawingProgram hids (.object "Square") "Square" hclass
  exact ⟨hids, htile, by decide +kernel, ofTile.2.2.2 (by decide +kernel) false, hsquare,
    by decide +kernel, (ofSquare.2.2.1 hsquare).2.1 false true⟩

end Program

end ReplEngine
