import ReplEngine.Program.Lookup
import ReplEngine.Proofs.Program.Grouping
import ReplEngine.Proofs.Program.Listing

/-!
# Private members over all classes

Whether a name is private does not depend on the case of its letters, so a private prefix has only
private names to complete to (`isPrivate_of_completesTo`).  The symbols over all classes stand for
the public members that the classes declare (`represents_aggregateSymbols`); hence such a prefix
finds nothing among them, although it reveals the private members of one class.

## Key results

- `isPrivate_lowerString`: letter case does not make a name private
- `isCallable_of_mem_membersOf`: the kind of a member decides what completion inserts for it
- `represents_aggregateSymbols`: what the symbols of an aggregate stand for
- `completeSymbol_aggregate`: which declared members completion over all classes finds
-/

namespace ReplEngine

/-! ### Private names and letter case -/

namespace Text

/-- Only one code is that of the underscore; what is no code gives another character. -/
theorem ofNat_ne_underscore {n : Nat} (h : n ≠ 0x5f) : Char.ofNat n ≠ '_' := by
  intro heq
  by_cases hvalid : n.isValidChar
  · rw [Char.ofNat, dif_pos hvalid] at heq
    have hcode : n = 0x5f := congrArg Char.toNat heq
    exact h hcode
  · -- what is no code gives the null character
    rw [Char.ofNat, dif_neg hvalid] at heq
    exact absurd heq (by decide)

/-- No other character becomes an underscore in lower case. -/
theorem eq_underscore_of_lowerChar {c : Char} (h : lowerChar c = '_') : c = '_' := by
  unfold lowerChar at h
  split at h
  · next hascii =>
    -- ASCII is small enough to be looked through
    have hall : ∀ n, n < 0x80 → (Char.ofNat n).toLower = '_' → Char.ofNat n = '_' := by decide
    have hc := hall c.toNat (by simpa [isAscii] using hascii)
    rw [Char.ofNat_toNat] at hc
    exact hc h
  · unfold shifted at h
    split at h
    · next r hfound =>
      -- the letters that have a small letter outside ASCII come to stand above the underscore
      have hruns : ∀ r ∈ lowerRuns, 0x5f < (r.first : Int) + r.shift := by decide +kernel
      have hr := hruns r (List.mem_of_find?_eq_some hfound)
      have hhas := List.find?_some hfound
      simp only [CaseRun.has, Bool.and_eq_true, decide_eq_true_eq] at hhas
      exact absurd h (ofNat_ne_underscore (by omega))
    · exact h

/-- A text starts with an underscore if it does so in lower case. -/
theorem head?_lower_eq_underscore_iff {cs : List Char} :
    (lower cs).head? = some '_' ↔ cs.head? = some '_' := by
  cases cs with
  | nil => rfl
  | cons c rest =>
    rw [lower, lowerFrom, List.head?_cons, Option.some_inj]
    -- the first character alone decides, and nothing but itself becomes an underscore
    by_cases hunderscore : c = '_'
    · subst hunderscore
      rw [if_neg (by decide), if_neg (by decide), List.head?_cons]
      exact iff_of_true rfl rfl
    · have hlower : lowerChar c ≠ '_' := fun h => hunderscore (eq_underscore_of_lowerChar h)
      split_ifs <;> simp [hunderscore, hlower]

end Text

/-- Lower case neither hides a name nor shows it. -/
theorem isPrivate_lowerString (name : String) :
    isPrivate (Text.lowerString name) = isPrivate name := by
  rw [Bool.eq_iff_iff]
  simp only [isPrivate, Text.lowerString, String.toList_ofList, beq_iff_eq]
  exact Text.head?_lower_eq_underscore_iff

/-- What starts with a private name is private. -/
theorem isPrivate_of_startsWith {lead name : String} (hlead : isPrivate lead = true)
    (h : Text.startsWith lead name = true) : isPrivate name = true := by
  rw [Text.startsWith, List.isPrefixOf_iff_prefix] at h
  rw [isPrivate, beq_iff_eq] at hlead ⊢
  obtain ⟨tail, htail⟩ := h
  rw [← htail, List.head?_append, hlead]
  rfl

/-- A private prefix completes to private names only, in either case. -/
theorem isPrivate_of_completesTo {caseSensitive : Bool} {lead name : String}
    (hlead : isPrivate lead = true) (h : completesTo caseSensitive lead name = true) :
    isPrivate name = true := by
  cases caseSensitive with
  | true => exact isPrivate_of_startsWith hlead h
  | false =>
    rw [← isPrivate_lowerString] at hlead ⊢
    exact isPrivate_of_startsWith hlead h

/-! ### Kinds and calls -/

/-- Whether members of a kind are completed as calls. -/
def MemberKind.isCall : MemberKind → Bool
  | .function | .classType | .method | .staticMethod => true
  | _ => false

/-- The bracket of a call does not change whether a name is private. -/
theorem isPrivate_text (m : Member) : isPrivate (Candidate.member m).text = isPrivate m.name := by
  rw [Candidate.text]
  split
  · rw [isPrivate, isPrivate, String.toList_append, List.head?_append]
    cases m.name.toList <;> rfl
  · rfl

namespace Program

variable {p : Program} {e : Entity} {visibility : Visibility} {showPrivate inherited : Bool}

/-- The kind of a member tells whether it is called. -/
theorem isCallable_classify (c : ClassRef) (name : String) (raw : Entity) :
    (p.classify c name raw).isCallable = (p.classify c name raw).kind.isCall := by
  cases raw with
  | static function => rfl
  | classLevel function => rfl
  | _ =>
    simp only [classify]
    split_ifs <;> rfl

theorem isCallable_of_mem_membersOf {m : Member}
    (h : m ∈ p.membersOf e visibility showPrivate inherited) : m.isCallable = m.kind.isCall := by
  cases hclass : p.memberClass? e with
  | some cls =>
    -- a member of a class in its order, or one of the instance
    obtain ⟨-, ⟨⟨c, raw, -, hm⟩, -⟩ | ⟨⟨-, value, -, hm⟩, -⟩⟩ := (mem_membersOf_iff hclass).mp h
    · rw [hm]
      exact isCallable_classify c m.name raw
    · rw [hm]
      rfl
  | none =>
    rw [membersOf_of_module hclass] at h
    cases hmodule : p.module? e with
    | none => simp [hmodule] at h
    | some info =>
      rw [hmodule] at h
      -- a module: each of its entries is a function, a class or a value
      obtain ⟨entry, -, rfl⟩ := List.mem_map.mp (List.mem_filter.mp h).1
      rw [moduleMember]
      split_ifs <;> rfl

/-- Members that are called are completed with a bracket. -/
theorem text_of_mem_members {g : MemberGroup} {m : Member}
    (h : m ∈ g.members p e showPrivate inherited) :
    (Candidate.member m).text = if m.kind.isCall then m.name ++ "(" else m.name := by
  rw [Candidate.text, isCallable_of_mem_membersOf (List.mem_filter.mp h).1]

/-- Without the private ones the public members are listed. -/
theorem mem_members_public_iff {g : MemberGroup} {m : Member} :
    m ∈ g.members p e false inherited ↔
      m ∈ g.members p e true inherited ∧ isPrivate m.name = false := by
  simp only [MemberGroup.members, filter_isShown e, List.mem_filter, Bool.not_eq_true']
  tauto

/-- What some names declare is what one of them declares. -/
theorem mem_declaredBy_iff {g : MemberGroup} {names : List String} {m : Member} :
    m ∈ p.declaredBy g names ↔
      ∃ name ∈ names, ∃ e, p.resolve? name = some e ∧ m ∈ g.members p e false false := by
  simp only [declaredBy, List.mem_flatMap, List.mem_filterMap]
  constructor
  · rintro ⟨e, ⟨name, hname, he⟩, hm⟩
    exact ⟨name, hname, e, he, hm⟩
  · rintro ⟨name, hname, e, he, hm⟩
    exact ⟨e, ⟨name, hname, he⟩, hm⟩

end Program

/-! ### What the symbols of an aggregate stand for -/

namespace Aggregate

/-- The word that asks for an aggregate. -/
def word : Aggregate → String
  | methods => "method"
  | properties => "property"
  | staticProperties => "staticproperty"
  | classConstants => "classconstant"

/-- Whether an aggregate shows members of a kind. -/
def lists : Aggregate → MemberKind → Bool
  | properties, kind => kind == .property
  | a, kind => a.group.includes kind

theorem ofKind_word (a : Aggregate) : Sources.ofKind (.str a.word) = .ok [.aggregate a] := by
  cases a <;> rfl

variable {p : Program} {a : Aggregate} {m : Member}

/-- An aggregate shows what its group has, the properties apart. -/
theorem lists_eq (h : a ≠ .properties) (kind : MemberKind) :
    a.lists kind = a.group.includes kind := by
  cases a with
  | properties => exact absurd rfl h
  | _ => rfl

/-- The key of a member has its name and kind. -/
theorem keyOf_eq_ok {key : GroupKey} (h : a.keyOf p m = .ok key) :
    key.name = m.name ∧ key.kind = m.kind := by
  cases a with
  | methods =>
    rw [keyOf_methods] at h
    cases hsignature : p.signature? m.value (-1) with
    | error e => rw [hsignature] at h; cases h
    | ok signature => rw [hsignature] at h; cases h; exact ⟨rfl, rfl⟩
  | _ => cases h; exact ⟨rfl, rfl⟩

/-- Only a signature can keep a member from having a key. -/
theorem exists_keyOf_iff :
    (∃ key, a.keyOf p m = .ok key) ↔
      (a = .methods → ∃ signature, p.signature? m.value (-1) = .ok signature) := by
  cases a with
  -- only the key of a method has a signature in it
  | methods =>
    rw [keyOf_methods]
    cases p.signature? m.value (-1) with
    | error e => exact iff_of_false (by rintro ⟨key, h⟩; cases h) (by simp)
    | ok signature => exact iff_of_true ⟨_, rfl⟩ fun _ => ⟨signature, rfl⟩
  | _ => exact iff_of_true ⟨_, rfl⟩ (by simp)

end Aggregate

/-- Symbols that stand for members: each for one of them, and each member has a symbol that
    stands for its name and kind. -/
structure Represents (symbols : List Symbol) (members : List Member) : Prop where
  exists_member : ∀ s ∈ symbols, ∃ m ∈ members, s.first = .member m
  exists_symbol : ∀ m ∈ members, ∃ s ∈ symbols, ∃ m' ∈ members,
    s.first = .member m' ∧ m'.name = m.name ∧ m'.kind = m.kind

/-- Kinds have names of their own. -/
theorem MemberKind.name_inj {kind kind' : MemberKind} : kind.name = kind'.name ↔ kind = kind' := by
  cases kind <;> cases kind' <;> decide

/-- The symbols of a kind stand for the members of that kind. -/
theorem Represents.filter {symbols : List Symbol} {members : List Member}
    (h : Represents symbols members) (kind : MemberKind) :
    Represents (symbols.filter fun s => s.kind == kind.name)
      (members.filter fun m => m.kind == kind) := by
  -- the kind of a symbol is that of the member it stands for
  have hkept : ∀ (s : Symbol) (m : Member), s.first = .member m →
      ((s.kind == kind.name) = true ↔ m.kind = kind) := by
    intro s m hfirst
    rw [beq_iff_eq, Symbol.kind, hfirst]
    exact MemberKind.name_inj
  constructor
  · intro s hs
    obtain ⟨hs, hkind⟩ := List.mem_filter.mp hs
    obtain ⟨m, hm, hfirst⟩ := h.exists_member s hs
    exact ⟨m, List.mem_filter.mpr ⟨hm, beq_iff_eq.mpr ((hkept s m hfirst).mp hkind)⟩, hfirst⟩
  · intro m hm
    obtain ⟨hm, hkind⟩ := List.mem_filter.mp hm
    obtain ⟨s, hs, m', hm', hfirst, hname', hkind'⟩ := h.exists_symbol m hm
    have heq : m'.kind = kind := hkind'.trans (beq_iff_eq.mp hkind)
    exact ⟨s, List.mem_filter.mpr ⟨hs, (hkept s m' hfirst).mpr heq⟩, m',
      List.mem_filter.mpr ⟨hm', beq_iff_eq.mpr heq⟩, hfirst, hname', hkind'⟩

namespace Program

variable {p : Program} {a : Aggregate} {names : List String}

/-- Members that are grouped by their keys are stood for by the groups. -/
theorem represents_of_isGrouping {members : List Member} {keys : List GroupKey}
    {symbols : List Symbol} (h : IsGrouping members keys symbols)
    (hkeys : List.Forall₂ (fun m key => a.keyOf p m = .ok key) members keys) :
    Represents symbols members := by
  -- a member stands beside its own key
  have hkey : ∀ key m, (key, m) ∈ keys.zip members → a.keyOf p m = .ok key := by
    intro key m hmem
    exact (List.forall₂_iff_zip.mp hkeys.flip).2 hmem
  constructor
  · intro s hs
    exact h.exists_member hs
  · intro m hm
    -- the symbol of a group stands for a member of the same key
    obtain ⟨s, hs, key, m', hzip, hzip', hfirst⟩ := h.exists_symbol hm
    obtain ⟨hname, hkind⟩ := Aggregate.keyOf_eq_ok (hkey key m hzip)
    obtain ⟨hname', hkind'⟩ := Aggregate.keyOf_eq_ok (hkey key m' hzip')
    exact ⟨s, hs, m', (List.of_mem_zip hzip').2, hfirst, hname'.symm.trans hname,
      hkind'.symm.trans hkind⟩

/-- A group declares only members that it has. -/
theorem includes_of_mem_declaredBy {g : MemberGroup} {m : Member} (h : m ∈ p.declaredBy g names) :
    g.includes m.kind = true := by
  obtain ⟨-, -, e, -, hm⟩ := mem_declaredBy_iff.mp h
  exact (List.mem_filter.mp hm).2

/-- Only public members are declared. -/
theorem isPrivate_of_mem_declaredBy {g : MemberGroup} {m : Member}
    (h : m ∈ p.declaredBy g names) : isPrivate m.name = false := by
  obtain ⟨-, -, e, -, hm⟩ := mem_declaredBy_iff.mp h
  exact (mem_members_public_iff.mp hm).2

/-- The members that an aggregate shows, of those that the classes of some names declare. -/
def shownBy (p : Program) (a : Aggregate) (names : List String) : List Member :=
  (p.declaredBy a.group names).filter fun m => a.lists m.kind

/-- The symbols of an aggregate stand for the public members that it shows, unless one of the
    members has no key. -/
theorem represents_aggregateSymbols (hnames : p.declaredTypes = .ok names) :
    (∃ e, p.aggregateSymbols a = .error e ∧
      ∃ m ∈ p.declaredBy a.group names, ¬ ∃ key, a.keyOf p m = .ok key) ∨
    ∃ symbols, p.aggregateSymbols a = .ok symbols ∧
      (∀ m ∈ p.declaredBy a.group names, ∃ key, a.keyOf p m = .ok key) ∧
      Represents symbols (p.shownBy a names) := by
  rw [aggregateSymbols_eq, groupedSymbols_eq, hnames]
  simp only [bind, Except.bind]
  -- either all members have keys, or the first that has none fails for all
  rcases mapM_cases (a.keyOf p) (p.declaredBy a.group names) with
    ⟨keys, hkeys, hall⟩ | ⟨e, hfails, m, hm, hkey⟩
  · rw [hkeys]
    have hrepresents := represents_of_isGrouping
      (isGrouping_symbolsByKey hall.length_eq.symm) hall
    have hexists : ∀ m ∈ p.declaredBy a.group names, ∃ key, a.keyOf p m = .ok key := by
      intro m hm
      obtain ⟨key, -, hkey⟩ := exists_of_mem_forall₂ hall.flip hm
      exact ⟨key, hkey⟩
    refine .inr ⟨_, rfl, hexists, ?_⟩
    by_cases hproperties : a = .properties
    · subst hproperties
      -- the properties are picked from all data by their kind
      exact hrepresents.filter .property
    · -- the group of any other aggregate is what it shows
      have hshown : p.shownBy a names = p.declaredBy a.group names := by
        apply List.filter_eq_self.mpr
        intro m hm
        rw [Aggregate.lists_eq hproperties]
        exact includes_of_mem_declaredBy hm
      rw [hshown]
      cases a with
      | properties => exact absurd rfl hproperties
      | _ => exact hrepresents
  · rw [hfails]
    refine .inl ⟨e, rfl, m, hm, ?_⟩
    rintro ⟨key, hok⟩
    rw [hkey] at hok
    cases hok

/-! ### Completion over all classes -/

/-- If the symbols of an aggregate cannot be told, there are no completions. -/
theorem completeSymbol_of_error {e : Error} (h : p.aggregateSymbols a = .error e) (lead : String) :
    p.completeSymbol lead (.str a.word) = [] := by
  simp [completeSymbol, Aggregate.ofKind_word, Sources.completions, Source.completions,
    Source.symbols_aggregate, h, orElse, bind, Except.bind]

/-- If they can, the completions are those that the prefix completes to. -/
theorem completeSymbol_of_ok {symbols : List Symbol} (h : p.aggregateSymbols a = .ok symbols)
    (lead : String) :
    p.completeSymbol lead (.str a.word) =
      textsOf (symbols.filter fun s => completesTo a.group.isCaseSensitive lead s.name) := by
  simp [completeSymbol, Aggregate.ofKind_word, Sources.completions, Source.completions,
    Source.symbols_aggregate, Source.isCaseSensitive, h, orElse, bind, Except.bind, pure,
    Except.pure]

/-- The texts of symbols, without repetition. -/
theorem mem_textsOf_iff {symbols : List Symbol} {text : String} :
    text ∈ textsOf symbols ↔ ∃ s ∈ symbols, s.text = text := by
  rw [textsOf, List.mem_eraseDups, List.mem_map]

/-- Shown members that are called are completed with a bracket. -/
theorem text_of_mem_shownBy {m : Member} (h : m ∈ p.shownBy a names) :
    (Candidate.member m).text = if m.kind.isCall then m.name ++ "(" else m.name := by
  obtain ⟨-, -, e, -, hm⟩ := mem_declaredBy_iff.mp (List.mem_filter.mp h).1
  exact text_of_mem_members hm

/-- Methods are called. -/
theorem isCallable_of_mem_methods {e : Entity} {showPrivate inherited : Bool} {m : Member}
    (h : m ∈ MemberGroup.methods.members p e showPrivate inherited) : m.isCallable = true := by
  obtain ⟨hm, hincludes⟩ := List.mem_filter.mp h
  rw [isCallable_of_mem_membersOf hm]
  generalize m.kind = kind at hincludes
  revert hincludes
  cases kind <;> decide

/-- Of calls the text tells the name.  Other names may end in a bracket too. -/
theorem name_eq_of_text_eq {m m' : Member} (hcall : m.isCallable = true)
    (hcall' : m'.isCallable = true)
    (h : (Candidate.member m).text = (Candidate.member m').text) : m.name = m'.name := by
  simpa [Candidate.text, hcall, hcall'] using h

/-- Where the symbols of an aggregate can be told, a member is found if it is public and, as a
    method, completed to in small letters. -/
theorem text_mem_completeSymbol_iff {symbols : List Symbol} {lead T : String} {e : Entity}
    {m : Member} (hsymbols : p.aggregateSymbols a = .ok symbols)
    (hrepresents : Represents symbols (p.shownBy a names)) (hT : T ∈ names)
    (he : p.resolve? T = some e) (hm : m ∈ a.group.members p e true false)
    (hlists : a.lists m.kind = true) (hlead : lead.toList <+: m.name.toList) :
    (Candidate.member m).text ∈ p.completeSymbol lead (.str a.word) ↔
      isPrivate m.name = false ∧ (a = .methods → completesTo false lead m.name = true) := by
  rw [completeSymbol_of_ok hsymbols, mem_textsOf_iff]
  constructor
  · rintro ⟨s, hs, htext⟩
    obtain ⟨hs, hcompletes⟩ := List.mem_filter.mp hs
    obtain ⟨m', hm', hfirst⟩ := hrepresents.exists_member s hs
    rw [Symbol.text, hfirst] at htext
    rw [Symbol.name, hfirst, Candidate.name] at hcompletes
    -- the symbol may stand for another member, but one of the same text
    constructor
    · rw [← isPrivate_text, ← htext, isPrivate_text]
      exact isPrivate_of_mem_declaredBy (List.mem_filter.mp hm').1
    · rintro rfl
      obtain ⟨-, -, e', -, hmethod'⟩ := mem_declaredBy_iff.mp (List.mem_filter.mp hm').1
      rw [← name_eq_of_text_eq (isCallable_of_mem_methods hmethod')
        (isCallable_of_mem_methods hm) htext]
      exact hcompletes
  · rintro ⟨hpublic, hmethods⟩
    have hshown : m ∈ p.shownBy a names := by
      refine List.mem_filter.mpr ⟨mem_declaredBy_iff.mpr ⟨T, hT, e, he, ?_⟩, hlists⟩
      exact mem_members_public_iff.mpr ⟨hm, hpublic⟩
    obtain ⟨s, hs, m', hm', hfirst, hname, hkind⟩ := hrepresents.exists_symbol m hshown
    have hcompletes : completesTo a.group.isCaseSensitive lead m.name = true := by
      have hstarts : Text.startsWith lead m.name = true := List.isPrefixOf_iff_prefix.mpr hlead
      cases a with
      | methods => exact hmethods rfl
      | _ => exact hstarts
    refine ⟨s, List.mem_filter.mpr ⟨hs, ?_⟩, ?_⟩
    · rw [Symbol.name, hfirst, Candidate.name, hname]
      exact hcompletes
    · -- name and kind decide the text
      rw [Symbol.text, hfirst, text_of_mem_shownBy hm', text_of_mem_members hm, hname, hkind]

/-- A private prefix has no completions. -/
theorem completeSymbol_of_private (p : Program) (a : Aggregate) {lead : String}
    (h : isPrivate lead = true) : p.completeSymbol lead (.str a.word) = [] := by
  cases hsymbols : p.aggregateSymbols a with
  | error e => exact completeSymbol_of_error hsymbols lead
  | ok symbols =>
    -- there are symbols, so the classes could be told
    obtain ⟨names, hnames⟩ : ∃ names, p.declaredTypes = .ok names := by
      cases hnames : p.declaredTypes with
      | error e =>
        simp [aggregateSymbols_eq, groupedSymbols_eq, hnames, bind, Except.bind] at hsymbols
      | ok names => exact ⟨names, rfl⟩
    obtain ⟨e, hfails, -⟩ | ⟨found, hfound, -, hrepresents⟩ :=
      represents_aggregateSymbols (a := a) hnames
    · rw [hsymbols] at hfails
      cases hfails
    · rw [completeSymbol_of_ok hfound, textsOf, List.filter_eq_nil_iff.mpr]
      · rfl
      · -- a symbol stands for a public member, the prefix completes to private names only
        intro s hs hcompletes
        obtain ⟨m, hm, hfirst⟩ := hrepresents.exists_member s hs
        have hpublic := isPrivate_of_mem_declaredBy (List.mem_filter.mp hm).1
        have hprivate := isPrivate_of_completesTo h hcompletes
        rw [Symbol.name, hfirst, Candidate.name, hpublic] at hprivate
        cases hprivate

/-- A member of a class that an aggregate shows, and a prefix of its name.  Completion over all
    classes finds the member exactly if it is public; methods are found only if every method has a
    signature that can be told, and by a prefix that is one in small letters. -/
theorem completeSymbol_aggregate (p : Program) (a : Aggregate) (lead : String) :
    (isPrivate lead = true → p.completeSymbol lead (.str a.word) = []) ∧
    ∀ names T e m, p.declaredTypes = .ok names → T ∈ names → p.resolve? T = some e →
      m ∈ a.group.members p e true false → a.lists m.kind = true →
      lead.toList <+: m.name.toList →
      ((Candidate.member m).text ∈ p.completeSymbol lead (.str a.word) ↔
        isPrivate m.name = false ∧
          (a = .methods →
            (∀ m' ∈ p.declaredBy .methods names,
              ∃ signature, p.signature? m'.value (-1) = .ok signature) ∧
            completesTo false lead m.name = true)) := by
  refine ⟨completeSymbol_of_private p a, ?_⟩
  intro names T e m hnames hT he hm hlists hlead
  obtain ⟨error, hfails, m', hm', hkey⟩ | ⟨symbols, hsymbols, hkeys, hrepresents⟩ :=
    represents_aggregateSymbols (a := a) hnames
  · -- a member without a key leaves nothing, and then some method has no signature
    rw [completeSymbol_of_error hfails]
    refine iff_of_false List.not_mem_nil ?_
    intro h
    apply hkey
    apply Aggregate.exists_keyOf_iff.mpr
    rintro rfl
    exact (h.2 rfl).1 m' hm'
  · -- all members have keys, so every method has a signature
    rw [text_mem_completeSymbol_iff hsymbols hrepresents hT he hm hlists hlead]
    apply and_congr_right
    intro _
    apply forall_congr'
    rintro rfl
    refine ⟨fun hcompletes => ⟨?_, hcompletes⟩, And.right⟩
    intro m' hm'
    exact Aggregate.exists_keyOf_iff.mp (hkeys m' hm') rfl

/-- A class with a public and a private method. -/
def diaryProgram : Program :=
  { objects := [
      ("show", .function
        { name := "show", params := [{ name := "self" }], file := "diary", line := 2 }),
      ("secret", .function
        { name := "_secret", params := [{ name := "self" }], file := "diary", line := 4 }),
      ("Diary", .classObject
        { name := "Diary", qualname := "Diary", home := "__main__"
          attributes := [("show", { entity := .object "show" }),
            ("_secret", { entity := .object "secret" })] })]
    scope := [("Diary", .object "Diary")] }

/-- A private prefix finds nothing, and a public method is found. -/
theorem completeSymbol_aggregate_diary :
    diaryProgram.completeSymbol "_s" (.str "method") = [] ∧
    ∃ m ∈ MemberGroup.methods.members diaryProgram (.object "Diary") true false,
      m.name = "show" ∧
      (Candidate.member m).text ∈ diaryProgram.completeSymbol "s" (.str "method") := by
  have hnames : diaryProgram.declaredTypes = .ok ["Diary"] := by decide +kernel
  have hmember : ("show", MemberKind.method) ∈
      (MemberGroup.methods.members diaryProgram (.object "Diary") true false).map
        fun m => (m.name, m.kind) := by decide +kernel
  have hsignatures : ((diaryProgram.declaredBy .methods ["Diary"]).all
      fun m => (diaryProgram.signature? m.value (-1)).isOk) = true := by decide +kernel
  obtain ⟨m, hm, hshow⟩ := List.mem_map.mp hmember
  obtain ⟨hname, hkind⟩ := Prod.mk.inj hshow
  refine ⟨(completeSymbol_aggregate diaryProgram .methods "_s").1 (by decide), m, hm, hname, ?_⟩
  have hiff := (completeSymbol_aggregate diaryProgram .methods "s").2 ["Diary"] "Diary"
    (.object "Diary") m hnames (by simp) rfl hm (by rw [hkind]; rfl) (by rw [hname]; decide)
  apply hiff.mpr
  rw [hname]
  refine ⟨by decide, fun _ => ⟨?_, by decide⟩⟩
  intro m' hm'
  have hsignature := List.all_eq_true.mp hsignatures m' hm'
  cases htold : diaryProgram.signature? m'.value (-1) with
  | ok signature => exact ⟨signature, rfl⟩
  | error e =>
    rw [htold] at hsignature
    cases hsignature

/-- The private method is a member that the same prefix finds on the class itself. -/
theorem completeSymbol_hides_secret :
    diaryProgram.declaredTypes = .ok ["Diary"] ∧
    diaryProgram.resolve? "Diary" = some (.object "Diary") ∧
    (∃ m ∈ MemberGroup.methods.members diaryProgram (.object "Diary") true false,
      m.name = "_secret" ∧ Aggregate.methods.lists m.kind = true ∧
        (Candidate.member m).text = "_secret(") ∧
    ((Source.members .methods (.object "Diary") false).completions diaryProgram "_s").map textsOf =
      .ok ["_secret("] ∧
    diaryProgram.completeSymbol "_s" (.str "method") = [] := by
  have hmember : ("_secret", true, "_secret(") ∈
      (MemberGroup.methods.members diaryProgram (.object "Diary") true false).map fun m =>
        (m.name, Aggregate.methods.lists m.kind, (Candidate.member m).text) := by decide +kernel
  obtain ⟨m, hm, hsecret⟩ := List.mem_map.mp hmember
  obtain ⟨hname, hrest⟩ := Prod.mk.inj hsecret
  obtain ⟨hlists, htext⟩ := Prod.mk.inj hrest
  refine ⟨by decide +kernel, rfl, ⟨m, hm, hname, hlists, htext⟩, ?_, by decide +kernel⟩
  decide +kernel

end Program

end ReplEngine
