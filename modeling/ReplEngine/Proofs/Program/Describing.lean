import ReplEngine.Program.Lookup

/-!
# What lookups ask

Whatever shows the parameters of a function asks for the descriptions of their defaults, one
after the other, and does nothing else.  So a property that describing a default has, and that
one step hands on to the next, is a property of everything that shows parameters
(`Inquiry.Closed`): it leaves a store as it is, it does not exit, and so on.

## Key results

- `Inquiry.Closed.signatureIn`: signatures
- `Inquiry.Closed.annotationsIn`: what symbols tell
- `Inquiry.Closed.searchIn`: searches, which tell methods apart by their signatures
- `Inquiry.Closed.hintOf`, `documentationOf`, `findingsOf`: what a worker asks
-/

namespace ReplEngine

variable {n m : Type → Type} [Monad n] {inquiry : Inquiry n m} {α β : Type}

/-- A property of actions that holds of every description and of what is made of descriptions. -/
structure Inquiry.Closed (inquiry : Inquiry n m) (P : (α : Type) → n α → Prop) : Prop where
  pure {α : Type} (a : α) : P α (pure a)
  bind {α β : Type} {x : n α} {f : α → n β} (hx : P α x) (hf : ∀ a, P β (f a)) : P β (x >>= f)
  lift {α : Type} (x : Except Error α) : P α (inquiry.lift x)
  describe (d : Default) : P String (inquiry.describe d)

namespace Inquiry.Closed

variable [LawfulMonad n] {P : (α : Type) → n α → Prop} (h : inquiry.Closed P) (p : Program)

include h

/-- What is made of one action. -/
theorem map {x : n α} (hx : P α x) (f : α → β) : P β (f <$> x) := by
  rw [map_eq_pure_bind]
  exact h.bind hx fun a => h.pure (f a)

/-- What is made of an action for each of some items. -/
theorem mapM {f : α → n β} (hf : ∀ a, P β (f a)) (items : List α) :
    P (List β) (items.mapM f) := by
  -- on the items, one action for each
  induction items with
  | nil =>
    rw [List.mapM_nil]
    exact h.pure []
  | cons item items ih =>
    rw [List.mapM_cons]
    exact h.bind (hf item) fun _ => h.bind ih fun _ => h.pure _

/-! ### Parameters -/

omit [LawfulMonad n] in
/-- A parameter describes its default value, if it has one. -/
theorem textIn (q : Param) (marked : Bool) : P String (q.textIn inquiry marked) := by
  unfold Param.textIn
  dsimp only
  cases q.default with
  | none => exact h.pure _
  | some d => exact h.bind (h.describe d) fun _ => h.pure _

/-- A list of parameters is made of descriptions. -/
theorem signatureTextIn (params : List Param) (marked : Int) :
    P String (signatureTextIn inquiry params marked) :=
  h.bind (h.mapM (fun (q : Param × Nat) => h.bind (h.textIn q.1 _) fun _ => h.pure _) _) fun _ =>
    h.pure _

/-- A signature is made of descriptions. -/
theorem signatureIn (e : Entity) (marked : Int) :
    P (Option String) (p.signatureIn inquiry e marked) := by
  unfold Program.signatureIn
  split
  · exact h.pure none
  · exact h.map (h.signatureTextIn _ marked) some

/-! ### Symbols -/

/-- Telling a signature is made of descriptions. -/
theorem tellSignatureIn (e : Entity) : P Annotation (p.tellSignatureIn inquiry e) :=
  h.bind (h.signatureIn p e _) fun _ => h.pure _

/-- What a name tells is made of descriptions. -/
theorem annotateNameIn (role : Role) (name : String) :
    P Annotation (p.annotateNameIn inquiry role name) := by
  unfold Program.annotateNameIn
  dsimp only
  -- by the role of the name: only what can be called has a signature
  split
  · exact h.bind (h.tellSignatureIn p _) fun _ => h.pure _
  · exact h.bind (h.lift _) fun _ => h.pure _
  · exact h.bind (h.lift _) fun _ => h.pure _
  · exact h.bind (h.lift _) fun _ => h.pure _
  · exact h.bind (h.tellSignatureIn p _) fun _ => h.pure _
  · exact h.pure _

/-- What a member tells is made of descriptions. -/
theorem annotateMemberIn (member : Member) :
    P Annotation (p.annotateMemberIn inquiry member) := by
  unfold Program.annotateMemberIn
  -- a constant tells no more; of the others only what can be called has a signature
  split
  · exact h.pure _
  · split
    · exact h.bind (h.tellSignatureIn p _) fun _ => h.bind (h.pure _) fun _ => h.pure _
    · split
      · exact h.bind (h.pure _) fun _ => h.pure _
      · exact h.bind (h.pure _) fun _ => h.pure _

/-- What a candidate tells is made of descriptions. -/
theorem annotateIn (c : Candidate) : P Annotation (p.annotateIn inquiry c) := by
  cases c with
  | named role name => exact h.annotateNameIn p role name
  | member member => exact h.annotateMemberIn p member

/-- What a symbol tells is what its candidates tell. -/
theorem symbolAnnotateIn (s : Symbol) : P Annotation (s.annotateIn inquiry (some p)) := by
  cases s with
  | single c => exact h.annotateIn p c
  -- a group tells what its first candidate tells, and then what each of them does
  | group first rest =>
    exact h.bind (h.annotateIn p first) fun _ =>
      h.bind (h.mapM (h.annotateIn p) _) fun _ => h.pure _

/-- What symbols tell is made of descriptions. -/
theorem annotationsIn (symbols : List Symbol) :
    P (List Annotation) (p.annotationsIn inquiry symbols) :=
  h.mapM (h.symbolAnnotateIn p) symbols

/-! ### Searches -/

/-- Methods are told apart by their signatures, and all else without a description. -/
theorem keyIn (a : Aggregate) (member : Member) : P GroupKey (a.keyIn inquiry p member) := by
  cases a with
  | methods => exact h.bind (h.signatureIn p _ _) fun _ => h.pure _
  | _ => exact h.pure _

/-- The symbols over all classes are made of the keys. -/
theorem aggregateSymbolsIn (a : Aggregate) :
    P (List Symbol) (p.aggregateSymbolsIn inquiry a) := by
  -- the classes are told, then a key is made for each member
  have hgrouped : P (List Symbol) (p.groupedSymbolsIn inquiry a.group (a.keyIn inquiry p)) :=
    h.bind (h.lift _) fun _ =>
      h.bind (h.mapM (fun member => h.bind (h.keyIn p a member) fun _ => h.pure _) _) fun _ =>
        h.pure _
  exact h.bind hgrouped fun _ => h.pure _

/-- The symbols of a source are made of descriptions. -/
theorem symbolsIn (showPrivate : Bool) (s : Source) :
    P (List Symbol) (s.symbolsIn inquiry p showPrivate) := by
  -- only the symbols over all classes ask
  cases s with
  | nothing => exact h.pure []
  | named list => exact h.bind (h.lift _) fun _ => h.pure _
  | members group context inherited => exact h.pure _
  | aggregate a => exact h.aggregateSymbolsIn p a

/-- A search is made of descriptions. -/
theorem searchIn (query : Value) (sources : Sources) :
    P (List Symbol) (sources.searchIn inquiry p query) :=
  h.bind (h.mapM (fun s => h.bind (h.symbolsIn p false s) fun _ => h.lift _) sources) fun _ =>
    h.pure _

/-! ### Lookups -/

/-- A hint is made of descriptions. -/
theorem hintOf (target : Option Program.Target) :
    P (Option String) (p.hintOf inquiry target) := by
  cases target with
  | none => exact h.pure none
  | some t => exact h.signatureIn p t.entity _

/-- A documentation is made of descriptions. -/
theorem documentationOf (target : Option Program.Target) :
    P (Option String) (p.documentationOf inquiry target) := by
  cases target with
  | none => exact h.pure none
  | some t =>
    refine h.bind (h.signatureIn p t.entity _) fun signature => ?_
    dsimp only
    split <;> exact h.pure _

/-- What a search finds and tells is made of descriptions. -/
theorem findingsOf (query kind : Value) :
    P (List Annotation) (p.findingsOf inquiry query kind) :=
  h.bind (h.lift _) fun sources =>
    h.bind (h.searchIn p query sources) fun symbols => h.annotationsIn p symbols

end Inquiry.Closed

end ReplEngine
