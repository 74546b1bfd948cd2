import ReplEngine.Program.Source
import ReplEngine.Cursor.Place

/-!
# Completion and lookup

What the program offers at a cursor: completions of the symbol being typed, and the
parameters, documentation and place of the function being called.  A context that is
more than names and dots has to be evaluated; whether and how is up to the caller, and
without an evaluator nothing is found.  Evaluating may do more than give an answer, and so may
asking an object to describe itself, so that each lookup comes for any monad; the plain ones
are for evaluators and inquiries that only answer.
-/

namespace ReplEngine

/-- The answer of a lookup, or what stands for its failure. -/
def orElse {α : Type} (fallback : α) : Except Error α → α
  | .ok a => a
  | .error _ => fallback

/-- Asks for something, and goes on with what stands for it if that fails. -/
def Inquiry.orElse {n m : Type → Type} [Monad m] (inquiry : Inquiry n m) {α : Type} (fallback : α)
    (x : n α) : m α :=
  ReplEngine.orElse fallback <$> inquiry.attempt x

namespace Program

/-- Evaluates the text of a context; what fails gives nothing.  What else evaluating does is
up to `m`. -/
abbrev EvaluatorIn (m : Type → Type) := String → m (Option Entity)

/-- Evaluates the text of a context and does nothing else. -/
abbrev Evaluator := String → Option Entity

/-- Whether a context has to be evaluated. -/
def contextNeedsEvaluation : Option Cursor.Context → Bool
  | some context => !context.isBare
  | none => false

/-- Whether completion at a position has to evaluate. -/
def needsEvaluation (line : List Char) (position : Int) : Bool :=
  match Cursor.completionAt line position with
  | some c => contextNeedsEvaluation c.wanted.context?
  | none => false

/-- Whether a lookup of the call at a position has to evaluate. -/
def needsDocEvaluation (line : List Char) (position : Int) : Bool :=
  match Cursor.callAt line position with
  | some c => contextNeedsEvaluation c.context
  | none => false

/-- The sources of the members of what a context stands for. -/
def memberSources (p : Program) : Option Entity → Sources
  | none => [.nothing]
  | some e => if p.isType e then .staticMembersOf e else .membersOf e

/-- The texts of symbols, each once. -/
def textsOf (symbols : List Symbol) : List String :=
  (symbols.map Symbol.text).eraseDups

/-- What is told about each text, by the first symbol that has it. -/
def annotationMap (p : Program) (symbols : List Symbol) :
    Except Error (List (String × Annotation)) :=
  symbols.foldlM (fun told s =>
    if (lookup? s.text told).isSome then .ok told
    else (fun a => told ++ [(s.text, a)]) <$> s.annotate (some p)) []

/-- What the symbols tell, one after the other. -/
def annotationsIn {n m : Type → Type} [Monad n] (inquiry : Inquiry n m) (p : Program)
    (symbols : List Symbol) : n (List Annotation) :=
  symbols.mapM (Symbol.annotateIn inquiry (some p))

@[inherit_doc annotationsIn]
def annotationsOf (p : Program) (symbols : List Symbol) : Except Error (List Annotation) :=
  p.annotationsIn (.plain Id) symbols

/-- The offer for a symbol that stands from `start` to `stop`. -/
structure Offer where
  start : Int
  stop : Int
  texts : List String
  annotations : List (String × Annotation) := []

/-- The offer of sources for a completion.  What goes wrong in the program leaves the offer
empty. -/
def offer (p : Program) (annotated : Bool) (c : Cursor.Completion) (sources : Sources) : Offer :=
  let found : Except Error Offer := do
    let symbols ← sources.completions p c.symbol
    let annotations ← if annotated then p.annotationMap symbols else pure []
    return ⟨c.start, c.stop, textsOf symbols, annotations⟩
  match found with
  | .ok offer => offer
  | .error _ => ⟨c.start, c.stop, [], []⟩

/-- The texts of symbols of a kind that complete a prefix. -/
def completeSymbol (p : Program) (lead : String) (kind : Value) : List String :=
  orElse [] do
    return textsOf (← (← Sources.ofKind kind).completions p lead)

/-- What the symbols of a kind that complete a prefix tell. -/
def describeSymbols (p : Program) (lead : String) (kind : Value) : List Annotation :=
  orElse [] do p.annotationsOf (← (← Sources.ofKind kind).completions p lead)

/-- What the classes tell that stand in a relation to a name. -/
def who (p : Program) (relation name : String) : List Annotation :=
  orElse [] do
    let classes ← (Source.named .classNames).symbols p false
    let related ← classes.filterM fun c => p.isRelated c.name name relation
    p.annotationsOf related

/-- The function being called: the word for it, the call, and what it stands for. -/
structure Target where
  how : String
  call : Cursor.Call
  entity : Entity

/-- What a method call calls, if what it is called on is known and has it. -/
def methodTarget? (p : Program) (call : Cursor.Call) (on : Option Entity) : Option Target := do
  let e ← on
  let m ← (p.membersOf e .instanceLevel true true).find? fun m => m.name == call.name
  return ⟨call.kind, call, m.value⟩

/-- What the call of a name calls, if the name stands for something. -/
def namedTarget? (p : Program) (call : Cursor.Call) : Option Target := do
  let e ← p.resolve? call.name
  return ⟨if p.isType e then "class" else call.kind, call, e⟩

/-- A target that is something. -/
def Target.something? (t : Target) : Option Target :=
  match t.entity with
  | .value .none => none
  | _ => some t

section Describing

variable {n m : Type → Type} [Monad n] [Monad m] (inquiry : Inquiry n m) (p : Program)

/-- The parameters of a function, the one being typed in capitals. -/
def hintOf : Option Target → n (Option String)
  | none => pure none
  | some t => p.signatureIn inquiry t.entity t.call.argument

/-- The documentation of a function, under a line that names it. -/
def documentationOf : Option Target → n (Option String)
  | none => pure none
  | some t => do
    let signature := (← p.signatureIn inquiry t.entity (-1)).getD ""
    let header := t.how ++ " " ++ t.call.name ++ "(" ++ signature ++ ")"
    match p.doc? t.entity with
    | some doc => return some (if doc.isEmpty then header else header ++ "\n\n" ++ doc)
    | none => return some header

/-- What the symbols of a kind that match a search tell. -/
def findingsOf (query kind : Value) : n (List Annotation) := do
  let sources ← inquiry.lift (Sources.ofKind kind)
  p.annotationsIn inquiry (← sources.searchIn inquiry p query)

/-- What the symbols of a kind that match a search tell; nothing if the search fails. -/
def aproposIn (query kind : Value) : m (List Annotation) :=
  inquiry.orElse [] (p.findingsOf inquiry query kind)

end Describing

section Evaluating

variable {n m : Type → Type} [Monad n] [Monad m] (inquiry : Inquiry n m) (p : Program)
  (eval : Option (EvaluatorIn m))

/-- What a context stands for.  Names and dots are looked up; everything else is handed to the
evaluator. -/
def contextIn (context : Cursor.Context) : m (Option Entity) :=
  if context.isBare then pure (p.resolve? context.text)
  else match eval with
    | some evaluate => evaluate context.text
    | none => pure none

/-- The sources for what a completion wants. -/
def sourcesIn : Cursor.Wanted → m Sources
  | .member context => do return p.memberSources (← p.contextIn eval context)
  | .variableName => pure [.named .variableNames]
  | .className => pure [.named .constructors]
  | .symbol => pure .bareNames

/-- Completes the symbol at a position; `none` where no completion applies. -/
def completeIn (annotated : Bool) (line : List Char) (position : Int) : m (Option Offer) :=
  match Cursor.completionAt line position with
  | none => pure none
  | some c => do return some (p.offer annotated c (← p.sourcesIn eval c.wanted))

/-- What the call at a position calls, if it is found and something. -/
def targetIn (line : List Char) (position : Int) : m (Option Target) :=
  match Cursor.callAt line position with
  | none => pure none
  | some call =>
    match call.context with
    | some context => do
      return (p.methodTarget? call (← p.contextIn eval context)).bind Target.something?
    | none => pure ((p.namedTarget? call).bind Target.something?)

/-- The parameters of the function being called, the one being typed in capitals. -/
def hintIn (line : List Char) (position : Int) : m (Option String) := do
  inquiry.orElse none (p.hintOf inquiry (← p.targetIn eval line position))

/-- The documentation of the function being called, under a line that names it. -/
def documentationIn (line : List Char) (position : Int) : m (Option String) := do
  inquiry.orElse none (p.documentationOf inquiry (← p.targetIn eval line position))

/-- The first line of the documentation of the function being called, or its
parameters. -/
def shortDocumentationIn (line : List Char) (position : Int) : m (Option String) := do
  let target ← p.targetIn eval line position
  match target.bind fun t => (p.doc? t.entity).bind firstLine? with
  | some summary => return some summary
  | none => p.hintIn inquiry eval line position

/-- Where the function being called was written. -/
def locateIn (line : List Char) (position : Int) : m (Option Location) := do
  return (← p.targetIn eval line position).bind fun t => p.location? t.entity

end Evaluating

section Answers

variable (p : Program) (eval : Option Evaluator)

@[inherit_doc aproposIn]
def apropos (query kind : Value) : List Annotation :=
  Id.run (p.aproposIn (.plain Id) query kind)

@[inherit_doc completeIn]
def complete (annotated : Bool) (line : List Char) (position : Int) : Option Offer :=
  Id.run (p.completeIn eval annotated line position)

@[inherit_doc hintIn]
def hint (line : List Char) (position : Int) : Option String :=
  Id.run (p.hintIn (.plain Id) eval line position)

@[inherit_doc documentationIn]
def documentation (line : List Char) (position : Int) : Option String :=
  Id.run (p.documentationIn (.plain Id) eval line position)

@[inherit_doc shortDocumentationIn]
def shortDocumentation (line : List Char) (position : Int) : Option String :=
  Id.run (p.shortDocumentationIn (.plain Id) eval line position)

@[inherit_doc locateIn]
def locate (line : List Char) (position : Int) : Option Location :=
  Id.run (p.locateIn eval line position)

end Answers

end Program

end ReplEngine
