import ReplEngine.Program.Symbol
import ReplEngine.Pattern.Match
import ReplEngine.Pattern.Reader

/-!
# Sources of symbols

Where candidates for completion come from.  A source lists symbols, completes a
prefix, and searches by patterns; sources in a row answer one after the other.
-/

namespace ReplEngine

/-- The lists of names. -/
inductive NameList where
  | variableNames
  | functions
  | constants
  | keywords
  | classNames
  | constructors
  | interfaces
  | traits
deriving Repr, DecidableEq

namespace NameList

/-- The role of the names of a list. -/
def role : NameList → Role
  | variableNames => .variableName
  | functions => .function
  | constants => .constant
  | keywords => .keyword
  | classNames => .className
  | constructors => .construction
  | interfaces => .interface
  | traits => .trait

/-- The names of a list; some may stand in it twice. -/
def names (p : Program) : NameList → Except Error (List String)
  | variableNames => .ok (visibleNames (p.scope.map (·.1)) ++ p.globalNames)
  | functions => .ok p.callables
  | constants => .ok p.constants
  | keywords => .ok Program.keywords
  | classNames | constructors => p.declaredTypes
  | interfaces => p.declaredInterfaces
  | traits => p.declaredTraits

end NameList

/-- The groups of members. -/
inductive MemberGroup where
  | methods
  | properties
  | staticMethods
  | staticProperties
  | classConstants
deriving Repr, DecidableEq

namespace MemberGroup

/-- Which members a group is taken from. -/
def visibility : MemberGroup → Visibility
  | methods | properties => .instanceLevel
  | _ => .staticLevel

/-- Whether a kind of member belongs to a group. -/
def includes : MemberGroup → MemberKind → Bool
  | methods, k => k == .method || k == .staticMethod || k == .function || k == .classType
  | properties, k =>
    k == .property || k == .staticProperty || k == .classConstant || k == .module
  | staticMethods, k => k == .staticMethod
  | staticProperties, k => k == .staticProperty || k == .classType
  | classConstants, k => k == .classConstant

/-- Whether the case of letters matters in a group. -/
def isCaseSensitive : MemberGroup → Bool
  | methods | staticMethods => false
  | _ => true

/-- The members of a group. -/
def members (p : Program) (g : MemberGroup) (context : Entity) (showPrivate inherited : Bool) :
    List Member :=
  (p.membersOf context g.visibility showPrivate inherited).filter fun m => g.includes m.kind

end MemberGroup

/-- The members that all classes of a program declare, by group. -/
inductive Aggregate where
  | methods
  | properties
  | staticProperties
  | classConstants
deriving Repr, DecidableEq

/-- The group that an aggregate is made of. -/
def Aggregate.group : Aggregate → MemberGroup
  | .methods => .methods
  | .properties => .properties
  | .staticProperties => .staticProperties
  | .classConstants => .classConstants

/-- What members have in common that are one symbol: name, kind, and for methods the
signature. -/
structure GroupKey where
  name : String
  kind : MemberKind
  signature : Option (Option String) := none
deriving Repr, DecidableEq

/-- The key of a member in an aggregate. -/
def Aggregate.keyIn {n o : Type → Type} [Monad n] (inquiry : Inquiry n o) (p : Program)
    (a : Aggregate) (m : Member) : n GroupKey :=
  match a with
  | .methods => do
    return { name := m.name, kind := m.kind,
             signature := some (← p.signatureIn inquiry m.value (-1)) }
  | _ => pure { name := m.name, kind := m.kind }

@[inherit_doc Aggregate.keyIn]
def Aggregate.keyOf (p : Program) (a : Aggregate) (m : Member) : Except Error GroupKey :=
  a.keyIn (.plain Id) p m

theorem Aggregate.keyOf_methods (p : Program) (m : Member) :
    keyOf p .methods m = do
      return { name := m.name, kind := m.kind, signature := some (← p.signature? m.value (-1)) } :=
  rfl

/-- Adds an item behind those of the same key, or as a new group at the end. -/
def insertGrouped {κ α : Type} [BEq κ] (groups : List (κ × List α)) (key : κ) (item : α) :
    List (κ × List α) :=
  match groups with
  | [] => [(key, [item])]
  | (k, items) :: rest =>
    if k == key then (k, items ++ [item]) :: rest else (k, items) :: insertGrouped rest key item

/-- The symbol of a group of members. -/
def symbolOfGroup : List Member → Option Symbol
  | [] => none
  | [m] => some (.single (.member m))
  | m :: rest => some (.group (.member m) (rest.map Candidate.member))

namespace Program

/-- The members that the classes of some names themselves declare, class by class.  A name that
stands for nothing has none. -/
def declaredBy (p : Program) (g : MemberGroup) (names : List String) : List Member :=
  (names.filterMap p.resolve?).flatMap fun e => g.members p e false false

section Describing

variable {n m : Type → Type} [Monad n] (inquiry : Inquiry n m) (p : Program)

/-- The members of a group over all classes, one symbol for those that have the same key. -/
def groupedSymbolsIn {κ : Type} [BEq κ] (g : MemberGroup) (keyOf : Member → n κ) :
    n (List Symbol) := do
  let members := p.declaredBy g (← inquiry.lift p.declaredTypes)
  let keyed ← members.mapM fun m => do return (← keyOf m, m)
  let groups := keyed.foldl (fun groups e => insertGrouped groups e.1 e.2) []
  return groups.filterMap fun group => symbolOfGroup group.2

/-- The symbols of an aggregate.  Data of classes is left to the static aggregates. -/
def aggregateSymbolsIn (a : Aggregate) : n (List Symbol) := do
  let symbols ← p.groupedSymbolsIn inquiry a.group (a.keyIn inquiry p)
  return match a with
    | .properties => symbols.filter fun s => s.kind == MemberKind.property.name
    | _ => symbols

end Describing

@[inherit_doc groupedSymbolsIn]
def groupedSymbols {κ : Type} [BEq κ] (p : Program) (g : MemberGroup)
    (keyOf : Member → Except Error κ) : Except Error (List Symbol) :=
  p.groupedSymbolsIn (.plain Id) g keyOf

@[inherit_doc aggregateSymbolsIn]
def aggregateSymbols (p : Program) (a : Aggregate) : Except Error (List Symbol) :=
  p.aggregateSymbolsIn (.plain Id) a

theorem aggregateSymbols_eq (p : Program) (a : Aggregate) :
    p.aggregateSymbols a = do
      let symbols ← p.groupedSymbols a.group (a.keyOf p)
      return match a with
        | .properties => symbols.filter fun s => s.kind == MemberKind.property.name
        | _ => symbols :=
  rfl

end Program

/-- A source of symbols. -/
inductive Source where
  | nothing
  | named (list : NameList)
  | members (group : MemberGroup) (context : Entity) (inherited : Bool)
  | aggregate (a : Aggregate)

namespace Source

/-- Whether the case of letters matters in a source. -/
def isCaseSensitive : Source → Bool
  | nothing => false
  | named list => list == .constants
  | members group _ _ => group.isCaseSensitive
  | aggregate a => a.group.isCaseSensitive

/-- The symbols of a source; private names are listed on demand, those of
aggregates never. -/
def symbolsIn {n m : Type → Type} [Monad n] (inquiry : Inquiry n m) (p : Program)
    (showPrivate : Bool) : Source → n (List Symbol)
  | nothing => pure []
  | named list => do
    let names := (← inquiry.lift (list.names p)).eraseDups.filter fun n =>
      showPrivate || !isPrivate n
    return names.map fun n => .single (.named list.role n)
  | members group context inherited =>
    pure ((group.members p context showPrivate inherited).map fun m => .single (.member m))
  | aggregate a => p.aggregateSymbolsIn inquiry a

@[inherit_doc symbolsIn]
def symbols (p : Program) (showPrivate : Bool) (s : Source) : Except Error (List Symbol) :=
  s.symbolsIn (.plain Id) p showPrivate

theorem symbols_aggregate (p : Program) (showPrivate : Bool) (a : Aggregate) :
    (aggregate a).symbols p showPrivate = p.aggregateSymbols a :=
  rfl

end Source

/-- Whether a name starts with a prefix. -/
def completesTo (caseSensitive : Bool) (lead name : String) : Bool :=
  if caseSensitive then Text.startsWith lead name
  else Text.startsWith (Text.lowerString lead) (Text.lowerString name)

/-- The symbols of a source that complete a prefix.  A private prefix reveals private
names. -/
def Source.completions (p : Program) (lead : String) (s : Source) : Except Error (List Symbol) := do
  return (← s.symbols p (isPrivate lead)).filter fun symbol =>
    completesTo s.isCaseSensitive lead symbol.name

/-- The pattern that a value is. -/
def patternOf (v : Value) : Except Error Pattern.Compiled :=
  match v.unhashable?, v.str? with
  | some typeName, _ => .error (.unhashable typeName)
  | none, some source => Pattern.compile source { fold := true }
  | none, none => .error .notAPattern

/-- The patterns of a search: one, or a list of which all have to match; nothing
matches everything. -/
def searchPatterns (query : Value) : Except Error (List Pattern.Compiled) :=
  if query.isTruthy then
    match query.plain with
    | .str _ => do return [← patternOf query]
    | .list terms | .tuple terms => terms.mapM patternOf
    | .namedTuple _ fields => fields.mapM fun f => patternOf f.2
    | _ => .error .notASearch
  else .ok []

/-- The symbols whose text matches a search. -/
def searched (query : Value) (symbols : List Symbol) : Except Error (List Symbol) := do
  let patterns ← searchPatterns query
  return symbols.filter fun s => patterns.all fun pattern => pattern.occursIn s.text.toList

/-- The public symbols of a source that match a search. -/
def Source.searchIn {n m : Type → Type} [Monad n] (inquiry : Inquiry n m) (p : Program)
    (query : Value) (s : Source) : n (List Symbol) := do
  inquiry.lift (searched query (← s.symbolsIn inquiry p false))

@[inherit_doc Source.searchIn]
def Source.search (p : Program) (query : Value) (s : Source) : Except Error (List Symbol) :=
  s.searchIn (.plain Id) p query

/-- Sources in a row. -/
abbrev Sources := List Source

namespace Sources

/-- The symbols of all sources. -/
def symbols (p : Program) (showPrivate : Bool) (sources : Sources) :
    Except Error (List Symbol) := do
  return (← sources.mapM (Source.symbols p showPrivate)).flatten

/-- The completions of all sources. -/
def completions (p : Program) (lead : String) (sources : Sources) : Except Error (List Symbol) := do
  return (← sources.mapM (Source.completions p lead)).flatten

/-- The symbols of all sources that match a search. -/
def searchIn {n m : Type → Type} [Monad n] (inquiry : Inquiry n m) (p : Program) (query : Value)
    (sources : Sources) : n (List Symbol) := do
  return (← sources.mapM (Source.searchIn inquiry p query)).flatten

@[inherit_doc searchIn]
def search (p : Program) (query : Value) (sources : Sources) : Except Error (List Symbol) :=
  sources.searchIn (.plain Id) p query

/-- The names that can start an expression. -/
def bareNames : Sources :=
  [.named .keywords, .named .variableNames, .named .constants, .named .functions,
   .named .classNames, .named .interfaces]

/-- The members of an instance or a module. -/
def membersOf (context : Entity) : Sources :=
  [.members .methods context true, .members .properties context true]

/-- The members that are reached through a class. -/
def staticMembersOf (context : Entity) : Sources :=
  [.members .staticMethods context true, .members .staticProperties context true,
   .members .classConstants context true]

/-- The members of all classes. -/
def allMembers : Sources :=
  [.aggregate .methods, .aggregate .properties, .aggregate .staticProperties,
   .aggregate .classConstants]

/-- All symbols of a program. -/
def allSymbols : Sources :=
  allMembers ++ [.named .variableNames, .named .functions, .named .constants, .named .keywords,
    .named .classNames, .named .interfaces]

/-- The source of a kind of symbols. -/
def ofKindName : String → Sources
  | "variable" => [.named .variableNames]
  | "function" => [.named .functions]
  | "constant" => [.named .constants]
  | "keyword" => [.named .keywords]
  | "class" => [.named .classNames]
  | "interface" => [.named .interfaces]
  | "trait" => [.named .traits]
  | "method" => [.aggregate .methods]
  | "property" => [.aggregate .properties]
  | "staticproperty" => [.aggregate .staticProperties]
  | "classconstant" => [.aggregate .classConstants]
  | _ => [.nothing]

mutual

/-- The sources that a value asks for: the kind of a name, the kinds of a list, or all
symbols if it is nothing. -/
def ofKind : Value → Except Error Sources
  | .list [] | .tuple [] => .ok allSymbols
  | .list (kind :: kinds) | .tuple (kind :: kinds) => do
    return (← ofKind kind) ++ (← ofKinds kinds)
  | kind =>
    if !kind.isTruthy then .ok allSymbols
    else
      match kind.unhashable?, kind.str? with
      | some typeName, _ => .error (.unhashable typeName)
      | none, some name => .ok (ofKindName name)
      | none, none => .ok [.nothing]

/-- The sources that the items of a list ask for. -/
def ofKinds : List Value → Except Error Sources
  | [] => .ok []
  | kind :: kinds => do return (← ofKind kind) ++ (← ofKinds kinds)

end

/-- The sources of a name of a class of sources, for a context. -/
def ofClassName (name : String) (context : Entity) (inherited : Bool) : Except Error Sources :=
  match name with
  | "NoSource" => .ok [.nothing]
  | "Variables" => .ok [.named .variableNames]
  | "Functions" => .ok [.named .functions]
  | "Constants" => .ok [.named .constants]
  | "Keywords" => .ok [.named .keywords]
  | "ClassNames" => .ok [.named .classNames]
  | "ClassConstructors" => .ok [.named .constructors]
  | "Interfaces" => .ok [.named .interfaces]
  | "Traits" => .ok [.named .traits]
  | "Methods" => .ok [.members .methods context inherited]
  | "Properties" => .ok [.members .properties context inherited]
  | "StaticMethods" => .ok [.members .staticMethods context inherited]
  | "StaticProperties" => .ok [.members .staticProperties context inherited]
  | "ClassConstants" => .ok [.members .classConstants context inherited]
  | "MemberSource" => .ok [.nothing]
  | "BareNames" => .ok bareNames
  | "Members" => .ok (membersOf context)
  | "StaticMembers" => .ok (staticMembersOf context)
  | "AllMethods" => .ok [.aggregate .methods]
  | "AllProperties" => .ok [.aggregate .properties]
  | "AllStaticProperties" => .ok [.aggregate .staticProperties]
  | "AllClassConstants" => .ok [.aggregate .classConstants]
  | "AllMembers" => .ok allMembers
  | "AllSymbols" => .ok allSymbols
  | _ => .error .notImplemented

end Sources

end ReplEngine
