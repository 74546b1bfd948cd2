import ReplEngine.Program.Member
import ReplEngine.Program.Documentation
import ReplEngine.Program.Relation

/-!
# Symbols

A symbol is a candidate for completion: a name with a role, a member of an object, or
several members that share a name.  Its text is what completion inserts, and its
annotation what the program tells about it.
-/

namespace ReplEngine

/-- The role of a name. -/
inductive Role where
  | plain
  | variableName
  | constant
  | keyword
  | function
  | className
  | interface
  /-- A class that is mixed into others. -/
  | trait
  /-- A class that is completed as a call. -/
  | construction
deriving Repr, DecidableEq

namespace Role

/-- The word for the kind of a name in this role. -/
def kind : Role → String
  | plain => ""
  | variableName => "variable"
  | constant => "constant"
  | keyword => "keyword"
  | function => "function"
  | className | trait | construction => "class"
  | interface => "interface"

/-- The word for symbols of this role. -/
def label : Role → String
  | plain => "Symbol"
  | variableName => "Variable"
  | constant => "Constant"
  | keyword => "Keyword"
  | function => "FunctionName"
  | className => "ClassName"
  | interface => "InterfaceName"
  | trait => "TraitName"
  | construction => "ClassConstructor"

/-- All roles. -/
def all : List Role :=
  [plain, variableName, constant, keyword, function, className, interface, trait, construction]

/-- Whether the name is completed with an opening bracket. -/
def isCall : Role → Bool
  | function | construction => true
  | _ => false

end Role

/-- What the program tells about a symbol, by name. -/
abbrev Annotation := List (String × Value)

/-- An annotation as a value. -/
def Annotation.toValue (a : Annotation) : Value :=
  .dict (a.map fun (key, value) => (.str key, value))

/-- A name with a role, or a member of an object. -/
inductive Candidate where
  | named (role : Role) (name : String)
  | member (m : Member)

namespace Candidate

/-- The name of a candidate. -/
def name : Candidate → String
  | named _ name => name
  | member m => m.name

/-- What completion inserts for a candidate. -/
def text : Candidate → String
  | named role name => if role.isCall then name ++ "(" else name
  | member m => if m.isCallable then m.name ++ "(" else m.name

/-- The word for the kind of a candidate. -/
def kind : Candidate → String
  | named role _ => role.kind
  | member m => m.kind.name

/-- The word for candidates of this sort. -/
def label : Candidate → String
  | named role _ => role.label
  | member _ => "MemberSymbol"

/-- What every candidate tells. -/
def basics (c : Candidate) : Annotation :=
  [("name", .str c.text), ("kind", .str c.kind)]

end Candidate

namespace Program

/-- A text or nothing. -/
def textOrNone : Option String → Value
  | some text => .str text
  | none => .none

/-- Where an entity was written, if that is known. -/
def tellLocation (p : Program) (e : Entity) : Annotation :=
  match p.location? e with
  | none => []
  | some l => [("file", .str l.file), ("line", (l.line.map fun n => .int n.toInt).getD .none)]

/-- The first line of the documentation of an entity. -/
def tellDoc (p : Program) (e : Entity) : Annotation :=
  [("description", textOrNone ((p.doc? e).bind firstLine?))]

/-- The parent of a class. -/
def tellParent (p : Program) (name : String) : Except Error Annotation := do
  match ← p.parent? name with
  | some parent => if parent.isEmpty then return [] else return [("parent", .str parent)]
  | none => return []

/-- The entity of a name, unless it is nothing. -/
def something? (p : Program) (name : String) : Option Entity :=
  match p.resolve? name with
  | some (.value .none) => none
  | found => found

/-- The documentation of what makes the instances of a class, if the class brings
its own. -/
def tellInitializer (p : Program) (e : Entity) : Annotation :=
  match (p.classId? e).bind p.initializer? with
  | none | some (some (.value .none)) => []
  | some none => [("description", .none)]
  | some (some entry) => p.tellDoc entry

section Describing

variable {n m : Type → Type} [Monad n] (inquiry : Inquiry n m) (p : Program)

/-- The parameters of an entity. -/
def tellSignatureIn (e : Entity) : n Annotation := do
  return [("arguments", .str ((← p.signatureIn inquiry e (-1)).getD ""))]

/-- What a program tells about a name. -/
def annotateNameIn (role : Role) (name : String) : n Annotation :=
  let basics := (Candidate.named role name).basics
  match role, p.something? name with
  | .function, some e => do
    return basics ++ p.tellLocation e ++ p.tellDoc e ++ (← p.tellSignatureIn inquiry e)
  | .className, some e | .interface, some e | .trait, some e => do
    return basics ++ p.tellLocation e ++ p.tellDoc e ++ (← inquiry.lift (p.tellParent name))
  | .construction, some e => do
    let told := basics ++ p.tellLocation e ++ p.tellDoc e ++ (← p.tellSignatureIn inquiry e)
    let isDescribed := match lookup? "description" told with
      | some (.str text) => !text.isEmpty
      | _ => false
    return if isDescribed then told else bindEntries told (p.tellInitializer e)
  | _, _ => pure basics

/-- What a program tells about a member. -/
def annotateMemberIn (m : Member) : n Annotation := do
  let basics := (Candidate.member m).basics
  if m.kind == .classConstant then return basics
  let told ←
    if m.isCallable then
      pure (p.tellDoc m.value ++ p.tellLocation m.value ++ (← p.tellSignatureIn inquiry m.value))
    else if p.isDataDescriptor m.value then pure (p.tellDoc m.value)
    else pure []
  return basics ++ told ++ [("defined_in", m.owner)]

/-- What a program tells about a candidate. -/
def annotateIn : Candidate → n Annotation
  | .named role name => p.annotateNameIn inquiry role name
  | .member m => p.annotateMemberIn inquiry m

end Describing

end Program

/-- A symbol: one candidate, or several that share a name and a kind. -/
inductive Symbol where
  | single (c : Candidate)
  | group (first : Candidate) (rest : List Candidate)

namespace Symbol

/-- The candidates of a symbol. -/
def candidates : Symbol → List Candidate
  | single c => [c]
  | group first rest => first :: rest

/-- The first candidate, which stands for the symbol. -/
def first : Symbol → Candidate
  | single c => c
  | group first _ => first

/-- The name of a symbol. -/
def name (s : Symbol) : String :=
  s.first.name

/-- What completion inserts for a symbol. -/
def text (s : Symbol) : String :=
  s.first.text

/-- The word for the kind of a symbol. -/
def kind (s : Symbol) : String :=
  s.first.kind

/-- A symbol as an expression. -/
def shown (s : Symbol) : String :=
  let label := match s with
    | single c => c.label
    | group _ _ => "MultiSymbol"
  label ++ "(" ++ Text.quoteString s.name ++ ")"

/-- The symbol of several candidates. -/
def ofCandidates : List Candidate → Except Error Symbol
  | [] => .error .emptyGroup
  | c :: rest => .ok (group c rest)

/-- The keys that tell where something comes from. -/
def placeKeys : List String :=
  ["file", "line", "defined_in"]

/-- What a program tells about a symbol.  Without a program only the basics are
known; of several candidates each tells where it comes from. -/
def annotateIn {n m : Type → Type} [Monad n] (inquiry : Inquiry n m) (p : Option Program)
    (s : Symbol) : n Annotation :=
  let tell (c : Candidate) : n Annotation :=
    match p with
    | some p => p.annotateIn inquiry c
    | none => pure c.basics
  match s with
  | single c => tell c
  | group first rest => do
    let shared ← tell first
    let definitions ← (first :: rest).mapM tell
    return (shared.filter fun e => !placeKeys.contains e.1) ++
      [("definitions", .list (definitions.map Annotation.toValue))]

@[inherit_doc annotateIn]
def annotate (p : Option Program) (s : Symbol) : Except Error Annotation :=
  s.annotateIn (.plain Id) p

end Symbol

end ReplEngine
