import ReplEngine.Program.Basic

/-!
# Lineages

The ancestors of a class in the order in which attributes are looked up: each class
before its bases, bases in their order, and the lineages of all bases kept in order.
-/

namespace ReplEngine

/-- A class as a member of a lineage: one of the program, or one of those the
language provides. -/
inductive ClassRef where
  | declared (id : ObjectId)
  | protocol
  | generic
  | root
deriving Repr, DecidableEq

namespace Program

/-- The head of a list that stands in no tail of any list. -/
def nextAncestor? (lists : List (List ClassRef)) : Option ClassRef :=
  lists.findSome? fun list =>
    match list with
    | [] => none
    | c :: _ => if lists.any fun other => other.tail.contains c then none else some c

/-- Merges lineages: each time the first class that no list still holds behind
another one.  `fuel` bounds the length of the result. -/
def mergeLineages : (fuel : Nat) → List (List ClassRef) → List ClassRef
  | 0, _ => []
  | fuel + 1, lists =>
    match nextAncestor? lists with
    | none => []
    | some c =>
      c :: mergeLineages fuel (lists.map fun list =>
        if list.head? == some c then list.tail else list)

/-- The bases of a class; one without bases extends the root. -/
def basesOf (info : ClassInfo) : List ClassRef :=
  let bases := info.bases.map ClassRef.declared ++
    (if info.flavor == .protocol then [.protocol] else [])
  if bases.isEmpty then [.root] else bases

/-- The lineage of a class that the language provides. -/
def providedLineage : ClassRef → List ClassRef
  | .protocol => [.protocol, .generic, .root]
  | .generic => [.generic, .root]
  | _ => [.root]

/-- The lineage of a class among objects, the latest first; bases come earlier. -/
def lineageIn : List (ObjectId × ProgramObject) → ObjectId → List ClassRef
  | [], _ => []
  | (name, object) :: earlier, id =>
    if name == id then
      match object with
      | .classObject info =>
        let bases := basesOf info
        let lineages := bases.map fun base =>
          match base with
          | .declared b => lineageIn earlier b
          | provided => providedLineage provided
        let lists := lineages ++ [bases]
        .declared id :: mergeLineages lists.flatten.length lists
      | _ => []
    else lineageIn earlier id

/-- The lineage of a class, itself first. -/
def lineage (p : Program) (id : ObjectId) : List ClassRef :=
  lineageIn p.objects.reverse id

/-- The classes of the program in the lineage of a class. -/
def declaredLineage (p : Program) (id : ObjectId) : List (ObjectId × ClassInfo) :=
  (p.lineage id).filterMap fun c =>
    match c with
    | .declared d => (p.class? d).map fun info => (d, info)
    | _ => none

/-- The name of a class with its module, unless that is the main or the built-in
one. -/
def qualifiedName (p : Program) : ClassRef → String
  | .declared id =>
    match p.class? id with
    | none => ""
    | some info =>
      if info.home == "builtins" || info.home == "__main__" then info.qualname
      else info.home ++ "." ++ info.qualname
  | .protocol => "typing.Protocol"
  | .generic => "typing.Generic"
  | .root => "object"

/-- Whether a class can be abstract: some class of its lineage brought that in. -/
def canBeAbstract (p : Program) (id : ObjectId) : Bool :=
  (p.declaredLineage id).any fun c => c.2.flavor != .plain

/-- The first attribute of a name along a lineage, with the class that has it. -/
def firstAttribute? (name : String) (classes : List (ObjectId × ClassInfo)) :
    Option (ObjectId × Attribute) :=
  classes.findSome? fun c => (lookup? name c.2.attributes).map fun a => (c.1, a)

/-- The names of the abstract functions of a class that nothing overrides. -/
def abstractNames (p : Program) (id : ObjectId) : List String :=
  if p.canBeAbstract id then
    let classes := p.declaredLineage id
    let names := (classes.flatMap fun c => c.2.attributes.map (·.1)).eraseDups
    names.filter fun name =>
      match firstAttribute? name classes with
      | some (owner, a) => a.isAbstract && (owner == id || p.canBeAbstract owner)
      | none => false
  else []

/-- Whether a class is an interface: it is abstract or describes a protocol. -/
def isInterface (p : Program) (id : ObjectId) : Bool :=
  !(p.abstractNames id).isEmpty ||
    match p.class? id with
    | some info => info.flavor == .protocol
    | none => false

/-- The classes that have a class among their bases. -/
def directSubclasses (p : Program) (id : ObjectId) : List ObjectId :=
  p.objects.filterMap fun (name, object) =>
    match object with
    | .classObject info => if info.bases.contains id then some name else none
    | _ => none

/-- Whether a class counts as a subclass of another one: by its lineage, by
registration, or through a subclass of the other one.  Protocols cannot be tested,
which answers nothing.  `fuel` bounds the steps from class to class. -/
def countsAsSubclass? (p : Program) : (fuel : Nat) → ObjectId → ObjectId → Option Bool
  | 0, _, _ => some false
  | fuel + 1, id, other =>
    match p.class? other with
    | none => some false
    | some info =>
      if info.flavor == .protocol then none
      else if (p.lineage id).contains (.declared other) then some true
      else if p.canBeAbstract other then
        (info.registered ++ p.directSubclasses other).foldlM
          (fun found next => if found then some true else countsAsSubclass? p fuel id next) false
      else some false

end Program

end ReplEngine
