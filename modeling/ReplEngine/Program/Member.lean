import ReplEngine.Program.Names

/-!
# Members

The attributes of classes, instances and modules as completion lists them: each name
once, from the class that comes first in the lineage.
-/

namespace ReplEngine

/-- What a member is. -/
inductive MemberKind where
  | function
  | classType
  | module
  | method
  | staticMethod
  | property
  | staticProperty
  | classConstant
deriving Repr, DecidableEq

/-- The word for a kind of member. -/
def MemberKind.name : MemberKind → String
  | .function => "function"
  | .classType => "class"
  | .module => "module"
  | .method => "method"
  | .staticMethod => "static method"
  | .property => "property"
  | .staticProperty => "static property"
  | .classConstant => "class constant"

/-- Whether a member is reached through the class alone. -/
def MemberKind.isStatic : MemberKind → Bool
  | .staticMethod | .staticProperty | .classConstant | .classType => true
  | _ => false

/-- A member: its name and kind, who declares it, what it is, and whether it is
completed as a call. -/
structure Member where
  name : String
  kind : MemberKind
  owner : Value
  value : Entity
  isCallable : Bool := false

/-- Which members of a class are listed. -/
inductive Visibility where
  /-- Those of the class, and the attributes of the instance itself. -/
  | instanceLevel
  /-- Those that are reached through the class alone. -/
  | staticLevel
  /-- Those of the class. -/
  | classLevel
deriving Repr, DecidableEq

namespace Program

/-- The member that an entry of a class is. -/
def classify (p : Program) (owner : ClassRef) (name : String) (raw : Entity) : Member :=
  let ownerName := Value.str (p.qualifiedName owner)
  match raw with
  | .static function | .classLevel function =>
    ⟨name, .staticMethod, ownerName, .object function, true⟩
  | raw =>
    if p.isType raw then ⟨name, .classType, ownerName, raw, true⟩
    else if p.isDataDescriptor raw then ⟨name, .property, ownerName, raw, false⟩
    else if p.isMethodLike raw then ⟨name, .method, ownerName, raw, true⟩
    else if isConstantName name then ⟨name, .classConstant, ownerName, raw, false⟩
    else ⟨name, .staticProperty, ownerName, raw, false⟩

/-- The member that an entry of a module is. -/
def moduleMember (p : Program) (owner : Value) (name : String) (value : Entity) : Member :=
  if p.isType value then ⟨name, .classType, owner, value, true⟩
  else if (p.module? value).isSome then ⟨name, .module, owner, value, false⟩
  else if p.isCallable value then ⟨name, .function, owner, value, true⟩
  else ⟨name, .property, owner, value, false⟩

/-- All entries along a lineage, with the class that has each. -/
def lineageEntries (p : Program) (classes : List ClassRef) : List (ClassRef × String × Entity) :=
  classes.flatMap fun c => (p.entriesOf c).map fun e => (c, e.1, e.2)

/-- The entries whose name did not come before, given the names `seen`. -/
def firstOccurrences (seen : List String) :
    List (ClassRef × String × Entity) → List (ClassRef × String × Entity)
  | [] => []
  | (c, name, e) :: rest =>
    if seen.contains name then firstOccurrences seen rest
    else (c, name, e) :: firstOccurrences (name :: seen) rest

/-- The members of a class, each from the first class of the lineage that has it. -/
def classMembers (p : Program) (classes : List ClassRef) : List Member :=
  (firstOccurrences [] (p.lineageEntries classes)).map fun (c, name, e) => p.classify c name e

/-- The attributes of an instance that no class of its lineage has. -/
def ownMembers (p : Program) (cls : ObjectId) (listed : List Member)
    (attributes : List (String × Entity)) : List Member :=
  (attributes.filter fun a => !listed.any fun m => m.name == a.1).map fun (name, value) =>
    ⟨name, .property, .str (p.qualifiedName (.declared cls)), value, false⟩

/-- The members of an entity.  Names are told apart before private ones and those of
other visibility are left out, so that a hidden member still hides an inherited one. -/
def membersOf (p : Program) (context : Entity) (visibility : Visibility) (showPrivate : Bool)
    (inherited : Bool) : List Member :=
  let isShown (m : Member) : Bool := showPrivate || !isPrivate m.name
  match p.module? context with
  | some info =>
    let owner := moduleName info
    ((moduleEntries info).map fun (name, value) => p.moduleMember owner name value).filter isShown
  | none =>
    let lineageFor (id : ObjectId) : List ClassRef :=
      if inherited then p.lineage id else [.declared id]
    let isVisible (m : Member) : Bool := visibility != .staticLevel || m.kind.isStatic
    match p.classId? context, p.typed? context with
    | some id, _ => (p.classMembers (lineageFor id)).filter fun m => isShown m && isVisible m
    | none, some (cls, attributes) =>
      let listed := p.classMembers (lineageFor cls)
      let own := if visibility == .instanceLevel then p.ownMembers cls listed attributes else []
      (listed.filter fun m => isShown m && isVisible m) ++ own.filter isShown
    | none, none => []

end Program

end ReplEngine
