import ReplEngine.Program.Names
import ReplEngine.Text.LetterCase

/-!
# Relations between classes

Whether a class extends, uses or implements another one that is known by a name or by
the end of a dotted name.
-/

namespace ReplEngine

/-- A relation between classes. -/
inductive Relation where
  /-- The other class is in the lineage. -/
  | extends
  /-- The other class is a base. -/
  | uses
  /-- The other class is an interface that this one counts as a subclass of. -/
  | implements
deriving Repr, DecidableEq

/-- The relation of a name. -/
def Relation.ofName? : String → Option Relation
  | "extends" => some .extends
  | "uses" => some .uses
  | "implements" => some .implements
  | _ => none

/-- Whether a name is one of the given ones or stands behind a dot at the end of one,
whatever the case of the letters. -/
def nameMatches (subjects : List String) (name : String) : Bool :=
  let wanted := Text.lowerString name
  subjects.any fun subject =>
    let lowered := Text.lowerString subject
    lowered == wanted || Text.endsWith ("." ++ wanted) lowered

namespace Program

/-- The names of a class, its qualified name last. -/
def namesOf (p : Program) (types : List (String × ObjectId)) (c : ClassRef) : List String :=
  (types.filter fun t => ClassRef.declared t.2 == c).map (·.1) ++ [p.qualifiedName c]

/-- Whether the class of a name stands in a relation to one that is known as
`candidate`. -/
def isRelated (p : Program) (typeName candidate relation : String) : Except Error Bool := do
  let types ← p.types
  match ← p.typeNamed? typeName with
  | none => return false
  | some id =>
    let isCandidate (c : ClassRef) : Bool := nameMatches (p.namesOf types c) candidate
    match Relation.ofName? relation with
    | none => throw (.unknownRelation relation)
    | some .extends => return (p.lineage id).any isCandidate
    | some .uses => return (((p.class? id).map basesOf).getD []).any isCandidate
    | some .implements =>
      return types.any fun (name, interface) =>
        p.isInterface interface && nameMatches [name] candidate && interface != id &&
          p.countsAsSubclass? (p.objects.length + 1) id interface == some true

/-- The qualified name of the first base of a class that is not the root. -/
def parent? (p : Program) (typeName : String) : Except Error (Option String) := do
  match ← p.typeNamed? typeName with
  | none => return none
  | some id =>
    let bases := ((p.class? id).map basesOf).getD []
    return (bases.find? fun b => b != .root).map p.qualifiedName

end Program

end ReplEngine
