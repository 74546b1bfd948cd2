import ReplEngine.Value.Basic

/-!
# Programs

What completion and lookup see of a running program: its objects, and the names
of its scope, its built-in scope and its main module.  Seeing them runs no code of the
program.
-/

namespace ReplEngine

/-- The name by which objects of a program refer to one another. -/
abbrev ObjectId := String

/-- How an argument reaches a parameter. -/
inductive ParamKind where
  | positionalOnly
  | positional
  | keywordOnly
  /-- Takes all further positional arguments. -/
  | variadic
  /-- Takes all further keyword arguments. -/
  | keywords
deriving Repr, DecidableEq

/-- What a parameter is when a call leaves it out. -/
inductive Default where
  /-- Plain data. -/
  | data (v : Value)
  /-- An object of the running program, by its number.  It describes itself, by code of its
  own. -/
  | object (number : Nat)

/-- A parameter of a function. -/
structure Param where
  name : String
  kind : ParamKind := .positional
  default : Option Default := none

/-- What a name, or an entry of a namespace, stands for. -/
inductive Entity where
  /-- An object of the program. -/
  | object (id : ObjectId)
  /-- Plain data. -/
  | value (v : Value)
  /-- A function that is reached without an instance. -/
  | static (function : ObjectId)
  /-- A function that is reached with the class. -/
  | classLevel (function : ObjectId)
  /-- A computed attribute and the function that computes it. -/
  | property (getter : Option ObjectId)
  /-- A storage place that a class gives to its instances. -/
  | slot (owner : ObjectId) (name : String) (doc : Option String)
  /-- A member of the class that all classes extend. -/
  | rootMember (name : String)
deriving Inhabited

/-- An entry of the namespace of a class; an abstract one waits to be overridden. -/
structure Attribute where
  entity : Entity
  isAbstract : Bool := false

/-- A function of the program. -/
structure FunctionInfo where
  name : String
  params : List Param
  doc : Option String := none
  file : String
  /-- A number of the machine. -/
  line : Int32

/-- The functions that the language itself provides. -/
inductive Primitive where
  | length
  | maximum
deriving Repr, DecidableEq

/-- How a class takes part in interfaces. -/
inductive Flavor where
  | plain
  /-- The class can be abstract and can have virtual subclasses. -/
  | abstract
  /-- The class describes a protocol. -/
  | protocol
deriving Repr, DecidableEq

/-- A class of the program. -/
structure ClassInfo where
  name : String
  qualname : String
  /-- The name of the module that the class belongs to. -/
  home : String
  bases : List ObjectId := []
  doc : Option String := none
  flavor : Flavor := .plain
  slots : Option (List String) := none
  attributes : List (String × Attribute) := []
  /-- The virtual subclasses. -/
  registered : List ObjectId := []

/-- A module of the program. -/
structure ModuleInfo where
  name : String
  doc : Option String := none
  file : Option String := none
  attributes : List (String × Entity) := []

/-- An object of a program. -/
inductive ProgramObject where
  | function (info : FunctionInfo)
  | primitive (which : Primitive)
  | classObject (info : ClassInfo)
  /-- An instance of a class, with its own attributes. -/
  | instanceOf (cls : ObjectId) (attributes : List (String × Entity))
  | moduleObject (info : ModuleInfo)

/-- A program, its objects in the order in which they came to be. -/
structure Program where
  objects : List (ObjectId × ProgramObject) := []
  scope : List (String × Entity) := []
  builtins : List (String × Entity) := []
  /-- The names of the main module, if there is one. -/
  main : Option (List String) := none
  /-- The classes of plain data, of functions and of the like, by their names, as far as they are
  among the objects. -/
  plainClasses : List (String × ObjectId) := []
  /-- The entries of the class that protocols extend. -/
  protocolEntries : List (String × Entity) := []
  /-- The entries of the class that generic classes extend. -/
  genericEntries : List (String × Entity) := []

/-- Finds the value of a key. -/
def lookup? {α : Type} (key : String) (entries : List (String × α)) : Option α :=
  (entries.find? fun e => e.1 == key).map (·.2)

/-- Binds a key: a new one goes to the end, a known one keeps its place. -/
def bindEntry {α : Type} (entries : List (String × α)) (key : String) (value : α) :
    List (String × α) :=
  match entries with
  | [] => [(key, value)]
  | (k, v) :: rest =>
    if k == key then (k, value) :: rest else (k, v) :: bindEntry rest key value

/-- Binds many keys in order. -/
def bindEntries {α : Type} (entries more : List (String × α)) : List (String × α) :=
  more.foldl (fun acc e => bindEntry acc e.1 e.2) entries

namespace Program

/-- The object of an id. -/
def object? (p : Program) (id : ObjectId) : Option ProgramObject :=
  lookup? id p.objects

/-- The class of an id. -/
def class? (p : Program) (id : ObjectId) : Option ClassInfo :=
  match p.object? id with
  | some (.classObject info) => some info
  | _ => none

/-- Whether an entity is a class. -/
def isType (p : Program) : Entity → Bool
  | .object id => (p.class? id).isSome
  | .value (.classType _ _ _) => true
  | _ => false

/-- The module that an entity is. -/
def module? (p : Program) : Entity → Option ModuleInfo
  | .object id =>
    match p.object? id with
    | some (.moduleObject info) => some info
    | _ => none
  | _ => none

/-- Reaches the function behind a method wrapper or a computed attribute. -/
def unwrap : Entity → Entity
  | .static function | .classLevel function => .object function
  | .property (some getter) => .object getter
  | .property none => .value .none
  | e => e

end Program

/-- Names that start with an underscore are private. -/
def isPrivate (name : String) : Bool :=
  name.toList.head? == some '_'

/-- Entries of a namespace that serve its bookkeeping and are never shown. -/
def hiddenNames : List String :=
  ["__builtins__", "__name__", "__doc__", "__package__", "__loader__", "__spec__"]

/-- The names that are shown. -/
def visibleNames (names : List String) : List String :=
  names.filter fun name => !hiddenNames.contains name

end ReplEngine
