import ReplEngine.Program.Lineage

/-!
# Namespaces

The entries of classes, modules and instances, and how an attribute is found among
them without running anything.
-/

namespace ReplEngine

/-- What a member of the root class is. -/
inductive RootKind where
  | method
  | property
  | data
deriving Repr, DecidableEq

/-- A member of the class that all classes extend; without parameters its signature
is unknown. -/
structure RootMember where
  name : String
  doc : String
  params : Option (List Param) := none
  kind : RootKind := .method

namespace RootMember

/-- The parameter for the instance. -/
def receiver : Param :=
  { name := "self", kind := .positionalOnly }

/-- A method that takes the instance and the parameters of the given names. -/
def methodOf (name doc : String) (names : List String) : RootMember :=
  { name := name, doc := doc,
    params := some (receiver :: names.map fun n => { name := n, kind := .positionalOnly }) }

/-- The parameters that take any arguments. -/
def anyArguments : List Param :=
  [{ name := "args", kind := .variadic }, { name := "kwargs", kind := .keywords }]

/-- The members of the root class in their order. -/
def all : List RootMember :=
  [{ name := "__new__", params := some anyArguments,
     doc := "Create and return a new object.  See help(type) for accurate signature." },
   methodOf "__repr__" "Return repr(self)." [],
   methodOf "__hash__" "Return hash(self)." [],
   methodOf "__str__" "Return str(self)." [],
   methodOf "__getattribute__" "Return getattr(self, name)." ["name"],
   methodOf "__setattr__" "Implement setattr(self, name, value)." ["name", "value"],
   methodOf "__delattr__" "Implement delattr(self, name)." ["name"],
   methodOf "__lt__" "Return self<value." ["value"],
   methodOf "__le__" "Return self<=value." ["value"],
   methodOf "__eq__" "Return self==value." ["value"],
   methodOf "__ne__" "Return self!=value." ["value"],
   methodOf "__gt__" "Return self>value." ["value"],
   methodOf "__ge__" "Return self>=value." ["value"],
   { name := "__init__", params := some (receiver :: anyArguments),
     doc := "Initialize self.  See help(type(self)) for accurate signature." },
   methodOf "__reduce_ex__" "Helper for pickle." ["protocol"],
   methodOf "__reduce__" "Helper for pickle." [],
   methodOf "__getstate__" "Helper for pickle." [],
   { name := "__subclasshook__",
     doc :=
      "Abstract classes can override this to customize issubclass().\n\n" ++
      "This is invoked early on by abc.ABCMeta.__subclasscheck__().\n" ++
      "It should return True, False or NotImplemented.  If it returns\n" ++
      "NotImplemented, the normal algorithm is used.  Otherwise, it\n" ++
      "overrides the normal algorithm (and the outcome is cached).\n" },
   { name := "__init_subclass__",
     doc :=
      "This method is called when a class is subclassed.\n\n" ++
      "The default implementation does nothing. It may be\n" ++
      "overridden to extend subclasses.\n" },
   methodOf "__format__" "Default object formatter." ["format_spec"],
   methodOf "__sizeof__" "Size of object in memory, in bytes." [],
   methodOf "__dir__" "Default dir() implementation." [],
   { name := "__class__", doc := "the object's class", kind := .property },
   { name := "__doc__", kind := .data, doc :=
      "The base class of the class hierarchy.\n\n" ++
      "When called, it accepts no arguments and returns a new featureless\n" ++
      "instance that has no instance attributes and cannot be given any.\n" }]

/-- The member of a name. -/
def find? (name : String) : Option RootMember :=
  all.find? fun m => m.name == name

/-- What the member of a name is. -/
def kindOf? (name : String) : Option RootKind :=
  (find? name).map (·.kind)

/-- The class of the member of a name. -/
def className (name : String) : String :=
  if name == "__new__" then "builtin_function_or_method"
  else if ["__subclasshook__", "__init_subclass__"].contains name then "classmethod_descriptor"
  else if ["__reduce_ex__", "__reduce__", "__getstate__", "__format__", "__sizeof__",
    "__dir__"].contains name then "method_descriptor"
  else match kindOf? name with
    | some .property => "getset_descriptor"
    | some .data => "str"
    | _ => "wrapper_descriptor"

end RootMember

namespace Program

/-- Whether instances of a class get storage for any attribute with this class: it
declares no slots, and all its ancestors do. -/
def opensInstances (p : Program) (id : ObjectId) (info : ClassInfo) : Bool :=
  info.slots.isNone && (p.declaredLineage id).tail.all fun c => c.2.slots.isSome

/-- Texts in their order by code points. -/
def sortedNames (names : List String) : List String :=
  names.mergeSort fun a b => !(b < a)

/-- The storage places that a class declares for its instances. -/
def slotEntries (id : ObjectId) (info : ClassInfo) : List (String × Entity) :=
  (sortedNames (info.slots.getD [])).map fun name => (name, .slot id name none)

/-- The storage for any attribute, if a class brings it in. -/
def openEntries (p : Program) (id : ObjectId) (info : ClassInfo) : List (String × Entity) :=
  if p.opensInstances id info then
    [("__dict__", .slot id "__dict__" (some "dictionary for instance variables (if defined)")),
     ("__weakref__", .slot id "__weakref__"
        (some "list of weak references to the object (if defined)"))]
  else []

/-- The entries that classes which can be abstract have at the end. -/
def abstractEntries (p : Program) (id : ObjectId) : List (String × Entity) :=
  if p.canBeAbstract id then
    [("__abstractmethods__", .value (.frozenset ((p.abstractNames id).map Value.str))),
     ("_abc_impl", .value (.described "<_abc._abc_data object>"))]
  else []

/-- The entries of a class in their order. -/
def classEntries (p : Program) (id : ObjectId) (info : ClassInfo) : List (String × Entity) :=
  let doc := match info.doc with
    | some text => [("__doc__", Entity.value (.str text))]
    | none => []
  let slots := match info.slots with
    | some names => [("__slots__", Entity.value (.list (names.map Value.str)))]
    | none => []
  let noDoc := match info.doc with
    | some _ => []
    | none => [("__doc__", Entity.value .none)]
  bindEntries []
    ([("__module__", Entity.value (.str info.home))] ++ doc ++ slots
      ++ info.attributes.map (fun a => (a.1, a.2.entity)) ++ slotEntries id info
      ++ p.openEntries id info ++ noDoc ++ p.abstractEntries id)

/-- The entries of a member of a lineage. -/
def entriesOf (p : Program) : ClassRef → List (String × Entity)
  | .declared id =>
    match p.class? id with
    | some info => p.classEntries id info
    | none => []
  | .protocol => p.protocolEntries
  | .generic => p.genericEntries
  | .root => RootMember.all.map fun m => (m.name, .rootMember m.name)

/-- The entries of a module: its bookkeeping, its attributes and its file. -/
def moduleEntries (info : ModuleInfo) : List (String × Entity) :=
  let text (t : Option String) : Entity := .value ((t.map Value.str).getD .none)
  bindEntries []
    ([("__name__", text (some info.name)), ("__doc__", text info.doc),
      ("__package__", .value .none), ("__loader__", .value .none), ("__spec__", .value .none)]
      ++ info.attributes ++ (info.file.map fun f => ("__file__", text (some f))).toList)

/-- The name that a module says it has. -/
def moduleName (info : ModuleInfo) : Value :=
  match lookup? "__name__" (moduleEntries info) with
  | some (.value v) => v
  | _ => .none

/-- Finds an entry along a lineage. -/
def inherited? (p : Program) (id : ObjectId) (name : String) : Option Entity :=
  (p.lineage id).findSome? fun c => lookup? name (p.entriesOf c)

/-- Whether a class or an ancestor in the program has an entry. -/
def defines (p : Program) (id : ObjectId) (name : String) : Bool :=
  (p.declaredLineage id).any fun c => (lookup? name c.2.attributes).isSome

/-- The class of an instance, and the instance's own attributes; what goes to a slot
of the class is not among them. -/
def instance? (p : Program) : Entity → Option (ObjectId × List (String × Entity))
  | .object id =>
    match p.object? id with
    | some (.instanceOf cls attributes) =>
      let slots := ((p.class? cls).bind (·.slots)).getD []
      some (cls, bindEntries [] (attributes.filter fun a => !slots.contains a.1))
    | _ => none
  | _ => none

/-- The name of the class of an entity that is no class, no module and no instance of a class of
the program. -/
def plainClassName? (p : Program) : Entity → Option String
  | .object id =>
    match p.object? id with
    | some (.function _) => some "function"
    | some (.primitive _) => some "builtin_function_or_method"
    | _ => none
  | .value (.classType _ _ _) | .value (.module _) => none
  | .value v => some v.typeName
  | .static _ => some "staticmethod"
  | .classLevel _ => some "classmethod"
  | .property _ => some "property"
  | .slot _ name _ =>
    some (if ["__dict__", "__weakref__"].contains name then "getset_descriptor"
      else "member_descriptor")
  | .rootMember name => some (RootMember.className name)

/-- The attributes that plain data has of its own. -/
def plainAttributes : Entity → List (String × Entity)
  | .value v =>
    match v.plain with
    | .record fields => bindEntries [] (fields.map fun f => (f.1, .value f.2))
    | .dataclass _ fields => bindEntries [] (fields.map fun f => (f.1, .value f.2.2))
    | _ => []
  | _ => []

/-- The class of an entity that is no class and no module, as far as it is known, and the own
attributes of the entity. -/
def typed? (p : Program) (e : Entity) : Option (ObjectId × List (String × Entity)) :=
  (p.instance? e).or (((p.plainClassName? e).bind fun name => lookup? name p.plainClasses).map
    fun cls => (cls, plainAttributes e))

/-- Whether the class of an entity has a hook of a name. -/
def hasHook (p : Program) (e : Entity) (name : String) : Bool :=
  match p.instance? e with
  | some (cls, _) => p.defines cls name
  | none => false

/-- Whether an entity controls how it is assigned to, so that its value on an
instance exists only once code has run. -/
def isDataDescriptor (p : Program) : Entity → Bool
  | .property _ | .slot _ _ _ => true
  | .rootMember name => RootMember.kindOf? name == some .property
  | e => p.hasHook e "__set__" || p.hasHook e "__delete__"

/-- Whether an entity controls both how it is read and how it is assigned to. -/
def overridesInstance (p : Program) : Entity → Bool
  | .property _ | .slot _ _ _ => true
  | .rootMember name => RootMember.kindOf? name == some .property
  | e => p.hasHook e "__get__" && p.hasHook e "__set__"

/-- Whether an entity is called like a method when it is an entry of a class. -/
def isMethodLike (p : Program) : Entity → Bool
  | .rootMember name => RootMember.kindOf? name == some .method
  | .object id =>
    match p.object? id with
    | some (.function _) | some (.primitive _) => true
    | some (.instanceOf cls _) => p.defines cls "__get__" && !p.defines cls "__set__"
    | _ => false
  | .value (.function _ _) | .value (.builtin _) => true
  | _ => false

/-- Whether an entity can be called. -/
def isCallable (p : Program) : Entity → Bool
  | .object id =>
    match p.object? id with
    | some (.function _) | some (.primitive _) | some (.classObject _) => true
    | some (.instanceOf cls _) => p.defines cls "__call__"
    | _ => false
  | .value (.function _ _) | .value (.method _ _) | .value (.builtin _)
  | .value (.classType _ _ _) => true
  | .static _ => true
  | .rootMember name => RootMember.kindOf? name == some .method
  | _ => false

/-- Finds an attribute of what is no class and no module, without running code: an entry of the
class that controls reading and assigning wins over the own attributes, and these win over any
other entry of the class. -/
def typedAttribute? (p : Program) (e : Entity) (name : String) : Option Entity :=
  (p.typed? e).bind fun (cls, own) =>
    match p.inherited? cls name, lookup? name own with
    | some shared, some mine => some (if p.overridesInstance shared then shared else mine)
    | some shared, none => some shared
    | none, mine => mine

/-- Finds an attribute without running code: on a class along its lineage, on a
module among its entries. -/
def attribute? (p : Program) (e : Entity) (name : String) : Option Entity :=
  match e with
  | .object id =>
    match p.object? id with
    | some (.classObject _) => p.inherited? id name
    | some (.moduleObject info) => lookup? name (moduleEntries info)
    | _ => p.typedAttribute? e name
  | _ => p.typedAttribute? e name

end Program

end ReplEngine
