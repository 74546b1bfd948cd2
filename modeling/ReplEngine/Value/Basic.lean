/-!
# Values

The values a session shows, sends and stores.
-/

namespace ReplEngine

/-- A value of the evaluated language. -/
inductive Value where
  | none
  | bool (b : Bool)
  | int (n : Int)
  | float (x : Float)
  | complex (re im : Float)
  | str (s : String)
  | bytes (b : List UInt8)
  | list (items : List Value)
  | tuple (items : List Value)
  | set (items : List Value)
  | frozenset (items : List Value)
  | dict (entries : List (Value × Value))
  | orderedDict (entries : List (Value × Value))
  /-- A read-only view of a mapping. -/
  | mappingView (entries : List (Value × Value))
  /-- An instance of a class of the given name that adds nothing to the class of `base`, which
  is a built-in one or that of named values. -/
  | extended (name : String) (base : Value)
  /-- An object with attributes and nothing else. -/
  | record (fields : List (String × Value))
  | namedTuple (name : String) (fields : List (String × Value))
  /-- A data class instance; each field says whether it is shown. -/
  | dataclass (name : String) (fields : List (String × Bool × Value))
  | enumMember (className name : String) (value : Value)
  | function (name qualname : String)
  | method (name qualname : String)
  | builtin (name : String)
  /-- A class; `abstract` says that its own class is that of abstract classes. -/
  | classType (module qualname : String) (abstract : Bool)
  | module (name : String)
  | ellipsis
  | notImplemented
  /-- An object that describes itself with the given text. -/
  | described (text : String)
  /-- An object whose description fails with the given complaint. -/
  | undescribable (complaint : String)
deriving Inhabited

namespace Value

/-- The name of a value's class. -/
def typeName : Value → String
  | none => "NoneType"
  | bool _ => "bool"
  | int _ => "int"
  | float _ => "float"
  | complex _ _ => "complex"
  | str _ => "str"
  | bytes _ => "bytes"
  | list _ => "list"
  | tuple _ => "tuple"
  | set _ => "set"
  | frozenset _ => "frozenset"
  | dict _ => "dict"
  | orderedDict _ => "OrderedDict"
  | mappingView _ => "mappingproxy"
  | extended name _ => name
  | record _ => "SimpleNamespace"
  | namedTuple name _ => name
  | dataclass name _ => name
  | enumMember className _ _ => className
  | function _ _ => "function"
  | method _ _ => "method"
  | builtin _ => "builtin_function_or_method"
  | classType _ _ abstract => if abstract then "ABCMeta" else "type"
  | module _ => "module"
  | ellipsis => "ellipsis"
  | notImplemented => "NotImplementedType"
  | described _ => "Described"
  | undescribable _ => "Undescribable"

/-- The value without the names of classes that add nothing. -/
def plain : Value → Value
  | extended _ base => base.plain
  | v => v

/-- The text of a string. -/
def str? (v : Value) : Option String :=
  match v.plain with
  | str s => some s
  | _ => Option.none

/-- The entries of a mapping. -/
def entries? (v : Value) : Option (List (Value × Value)) :=
  match v.plain with
  | dict entries | orderedDict entries => some entries
  | _ => Option.none

/-- The items of a list. -/
def listItems? (v : Value) : Option (List Value) :=
  match v.plain with
  | list items => some items
  | _ => Option.none

/-- Whether a value counts as true: all do but nothing, zeros and empty
collections. -/
def isTruthy (v : Value) : Bool :=
  match v.plain with
  | none => false
  | bool b => b
  | int n => n != 0
  | float x => x != 0.0
  | complex re im => re != 0.0 || im != 0.0
  | str s => !s.isEmpty
  | bytes b => !b.isEmpty
  | list items | tuple items | set items | frozenset items => !items.isEmpty
  | dict entries | orderedDict entries | mappingView entries => !entries.isEmpty
  | namedTuple _ fields => !fields.isEmpty
  | _ => true

/-- The name of a value's class as complaints give it. -/
def typeLabel : Value → String
  | record _ => "types.SimpleNamespace"
  | v => v.typeName

mutual

/-- The name of the class that keeps a value from being a key: mutable
collections are no keys, and no more are tuples that hold one. -/
def unhashable? : Value → Option String
  | list _ => some "list"
  | set _ => some "set"
  | dict _ => some "dict"
  | orderedDict _ => some "OrderedDict"
  | mappingView _ => some "mappingproxy"
  | record _ => some "types.SimpleNamespace"
  | dataclass name _ => some name
  | extended name base => base.unhashable?.map fun _ => name
  | tuple items => unhashableItem? items
  | namedTuple _ fields => unhashableField? fields
  | _ => Option.none

/-- The first item that is no key. -/
def unhashableItem? : List Value → Option String
  | [] => Option.none
  | item :: rest => item.unhashable?.or (unhashableItem? rest)

/-- The first field whose value is no key. -/
def unhashableField? : List (String × Value) → Option String
  | [] => Option.none
  | (_, value) :: rest => value.unhashable?.or (unhashableField? rest)

end

/-- The items of a value that can be walked through; a mapping yields its keys. -/
def iterate? (v : Value) : Option (List Value) :=
  match v.plain with
  | list items | tuple items | set items | frozenset items => some items
  | dict entries | orderedDict entries | mappingView entries => some (entries.map (·.1))
  | str s => some (s.toList.map fun c => str (String.singleton c))
  | bytes b => some (b.map fun x => int x.toNat)
  | namedTuple _ fields => some (fields.map (·.2))
  | _ => Option.none

end Value

end ReplEngine
