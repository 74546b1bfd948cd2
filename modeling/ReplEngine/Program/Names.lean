import ReplEngine.Program.Namespace
import ReplEngine.Text.Lines
import ReplEngine.Error

/-!
# Names of a program

Which names stand for classes, interfaces, functions and constants, and what a
dotted name stands for.
-/

namespace ReplEngine.Program

/-- The words of the language, and after them those that are words only in places. -/
def keywords : List String :=
  ["False", "None", "True", "and", "as", "assert", "async", "await", "break", "class",
   "continue", "def", "del", "elif", "else", "except", "finally", "for", "from", "global", "if",
   "import", "in", "is", "lambda", "nonlocal", "not", "or", "pass", "raise", "return", "try",
   "while", "with", "yield", "_", "case", "match"]

/-- The class that an entity is. -/
def classId? (p : Program) (e : Entity) : Option ObjectId :=
  match e with
  | .object id => if (p.class? id).isSome then some id else none
  | _ => none

/-- The class that an entry of a module is, by its dotted name, if it belongs to the module:
a public one whose own module has a name that starts with this one's. -/
def moduleType? (p : Program) (name : String) (info : ModuleInfo) (entry : String) (e : Entity) :
    Except Error (Option (String × ObjectId)) :=
  match p.classId? e with
  | none => .ok none
  | some id =>
    if isPrivate entry then .ok none
    else
      match moduleName info with
      | .str lead =>
        let home := ((p.class? id).map (·.home)).getD ""
        .ok (if Text.startsWith lead home then some (name ++ "." ++ entry, id) else none)
      | v => .error (.notALead v.typeLabel)

/-- The classes that an entry of the scope brings in: itself, or those of a module. -/
def scopeTypes (p : Program) (name : String) (e : Entity) :
    Except Error (List (String × ObjectId)) :=
  match p.classId? e, p.module? e with
  | some id, _ => .ok [(name, id)]
  | none, some info =>
    (moduleEntries info).filterMapM fun entry => p.moduleType? name info entry.1 entry.2
  | none, none => .ok []

/-- The public classes of the built-in scope. -/
def builtinTypes (p : Program) : List (String × ObjectId) :=
  p.builtins.filterMap fun (name, e) =>
    if isPrivate name then none else (p.classId? e).map fun id => (name, id)

/-- The classes that have a name: those of the built-in scope, then those of the
scope and of the modules in it.  A later class takes the place of an earlier one of
the same name. -/
def types (p : Program) : Except Error (List (String × ObjectId)) := do
  let shown := p.scope.filter fun entry => !hiddenNames.contains entry.1
  let named ← shown.mapM fun entry => p.scopeTypes entry.1 entry.2
  return bindEntries [] (p.builtinTypes ++ named.flatten)

/-- The names of classes. -/
def declaredTypes (p : Program) : Except Error (List String) := do
  return (← p.types).map (·.1)

/-- The names of interfaces. -/
def declaredInterfaces (p : Program) : Except Error (List String) := do
  return (← p.types).filterMap fun (name, id) => if p.isInterface id then some name else none

/-- The names of classes that are mixed into others: some class has them behind its
first base, or their name says so. -/
def declaredTraits (p : Program) : Except Error (List String) := do
  let types ← p.types
  let mixed := types.flatMap fun (_, id) => ((p.class? id).map fun c => (basesOf c).tail).getD []
  return types.filterMap fun (name, id) =>
    let named := ((p.class? id).map fun c => Text.endsWith "Mixin" c.name).getD false
    if mixed.contains (.declared id) || named then some name else none

/-- The names of what can be called and is no class. -/
def callables (p : Program) : List String :=
  let isFunction (e : Entity) : Bool := p.isCallable e && !p.isType e
  (p.builtins.filter fun (name, e) => !isPrivate name && isFunction e).map (·.1) ++
    (p.scope.filter fun (name, e) => !hiddenNames.contains name && isFunction e).map (·.1)

/-- Whether a name is written in capitals, as constants are. -/
def isConstantName (name : String) : Bool :=
  match name.toList with
  | [] => false
  | c :: rest =>
    let isCapital (c : Char) : Bool := 'A' ≤ c && c ≤ 'Z'
    isCapital c && rest.all fun c => isCapital c || Text.isAsciiDigit c || c == '_'

/-- The names of constants. -/
def constants (p : Program) : List String :=
  ["Ellipsis", "NotImplemented", "__debug__"] ++
    (p.scope.filter fun (name, e) =>
      isConstantName name && !p.isCallable e && (p.module? e).isNone).map (·.1)

/-- The public names of the main module. -/
def globalNames (p : Program) : List String :=
  (p.main.getD []).filter fun name => !isPrivate name

/-- What a name without dots stands for. -/
def head? (p : Program) (name : String) : Option Entity :=
  let local? := if hiddenNames.contains name then none else lookup? name p.scope
  local?.or (lookup? name p.builtins)

/-- What an attribute of an entity stands for.  A value that exists only once code
has run is not found. -/
def follow? (p : Program) (e : Entity) (name : String) : Option Entity :=
  match p.attribute? e name with
  | none => none
  | some found =>
    if !p.isType e && (p.module? e).isNone && p.isDataDescriptor found then none
    else some (unwrap found)

/-- What a dotted name stands for. -/
def resolve? (p : Program) (name : String) : Option Entity :=
  match (Text.splitAtChar '.' name.toList).map String.ofList with
  | [] => none
  | head :: rest => (p.head? head).bind fun e => rest.foldlM p.follow? e

/-- What a dotted name stands for, or the complaint that it stands for nothing. -/
def resolve (p : Program) (name : String) : Except Error Entity :=
  match p.resolve? name with
  | some e => .ok e
  | none => .error (.unresolved name)

/-- The class of a name: a known one, or what the name stands for. -/
def typeNamed? (p : Program) (name : String) : Except Error (Option ObjectId) := do
  match lookup? name (← p.types) with
  | some id => return some id
  | none => return (p.resolve? name).bind p.classId?

end ReplEngine.Program
