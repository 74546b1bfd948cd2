import ReplEngine.Language.Tree
import ReplEngine.Evaluation

/-!
# Memory of evaluated source

Values of evaluated source.  Lists can change and are kept in cells of a memory, so that
all names for a list see its changes; everything else never changes.  Classes, their instances
and the defaults of functions are kept in cells too, which tell them apart.  `Memory.view` is
the value that a datum shows.
-/

namespace ReplEngine.Language

/-- The functions that source can call without defining them. -/
inductive Builtin where
  | print
  | length
  | textOf
  | describe
  | sum
  | maximum
  | minimum
  | sorted
  | listOf
  | tupleOf
  | mapOver
  | exit
  /-- The class of named values. -/
  | recordOf
deriving Repr, DecidableEq

/-- The methods of values. -/
inductive Method where
  | append
  | join
  | upper
deriving Repr, DecidableEq

/-- An error that source can raise: one of the language, or the wish to exit. -/
inductive ErrorClass where
  | fault (f : Fault)
  | systemExit
deriving Repr, DecidableEq

/-- A value of evaluated source. -/
inductive Datum where
  | none
  | bool (b : Bool)
  | int (n : Int)
  | text (s : String)
  | ellipsis
  /-- The list in a cell. -/
  | list (cell : Nat)
  | tuple (items : List Datum)
  | set (items : List Datum)
  | dict (entries : List (Datum × Datum))
  /-- A function, with the cells of its defaults and the number of the scope that it was defined
  in. -/
  | function (name : String) (params : List (String × Option Nat)) (body : List Stmt)
    (home : Nat)
  /-- The class in a cell. -/
  | classObject (cell : Nat)
  /-- The instance in a cell. -/
  | instanceOf (cell : Nat)
  /-- Named values, of the class in a cell or of the class of all named values. -/
  | record (cls : Option Nat) (fields : List (String × Datum))
  /-- A function that is called on an instance. -/
  | bound (receiver function : Datum)
  | builtin (b : Builtin)
  | method (receiver : Datum) (m : Method)
  /-- The results of a function that are still to come, in a cell. -/
  | results (cell : Nat)
  | errorClass (c : ErrorClass)
  | error (c : ErrorClass) (args : List Datum)
  | module (name : String)
  /-- A function of a module, which can be named and not called. -/
  | moduleFunction (name : String)
  /-- An object of the program that the session was started in. -/
  | object (id : ObjectId)
  /-- Any other value that was brought in from outside. -/
  | foreign (v : Value)
deriving Inhabited

/-- What a cell holds. -/
inductive Cell where
  | items (items : List Datum)
  /-- A function and the argument lists that it was not applied to yet. -/
  | pending (f : Datum) (args : List (List Datum))
  /-- A class; its instances may be named values. -/
  | classInfo (name : String) (doc : Option String) (ofRecords : Bool)
    (attributes : Bindings Datum)
  /-- An instance of the class in a cell. -/
  | madeOf (cls : Nat)
deriving Inhabited

/-- A memory: its cells, the program that the session was started in, and the scopes that
functions see beside the one that source runs in. -/
structure Memory where
  cells : Array Cell := #[]
  host : Program := {}
  /-- The scope that was copied, while source runs in a copy of it. -/
  copied : Option (Bindings Datum) := none
  /-- The copies that were left. -/
  copies : List (Bindings Datum) := []
deriving Inhabited

namespace Memory

/-- The number of the scope that source runs in: 0 is the scope itself, and its copies are
counted from 1. -/
def home (m : Memory) : Nat :=
  if m.copied.isSome then m.copies.length + 1 else 0

/-- The scope with a number, if `current` is the one that source runs in. -/
def scopeAt (m : Memory) (current : Bindings Datum) (home : Nat) : Bindings Datum :=
  if home = m.home then current
  else match home with
    | 0 => m.copied.getD []
    | n + 1 => m.copies.getD n []

/-- Changes the scope with a number, if the store has the one that source runs in. -/
def changeAt (s : Store Memory Datum) (home : Nat) (change : Bindings Datum → Bindings Datum) :
    Store Memory Datum :=
  if home = s.memory.home then { s with scope := change s.scope }
  else match home with
    | 0 => { s with memory := { s.memory with copied := s.memory.copied.map change } }
    | n + 1 => { s with memory := { s.memory with copies := s.memory.copies.modify n change } }

/-- The memory for source that runs in a copy of the scope. -/
def enterCopy (s : Store Memory Datum) : Memory :=
  { s.memory with copied := some s.scope }

/-- The store for source that runs in the scope again; the copy stays for the functions that
were defined in it. -/
def leaveCopy (s : Store Memory Datum) : Store Memory Datum :=
  ⟨{ s.memory with copied := none, copies := s.memory.copies ++ [s.scope] },
    s.memory.copied.getD []⟩

/-- The items of a cell. -/
def items (m : Memory) (cell : Nat) : List Datum :=
  match m.cells[cell]? with
  | some (.items items) => items
  | _ => []

/-- Puts something into a new cell. -/
def allocate (m : Memory) (c : Cell) : Nat × Memory :=
  (m.cells.size, { m with cells := m.cells.push c })

/-- The only item of a cell. -/
def item (m : Memory) (cell : Nat) : Datum :=
  ((m.items cell).head?).getD .none

/-- The name, the documentation and the attributes of a class. -/
def classAt (m : Memory) (cell : Nat) : String × Option String × Bindings Datum :=
  match m.cells[cell]? with
  | some (.classInfo name doc _ attributes) => (name, doc, attributes)
  | _ => ("", none, [])

/-- Whether the instances of a class are named values. -/
def isOfRecords (m : Memory) (cell : Nat) : Bool :=
  match m.cells[cell]? with
  | some (.classInfo _ _ ofRecords _) => ofRecords
  | _ => false

/-- The cell of the class of an instance. -/
def classCell (m : Memory) (cell : Nat) : Nat :=
  match m.cells[cell]? with
  | some (.madeOf cls) => cls
  | _ => cell

/-- What a class gives its instances under a name. -/
def classMember? (m : Memory) (cls : Nat) (name : String) : Option Datum :=
  lookup? name (m.classAt cls).2.2

/-- The cell of the class of a datum, if source has defined it. -/
def classOf? (m : Memory) : Datum → Option Nat
  | .instanceOf cell => some (m.classCell cell)
  | .record cls _ => cls
  | _ => none

/-- Changes what a cell holds. -/
def assign (m : Memory) (cell : Nat) (c : Cell) : Memory :=
  { m with cells := m.cells.setIfInBounds cell c }

mutual

/-- Brings a value into memory. -/
def bring (m : Memory) : Value → Datum × Memory
  | .none => (.none, m)
  | .bool b => (.bool b, m)
  | .int n => (.int n, m)
  | .str s => (.text s, m)
  | .ellipsis => (.ellipsis, m)
  | .list items =>
    let (items, m) := bringAll m items
    let (cell, m) := m.allocate (.items items)
    (.list cell, m)
  | .tuple items =>
    let (items, m) := bringAll m items
    (.tuple items, m)
  | .set items =>
    let (items, m) := bringAll m items
    (.set items, m)
  | .dict entries =>
    let (entries, m) := bringEntries m entries
    (.dict entries, m)
  | v => (.foreign v, m)

/-- Brings values into memory. -/
def bringAll (m : Memory) : List Value → List Datum × Memory
  | [] => ([], m)
  | v :: rest =>
    let (d, m) := bring m v
    let (ds, m) := bringAll m rest
    (d :: ds, m)

/-- Brings the entries of a mapping into memory. -/
def bringEntries (m : Memory) : List (Value × Value) → List (Datum × Datum) × Memory
  | [] => ([], m)
  | (k, v) :: rest =>
    let (k, m) := bring m k
    let (v, m) := bring m v
    let (es, m) := bringEntries m rest
    ((k, v) :: es, m)

end

/-- Brings bindings into memory. -/
def bringBindings (m : Memory) (entries : List (String × Value)) : Bindings Datum × Memory :=
  entries.foldl (fun (got, m) (name, v) =>
    let (d, m) := m.bring v
    (got ++ [(name, d)], m)) ([], m)

/-- What stands for an entity of the program that the session was started in. -/
def bringEntity (m : Memory) : Entity → Datum × Memory
  | .object id => (.object id, m)
  | .value v => m.bring v
  | _ => (.none, m)

/-- What stands for entities with names. -/
def bringEntities (m : Memory) (entries : List (String × Entity)) : Bindings Datum × Memory :=
  entries.foldl (fun (got, m) (name, e) =>
    let (d, m) := m.bringEntity e
    (got ++ [(name, d)], m)) ([], m)

end Memory

/-- The class that some built-in functions are, behind its module. -/
def Builtin.class? : Builtin → Option (String × String)
  | .textOf => some ("builtins", "str")
  | .listOf => some ("builtins", "list")
  | .tupleOf => some ("builtins", "tuple")
  | .mapOver => some ("builtins", "map")
  | .recordOf => some ("types", "SimpleNamespace")
  | _ => none

/-- The name of a built-in function. -/
def Builtin.name : Builtin → String
  | .print => "print"
  | .length => "len"
  | .textOf => "str"
  | .describe => "repr"
  | .sum => "sum"
  | .maximum => "max"
  | .minimum => "min"
  | .sorted => "sorted"
  | .listOf => "list"
  | .tupleOf => "tuple"
  | .mapOver => "map"
  | .exit => "exit"
  | .recordOf => "SimpleNamespace"

/-- The name of a method. -/
def Method.name : Method → String
  | .append => "append"
  | .join => "join"
  | .upper => "upper"

/-- The name of a class of errors. -/
def ErrorClass.name : ErrorClass → String
  | .fault f => f.name
  | .systemExit => "SystemExit"

/-- The name of the module that evaluated source belongs to. -/
def mainModule : String := "__main__"

/-- What an object of the program shows. -/
def objectView (p : Program) (id : ObjectId) : Value :=
  match p.object? id with
  | some (.function info) => .function info.name info.name
  | some (.primitive .length) => .builtin "len"
  | some (.primitive .maximum) => .builtin "max"
  | some (.classObject info) => .classType info.home info.qualname (info.flavor != .plain)
  | some (.moduleObject info) => .module info.name
  | _ => .described ("<" ++ id ++ ">")

namespace Memory

/-- What an instance shows that does not describe itself. -/
def instanceView (m : Memory) (cell : Nat) : Value :=
  .described ("<" ++ mainModule ++ "." ++ (m.classAt (m.classCell cell)).1 ++ " object at " ++
    toString cell ++ ">")

/-- The value that a datum shows.  With `cut`, a list inside itself is shown as three
dots in brackets; `around` are the cells of the lists around the datum.  Nothing is shown
deeper than `depth`, except by what is described as a whole: `whole` shows what is in it.  An
instance may be asked for its own description by `ask`, which may do more than answer, so that
the memory is looked at anew for each datum. -/
def viewIn {m : Type → Type} [Monad m] (memory : m Memory) (ask : Datum → m (Option Value))
    (whole : Datum → m Value) (cut : Bool) : (depth : Nat) → (around : List Nat) → Datum → m Value
  | 0, _, _ => pure (.described "...")
  | depth + 1, around, d =>
    let view := viewIn memory ask whole cut depth
    match d with
    | .none => pure .none
    | .bool b => pure (.bool b)
    | .int n => pure (.int n)
    | .text s => pure (.str s)
    | .ellipsis => pure .ellipsis
    | .list cell => do
      if cut && around.contains cell then return .described "[...]"
      return .list (← ((← memory).items cell).mapM (view (cell :: around)))
    | .tuple items => do return .tuple (← items.mapM (view around))
    | .set items => do return .set (← items.mapM (view around))
    | .dict entries => do
      return .dict (← entries.mapM fun (k, v) => do return (← view around k, ← view around v))
    | .function name _ _ _ => pure (.function name name)
    | .classObject cell => do
      let name := ((← memory).classAt cell).1
      return .classType mainModule name false
    | .instanceOf cell => do
      match ← ask d with
      | some v => return v
      | none => return (← memory).instanceView cell
    | .record none fields => do
      return .record (← fields.mapM fun (name, d) => do return (name, ← view around d))
    | .record (some cls) fields => do
      match ← ask d with
      | some v => return v
      | none =>
        let inner := if cut then view around else whole
        let fields ← fields.mapM fun (name, d) => do return (name, ← inner d)
        return .extended ((← memory).classAt cls).1 (.record fields)
    | .bound _ function => view around function
    | .builtin b =>
      match b.class? with
      | some (home, name) => pure (.classType home name false)
      | Option.none => pure (.builtin b.name)
    | .method _ m => pure (.method m.name m.name)
    | .results _ => pure (.described "<map object>")
    | .errorClass c => pure (.classType "builtins" c.name false)
    | .error c args => do
      let parts := (← args.mapM (view around)).map fun v => (v.repr.toOption).getD ""
      return .described (Value.enclose (c.name ++ "(") ")" parts)
    | .module name => pure (.module name)
    | .moduleFunction name => pure (.function name name)
    | .object id => do return objectView (← memory).host id
    | .foreign v => pure v

/-- How deep values nest at most when they are compared or described. -/
def nestingLimit : Nat := 1000

/-- The value that a datum shows, and the whole of what is described as a whole. -/
def viewWhole {m : Type → Type} [Monad m] (memory : m Memory) (ask : Datum → m (Option Value))
    (cut : Bool) (depth : Nat) (d : Datum) : m Value :=
  let within := viewIn memory ask (fun _ => pure .none) true nestingLimit []
  viewIn memory ask within cut depth [] d

/-- The value that a datum shows if no instance describes itself. -/
def view (m : Memory) (cut : Bool) (depth : Nat) (d : Datum) : Value :=
  Id.run (viewWhole (pure m) (fun _ => pure none) cut depth d)

/-- The value that a datum is, for comparing it. -/
def valueOf (m : Memory) (d : Datum) : Value :=
  m.view true nestingLimit d

/-- How deep the layout shows a value. -/
def shownDepth : Nat := 7

/-- The value that is laid out for a datum. -/
def shownValue (m : Memory) (d : Datum) : Value :=
  m.view false shownDepth d

end Memory

end ReplEngine.Language
