import ReplEngine.Language.Memory
import ReplEngine.Text.LetterCase

/-!
# The machine that runs source

The state of a run, and the operations on data that need no running of functions:
names, arithmetic, comparison, indexing.
-/

namespace ReplEngine.Language

/-- The variables of a running function. -/
structure Frame where
  /-- The names that are variables of the function. -/
  names : List String
  /-- The names that it binds in the scope. -/
  shared : List String
  bindings : Bindings Datum
  /-- The number of the scope that the function was defined in. -/
  home : Nat

/-- The state of a run. -/
structure Machine where
  memory : Memory
  scope : Bindings Datum
  frame : Option Frame := none
  output : String := ""

/-- A step of a run, which changes the state and can end the run. -/
abbrev Action := ExceptT Raised (StateM Machine)

/-- A function that source calls, as it is given to operations that call back. -/
abbrev Caller := Datum → List Datum → Action Datum

/-- Ends the run with an error. -/
def raiseFault {α : Type} (f : Fault) (text : String := "") : Action α :=
  throw (.fault f text)

/-- What an action of the engine answers; its failure ends the run. -/
def orRaise {α : Type} : Except Error α → Action α
  | .ok a => pure a
  | .error e => raiseFault (.engine e)

/-- Puts something into a new cell. -/
def allocate (c : Cell) : Action Nat := do
  let (cell, memory) := (← get).memory.allocate c
  modify fun s => { s with memory := memory }
  return cell

/-- A new list. -/
def newList (items : List Datum) : Action Datum :=
  Datum.list <$> allocate (.items items)

/-- The items of a list. -/
def listItems (cell : Nat) : Action (List Datum) := do
  return (← get).memory.items cell

/-- The value that a datum is. -/
def valueOf (d : Datum) : Action Value := do
  return (← get).memory.valueOf d

/-- Prints a text. -/
def write (text : String) : Action Unit :=
  modify fun s => { s with output := s.output ++ text }

/-- The names that are bound before any source runs. -/
def builtinNames : Bindings Datum :=
  ([.print, .length, .textOf, .describe, .sum, .maximum, .minimum, .sorted, .listOf, .tupleOf,
    .mapOver, .exit] : List Builtin).map (fun b => (b.name, .builtin b)) ++
  Fault.named.map (fun f => (f.name, .errorClass (.fault f))) ++
  [("SystemExit", .errorClass .systemExit), ("Ellipsis", .ellipsis), ("quit", .builtin .exit),
   ("__name__", .text "__main__")]

/-- The number of the scope that the running code belongs to. -/
def Machine.home (s : Machine) : Nat :=
  (s.frame.map (·.home)).getD s.memory.home

/-- What a name stands for: a variable of the running function, a name of the scope that the
code belongs to, or a built-in one. -/
def lookUp (name : String) : Action Datum := do
  let s ← get
  let shared : Action Datum :=
    match (lookup? name (s.memory.scopeAt s.scope s.home)).or (lookup? name builtinNames) with
    | some d => pure d
    | none => raiseFault .unboundName
  match s.frame with
  | none => shared
  | some frame =>
    match lookup? name frame.bindings with
    | some d => pure d
    | none => if frame.names.contains name then raiseFault .unboundLocal else shared

/-- The running function, unless it shares a name with the scope. -/
def Machine.frameOf (s : Machine) (name : String) : Option Frame :=
  s.frame.filter fun frame => !frame.shared.contains name

/-- Changes the scope that the running code belongs to. -/
def Machine.changeScope (s : Machine) (change : Bindings Datum → Bindings Datum) : Machine :=
  let changed := Memory.changeAt ⟨s.memory, s.scope⟩ s.home change
  { s with memory := changed.memory, scope := changed.scope }

/-- Binds a name, in the running function or in the scope. -/
def bindName (name : String) (d : Datum) : Action Unit :=
  modify fun s =>
    match s.frameOf name with
    | none => s.changeScope fun scope => bindEntry scope name d
    | some frame =>
      { s with frame := some { frame with bindings := bindEntry frame.bindings name d } }

/-- The bindings without a name. -/
def eraseName (name : String) (bindings : Bindings Datum) : Bindings Datum :=
  bindings.filter fun b => b.1 != name

/-- Unbinds a name. -/
def deleteName (name : String) : Action Unit := do
  let s ← get
  match s.frameOf name with
  | none =>
    if (lookup? name (s.memory.scopeAt s.scope s.home)).isNone then raiseFault .unboundName
    else set (s.changeScope (eraseName name))
  | some frame =>
    if (lookup? name frame.bindings).isNone then raiseFault .unboundLocal
    else set { s with frame := some { frame with bindings := eraseName name frame.bindings } }

/-- Whether a datum counts as true. -/
def isTruthy (d : Datum) : Action Bool := do
  return (← valueOf d).isTruthy

/-- The whole number that a datum is. -/
def int? : Datum → Option Int
  | .int n => some n
  | .bool b => some (if b then 1 else 0)
  | _ => none

/-- The number that a datum is, as a floating point number. -/
def float? : Datum → Option Float
  | .foreign (.float x) => some x
  | d => (int? d).map Float.ofInt

/-- A list repeated. -/
def repeated {α : Type} (n : Int) (items : List α) : List α :=
  (List.replicate n.toNat items).flatten

/-- Computes with whole numbers. -/
def computeInts (op : Operator) (a b : Int) : Action Datum :=
  match op with
  | .add => pure (.int (a + b))
  | .subtract => pure (.int (a - b))
  | .multiply => pure (.int (a * b))
  | .divide =>
    if b = 0 then raiseFault .zeroDivision
    else pure (.foreign (.float (Float.ofInt a / Float.ofInt b)))
  | .floorDivide => if b = 0 then raiseFault .zeroDivision else pure (.int (Int.fdiv a b))
  | .modulo => if b = 0 then raiseFault .zeroDivision else pure (.int (Int.fmod a b))

/-- Computes with floating point numbers. -/
def computeFloats (op : Operator) (a b : Float) : Action Datum :=
  let answer (x : Float) : Action Datum := pure (.foreign (.float x))
  match op with
  | .add => answer (a + b)
  | .subtract => answer (a - b)
  | .multiply => answer (a * b)
  | .divide => if b == 0 then raiseFault .zeroDivision else answer (a / b)
  | .floorDivide => if b == 0 then raiseFault .zeroDivision else answer (a / b).floor
  | .modulo => if b == 0 then raiseFault .zeroDivision else answer (a - b * (a / b).floor)

/-- Asks an instance for a text by one of its methods, if its class has it. -/
def askInstance (call : Caller) (method : String) (d : Datum) : Action (Option Value) := do
  let memory := (← get).memory
  match (memory.classOf? d).bind fun cls => memory.classMember? cls method with
  | none => return none
  | some f =>
    match ← call f [d] with
    | .text s => return some (.described s)
    | _ => raiseFault .wrongType

/-- The value that a datum shows, once its instances have described themselves. -/
def viewOf (call : Caller) (cut : Bool) (depth : Nat) (d : Datum) : Action Value :=
  Memory.viewWhole (do return (← get).memory) (askInstance call "__repr__") cut depth d

/-- The text that describes a datum. -/
def describe (call : Caller) (d : Datum) : Action String := do
  orRaise (← viewOf call true Memory.nestingLimit d).repr

/-- The text of a datum as it is printed. -/
def textOf (call : Caller) (d : Datum) : Action String := do
  match ← askInstance call "__str__" d with
  | some v => orRaise v.text
  | none => orRaise (← viewOf call true Memory.nestingLimit d).text

/-- The line that shows a datum. -/
def inspect (call : Caller) (i : Inspector) (d : Datum) : Action String := do
  let v ← match i with
    | .dump => viewOf call false Memory.shownDepth d
    | .source => viewOf call true Memory.nestingLimit d
  orRaise (i.inspect v)

/-- Puts data into the places of a text that percent signs mark.  What is left over counts
as an error unless `spare` allows it. -/
def fillIn (call : Caller) (spare : Bool) : List Char → List Datum → Action (List Char)
  | [], args => if args.isEmpty || spare then pure [] else raiseFault .wrongType
  | ['%'], _ => raiseFault .wrongValue
  | '%' :: '%' :: rest, args => do return '%' :: (← fillIn call spare rest args)
  | '%' :: mark :: rest, args => do
    match args with
    | [] => raiseFault .wrongType
    | d :: args =>
      let text ← match mark with
        | 's' => textOf call d
        | 'r' => describe call d
        | 'd' | 'i' =>
          match int? d with
          | some n => pure (toString n)
          | none => raiseFault .wrongType
        | _ => raiseFault .wrongValue
      return text.toList ++ (← fillIn call spare rest args)
  | c :: rest, args => do return c :: (← fillIn call spare rest args)

/-- Fills in a text with the items of a tuple, or with one datum. -/
def fillText (call : Caller) (template : String) (d : Datum) : Action Datum := do
  let (spare, args) := match d with
    | .tuple items => (false, items)
    | .list _ | .dict _ => (true, [d])
    | _ => (false, [d])
  return .text (String.ofList (← fillIn call spare template.toList args))

/-- The members of a set that are not in another. -/
def without (members excluded : List Datum) : Action (List Datum) :=
  members.filterM fun d => do return !(← excluded.anyM fun e => do
    return (← valueOf d).same (← valueOf e))

/-- Computes with two data. -/
def compute (call : Caller) (op : Operator) (a b : Datum) : Action Datum :=
  match op, a, b with
  | .add, .text s, .text t => pure (.text (s ++ t))
  | .add, .list c, .list d => do newList ((← listItems c) ++ (← listItems d))
  | .add, .tuple xs, .tuple ys => pure (.tuple (xs ++ ys))
  | .subtract, .set xs, .set ys => Datum.set <$> without xs ys
  | .modulo, .text template, d => fillText call template d
  | op, a, b =>
    match op, a, b, int? a, int? b with
    | op, _, _, some x, some y => computeInts op x y
    | .multiply, .text s, _, none, some n
    | .multiply, _, .text s, some n, none =>
      pure (.text (String.ofList (repeated n s.toList)))
    | .multiply, .tuple xs, _, none, some n
    | .multiply, _, .tuple xs, some n, none => pure (.tuple (repeated n xs))
    | .multiply, .list c, _, none, some n
    | .multiply, _, .list c, some n, none => do newList (repeated n (← listItems c))
    | op, a, b, _, _ =>
      match float? a, float? b with
      | some x, some y => computeFloats op x y
      | _, _ => raiseFault .wrongType

/-- The negative of a datum. -/
def negative (d : Datum) : Action Datum :=
  match int? d, float? d with
  | some n, _ => pure (.int (-n))
  | none, some x => pure (.foreign (.float (-x)))
  | none, none => raiseFault .wrongType

/-- Whether two data are one and the same object, as far as their names tell. -/
def isSameObject (a b : Datum) : Bool :=
  match a, b with
  | .list c, .list d | .results c, .results d | .classObject c, .classObject d
  | .instanceOf c, .instanceOf d => c == d
  | .function n _ _ _, .function m _ _ _ => n == m
  | .builtin b, .builtin c => b == c
  | .errorClass c, .errorClass d => c == d
  | .module n, .module m => n == m
  | .moduleFunction n, .moduleFunction m => n == m
  | .object i, .object j => i == j
  | _, _ => false

/-- Whether two data are equal. -/
def areEqual (a b : Datum) : Action Bool := do
  return isSameObject a b || (← valueOf a).same (← valueOf b)

/-- Whether one datum is less than another; the order has to exist. -/
def isLess (a b : Datum) : Action Bool := do
  match (← valueOf a).less? (← valueOf b) with
  | some less => return less
  | none => raiseFault .wrongType

/-- Refuses a datum that is no key. -/
def checkKey (d : Datum) : Action Unit := do
  if (← valueOf d).unhashable?.isSome then raiseFault .wrongType

/-- Whether a datum is among others. -/
def isAmong (d : Datum) (items : List Datum) : Action Bool :=
  items.anyM (areEqual d)

/-- Whether a text occurs in another. -/
def occursIn (part : List Char) : List Char → Bool
  | [] => part.isEmpty
  | c :: rest => part.isPrefixOf (c :: rest) || occursIn part rest

/-- Whether a datum is within a collection. -/
def isWithin (d collection : Datum) : Action Bool := do
  match collection with
  | .list cell => isAmong d (← listItems cell)
  | .tuple items => isAmong d items
  | .set items => checkKey d *> isAmong d items
  | .dict entries => checkKey d *> isAmong d (entries.map (·.1))
  | .text s =>
    match d with
    | .text part => return occursIn part.toList s.toList
    | _ => raiseFault .wrongType
  | _ => raiseFault .wrongType

/-- Whether a comparison holds. -/
def holds (c : Comparison) (a b : Datum) : Action Bool :=
  let identical : Action Bool := do
    return isSameObject a b || ((← valueOf a).typeName == (← valueOf b).typeName &&
      !(a matches .list _) && (← areEqual a b))
  match c with
  | .equal => areEqual a b
  | .unequal => (!·) <$> areEqual a b
  | .less => isLess a b
  | .greater => isLess b a
  | .lessOrEqual => do return (← isLess a b) || (← areEqual a b)
  | .greaterOrEqual => do return (← isLess b a) || (← areEqual a b)
  | .within => isWithin a b
  | .notWithin => (!·) <$> isWithin a b
  | .same => identical
  | .notSame => (!·) <$> identical

/-- The item at an index, which counts from the end if it is negative. -/
def itemAt {α : Type} (items : List α) (index : Int) : Action α :=
  let place := if index < 0 then index + items.length else index
  if place < 0 then raiseFault .wrongIndex
  else
    match items[place.toNat]? with
    | some item => pure item
    | none => raiseFault .wrongIndex

/-- The item of a collection. -/
def itemOf (collection index : Datum) : Action Datum := do
  let atPlace {α : Type} (items : List α) : Action α :=
    match int? index with
    | some i => itemAt items i
    | none => raiseFault .wrongType
  match collection with
  | .list cell => atPlace (← listItems cell)
  | .tuple items => atPlace items
  | .text s => return .text (String.singleton (← atPlace s.toList))
  | .dict entries =>
    checkKey index
    match ← entries.findM? fun e => areEqual e.1 index with
    | some e => return e.2
    | none => raiseFault .wrongKey
  | _ => raiseFault .wrongType

/-- The modules that can be imported, with what they hold. -/
def modules : List (String × Bindings Datum) :=
  [("json", [("dumps", .moduleFunction "dumps"), ("loads", .moduleFunction "loads")]),
   ("types", [("SimpleNamespace", .builtin .recordOf)])]

/-- What a class has under a name, for one of its instances: a function is called on the
instance. -/
def classMemberOf (cls : Nat) (d : Datum) (name : String) : Action Datum := do
  match (← get).memory.classMember? cls name with
  | some (.function f params body home) => return .bound d (.function f params body home)
  | some d => return d
  | none => raiseFault .missingAttribute

/-- A member of a datum. -/
def memberOf (d : Datum) (name : String) : Action Datum := do
  let memory := (← get).memory
  match d, name with
  | .list _, "append" => return .method d .append
  | .text _, "join" => return .method d .join
  | .text _, "upper" => return .method d .upper
  | .module m, name =>
    match lookup? name ((lookup? m modules).getD []) with
    | some d => return d
    | none => raiseFault .missingAttribute
  | .classObject cell, name =>
    match memory.classMember? cell name with
    | some d => return d
    | none => raiseFault .missingAttribute
  | .instanceOf cell, name => classMemberOf (memory.classCell cell) d name
  | .record cls fields, name =>
    match lookup? name fields, cls with
    | some field, _ => return field
    | none, some cls => classMemberOf cls d name
    | none, none => raiseFault .missingAttribute
  | _, _ => raiseFault .missingAttribute

/-- Imports a module, or something from it. -/
def importItem (i : Import) : Action Unit :=
  match lookup? i.module modules with
  | none => raiseFault .missingModule ("No module named " ++ Text.quoteString i.module)
  | some held =>
    match i.item with
    | none => bindName i.target (.module i.module)
    | some name =>
      match lookup? name held with
      | some d => bindName i.target d
      | none => raiseFault .missingImport

/-- The members of a set, each once. -/
def distinct (items : List Datum) : Action (List Datum) :=
  items.foldlM (fun got d => do
    checkKey d
    return if ← isAmong d got then got else got ++ [d]) []

/-- Puts an entry into a mapping: a known key keeps its place. -/
def insertEntry (entries : List (Datum × Datum)) (key value : Datum) :
    Action (List (Datum × Datum)) := do
  checkKey key
  match entries with
  | [] => return [(key, value)]
  | (k, v) :: rest =>
    if ← areEqual k key then return (k, value) :: rest
    else return (k, v) :: (← insertEntry rest key value)

/-- The length of a collection. -/
def lengthOf (d : Datum) : Action Nat := do
  match d with
  | .list cell => return (← listItems cell).length
  | .tuple items | .set items => return items.length
  | .dict entries => return entries.length
  | .text s => return s.length
  | .foreign v =>
    match v.iterate? with
    | some items => return items.length
    | none => raiseFault .wrongType
  | _ => raiseFault .wrongType

/-- Ends the run as an error asks. -/
def raiseError {α : Type} (c : ErrorClass) (args : List Datum) : Action α := do
  let value ← match args with
    | [] => pure Value.none
    | [d] => valueOf d
    | ds => valueOf (.tuple ds)
  match c with
  | .fault f =>
    if args.isEmpty then raiseFault f else raiseFault f (← orRaise value.text)
  | .systemExit => throw (.exit (← orRaise (ExitCode.ofValue value)))

end ReplEngine.Language
