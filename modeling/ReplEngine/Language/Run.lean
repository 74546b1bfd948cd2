import ReplEngine.Language.Machine
import ReplEngine.Language.Reader

/-!
# Running source

Statements run one after the other and change the state of a machine.  How deep calls
and expressions nest is bounded by the fuel of `eval`, `call` and `exec`, and every loop
by a number of turns; what goes beyond fails like calls that nest too deep.
-/

namespace ReplEngine.Language

/-- How a statement hands on. -/
inductive Flow where
  | next
  /-- The loop around the statement is left. -/
  | left
  /-- The loop around the statement goes on with its next turn. -/
  | again
  | returned (d : Datum)

/-- The lists of arguments for a function of several sequences, as long as the shortest
of them. -/
def transpose : List (List Datum) → List (List Datum)
  | [] => []
  | [xs] => xs.map fun x => [x]
  | xs :: rest => (xs.zip (transpose rest)).map fun (x, ys) => x :: ys

/-- The items that a datum yields when it is walked through. -/
def itemsOf (call : Caller) (d : Datum) : Action (List Datum) := do
  match d with
  | .list cell => listItems cell
  | .tuple items => return items
  | .set items => do
    let members ← items.mapM fun d => do return (← valueOf d, d)
    return (Value.inSetOrder members).map (·.2)
  | .dict entries => return entries.map (·.1)
  | .text s => return s.toList.map fun c => .text (String.singleton c)
  | .results cell =>
    match (← get).memory.cells[cell]? with
    | some (.pending f args) =>
      modify fun s => { s with memory := s.memory.assign cell (.items []) }
      args.mapM (call f)
    | _ => return []
  | .foreign v =>
    match v.iterate? with
    | some items =>
      let (ds, memory) := (← get).memory.bringAll items
      modify fun s => { s with memory := memory }
      return ds
    | none => raiseFault .wrongType
  | _ => raiseFault .wrongType

/-- The items to choose from: those of the only argument, or the arguments. -/
def choices (call : Caller) (args : List Datum) : Action (List Datum) := do
  match args with
  | [] => raiseFault .wrongType
  | [d] =>
    match ← itemsOf call d with
    | [] => raiseFault .wrongValue
    | items => return items
  | items => return items

/-- The first item that no other one comes before. -/
def best (before : Datum → Datum → Action Bool) (items : List Datum) : Action Datum := do
  match items with
  | [] => raiseFault .wrongValue
  | first :: rest => rest.foldlM (fun got d => do return if ← before d got then d else got) first

/-- Data in rising order. -/
def sortItems (items : List Datum) : Action (List Datum) := do
  let members ← items.mapM fun d => do return (← valueOf d, d)
  match Sorting.sort? (fun a b => a.1.less? b.1) members with
  | some sorted => return sorted.map (·.2)
  | none => raiseFault .wrongType

/-- A text that an argument gives by name. -/
def namedText (name fallback : String) (named : Bindings Datum) : Action String :=
  match lookup? name named with
  | none | some .none => pure fallback
  | some (.text s) => pure s
  | some _ => raiseFault .wrongType

/-- New named values, each name once. -/
def newRecord (cls : Option Nat) (named : Bindings Datum) : Action Datum :=
  if (named.map (·.1)).Nodup then pure (.record cls named) else raiseFault .wrongType

/-- Calls a built-in function. -/
def callBuiltin (call : Caller) (b : Builtin) (args : List Datum) (named : Bindings Datum) :
    Action Datum := do
  match b, args, named with
  | .print, args, named =>
    if named.any fun n => n.1 != "sep" && n.1 != "end" then raiseFault .wrongType
    let separator ← namedText "sep" " " named
    let ending ← namedText "end" "\n" named
    write (String.intercalate separator (← args.mapM (textOf call)) ++ ending)
    return .none
  | .sorted, [d], named =>
    if named.any fun n => n.1 != "reverse" then raiseFault .wrongType
    let items ← itemsOf call d
    if ← isTruthy ((lookup? "reverse" named).getD .none) then
      newList (← sortItems items.reverse).reverse
    else newList (← sortItems items)
  | .length, [d], [] => return .int (← lengthOf d)
  | .textOf, [], [] => return .text ""
  | .textOf, [d], [] => return .text (← textOf call d)
  | .describe, [d], [] => return .text (← describe call d)
  | .sum, [d], [] => (← itemsOf call d).foldlM (compute call .add) (.int 0)
  | .sum, [d, start], [] =>
    match start with
    | .text _ => raiseFault .wrongType
    | start => (← itemsOf call d).foldlM (compute call .add) start
  | .maximum, args, [] => best (fun d got => isLess got d) (← choices call args)
  | .minimum, args, [] => best isLess (← choices call args)
  | .listOf, [], [] => newList []
  | .listOf, [d], [] => newList (← itemsOf call d)
  | .tupleOf, [], [] => return .tuple []
  | .tupleOf, [d], [] => return .tuple (← itemsOf call d)
  | .mapOver, f :: first :: rest, [] =>
    let sequences ← (first :: rest).mapM (itemsOf call)
    return .results (← allocate (.pending f (transpose sequences)))
  | .exit, [], [] => raiseError .systemExit []
  | .exit, [d], [] => raiseError .systemExit [d]
  | .recordOf, [], named => newRecord none named
  | _, _, _ => raiseFault .wrongType

/-- Calls a method. -/
def callMethod (call : Caller) (receiver : Datum) (m : Method) (args : List Datum) :
    Action Datum := do
  match m, receiver, args with
  | .append, .list cell, [d] =>
    let items ← listItems cell
    modify fun s => { s with memory := s.memory.assign cell (.items (items ++ [d])) }
    return .none
  | .join, .text separator, [d] =>
    let parts ← (← itemsOf call d).mapM fun
      | .text s => pure s
      | _ => raiseFault .wrongType
    return .text (String.intercalate separator parts)
  | .upper, .text s, [] => return .text (Text.upperString s)
  | _, _, _ => raiseFault .wrongType

/-- The variables of a called function: its arguments by place, then by name, then the
defaults. -/
def bindParams (params : List (String × Option Nat)) (args : List Datum)
    (named : Bindings Datum) : Action (Bindings Datum) := do
  let placed := (params.map (·.1)).zip args
  let unknown := named.any fun n =>
    (params.all fun p => p.1 != n.1) || (placed.any fun p => p.1 == n.1)
  if args.length > params.length || unknown || !(named.map (·.1)).Nodup then
    raiseFault .wrongType
  let memory := (← get).memory
  (params.drop args.length).foldlM (fun got (name, default) =>
    match (lookup? name named).or (default.map memory.item) with
    | some d => pure (got ++ [(name, d)])
    | none => raiseFault .wrongType) placed

/-- Runs statements until one of them does not hand on to the next. -/
def runAll (step : Stmt → Action Flow) : List Stmt → Action Flow
  | [] => pure .next
  | s :: rest => do
    match ← step s with
    | .next => runAll step rest
    | flow => return flow

/-- Takes turns, numbered from `place`, until one answers. -/
def takeTurns (turn : Nat → Action (Option Flow)) : (turns place : Nat) → Action Flow
  | 0, _ => raiseFault .recursion
  | turns + 1, place => do
    match ← turn place with
    | some flow => return flow
    | none => takeTurns turn turns (place + 1)

/-- How the body of a loop ends a turn. -/
def afterTurn : Flow → Option Flow
  | .next | .again => none
  | .left => some .next
  | .returned d => some (.returned d)

/-- How many turns a loop takes at most. -/
def turnLimit : Nat := 1000000

mutual

/-- The value of an expression. -/
def eval : Nat → Expr → Action Datum
  | 0, _ => raiseFault .recursion
  | fuel + 1, e => do
    match e with
    | .none => return .none
    | .bool b => return .bool b
    | .int n => return .int n
    | .float x => return .foreign (.float x)
    | .text s => return .text s
    | .ellipsis => return .ellipsis
    | .name name => lookUp name
    | .list items => newList (← items.mapM (eval fuel))
    | .tuple items => return .tuple (← items.mapM (eval fuel))
    | .set items => return .set (← distinct (← items.mapM (eval fuel)))
    | .dict entries =>
      let all ← entries.mapM fun (k, v) => do
        let k ← eval fuel k
        return (k, ← eval fuel v)
      return .dict (← all.foldlM (fun got (k, v) => insertEntry got k v) [])
    | .negate e => negative (← eval fuel e)
    | .keep e => negative (← negative (← eval fuel e))
    | .not e => return .bool (!(← isTruthy (← eval fuel e)))
    | .binary op left right =>
      let a ← eval fuel left
      compute (fun f args => call fuel f args []) op a (← eval fuel right)
    | .compare first rest => compareAll fuel (← eval fuel first) rest
    | .both left right =>
      let a ← eval fuel left
      if ← isTruthy a then eval fuel right else return a
    | .either left right =>
      let a ← eval fuel left
      if ← isTruthy a then return a else eval fuel right
    | .choose yes test no =>
      if ← isTruthy (← eval fuel test) then eval fuel yes else eval fuel no
    | .item e index =>
      let d ← eval fuel e
      itemOf d (← eval fuel index)
    | .member e name => memberOf (← eval fuel e) name
    | .call f args named =>
      let f ← eval fuel f
      let args ← args.mapM (eval fuel)
      let named ← named.mapM fun (name, e) => do return (name, ← eval fuel e)
      call fuel f args named

/-- Whether all comparisons of a chain hold, each with the operand before it. -/
def compareAll : Nat → Datum → List (Comparison × Expr) → Action Datum
  | 0, _, _ => raiseFault .recursion
  | fuel + 1, left, rest => do
    match rest with
    | [] => return .bool true
    | (c, e) :: more =>
      let right ← eval fuel e
      if ← holds c left right then
        if more.isEmpty then return .bool true else compareAll fuel right more
      else return .bool false

/-- Calls a datum. -/
def call : Nat → Datum → List Datum → Bindings Datum → Action Datum
  | 0, _, _, _ => raiseFault .recursion
  | fuel + 1, f, args, named => do
    let caller : Caller := fun f args => call fuel f args []
    match f with
    | .builtin b => callBuiltin caller b args named
    | .method receiver m =>
      if named.isEmpty then callMethod caller receiver m args else raiseFault .wrongType
    | .errorClass c => if named.isEmpty then return .error c args else raiseFault .wrongType
    | .function _ params body home =>
      let bindings ← bindParams params args named
      let outer := (← get).frame
      let names := variablesOf (params.map (·.1)) body
      modify fun s => { s with frame := some ⟨names, allSharedNames body, bindings, home⟩ }
      let flow ← runAll (exec fuel) body
      modify fun s => { s with frame := outer }
      match flow with
      | .returned d => return d
      | _ => return .none
    | .bound receiver function => call fuel function (receiver :: args) named
    | .classObject cell =>
      let ofRecords := (← get).memory.isOfRecords cell
      let made ← if ofRecords then pure (Datum.record (some cell) [])
        else Datum.instanceOf <$> allocate (.madeOf cell)
      match (← get).memory.classMember? cell "__init__" with
      | some f =>
        match ← call fuel f (made :: args) named with
        | .none => return made
        | _ => raiseFault .wrongType
      | none =>
        if !args.isEmpty then raiseFault .wrongType
        else if ofRecords then newRecord (some cell) named
        else if named.isEmpty then return made
        else raiseFault .wrongType
    | _ => raiseFault .wrongType

/-- Runs a statement. -/
def exec : Nat → Stmt → Action Flow
  | 0, _ => raiseFault .recursion
  | fuel + 1, s => do
    match s with
    | .expr e =>
      discard (eval fuel e)
      return .next
    | .assign targets e =>
      let d ← eval fuel e
      targets.forM fun name => bindName name d
      return .next
    | .update target op e =>
      let old ← lookUp target
      let d ← eval fuel e
      match op, old with
      | .add, .list cell =>
        let more ← itemsOf (fun f args => call fuel f args []) d
        let items ← listItems cell
        modify fun s => { s with memory := s.memory.assign cell (.items (items ++ more)) }
        bindName target old
      | op, old => bindName target (← compute (fun f args => call fuel f args []) op old d)
      return .next
    | .delete names =>
      names.forM deleteName
      return .next
    | .pass => return .next
    | .raise none => raiseFault .nothingRaised
    | .raise (some e) =>
      match ← eval fuel e with
      | .errorClass c => raiseError c []
      | .error c args => raiseError c args
      | _ => raiseFault .wrongType
    | .imports items =>
      items.forM importItem
      return .next
    | .returns none => return .returned .none
    | .returns (some e) => return .returned (← eval fuel e)
    | .leave => return .left
    | .next => return .again
    | .choose test yes no =>
      if ← isTruthy (← eval fuel test) then runAll (exec fuel) yes else runAll (exec fuel) no
    | .repeatWhile test body =>
      takeTurns (fun _ => do
        if ← isTruthy (← eval fuel test) then return afterTurn (← runAll (exec fuel) body)
        else return some .next) turnLimit 0
    | .forEach target e body =>
      let d ← eval fuel e
      let fixed ← itemsOf (fun f args => call fuel f args []) d
      takeTurns (fun place => do
        let items ← match d with
          | .list cell => listItems cell
          | _ => pure fixed
        match items[place]? with
        | none => return some .next
        | some item =>
          bindName target item
          return afterTurn (← runAll (exec fuel) body)) turnLimit 0
    | .define name params body =>
      let params ← params.mapM fun (p, default) => do
        match default with
        | none => return (p, none)
        | some e => return (p, some (← allocate (.items [← eval fuel e])))
      bindName name (.function name params body (← get).home)
      return .next
    | .defineClass name base body =>
      -- the class of named values is the only one to derive from
      let ofRecords ← match ← base.mapM (eval fuel) with
        | none => pure false
        | some (.builtin .recordOf) => pure true
        | some _ => raiseFault .wrongType
      let s ← get
      -- a name that the body does not bind is one of the scope
      set { s with frame := some ⟨[], allSharedNames body, [], s.home⟩ }
      discard (runAll (exec fuel) body)
      let attributes := ((← get).frame.map (·.bindings)).getD []
      modify fun left => { left with frame := s.frame }
      let info := Cell.classInfo name (docOf body) ofRecords attributes
      bindName name (.classObject (← allocate info))
      return .next
    | .shared _ => return .next

end

/-- How deep calls and expressions nest at most. -/
def depthLimit : Nat := 5000

/-- Runs statements; the answer is the value of the expression that they end with. -/
def runStatements (statements : List Stmt) : Action (Option Datum) := do
  match statements.getLast? with
  | some (.expr e) =>
    discard (runAll (exec depthLimit) statements.dropLast)
    return some (← eval depthLimit e)
  | _ =>
    discard (runAll (exec depthLimit) statements)
    return none

/-- Takes an action in a store. -/
def perform {α : Type} (action : Action α) (store : Store Memory Datum) :
    Ran (Store Memory Datum) α :=
  let (result, s) := action.run.run { memory := store.memory, scope := store.scope }
  { state := ⟨s.memory, s.scope⟩, output := s.output, result := result }

/-- Runs source in a store. -/
def run (source : String) (store : Store Memory Datum) :
    Ran (Store Memory Datum) (Option Datum) :=
  match read source with
  | .error f => .failed store (.fault f)
  | .ok statements => perform (runStatements statements) store

/-- Calls a datum from outside. -/
def callBack : Caller := fun f args => call depthLimit f args []

end ReplEngine.Language
