import ReplEngine.Language.Run

/-!
# The language for a worker

The evaluated language as a worker asks for it, beside a program that was there before
the session: its objects can be named in source, and introspection sees them together
with what source has bound.
-/

namespace ReplEngine.Language

/-- What was there before the session. -/
structure Host where
  program : Program := {}
  /-- The values of the contexts that introspection may evaluate. -/
  evaluate : Program.Evaluator := fun _ => none

/-- The file that evaluated source belongs to. -/
def sourceName : String := "<quill>"

/-- What introspection sees of a datum that is no class and no instance: an entity, and the
objects that it brings, the first of which has the given id. -/
def plainEntity (m : Memory) (id : ObjectId) (d : Datum) :
    Entity × List (ObjectId × ProgramObject) :=
  match d with
  | .object id => (.object id, [])
  | .function name params body _ =>
    (.object id, [(id, .function
      { name := name, doc := docOf body, file := sourceName, line := 1,
        params := params.map fun (p, cell) => { name := p, default := cell.map .object } })])
  | .module name => (.object id, [(id, .moduleObject { name := name })])
  | d => (.value (m.valueOf d), [])

/-- The id of the class or the instance in a cell. -/
def cellId (cell : Nat) : ObjectId :=
  "cell." ++ toString cell

/-- What introspection sees of the class in a cell, and of its members. -/
def classEntity (m : Memory) (cell : Nat) : Entity × List (ObjectId × ProgramObject) :=
  let (name, doc, attributes) := m.classAt cell
  let members := attributes.map fun (member, d) =>
    (member, plainEntity m (cellId cell ++ "." ++ member) d)
  let info : ClassInfo :=
    { name := name, qualname := name, home := mainModule, doc := doc,
      attributes := members.map fun (member, e, _) => (member, { entity := e }) }
  (.object (cellId cell), (cellId cell, .classObject info) :: members.flatMap fun (_, _, os) => os)

/-- What introspection sees of a binding. -/
def entityOf (m : Memory) (name : String) (d : Datum) :
    Entity × List (ObjectId × ProgramObject) :=
  match d with
  | .classObject cell => classEntity m cell
  | .instanceOf cell =>
    let cls := m.classCell cell
    (.object (cellId cell), (cellId cell, .instanceOf (cellId cls) []) :: (classEntity m cls).2)
  | .record (some cls) fields =>
    let id := "scope." ++ name
    let attributes := fields.map fun (field, d) => (field, Entity.value (m.valueOf d))
    (.object id, (id, .instanceOf (cellId cls) attributes) :: (classEntity m cls).2)
  | d => plainEntity m ("scope." ++ name) d

/-- What introspection sees of a store. -/
def programOf (h : Host) (store : Store Memory Datum) : Program :=
  let entries := store.scope.map fun (name, d) => (name, entityOf store.memory name d)
  { h.program with
    objects := h.program.objects ++ entries.flatMap fun (_, _, objects) => objects
    scope := entries.map fun (name, e, _) => (name, e)
    main := some (store.scope.map (·.1)) }

/-- Evaluates the text of a context. -/
def evaluate (h : Host) (text : String) (store : Store Memory Datum) :
    Ran (Store Memory Datum) Entity :=
  match h.evaluate text with
  | some e => .done store e
  | none => .failed store (.fault .unboundName)

/-- The language for a worker. -/
def interpreter (h : Host) : Interpreter Memory Datum where
  run := run
  enterCopy := Memory.enterCopy
  leaveCopy := Memory.leaveCopy
  leaveCopy_enterCopy _ := rfl
  leaveCopy_scope _ _ _ := rfl
  isNone d := d matches .none
  text?
    | .text s => some s
    | .foreign v => v.str?
    | _ => none
  inspect i d := perform (inspect callBack i d)
  program := programOf h
  describe number := perform do describe callBack ((← get).memory.item number)
  evaluate := evaluate h

end ReplEngine.Language
