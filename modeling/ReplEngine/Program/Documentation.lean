import ReplEngine.Program.Names
import ReplEngine.Value.Text
import ReplEngine.Text.LetterCase

/-!
# Documentation of a program

What the program says about its objects: their documentation, their parameters and
where they were written.  A parameter is shown with its default, and a default that is an
object of the program describes itself.  That runs code, which may fail and do more than
answer, so that everything that shows parameters comes for any monad; the plain versions are
for programs whose defaults are data.
-/

namespace ReplEngine

/-- How a lookup asks the objects of a program to describe themselves.  It asks in `n`, where
it can fail, and goes on in `m` whether it failed or not; what asking does besides is up to
them. -/
structure Inquiry (n m : Type → Type) where
  /-- The text that describes a default. -/
  describe : Default → n String
  /-- Fails as the engine fails. -/
  lift : {α : Type} → Except Error α → n α
  /-- Asks, and goes on. -/
  attempt : {α : Type} → n α → m (Except Error α)

/-- The description of a default that is data.  An object has nobody to describe it but the
program. -/
def Default.repr : Default → Except Error String
  | data v => v.repr
  | object _ => .error (.description "")

/-- The inquiry that only answers. -/
def Inquiry.plain (m : Type → Type) [Monad m] : Inquiry (Except Error) m where
  describe := Default.repr
  lift x := x
  attempt x := pure x

@[simp] theorem Inquiry.plain_lift {m : Type → Type} [Monad m] {α : Type} (x : Except Error α) :
    (plain m).lift x = x :=
  rfl

@[simp] theorem Inquiry.plain_attempt {m : Type → Type} [Monad m] {α : Type}
    (x : Except Error α) : (plain m).attempt x = pure x :=
  rfl

/-- A text with each tab replaced by blanks up to the next column that is a multiple
of eight; `column` is where the text starts. -/
def expandTabs (column : Nat) : List Char → List Char
  | [] => []
  | '\t' :: rest =>
    List.replicate (8 - column % 8) ' ' ++ expandTabs (column + (8 - column % 8)) rest
  | c :: rest => c :: expandTabs (if c == '\n' || c == '\r' then 0 else column + 1) rest

/-- The least indentation of lines that are not blank. -/
def leastIndent? (lines : List (List Char)) : Option Nat :=
  ((lines.filter fun line => !Text.isBlank line).map fun line =>
    line.length - (Text.trimLeft line).length).min?

/-- Documentation as it is shown: without the indentation that all lines but the
first share, and without empty lines at both ends. -/
def cleanDoc (doc : String) : String :=
  match Text.splitAtChar '\n' (expandTabs 0 doc.toList) with
  | [] => ""
  | first :: rest =>
    let margin := (leastIndent? rest).getD 0
    let lines := Text.trimLeft first :: rest.map (List.drop margin)
    let isEmpty (line : List Char) : Bool := line.isEmpty
    let kept := ((lines.reverse.dropWhile isEmpty).reverse).dropWhile isEmpty
    String.ofList (Text.joinWith ['\n'] kept)

/-- The first line that is not blank. -/
def firstLine? (doc : String) : Option String :=
  ((Text.splitLines doc.toList).find? fun line => !Text.isBlank line).map fun line =>
    String.ofList (Text.trim line)

/-- Where something was written; the line may be unknown. -/
structure Location where
  file : String
  line : Option Int32 := none
deriving Repr, DecidableEq

/-- A text with every run of blanks replaced by one blank. -/
def joinBlanks : List Char → List Char
  | [] => []
  | c :: rest =>
    if Text.isSpace c then
      match rest with
      | [] => [' ']
      | d :: _ => if Text.isSpace d then joinBlanks rest else ' ' :: joinBlanks rest
    else c :: joinBlanks rest

namespace Param

/-- Whether a call may leave the parameter out. -/
def isOptional (q : Param) : Bool :=
  q.default.isSome || q.kind == .variadic || q.kind == .keywords

end Param

/-- The parameters without the one for the instance or the class. -/
def withoutReceiver : List Param → List Param
  | [] => []
  | q :: rest => if q.name == "self" || q.name == "cls" then rest else q :: rest

section Describing

variable {n m : Type → Type} [Monad n] (inquiry : Inquiry n m)

/-- The text of a parameter; a marked one is in capitals. -/
def Param.textIn (q : Param) (marked : Bool) : n String := do
  let name := if marked then Text.upperString q.name else q.name
  let starred := match q.kind with
    | .variadic => "*" ++ name
    | .keywords => "**" ++ name
    | _ => name
  match q.default with
  | none => return starred
  | some d =>
    return starred ++ "=" ++ String.ofList (joinBlanks (← inquiry.describe d).toList)

/-- The parameters as one text, those that may be left out in brackets at the end.
Parameter number `marked` is in capitals. -/
def signatureTextIn (params : List Param) (marked : Int) : n String := do
  let numbered := (withoutReceiver params).zipIdx
  let texts ← numbered.mapM fun (q, i) => do
    return (q.isOptional, ← q.textIn inquiry (decide (marked = (i : Int))))
  let joined (optional : Bool) : String :=
    String.intercalate ", " ((texts.filter fun t => t.1 == optional).map (·.2))
  let required := joined false
  let optional := joined true
  return if optional.isEmpty then required
    else if required.isEmpty then "[" ++ optional ++ "]"
    else required ++ "[, " ++ optional ++ "]"

end Describing

namespace Primitive

/-- The documentation of a function of the language. -/
def doc : Primitive → String
  | .length => "Return the number of items in a container."
  | .maximum =>
      "max(iterable, *[, default=obj, key=func]) -> value\n" ++
      "max(arg1, arg2, *args, *[, key=func]) -> value\n\n" ++
      "With a single iterable argument, return its biggest item. The\n" ++
      "default keyword-only argument specifies an object to return if\n" ++
      "the provided iterable is empty.\n" ++
      "With two or more arguments, return the largest argument."

/-- The parameters of a function of the language, where they are known. -/
def params? : Primitive → Option (List Param)
  | .length => some [{ name := "obj", kind := .positionalOnly }]
  | .maximum => none

end Primitive

namespace Program

/-- The documentation that all protocols share. -/
def protocolDoc : String :=
  "Base class for protocol classes.\n\n    Protocol classes are defined as::\n\n" ++
  "        class Proto(Protocol):\n            def meth(self) -> int:\n" ++
  "                ...\n\n" ++
  "    Such classes are primarily used with static type checkers that recognize\n" ++
  "    structural subtyping (static duck-typing), for example::\n\n" ++
  "        class C:\n            def meth(self) -> int:\n" ++
  "                return 0\n\n        def func(x: Proto) -> int:\n" ++
  "            return x.meth()\n\n        func(C())  # Passes static type check\n" ++
  "\n    See PEP 544 for details. Protocol classes decorated with\n" ++
  "    @typing.runtime_checkable act as simple-minded runtime protocols that check\n" ++
  "    only the presence of given attributes, ignoring their type signatures.\n" ++
  "    Protocol classes can be generic, they are defined as::\n\n" ++
  "        class GenProto(Protocol[T]):\n            def meth(self) -> T:\n" ++
  "                ...\n    "

/-- The documentation that a class itself has. -/
def ownDoc? (p : Program) : ClassRef → Option String
  | .declared id =>
    match lookup? "__doc__" (p.entriesOf (.declared id)) with
    | some (.value (.str text)) => some text
    | _ => none
  | .protocol => some protocolDoc
  | _ => none

/-- The documentation of an entity as it was written. -/
def rawDoc? (p : Program) : Entity → Option String
  | .object id =>
    match p.object? id with
    | some (.function info) => info.doc
    | some (.primitive which) => some which.doc
    | some (.classObject _) => (p.lineage id).findSome? p.ownDoc?
    | some (.instanceOf cls _) => p.ownDoc? (.declared cls)
    | some (.moduleObject info) =>
      match lookup? "__doc__" (moduleEntries info) with
      | some (.value (.str text)) => some text
      | _ => none
    | none => none
  | .slot _ _ doc => doc
  | .rootMember name => (RootMember.find? name).map (·.doc)
  | _ => none

/-- The documentation of an entity, or of the function behind it. -/
def doc? (p : Program) (e : Entity) : Option String :=
  (p.rawDoc? (unwrap e)).map cleanDoc

/-- The parameters that are left when a call fills the first one; where it cannot be
filled there is no signature. -/
def boundParams? : List Param → Option (List Param)
  | [] => none
  | q :: rest =>
    match q.kind with
    | .positionalOnly | .positional => some rest
    | .variadic => some (q :: rest)
    | _ => none

/-- What makes the instances of a class: the first initializer of the lineage.  A
protocol without one takes anything. -/
def initializer? (p : Program) (id : ObjectId) : Option (Option Entity) :=
  (p.declaredLineage id).findSome? fun (owner, info) =>
    match lookup? "__init__" info.attributes with
    | some a => some (some a.entity)
    | none =>
      if info.flavor == .protocol && !p.defines owner "__init__" then some none else none

/-- The parameters that a call of an entity fills; `fuel` bounds the steps from an
entity to the one that is called for it. -/
def params? (p : Program) : (fuel : Nat) → Entity → Option (List Param)
  | 0, _ => none
  | fuel + 1, e =>
    -- parameters of an entry of a class once the instance is filled in
    let ofEntry (entry : Entity) : Option (List Param) :=
      match entry with
      | .object id =>
        match p.object? id with
        | some (.primitive _) => none
        | _ => (params? p fuel entry).bind boundParams?
      | .static function => (params? p fuel (.object function)).bind boundParams?
      | .classLevel function =>
        ((params? p fuel (.object function)).bind boundParams?).bind boundParams?
      | _ => none
    match e with
    | .object id =>
      match p.object? id with
      | some (.function info) => some info.params
      | some (.primitive which) => which.params?
      | some (.classObject _) =>
        match p.initializer? id with
        | none => some []
        | some none => some RootMember.anyArguments
        | some (some entry) => ofEntry entry
      | some (.instanceOf cls _) =>
        if p.defines cls "__call__" then (p.inherited? cls "__call__").bind ofEntry else none
      | _ => none
    | .rootMember name => (RootMember.find? name).bind (·.params)
    | _ => none

/-- The signature of an entity, or of the function behind it. -/
def signatureIn {n m : Type → Type} [Monad n] (inquiry : Inquiry n m) (p : Program) (e : Entity)
    (marked : Int) : n (Option String) :=
  match p.params? (p.objects.length + 2) (unwrap e) with
  | none => pure none
  | some params => some <$> signatureTextIn inquiry params marked

@[inherit_doc signatureIn]
def signature? (p : Program) (e : Entity) (marked : Int) : Except Error (Option String) :=
  p.signatureIn (.plain Id) e marked

/-- The file of the module that a class belongs to. -/
def moduleFile? (p : Program) (home : String) : Option String :=
  p.objects.findSome? fun (_, object) =>
    match object with
    | .moduleObject info => if info.name == home then info.file else none
    | _ => none

/-- Where an entity, or the function behind it, was written. -/
def location? (p : Program) (e : Entity) : Option Location :=
  match unwrap e with
  | .object id =>
    match p.object? id with
    | some (.function info) => some ⟨info.file, some info.line⟩
    | some (.classObject info) => (p.moduleFile? info.home).map fun file => ⟨file, none⟩
    | some (.moduleObject info) => info.file.map fun file => ⟨file, none⟩
    | _ => none
  | _ => none

end Program

end ReplEngine
