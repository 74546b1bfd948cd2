import ReplEngine.Value.Text
import ReplEngine.Text.Lines

/-!
# Layout

The text of a value as it is shown at the prompt.  A collection stands on one
line if it fits, otherwise its parts stand on lines of their own, indented one
step deeper.  Below a greatest depth only an ellipsis is shown.
-/

namespace ReplEngine

/-- The measures of the layout. -/
structure Layout where
  indentWidth : Int := 2
  width : Int := 72
  maxDepth : Int := 6

namespace Layout

/-- The number of blanks of one step. -/
def step (l : Layout) : Nat :=
  l.indentWidth.toNat

/-- The blanks before a line of the given level. -/
def indent (l : Layout) (level : Int) : String :=
  Text.spaces (l.step * level.toNat)

/-- Whether a text on one line fits at a level. -/
def fits (l : Layout) (level : Int) (line : String) : Bool :=
  !line.toList.contains '\n' && (line.length : Int) + l.step * level ≤ l.width

/-- A part on a line of its own; its further lines are indented already. -/
def blockPart (l : Layout) (level : Int) (part : String) : String :=
  let lines := match Text.linesOf part with
    | [] => [""]
    | lines => lines
  l.indent (level + 1) ++ String.intercalate "\n" lines ++ ","

/-- The parts on lines of their own between two marks. -/
def block (l : Layout) (level : Int) (opening closing : String) (parts : List String) : String :=
  opening ++ "\n" ++ String.intercalate "\n" (parts.map (l.blockPart level)) ++ "\n"
    ++ l.indent level ++ closing

/-- Parts between two marks, on one line if they fit.  `trailing` stands behind
the parts on one line. -/
def arrange (l : Layout) (level : Int) (opening closing trailing : String)
    (parts : List String) : String :=
  if parts.isEmpty then opening ++ closing
  else
    let inline := opening ++ String.intercalate ", " parts ++ trailing ++ closing
    if l.fits level inline then inline else l.block level opening closing parts

/-- The members of a set, in the order they are shown. -/
def arrangeSet (l : Layout) (level : Int) (className : String) (wrapped : Bool)
    (members : List (Value × Except Error String)) : Except Error String := do
  if members.isEmpty then return className ++ "()"
  let body := l.arrange level "\x7b" "\x7d" "" (← (Value.inSetOrder members).mapM (·.2))
  return if wrapped then "frozenset(" ++ body ++ ")" else body

/-- The entries of a mapping: keys first, then the values. -/
def arrangeEntries (l : Layout) (level : Int)
    (entries : List (Except Error String × Except Error String)) : Except Error String := do
  let keys ← entries.mapM (·.1)
  let values ← entries.mapM (·.2)
  return l.arrange level "\x7b" "\x7d" "" ((keys.zip values).map Value.entryText)

/-- Named fields behind the name of their owner. -/
def arrangeFields (l : Layout) (level : Int) (owner : String)
    (fields : List (String × Except Error String)) : Except Error String := do
  let parts ← fields.mapM fun (name, text) => do return name ++ "=" ++ (← text)
  return owner ++ l.arrange level "(" ")" "" parts

/-- The name a function is shown by. -/
def functionText (name qualname : String) : String :=
  "<function " ++ (if qualname.isEmpty then name else qualname) ++ ">"

mutual

/-- The text of a value at a level.  An object with attributes of a class of its own is shown by
its description, however deep that goes. -/
def render (l : Layout) (level : Int) (v : Value) : Except Error String :=
  if l.maxDepth < level then .ok "..."
  else match v with
  | .list items | .extended _ (.list items) =>
    return l.arrange level "[" "]" "" (← (renderItems l (level + 1) items).mapM (·.2))
  | .tuple items | .extended _ (.tuple items) => do
    let parts ← (renderItems l (level + 1) items).mapM (·.2)
    return l.arrange level "(" ")" (if parts.length == 1 then "," else "") parts
  | .set items => l.arrangeSet level "set" false (renderItems l (level + 1) items)
  | .frozenset items => l.arrangeSet level "frozenset" true (renderItems l (level + 1) items)
  | .extended name (.set items) => l.arrangeSet level name false (renderItems l (level + 1) items)
  | .extended name (.frozenset items) =>
    l.arrangeSet level name true (renderItems l (level + 1) items)
  | .dict entries => l.arrangeEntries level (renderEntries l (level + 1) entries)
  | .orderedDict entries =>
    return "OrderedDict(" ++ (← l.arrangeEntries level (renderEntries l (level + 1) entries)) ++ ")"
  | .mappingView entries => do
    let inner ← l.arrangeEntries level (renderEntries l (level + 1) entries)
    return "mappingproxy(" ++ inner ++ ")"
  | .extended name (.dict entries) | .extended name (.orderedDict entries) =>
    return name ++ "(" ++ (← l.arrangeEntries level (renderEntries l (level + 1) entries)) ++ ")"
  | .record fields => l.arrangeFields level "namespace" (renderFields l (level + 1) fields)
  | .namedTuple name fields | .extended name (.namedTuple _ fields) =>
    l.arrangeFields level name (renderFields l (level + 1) fields)
  | .dataclass name fields | .extended name (.dataclass _ fields) =>
    l.arrangeFields level name (renderShown l (level + 1) fields)
  | .function name qualname | .method name qualname => .ok (functionText name qualname)
  | .builtin name => .ok (functionText name name)
  | .classType module qualname false => .ok ("<class " ++ module ++ "." ++ qualname ++ ">")
  | .module name => .ok ("<module " ++ name ++ ">")
  | v => v.repr

/-- The items with their texts. -/
def renderItems (l : Layout) (level : Int) : List Value → List (Value × Except Error String)
  | [] => []
  | item :: rest => (item, render l level item) :: renderItems l level rest

/-- The texts of the keys and values of entries. -/
def renderEntries (l : Layout) (level : Int) :
    List (Value × Value) → List (Except Error String × Except Error String)
  | [] => []
  | (key, value) :: rest =>
    (render l level key, render l level value) :: renderEntries l level rest

/-- The fields with the texts of their values. -/
def renderFields (l : Layout) (level : Int) :
    List (String × Value) → List (String × Except Error String)
  | [] => []
  | (name, value) :: rest => (name, render l level value) :: renderFields l level rest

/-- The fields that are shown, with the texts of their values. -/
def renderShown (l : Layout) (level : Int) :
    List (String × Bool × Value) → List (String × Except Error String)
  | [] => []
  | (name, shown, value) :: rest =>
    let others := renderShown l level rest
    if shown then (name, render l level value) :: others else others

end

end Layout

/-- How the value of a statement is shown. -/
inductive Inspector where
  /-- Laid out over lines. -/
  | dump
  /-- As its description. -/
  | source
deriving Repr, DecidableEq

namespace Inspector

/-- The names of inspectors. -/
def names : List (String × Inspector) :=
  [("dump", .dump), ("export", .source)]

/-- The inspector of a name. -/
def ofName? (name : String) : Option Inspector :=
  (names.find? fun n => n.1 == name).map (·.2)

/-- The inspector of a name, or a complaint about the name. -/
def ofName (name : String) : Except Error Inspector :=
  match ofName? name with
  | some i => .ok i
  | none => .error (.unknownInspector name)

/-- The mark before a shown value. -/
def marker : String :=
  " → "

/-- The line that shows a value. -/
def inspect (i : Inspector) (v : Value) : Except Error String := do
  let text ← match i with
    | .dump => ({} : Layout).render 0 v
    | .source => v.repr
  return marker ++ text

end Inspector

end ReplEngine
