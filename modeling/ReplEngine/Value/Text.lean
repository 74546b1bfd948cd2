import ReplEngine.Value.Order
import ReplEngine.Text.Quoted
import ReplEngine.Error

/-!
# Text of values

`Value.repr` is the text that describes a value, for most values its source.  An
object whose description fails makes the whole description fail.
-/

namespace ReplEngine.Value

/-- The text of a complex number; a real part of positive zero is left out. -/
def complexText (re im : Float) : String :=
  let part (x : Float) : String := Decimal.floatText x false
  let signed (x : Float) : String :=
    let text := part x
    if text.toList.head? == some '-' then text else "+" ++ text
  if re.toBits == 0 then part im ++ "j"
  else "(" ++ part re ++ signed im ++ "j)"

/-- The texts in order, separated by a comma and a blank, between two marks. -/
def enclose (opening closing : String) (parts : List String) : String :=
  opening ++ String.intercalate ", " parts ++ closing

/-- The members of a set in braces; without members the class name and empty
parentheses. -/
def setText (className : String) (wrapped : Bool) (members : List (Value × Except Error String)) :
    Except Error String := do
  if members.isEmpty then return className ++ "()"
  let parts ← (inSetOrder members).mapM (·.2)
  let body := enclose "\x7b" "\x7d" parts
  return if wrapped then className ++ "(" ++ body ++ ")" else body

/-- The text of a class. -/
def classText (home qualname : String) : String :=
  if home == "builtins" then "<class '" ++ qualname ++ "'>"
  else "<class '" ++ home ++ "." ++ qualname ++ "'>"

/-- The text of a sequence of one item has a trailing comma. -/
def tupleText (parts : List String) : String :=
  match parts with
  | [part] => "(" ++ part ++ ",)"
  | parts => enclose "(" ")" parts

/-- An entry of a mapping in text. -/
def entryText (e : String × String) : String :=
  e.1 ++ ": " ++ e.2

/-- The entries of a mapping that keeps their order, in text. -/
def orderedText (className : String) (parts : List (String × String)) : String :=
  if parts.isEmpty then className ++ "()"
  else className ++ "(" ++ enclose "[" "]" (parts.map fun e => tupleText [e.1, e.2]) ++ ")"

mutual

/-- The text that describes a value.  Whole numbers have one however long they are. -/
def repr : Value → Except Error String
  | none => .ok "None"
  | bool b => .ok (if b then "True" else "False")
  | int n => .ok (toString n)
  | float x => .ok (Decimal.ofFloat x)
  | complex re im => .ok (complexText re im)
  | str s => .ok (Text.quoteString s)
  | bytes b => .ok (Text.quoteBytes b)
  | list items => return enclose "[" "]" (← (reprItems items).mapM (·.2))
  | tuple items => return tupleText (← (reprItems items).mapM (·.2))
  | set items => setText "set" false (reprItems items)
  | frozenset items => setText "frozenset" true (reprItems items)
  | dict entries => return enclose "\x7b" "\x7d" ((← reprEntries entries).map entryText)
  | orderedDict entries => return orderedText "OrderedDict" (← reprEntries entries)
  | mappingView entries =>
    return "mappingproxy(" ++ enclose "\x7b" "\x7d" ((← reprEntries entries).map entryText) ++ ")"
  | extended name (set items) => setText name true (reprItems items)
  | extended name (frozenset items) => setText name true (reprItems items)
  | extended name (orderedDict entries) => return orderedText name (← reprEntries entries)
  | extended name (record fields) | extended name (namedTuple _ fields) =>
    return enclose (name ++ "(") ")" (← reprFields fields)
  | extended name (dataclass _ fields) =>
    return enclose (name ++ "(") ")" (← reprShown fields)
  | extended _ base => base.repr
  | record fields => return enclose "namespace(" ")" (← reprFields fields)
  | namedTuple name fields => return enclose (name ++ "(") ")" (← reprFields fields)
  | dataclass name fields => return enclose (name ++ "(") ")" (← reprShown fields)
  | enumMember className name value => do
    return "<" ++ className ++ "." ++ name ++ ": " ++ (← value.repr) ++ ">"
  | function _ qualname => .ok ("<function " ++ qualname ++ ">")
  | method _ qualname => .ok ("<bound method " ++ qualname ++ ">")
  | builtin name => .ok ("<built-in function " ++ name ++ ">")
  | classType home qualname _ => .ok (classText home qualname)
  | module name => .ok ("<module '" ++ name ++ "'>")
  | ellipsis => .ok "Ellipsis"
  | notImplemented => .ok "NotImplemented"
  | described text => .ok text
  | undescribable complaint => .error (.description complaint)

/-- The items with their texts. -/
def reprItems : List Value → List (Value × Except Error String)
  | [] => []
  | item :: rest => (item, item.repr) :: reprItems rest

/-- The texts of entries. -/
def reprEntries : List (Value × Value) → Except Error (List (String × String))
  | [] => .ok []
  | (key, value) :: rest => do
    let key ← key.repr
    let value ← value.repr
    return (key, value) :: (← reprEntries rest)

/-- The texts of fields with their names. -/
def reprFields : List (String × Value) → Except Error (List String)
  | [] => .ok []
  | (name, value) :: rest => do
    let text ← value.repr
    return (name ++ "=" ++ text) :: (← reprFields rest)

/-- The texts of the fields that are shown. -/
def reprShown : List (String × Bool × Value) → Except Error (List String)
  | [] => .ok []
  | (name, shown, value) :: rest => do
    if shown then
      let text ← value.repr
      return (name ++ "=" ++ text) :: (← reprShown rest)
    else reprShown rest

end

/-- The text of a value as it is printed: a string is its own text. -/
def text (v : Value) : Except Error String :=
  match v with
  | enumMember className name _ => .ok (className ++ "." ++ name)
  | v => match v.str? with
    | some s => .ok s
    | Option.none => v.repr

end ReplEngine.Value
