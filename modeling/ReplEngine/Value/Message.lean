import ReplEngine.Value.Basic
import ReplEngine.Json.Writer
import ReplEngine.Error

/-!
# Values in messages

Plain data can travel: nothing, truth values, numbers, text, sequences and
mappings with simple keys.  Everything else is refused by the name of its class.
-/

namespace ReplEngine.Value

/-- The text of a key: keys that are no text are written as JSON writes them. -/
def keyText (key : Value) : Except Error String :=
  match key.plain with
  | str s => .ok s
  | int n => if Json.isShort n then .ok (toString n) else .error .tooManyDigits
  | float x => .ok (Json.floatText x)
  | bool true => .ok "true"
  | bool false => .ok "false"
  | none => .ok "null"
  | _ => .error (.unserializableKey key.typeLabel)

mutual

/-- A value as JSON; the first part that cannot travel decides the error. -/
def toJson : Value → Except Error Json
  | none => .ok .null
  | bool b => .ok (.bool b)
  | int n => if Json.isShort n then .ok (.int n) else .error .tooManyDigits
  | float x => .ok (.float x)
  | str s => .ok (.str s)
  | list items | tuple items => .arr <$> toJsonItems items
  | dict entries | orderedDict entries => .obj <$> toJsonEntries entries
  | namedTuple _ fields => .arr <$> toJsonFields fields
  | extended name base =>
    match base with
    | set _ | frozenset _ => .error (.unserializable name)
    | _ => base.toJson
  | v => .error (.unserializable v.typeName)

/-- The items of a sequence as JSON. -/
def toJsonItems : List Value → Except Error (List Json)
  | [] => .ok []
  | item :: rest => do
    let item ← item.toJson
    return item :: (← toJsonItems rest)

/-- The entries of a mapping as JSON, each key before its value. -/
def toJsonEntries : List (Value × Value) → Except Error (List (String × Json))
  | [] => .ok []
  | (key, value) :: rest => do
    let key ← key.keyText
    let value ← value.toJson
    return (key, value) :: (← toJsonEntries rest)

/-- The values of fields as JSON. -/
def toJsonFields : List (String × Value) → Except Error (List Json)
  | [] => .ok []
  | (_, value) :: rest => do
    let value ← value.toJson
    return value :: (← toJsonFields rest)

end

mutual

/-- The value that a JSON value stands for. -/
def ofJson : Json → Value
  | .null => none
  | .bool b => bool b
  | .int n => int n
  | .float x => float x
  | .str s => str s
  | .arr items => list (ofJsonItems items)
  | .obj fields => dict (ofJsonFields fields)
  | .loose points => str (CodePoint.standIn points)
  | .looseObj fields => dict (ofJsonLoose fields)

/-- The values of the items of an array. -/
def ofJsonItems : List Json → List Value
  | [] => []
  | item :: rest => ofJson item :: ofJsonItems rest

/-- The entries of an object. -/
def ofJsonFields : List (String × Json) → List (Value × Value)
  | [] => []
  | (key, value) :: rest => (str key, ofJson value) :: ofJsonFields rest

/-- The entries of an object with a key that is no text. -/
def ofJsonLoose : List (List CodePoint × Json) → List (Value × Value)
  | [] => []
  | (key, value) :: rest => (str (CodePoint.standIn key), ofJson value) :: ofJsonLoose rest

end

end ReplEngine.Value
