import ReplEngine.Json.SourceText
import ReplEngine.Error
import ReplEngine.Text.Lines

/-!
# Taking JSON values apart

What a session does with the bodies of responses.  A body of another shape than
expected is an error of its own kind.
-/

namespace ReplEngine.Json

/-- Whether a value counts as true: all do but null, zeros and what is empty. -/
def isTruthy : Json → Bool
  | null => false
  | bool b => b
  | int n => n != 0
  | float x => x != 0.0
  | str s => !s.isEmpty
  | arr items => !items.isEmpty
  | obj fields => !fields.isEmpty
  | loose _ | looseObj _ => true

/-- The part of a value under a key, which it has to have. -/
def part (j : Json) (key : String) : Except Error Json :=
  match j with
  | obj _ | looseObj _ =>
    match j.field? key with
    | some value => .ok value
    | none => .error (.missingKey key)
  | str _ | loose _ => .error (.wrongSubscript "string indices must be integers, not 'str'")
  | arr _ => .error (.wrongSubscript "list indices must be integers or slices, not str")
  | j => .error (.notSubscriptable j.typeName)

/-- The part of an object under a key, null if it has none. -/
def partOrNull (j : Json) (key : String) : Except Error Json :=
  match j with
  | obj _ | looseObj _ => .ok (j.field key)
  | _ => .error (.missingAttribute "get")

/-- The items that a value yields when it is walked through. -/
def walk : Json → Except Error (List Json)
  | arr items => .ok items
  | str s => .ok (s.toList.map fun c => str (String.singleton c))
  | obj fields => .ok (fields.map fun f => str f.1)
  | loose points => .ok (points.map fun point => ofPoints [point])
  | looseObj fields => .ok (fields.map fun f => ofPoints f.1)
  | j => .error (.notIterable j.typeName)

/-- The items of a value, none if it does not count as true. -/
def walkIfAny (j : Json) : Except Error (List Json) :=
  if j.isTruthy then j.walk else .ok []

/-- The text of a value, padded on the right up to a width. -/
def padded (width : Nat) : Json → Except Error String
  | str s => .ok (Text.padRight width s)
  | loose points => .ok (Text.padRight width (CodePoint.standIn points))
  | bool b => .ok (Text.padRight width (if b then "1" else "0"))
  | int n => .ok (Text.padRight width (toString n))
  | float x => .ok (Text.padRight width (Decimal.ofFloat x))
  | j => .error (.unformattable j.typeName)

end ReplEngine.Json
