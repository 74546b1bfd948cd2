/-!
# JSON values

Messages, answers and configuration travel as JSON.  Whole numbers and floating
point numbers are kept apart, and the fields of an object keep their order.  An escape
in a JSON text can name half of a surrogate pair alone, which is no character: strings
and keys with such halves are kept apart from those that are texts.
-/

namespace ReplEngine

/-- A code point of a string: a character, or half of a surrogate pair alone. -/
inductive CodePoint where
  | char (c : Char)
  | half (code : Nat)
deriving Repr, DecidableEq

namespace CodePoint

/-- The code points of a text. -/
def ofString (s : String) : List CodePoint :=
  s.toList.map char

/-- The character of a code point, if it is one. -/
def char? : CodePoint → Option Char
  | char c => some c
  | half _ => none

/-- What stands for a code point where there is only room for characters.  Like a half, the
null character is part of no name and of no source. -/
def toChar : CodePoint → Char
  | char c => c
  | half _ => '\x00'

/-- The text of code points, if all of them are characters. -/
def text? (points : List CodePoint) : Option String :=
  String.ofList <$> points.mapM char?

/-- A text in the place of code points. -/
def standIn (points : List CodePoint) : String :=
  String.ofList (points.map toChar)

end CodePoint

/-- A JSON value. -/
inductive Json where
  | null
  | bool (b : Bool)
  | int (n : Int)
  | float (x : Float)
  | str (s : String)
  | arr (items : List Json)
  | obj (fields : List (String × Json))
  /-- A string that is no text. -/
  | loose (points : List CodePoint)
  /-- An object with a key that is no text. -/
  | looseObj (fields : List (List CodePoint × Json))
deriving Inhabited

namespace Json

/-- A string of code points. -/
def ofPoints (points : List CodePoint) : Json :=
  match CodePoint.text? points with
  | some s => str s
  | none => loose points

/-- An object whose keys are code points. -/
def ofFields (fields : List (List CodePoint × Json)) : Json :=
  match fields.mapM fun f => (·, f.2) <$> CodePoint.text? f.1 with
  | some fields => obj fields
  | none => looseObj fields

/-- The value of a field of an object. -/
def field? (key : String) : Json → Option Json
  | obj fields => (fields.find? fun f => f.1 == key).map (·.2)
  | looseObj fields => (fields.find? fun f => f.1 == CodePoint.ofString key).map (·.2)
  | _ => none

/-- The value of a field, null when it is missing or the value is no object. -/
def field (key : String) (j : Json) : Json :=
  (j.field? key).getD null

/-- The text of a string value that is one. -/
def str? : Json → Option String
  | str s => some s
  | _ => none

/-- The text of a string value, or what stands in its place. -/
def string? : Json → Option String
  | str s => some s
  | loose points => some (CodePoint.standIn points)
  | _ => none

/-- The items of an array, and none of anything else. -/
def items : Json → List Json
  | arr xs => xs
  | _ => []

/-- Sets a field: a new key goes to the end, a known one keeps its place. -/
def setField {κ : Type} [BEq κ] (fields : List (κ × Json)) (key : κ) (value : Json) :
    List (κ × Json) :=
  match fields with
  | [] => [(key, value)]
  | (k, v) :: rest => if k == key then (k, value) :: rest else (k, v) :: setField rest key value

/-- Whether a value is an object. -/
def isObject : Json → Bool
  | obj _ | looseObj _ => true
  | _ => false

/-- The type of a value that cannot be looked up in a table. -/
def unhashable? : Json → Option String
  | arr _ => some "list"
  | obj _ | looseObj _ => some "dict"
  | _ => none

/-- The name of a value's type. -/
def typeName : Json → String
  | null => "NoneType"
  | bool _ => "bool"
  | int _ => "int"
  | float _ => "float"
  | str _ | loose _ => "str"
  | arr _ => "list"
  | obj _ | looseObj _ => "dict"

/-- The longest whole number, in digits, that is read or written. -/
def maxIntDigits : Nat := 4300

/-- Whether a whole number is short enough to be written. -/
def isShort (n : Int) : Bool :=
  (Nat.toDigits 10 n.natAbs).length ≤ maxIntDigits

/-- An array of strings. -/
def ofStrings (xs : List String) : Json :=
  arr (xs.map str)

/-- A text or null. -/
def ofString? : Option String → Json
  | some s => str s
  | none => null

/-- A natural number. -/
def ofNat (n : Nat) : Json :=
  int n

end Json

end ReplEngine
