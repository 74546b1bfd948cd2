import ReplEngine.Json.Basic
import ReplEngine.Decimal.FloatText
import ReplEngine.Error

/-!
# Writing JSON

The compact text of a JSON value: no blanks, fields in their order, and inside
strings only quotes, backslashes and control characters escaped.  A whole number that is
too long has no text, and halves of surrogate pairs, which are not escaped, have no
encoding.
-/

namespace ReplEngine.Json

/-- One character of a JSON string. -/
def escapeChar (c : Char) : List Char :=
  if c == '"' then ['\\', '"']
  else if c == '\\' then ['\\', '\\']
  else if c == '\n' then ['\\', 'n']
  else if c == '\r' then ['\\', 'r']
  else if c == '\t' then ['\\', 't']
  else if c.toNat == 8 then ['\\', 'b']
  else if c.toNat == 12 then ['\\', 'f']
  else if c.toNat < 32 then '\\' :: 'u' :: Text.hexPadded 4 c.toNat
  else [c]

/-- A string with its quotes. -/
def quote (s : String) : String :=
  String.ofList ('"' :: s.toList.flatMap escapeChar ++ ['"'])

/-- One code point of a JSON string.  What stands for a half is a control character, which
would be escaped if it were meant. -/
def escapePoint : CodePoint → List Char
  | .char c => escapeChar c
  | .half code => [CodePoint.toChar (.half code)]

/-- A string that is no text, with its quotes. -/
def quotePoints (points : List CodePoint) : String :=
  String.ofList ('"' :: points.flatMap escapePoint ++ ['"'])

/-- The halves among code points. -/
def halvesOf (points : List CodePoint) : List Nat :=
  points.filterMap fun
    | .char _ => none
    | .half code => some code

mutual

/-- Whether every whole number in a value is short enough to be written, and no string holds
half of a surrogate pair. -/
def isWritable : Json → Bool
  | int n => isShort n
  | arr xs => areWritable xs
  | obj fields => areWritableFields fields
  | loose points => (halvesOf points).isEmpty
  | looseObj fields => areWritableLoose fields
  | _ => true

/-- Whether all items can be written. -/
def areWritable : List Json → Bool
  | [] => true
  | x :: rest => isWritable x && areWritable rest

/-- Whether all fields can be written. -/
def areWritableFields : List (String × Json) → Bool
  | [] => true
  | (_, v) :: rest => isWritable v && areWritableFields rest

/-- Whether all fields and their keys can be written. -/
def areWritableLoose : List (List CodePoint × Json) → Bool
  | [] => true
  | (k, v) :: rest => (halvesOf k).isEmpty && isWritable v && areWritableLoose rest

end

mutual

/-- Whether every whole number in a value is short enough. -/
def isCompact : Json → Bool
  | int n => isShort n
  | arr xs => areCompact xs
  | obj fields => areCompactFields fields
  | looseObj fields => areCompactLoose fields
  | _ => true

/-- Whether the whole numbers in all items are short enough. -/
def areCompact : List Json → Bool
  | [] => true
  | x :: rest => isCompact x && areCompact rest

/-- Whether the whole numbers in all fields are short enough. -/
def areCompactFields : List (String × Json) → Bool
  | [] => true
  | (_, v) :: rest => isCompact v && areCompactFields rest

/-- Whether the whole numbers in all fields with such keys are short enough. -/
def areCompactLoose : List (List CodePoint × Json) → Bool
  | [] => true
  | (_, v) :: rest => isCompact v && areCompactLoose rest

end

mutual

/-- The halves of surrogate pairs in a value, in the order of its text. -/
def halves : Json → List Nat
  | arr xs => halvesOfItems xs
  | obj fields => halvesOfFields fields
  | loose points => halvesOf points
  | looseObj fields => halvesOfLoose fields
  | _ => []

/-- The halves in the items of an array. -/
def halvesOfItems : List Json → List Nat
  | [] => []
  | x :: rest => halves x ++ halvesOfItems rest

/-- The halves in the fields of an object. -/
def halvesOfFields : List (String × Json) → List Nat
  | [] => []
  | (_, v) :: rest => halves v ++ halvesOfFields rest

/-- The halves in the keys and the values of fields. -/
def halvesOfLoose : List (List CodePoint × Json) → List Nat
  | [] => []
  | (k, v) :: rest => halvesOf k ++ halves v ++ halvesOfLoose rest

end

/-- A floating point number; the three that JSON does not have are spelled out. -/
def floatText (x : Float) : String :=
  match Decimal.ofFloat x with
  | "nan" => "NaN"
  | "inf" => "Infinity"
  | "-inf" => "-Infinity"
  | text => text

mutual

/-- The compact text of a value. -/
def render : Json → String
  | null => "null"
  | bool true => "true"
  | bool false => "false"
  | int n => toString n
  | float x => floatText x
  | str s => quote s
  | arr xs => "[" ++ renderItems xs ++ "]"
  | obj fields => "\x7b" ++ renderFields fields ++ "\x7d"
  | loose points => quotePoints points
  | looseObj fields => "\x7b" ++ renderLoose fields ++ "\x7d"

/-- The items of an array, separated by commas. -/
def renderItems : List Json → String
  | [] => ""
  | [x] => render x
  | x :: y :: rest => render x ++ "," ++ renderItems (y :: rest)

/-- The fields of an object, separated by commas. -/
def renderFields : List (String × Json) → String
  | [] => ""
  | [(k, v)] => quote k ++ ":" ++ render v
  | (k, v) :: f :: rest => quote k ++ ":" ++ render v ++ "," ++ renderFields (f :: rest)

/-- The fields of an object with a key that is no text. -/
def renderLoose : List (List CodePoint × Json) → String
  | [] => ""
  | [(k, v)] => quotePoints k ++ ":" ++ render v
  | (k, v) :: f :: rest => quotePoints k ++ ":" ++ render v ++ "," ++ renderLoose (f :: rest)

end

/-- Why a value cannot be written: a number that is too long has no text, and the first halves
in a text have no encoding. -/
def obstacle (j : Json) : Error :=
  if j.isCompact then
    let isHalf (c : Char) : Bool := c == CodePoint.toChar (.half 0)
    let text := j.render.toList
    .unencodable (j.halves.headD 0) (text.takeWhile (!isHalf ·)).length
      ((text.dropWhile (!isHalf ·)).takeWhile isHalf).length
  else .tooManyDigits

end ReplEngine.Json
