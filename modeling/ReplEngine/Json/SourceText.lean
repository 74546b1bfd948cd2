import ReplEngine.Json.Basic
import ReplEngine.Decimal.FloatText
import ReplEngine.Text.Quoted

/-!
# JSON values as source

Complaints about a message show it as an expression of the evaluated language.
-/

namespace ReplEngine.Json

/-- One code point of a string in source: a half is always escaped. -/
def sourcePoint (quote : Char) : CodePoint → List Char
  | .char c => Text.quoteChar quote c
  | .half code => '\\' :: 'u' :: Text.hexPadded 4 code

/-- The source of a string that is no text. -/
def sourcePoints (points : List CodePoint) : String :=
  let quote := Text.quoteFor (points.map CodePoint.toChar)
  String.ofList (quote :: points.flatMap (sourcePoint quote) ++ [quote])

mutual

/-- The source of a value. -/
def sourceText : Json → String
  | null => "None"
  | bool true => "True"
  | bool false => "False"
  | int n => toString n
  | float x => Decimal.ofFloat x
  | str s => Text.quoteString s
  | arr xs => "[" ++ sourceItems xs ++ "]"
  | obj fields => "\x7b" ++ sourceFields fields ++ "\x7d"
  | loose points => sourcePoints points
  | looseObj fields => "\x7b" ++ sourceLoose fields ++ "\x7d"

/-- The items of a list, separated by commas. -/
def sourceItems : List Json → String
  | [] => ""
  | [x] => sourceText x
  | x :: y :: rest => sourceText x ++ ", " ++ sourceItems (y :: rest)

/-- The entries of a mapping, separated by commas. -/
def sourceFields : List (String × Json) → String
  | [] => ""
  | [(k, v)] => Text.quoteString k ++ ": " ++ sourceText v
  | (k, v) :: f :: rest =>
    Text.quoteString k ++ ": " ++ sourceText v ++ ", " ++ sourceFields (f :: rest)

/-- The entries of a mapping with a key that is no text. -/
def sourceLoose : List (List CodePoint × Json) → String
  | [] => ""
  | [(k, v)] => sourcePoints k ++ ": " ++ sourceText v
  | (k, v) :: f :: rest =>
    sourcePoints k ++ ": " ++ sourceText v ++ ", " ++ sourceLoose (f :: rest)

end

/-- The text of a value as it is printed: a string is its own text. -/
def text : Json → String
  | str s => s
  | loose points => CodePoint.standIn points
  | j => j.sourceText

end ReplEngine.Json
