import ReplEngine.Value.Order
import ReplEngine.Text.Lines
import ReplEngine.Json.Reader

/-!
# Plain scalars

What an unquoted word of a document stands for: nothing, a truth value, a whole
number in one of five notations, a floating point number, or its own text.
-/

namespace ReplEngine.Yaml

/-- Splits off a sign: whether it is negative, and the rest. -/
def takeSign : List Char → Bool × List Char
  | '-' :: rest => (true, rest)
  | '+' :: rest => (false, rest)
  | rest => (false, rest)

/-- The text without the underscores that group digits. -/
def dropUnderscores (cs : List Char) : List Char :=
  cs.filter (· != '_')

/-- The value of digits of a base; underscores do not count. -/
def digitsInBase (base : Nat) (cs : List Char) : Nat :=
  (dropUnderscores cs).foldl (fun n c => n * base + (Json.hexValue? c).getD 0) 0

/-- A non-empty run of characters that satisfy `p` or group digits. -/
def isRun (p : Char → Bool) (cs : List Char) : Bool :=
  !cs.isEmpty && cs.all fun c => p c || c == '_'

/-- A part of a number of base 60 behind its first one. -/
def isSixtieth : List Char → Bool
  | [a] => Text.isAsciiDigit a
  | [a, b] => '0' ≤ a && a ≤ '5' && Text.isAsciiDigit b
  | _ => false

/-- The value of parts of base 60. -/
def sixtiethsValue (parts : List (List Char)) : Nat :=
  parts.foldl (fun n part => n * 60 + digitsInBase 10 part) 0

/-- A whole number without its sign. -/
def natural? (cs : List Char) : Option Nat :=
  match cs with
  | '0' :: 'b' :: digits =>
    if isRun (fun c => c == '0' || c == '1') digits then some (digitsInBase 2 digits) else none
  | '0' :: 'x' :: digits =>
    if isRun (fun c => (Json.hexValue? c).isSome) digits then some (digitsInBase 16 digits)
    else none
  | ['0'] => some 0
  | '0' :: digits =>
    if isRun (fun c => '0' ≤ c && c ≤ '7') digits then some (digitsInBase 8 digits) else none
  | c :: _ =>
    if Text.isAsciiDigit c then
      match Text.splitAtChar ':' cs with
      | [] => none
      | first :: sixtieths =>
        if isRun Text.isAsciiDigit first && sixtieths.all isSixtieth then
          some (sixtiethsValue (first :: sixtieths))
        else none
    else none
  | [] => none

/-- A whole number. -/
def integer? (cs : List Char) : Option Int :=
  let (negative, body) := takeSign cs
  (natural? body).map fun n => if negative then -(n : Int) else n

/-- The exponent of a floating point number, which has a sign; none at the end of
the text. -/
def exponent? (cs : List Char) : Option Int :=
  match cs with
  | [] => some 0
  | e :: rest =>
    if e == 'e' || e == 'E' then
      match rest with
      | '+' :: digits =>
        if !digits.isEmpty && digits.all Text.isAsciiDigit then some (Json.digitsValue digits)
        else none
      | '-' :: digits =>
        if !digits.isEmpty && digits.all Text.isAsciiDigit then
          some (-(Json.digitsValue digits : Int))
        else none
      | _ => none
    else none

/-- The digits of a fraction and the text behind them. -/
def takeFraction (cs : List Char) : List Char × List Char :=
  let inFraction (c : Char) : Bool := Text.isAsciiDigit c || c == '_'
  (cs.takeWhile inFraction, cs.dropWhile inFraction)

/-- A decimal number from its whole part, fraction and exponent. -/
def decimalFloat (negative : Bool) (whole fraction : List Char) (exponent : Int) : Float :=
  let fraction := dropUnderscores fraction
  Decimal.toFloat negative (Json.digitsValue (dropUnderscores whole ++ fraction))
    (exponent - fraction.length)

/-- A floating point number. -/
def float? (cs : List Char) : Option Float :=
  let (negative, body) := takeSign cs
  let signed (x : Float) : Float := if negative then -x else x
  match body with
  | ['.', 'i', 'n', 'f'] | ['.', 'I', 'n', 'f'] | ['.', 'I', 'N', 'F'] => some (signed (1.0 / 0.0))
  | ['.', 'n', 'a', 'n'] | ['.', 'N', 'a', 'N'] | ['.', 'N', 'A', 'N'] =>
    if body.length == cs.length then some (0.0 / 0.0) else none
  | '.' :: rest =>
    match rest with
    | d :: _ =>
      if Text.isAsciiDigit d && body.length == cs.length then
        let (fraction, rest) := takeFraction rest
        (exponent? rest).map (decimalFloat negative [] fraction)
      else none
    | [] => none
  | d :: _ =>
    if !Text.isAsciiDigit d then none
    else
      let whole := body.takeWhile fun c => Text.isAsciiDigit c || c == '_'
      match body.drop whole.length with
      | '.' :: rest =>
        let (fraction, rest) := takeFraction rest
        (exponent? rest).map (decimalFloat negative whole fraction)
      | ':' :: _ =>
        match Text.cutAtLast? '.' body with
        | none => none
        | some (before, fraction) =>
          match Text.splitAtChar ':' before with
          | first :: second :: sixtieths =>
            if isRun Text.isAsciiDigit first && (second :: sixtieths).all isSixtieth
                && fraction.all (fun c => Text.isAsciiDigit c || c == '_') then
              let seconds := sixtiethsValue (first :: second :: sixtieths)
              some (decimalFloat negative (toString seconds).toList fraction 0)
            else none
          | _ => none
      | _ => none
  | [] => none

/-- The value of an unquoted word. -/
def plainValue (s : String) : Value :=
  if ["", "~", "null", "Null", "NULL"].contains s then .none
  else if ["yes", "Yes", "YES", "true", "True", "TRUE", "on", "On", "ON"].contains s then .bool true
  else if ["no", "No", "NO", "false", "False", "FALSE", "off", "Off", "OFF"].contains s then
    .bool false
  else match integer? s.toList with
  | some n => .int n
  | none => match float? s.toList with
    | some x => .float x
    | none => .str s

end ReplEngine.Yaml
