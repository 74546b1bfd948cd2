import ReplEngine.Json.Basic
import ReplEngine.Decimal.FloatText
import ReplEngine.Text.CharClass

/-!
# Reading JSON

A reader for JSON texts that also takes `NaN`, `Infinity` and `-Infinity`.  It
stops at the first fault and says where: each fault carries the part of the text
that starts at the faulty place, so that its offset, line and column follow from
the whole text.
-/

namespace ReplEngine.Json

/-- What can be wrong with a text. -/
inductive Fault where
  | value
  | extraData
  | key
  | colon
  | comma
  | unterminatedString
  | controlCharacter
  | escape
  | unicodeEscape
  | byteOrderMark
  | tooManyDigits (count : Nat)
deriving Repr, DecidableEq

/-- A fault and the text from the faulty place on. -/
structure Halt where
  fault : Fault
  rest : List Char

/-- The complaint about a whole number of too many digits. -/
def tooManyDigitsText (count : Nat) : String :=
  "Exceeds the limit (4300 digits) for integer string conversion: value has " ++ toString count
    ++ " digits; use sys.set_int_max_str_digits() to increase the limit"

/-- The wording of a fault, without its place. -/
def Fault.text : Fault → String
  | .value => "Expecting value"
  | .extraData => "Extra data"
  | .key => "Expecting property name enclosed in double quotes"
  | .colon => "Expecting ':' delimiter"
  | .comma => "Expecting ',' delimiter"
  | .unterminatedString => "Unterminated string starting at"
  | .controlCharacter => "Invalid control character at"
  | .escape => "Invalid \\escape"
  | .unicodeEscape => "Invalid \\uXXXX escape"
  | .byteOrderMark => "Unexpected UTF-8 BOM (decode using utf-8-sig)"
  | .tooManyDigits count => tooManyDigitsText count

/-- The wording of a fault found in `text`, with line, column and offset. -/
def Halt.message (h : Halt) (text : List Char) : String :=
  match h.fault with
  | .tooManyDigits count => tooManyDigitsText count
  | fault =>
    let offset := text.length - h.rest.length
    let before := text.take offset
    let line := before.count '\n' + 1
    let column := (before.reverse.takeWhile (· != '\n')).length + 1
    fault.text ++ ": line " ++ toString line ++ " column " ++ toString column
      ++ " (char " ++ toString offset ++ ")"

/-- The blanks between the parts of a JSON text. -/
def isBlankChar (c : Char) : Bool :=
  c == ' ' || c == '\t' || c == '\n' || c == '\r'

/-- The text after its leading blanks. -/
def skipBlanks (cs : List Char) : List Char :=
  cs.dropWhile isBlankChar

/-- The value of a hexadecimal digit. -/
def hexValue? (c : Char) : Option Nat :=
  if '0' ≤ c && c ≤ '9' then some (c.toNat - 48)
  else if 'a' ≤ c && c ≤ 'f' then some (c.toNat - 87)
  else if 'A' ≤ c && c ≤ 'F' then some (c.toNat - 55)
  else none

/-- The value of four hexadecimal digits. -/
def hexValue4? (a b c d : Char) : Option Nat := do
  let a ← hexValue? a
  let b ← hexValue? b
  let c ← hexValue? c
  let d ← hexValue? d
  return ((a * 16 + b) * 16 + c) * 16 + d

/-- The character of a one-letter escape. -/
def plainEscape? (c : Char) : Option Char :=
  if c == '"' || c == '\\' || c == '/' then some c
  else if c == 'b' then some (Char.ofNat 8)
  else if c == 'f' then some (Char.ofNat 12)
  else if c == 'n' then some '\n'
  else if c == 'r' then some '\r'
  else if c == 't' then some '\t'
  else none

/-- The code point of a code unit, which may be half of a surrogate pair. -/
def unitPoint (n : Nat) : CodePoint :=
  if 0xd800 ≤ n && n < 0xe000 then .half n else .char (Char.ofNat n)

/-- The second half of a surrogate pair, if an escape for one follows.  `more` is
the text behind the escape of the first half. -/
def lowSurrogate? (more : List Char) : Except Halt (Option Nat) :=
  match more with
  | '\\' :: 'u' :: a :: b :: c :: d :: _ :: _ =>
    match hexValue4? a b c d with
    | none => .error ⟨.unicodeEscape, more.drop 1⟩
    | some low => .ok (if 0xdc00 ≤ low && low < 0xe000 then some low else none)
  | _ => .ok none

/-- The code point of an escape, and how many characters behind the backslash it
takes.  `opening` is the text from the opening quote of the string on, `text` the
text behind the backslash. -/
def readEscape (opening text : List Char) : Except Halt (CodePoint × Nat) :=
  match text with
  | [] => .error ⟨.unterminatedString, opening⟩
  | 'u' :: a :: b :: c :: d :: e :: more =>
    match hexValue4? a b c d with
    | none => .error ⟨.unicodeEscape, text⟩
    | some high => do
      if 0xd800 ≤ high && high < 0xdc00 then
        match ← lowSurrogate? (e :: more) with
        | some low =>
          return (.char (Char.ofNat (0x10000 + (high - 0xd800) * 0x400 + (low - 0xdc00))), 11)
        | none => return (unitPoint high, 5)
      else return (unitPoint high, 5)
  | 'u' :: _ => .error ⟨.unicodeEscape, text⟩
  | e :: _ =>
    match plainEscape? e with
    | some x => .ok (.char x, 1)
    | none => .error ⟨.escape, '\\' :: text⟩

/-- Reads the inside of a string up to its closing quote.  `opening` is the text
from the opening quote on, `skip` the number of characters that belong to an
escape read before, `acc` what was read, reversed. -/
def readString (opening : List Char) (skip : Nat) (acc : List CodePoint) :
    List Char → Except Halt (List CodePoint × List Char)
  | [] => .error ⟨.unterminatedString, opening⟩
  | c :: rest =>
    match skip with
    | skip + 1 => readString opening skip acc rest
    | 0 =>
      if c == '"' then .ok (acc.reverse, rest)
      else if c == '\\' then
        match readEscape opening rest with
        | .error halt => .error halt
        | .ok (x, width) => readString opening width (x :: acc) rest
      else if c.toNat < 32 then .error ⟨.controlCharacter, c :: rest⟩
      else readString opening 0 (.char c :: acc) rest

/-- The value of a run of decimal digits. -/
def digitsValue (cs : List Char) : Nat :=
  cs.foldl (fun n c => n * 10 + (c.toNat - 48)) 0

/-- The exponent part of a number, if the text starts with one. -/
def readExponent? (cs : List Char) : Option (Int × List Char) :=
  match cs with
  | c :: rest =>
    if c == 'e' || c == 'E' then
      let (negative, rest) := match rest with
        | '-' :: r => (true, r)
        | '+' :: r => (false, r)
        | r => (false, r)
      let digits := rest.takeWhile Text.isAsciiDigit
      if digits.isEmpty then none
      else
        let n : Int := digitsValue digits
        some (if negative then -n else n, rest.dropWhile Text.isAsciiDigit)
    else none
  | [] => none

/-- Takes the sign off a number: whether it is negative, and what is behind the sign. -/
def splitSign : List Char → Bool × List Char
  | '-' :: rest => (true, rest)
  | rest => (false, rest)

/-- The whole part of a number: a zero, or all digits. -/
def wholePart : List Char → List Char
  | '0' :: _ => ['0']
  | rest => rest.takeWhile Text.isAsciiDigit

/-- Takes the fraction off a number: its digits, if it has any, and what is behind it. -/
def splitFraction (cs : List Char) : List Char × List Char :=
  match cs with
  | '.' :: rest =>
    let digits := rest.takeWhile Text.isAsciiDigit
    if digits.isEmpty then ([], cs) else (digits, rest.dropWhile Text.isAsciiDigit)
  | _ => ([], cs)

/-- Reads a number, if the text starts with one. -/
def readNumber? (cs : List Char) : Option (Except Halt (Json × List Char)) :=
  let (negative, body) := splitSign cs
  let whole := wholePart body
  if whole.isEmpty then none
  else
    let (fraction, rest) := splitFraction (body.drop whole.length)
    let exponent := readExponent? rest
    match fraction, exponent with
    | [], none =>
      if maxIntDigits < whole.length then
        some (.error ⟨.tooManyDigits whole.length, cs⟩)
      else
        let n : Int := digitsValue whole
        some (.ok (int (if negative then -n else n), rest))
    | _, _ =>
      let (power, rest) := exponent.getD (0, rest)
      let mantissa := digitsValue (whole ++ fraction)
      some (.ok (float (Decimal.toFloat negative mantissa (power - fraction.length)), rest))

/-- Reads one of the words that stand for a value. -/
def readWord? (cs : List Char) : Option (Json × List Char) :=
  let words : List (String × Json) :=
    [("null", null), ("true", bool true), ("false", bool false), ("NaN", float (0.0 / 0.0)),
     ("Infinity", float (1.0 / 0.0)), ("-Infinity", float (-(1.0 / 0.0)))]
  words.findSome? fun (word, value) =>
    if word.toList.isPrefixOf cs then some (value, cs.drop word.length) else none

mutual

/-- Reads a value at the start of the text.  `fuel` bounds the nesting and the
number of items; the length of the text is enough. -/
def readValue (fuel : Nat) (cs : List Char) : Except Halt (Json × List Char) :=
  match fuel with
  | 0 => .error ⟨.value, cs⟩
  | fuel + 1 =>
    match cs with
    | [] => .error ⟨.value, cs⟩
    | '"' :: rest => do
      let (s, rest) ← readString cs 0 [] rest
      return (ofPoints s, rest)
    | '\x7b' :: rest =>
      match skipBlanks rest with
      | '\x7d' :: after => .ok (obj [], after)
      | inner => readFields fuel [] inner
    | '[' :: rest =>
      match skipBlanks rest with
      | ']' :: after => .ok (arr [], after)
      | inner => readItems fuel [] inner
    | _ =>
      match readWord? cs with
      | some result => .ok result
      | none =>
        match readNumber? cs with
        | some result => result
        | none => .error ⟨.value, cs⟩

/-- Reads the items of an array up to its closing bracket. -/
def readItems (fuel : Nat) (acc : List Json) (cs : List Char) :
    Except Halt (Json × List Char) :=
  match fuel with
  | 0 => .error ⟨.value, cs⟩
  | fuel + 1 => do
    let (item, rest) ← readValue fuel cs
    match skipBlanks rest with
    | ']' :: after => return (arr (item :: acc).reverse, after)
    | ',' :: after => readItems fuel (item :: acc) (skipBlanks after)
    | other => .error ⟨.comma, other⟩

/-- Reads the fields of an object up to its closing brace.  Of fields with one
key the last value counts, at the place of the first. -/
def readFields (fuel : Nat) (acc : List (List CodePoint × Json)) (cs : List Char) :
    Except Halt (Json × List Char) :=
  match fuel with
  | 0 => .error ⟨.value, cs⟩
  | fuel + 1 =>
    match cs with
    | '"' :: rest => do
      let (key, rest) ← readString cs 0 [] rest
      match skipBlanks rest with
      | ':' :: after =>
        let (value, rest) ← readValue fuel (skipBlanks after)
        let fields := setField acc key value
        match skipBlanks rest with
        | '\x7d' :: after => return (ofFields fields, after)
        | ',' :: after => readFields fuel fields (skipBlanks after)
        | other => .error ⟨.comma, other⟩
      | other => .error ⟨.colon, other⟩
    | _ => .error ⟨.key, cs⟩

end

/-- Reads a whole text as one value. -/
def readChars (cs : List Char) : Except Halt Json :=
  match cs with
  | '\ufeff' :: _ => .error ⟨.byteOrderMark, cs⟩
  | _ => do
    let (value, rest) ← readValue (2 * cs.length + 2) (skipBlanks cs)
    match skipBlanks rest with
    | [] => return value
    | other => .error ⟨.extraData, other⟩

/-- Reads a whole text as one value; the error is the wording of the fault. -/
def read (text : String) : Except String Json :=
  (readChars text.toList).mapError fun h => h.message text.toList

end ReplEngine.Json
