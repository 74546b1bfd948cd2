import ReplEngine.Json.Reader
import ReplEngine.Scan.Token
import ReplEngine.Value.Order

/-!
# Literals

Reads values from their source: numbers, strings, byte strings, the names of constants, and
displays of lists, tuples, sets and mappings.  The text is cut into tokens, and the tokens are
put together.  Blanks and newlines count for nothing inside brackets and are refused outside.

The reader takes one spelling of each kind and refuses the others: there are no strings with
three marks or without escapes, no joined strings, and no numbers but whole ones in decimal
digits.
-/

namespace ReplEngine.Literal

open Scan (Bracket)

/-- The tokens of literals. -/
inductive Token where
  /-- A value that is one token. -/
  | atom (v : Value)
  | opening (bracket : Bracket)
  | closing (bracket : Bracket)
  | comma
  | colon
  /-- The name of the class of sets, or of those that cannot be changed. -/
  | className (frozen : Bool)

/-! ### Strings -/

/-- Reads exactly `width` hexadecimal digits behind those that gave `n`. -/
def readHex? : (width n : Nat) → List Char → Option (Nat × List Char)
  | 0, n, cs => some (n, cs)
  | width + 1, n, c :: cs => do readHex? width (n * 16 + (← Json.hexValue? c)) cs
  | _ + 1, _, [] => none

/-- Reads the digits of an escape; they must give a character. -/
def readCode? (width : Nat) (cs : List Char) : Option (Char × List Char) := do
  let (n, rest) ← readHex? width 0 cs
  if n.isValidChar then some (Char.ofNat n, rest) else none

/-- Reads an escape behind its backslash.  Byte strings have no escapes for characters beyond
a byte. -/
def readEscape? (isBytes : Bool) (cs : List Char) : Option (Char × List Char) :=
  match cs with
  | [] => none
  | c :: rest =>
    if c == 'x' then readCode? 2 rest
    else if c == 'u' && !isBytes then readCode? 4 rest
    else if c == 'U' && !isBytes then readCode? 8 rest
    else if c == '\\' || c == '\'' || c == '"' then some (c, rest)
    else if c == 'n' then some ('\n', rest)
    else if c == 'r' then some ('\r', rest)
    else if c == 't' then some ('\t', rest)
    else none

/-- Whether a character stands for itself in a string. -/
def isRaw (isBytes : Bool) (c : Char) : Bool :=
  if isBytes then 0x20 ≤ c.toNat && c.toNat < 0x7f else Text.isPrintable c

/-- Reads the inside of a string up to its closing quote, behind the characters `acc`, reversed.
`fuel` bounds the characters; the length of the text is enough. -/
def readBody (isBytes : Bool) (quote : Char) :
    (fuel : Nat) → (acc : List Char) → List Char → Option (List Char × List Char)
  | 0, _, _ => none
  | _ + 1, _, [] => none
  | fuel + 1, acc, c :: rest =>
    if c == quote then some (acc.reverse, rest)
    else if c == '\\' then do
      let (x, rest) ← readEscape? isBytes rest
      readBody isBytes quote fuel (x :: acc) rest
    else if isRaw isBytes c then readBody isBytes quote fuel (c :: acc) rest
    else none

/-- Reads a string behind its opening quote.  Three quotes open another kind of string. -/
def readQuoted? (isBytes : Bool) (quote : Char) (cs : List Char) : Option (List Char × List Char) :=
  if [quote, quote].isPrefixOf cs then none else readBody isBytes quote cs.length [] cs

/-! ### Tokens -/

/-- Whether a character can stand behind a number. -/
def endsNumber (c : Char) : Bool :=
  !Text.isWordChar c && c != '.'

/-- Reads a number behind its sign.  Only zero starts with a zero. -/
def readNumber? (negative : Bool) (cs : List Char) : Option (Token × List Char) :=
  let digits := cs.takeWhile Text.isAsciiDigit
  let rest := cs.dropWhile Text.isAsciiDigit
  if digits.isEmpty || (digits.head? == some '0' && digits != ['0']) ||
      Json.maxIntDigits < digits.length || !rest.head?.all endsNumber then none
  else
    let n : Int := Json.digitsValue digits
    some (.atom (.int (if negative then -n else n)), rest)

/-- The token of a word. -/
def wordToken? : String → Option Token
  | "None" => some (.atom .none)
  | "True" => some (.atom (.bool true))
  | "False" => some (.atom (.bool false))
  | "set" => some (.className false)
  | "frozenset" => some (.className true)
  | _ => none

/-- The token that a character is by itself. -/
def mark? (c : Char) : Option Token :=
  match Bracket.ofOpening? c with
  | some bracket => some (.opening bracket)
  | none =>
    if c == ')' then some (.closing .round)
    else if c == ']' then some (.closing .square)
    else if c == '\x7d' then some (.closing .curly)
    else if c == ',' then some .comma
    else if c == ':' then some .colon
    else none

/-- Whether a character is a quote. -/
def isQuote (c : Char) : Bool :=
  c == '\'' || c == '"'

/-- Reads one token that starts with `c`. -/
def readToken? (c : Char) (rest : List Char) : Option (Token × List Char) :=
  match mark? c with
  | some token => some (token, rest)
  | none =>
    if isQuote c then do
      let (s, rest) ← readQuoted? false c rest
      return (.atom (.str (String.ofList s)), rest)
    else if c == '-' then readNumber? true rest
    else if Text.isAsciiDigit c then readNumber? false (c :: rest)
    else
      match c, rest with
      | 'b', '\'' :: body => bytesToken '\'' body
      | 'b', '"' :: body => bytesToken '"' body
      | _, _ => do
        let word := (c :: rest).takeWhile Text.isWordChar
        let token ← wordToken? (String.ofList word)
        return (token, (c :: rest).dropWhile Text.isWordChar)
where
  /-- Reads a byte string behind its opening quote. -/
  bytesToken (quote : Char) (body : List Char) : Option (Token × List Char) := do
    let (s, rest) ← readQuoted? true quote body
    return (.atom (.bytes (s.map fun c => c.toNat.toUInt8)), rest)

/-- The number of open brackets behind a token. -/
def Token.depthAfter (depth : Nat) : Token → Nat
  | .opening _ => depth + 1
  | .closing _ => depth - 1
  | _ => depth

/-- The tokens of a text inside `depth` brackets.  `fuel` bounds them; one more than the length
of the text is enough. -/
def tokensFrom : (fuel depth : Nat) → List Char → Option (List Token)
  | 0, _, _ => none
  | _ + 1, _, [] => some []
  | fuel + 1, depth, c :: rest =>
    if c == ' ' || c == '\n' then
      if depth = 0 then none else tokensFrom fuel depth rest
    else do
      let (token, after) ← readToken? c rest
      return token :: (← tokensFrom fuel (token.depthAfter depth) after)

/-! ### Displays -/

/-- A part of a display. -/
inductive Part where
  | item (v : Value)
  | entry (key value : Value)

/-- The item that a part is. -/
def Part.item? : Part → Option Value
  | .item v => some v
  | .entry _ _ => none

/-- The entry that a part is. -/
def Part.entry? : Part → Option (Value × Value)
  | .item _ => none
  | .entry key value => some (key, value)

/-- A member more, unless there is an equal one. -/
def addMember (members : List Value) (v : Value) : List Value :=
  if members.any (·.same v) then members else members ++ [v]

/-- An entry more; where there is an equal key, it gets the value. -/
def addEntry (entries : List (Value × Value)) (e : Value × Value) : List (Value × Value) :=
  match entries with
  | [] => [e]
  | (key, value) :: rest =>
    if key.same e.1 then (key, e.2) :: rest else (key, value) :: addEntry rest e

/-- Whether a value can be a member or a key. -/
def isKey (v : Value) : Bool :=
  v.unhashable?.isNone

/-- The value of a display.  `comma` says whether a comma stands behind the last part, which
tells a tuple of one item from a value in parentheses. -/
def assemble? (bracket : Bracket) (parts : List Part) (comma : Bool) : Option Value :=
  match bracket with
  | .square => .list <$> parts.mapM Part.item?
  | .round =>
    match parts.mapM Part.item?, comma with
    | some [v], false => some v
    | items?, _ => .tuple <$> items?
  | .curly =>
    match parts with
    | .item _ :: _ => do
      let members ← parts.mapM Part.item?
      if members.all isKey then return .set (members.foldl addMember []) else none
    | _ => do
      let entries ← parts.mapM Part.entry?
      if entries.all (isKey ·.1) then return .dict (entries.foldl addEntry []) else none

mutual

/-- Reads a value at the start of the tokens. -/
def readValue : (fuel : Nat) → List Token → Option (Value × List Token)
  | 0, _ => none
  | fuel + 1, tokens =>
    match tokens with
    | .atom v :: rest => some (v, rest)
    | .opening bracket :: rest => do
      let (parts, comma, rest) ← readParts fuel bracket rest
      return (← assemble? bracket parts comma, rest)
    | .className false :: .opening .round :: .closing .round :: rest => some (.set [], rest)
    | .className true :: .opening .round :: .closing .round :: rest => some (.frozenset [], rest)
    | .className true :: .opening .round :: rest => do
      match ← readValue fuel rest with
      | (.set members, .closing .round :: rest) => some (.frozenset members, rest)
      | _ => none
    | _ => none

/-- Reads the parts of a display up to its closing bracket: the parts, whether a comma stands
behind the last of them, and what is left. -/
def readParts : (fuel : Nat) → Bracket → List Token → Option (List Part × Bool × List Token)
  | 0, _, _ => none
  | fuel + 1, bracket, tokens =>
    match tokens with
    | .closing b :: rest => if b = bracket then some ([], false, rest) else none
    | _ => do
      let (part, rest) ← readPart fuel tokens
      match rest with
      | .closing b :: rest => if b = bracket then some ([part], false, rest) else none
      | .comma :: rest =>
        let (parts, comma, rest) ← readParts fuel bracket rest
        return (part :: parts, comma || parts.isEmpty, rest)
      | _ => none

/-- Reads one part of a display. -/
def readPart : (fuel : Nat) → List Token → Option (Part × List Token)
  | 0, _ => none
  | fuel + 1, tokens => do
    match ← readValue fuel tokens with
    | (key, .colon :: rest) =>
      let (value, rest) ← readValue fuel rest
      return (.entry key value, rest)
    | (v, rest) => return (.item v, rest)

end

/-- The value that a text is a literal of. -/
def read? (text : String) : Option Value := do
  let tokens ← tokensFrom (text.length + 1) 0 text.toList
  match ← readValue (3 * tokens.length + 1) tokens with
  | (v, []) => some v
  | _ => none

end ReplEngine.Literal
