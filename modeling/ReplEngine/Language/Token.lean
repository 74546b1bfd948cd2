import ReplEngine.Language.Fault
import ReplEngine.Text.CharClass
import ReplEngine.Json.Reader

/-!
# Tokens of source

Source is cut into names, literals, marks, line ends and changes of depth.  Lines
inside brackets and lines behind a backslash continue the line before them; blank
lines and comments leave nothing.  What cannot be cut ends the tokens with the fault
that it is, so that a reader meets it only when it gets there.
-/

namespace ReplEngine.Language

/-- A token of source. -/
inductive Token where
  | name (text : String)
  | int (n : Nat)
  | float (x : Float)
  | text (s : String)
  /-- An operator or a delimiter. -/
  | mark (text : String)
  /-- The end of a line that holds something. -/
  | newline
  | indent
  | dedent
  /-- Nothing could be cut here. -/
  | bad (fault : Fault)
  /-- The source ends inside brackets, or a line is continued that cannot be. -/
  | unclosed
deriving Inhabited

/-- The marks of the language, longer ones before those they start with.  The last ones
are cut off like marks and mean nothing. -/
def marks : List String :=
  ["...", "**=", "//=", ">>=", "<<=", "**", "//", ">>", "<<", "<=", ">=", "==", "!=", "->", ":=",
   "+=", "-=", "*=", "/=", "%=", "&=", "|=", "^=", "@=", "+", "-", "*", "/", "%", "@", "&", "|",
   "^", "~", "<", ">", "(", ")", "[", "]", "\x7b", "\x7d", ",", ":", ".", ";", "=",
   "!", "$", "?", "`"]

/-- The mark at the start of a text. -/
def markAt? (cs : List Char) : Option String :=
  marks.find? fun m => m.toList.isPrefixOf cs

/-- The character that an escape of one letter stands for. -/
def letterEscape? : Char → Option Char
  | 'n' => some '\n'
  | 't' => some '\t'
  | 'r' => some '\r'
  | 'a' => some (Char.ofNat 7)
  | 'b' => some (Char.ofNat 8)
  | 'f' => some (Char.ofNat 12)
  | 'v' => some (Char.ofNat 11)
  | '\\' => some '\\'
  | '\'' => some '\''
  | '"' => some '"'
  | _ => none

/-- How many digits an escape by number has. -/
def escapeWidth? : Char → Option Nat
  | 'x' => some 2
  | 'u' => some 4
  | 'U' => some 8
  | _ => none

/-- The number of exactly `width` hexadecimal digits at the start of a text. -/
def hexNumber? (width : Nat) (cs : List Char) : Option Nat :=
  let digits := (cs.take width).filterMap Json.hexValue?
  if digits.length = width then some (digits.foldl (fun n d => 16 * n + d) 0) else none

/-- Reads a quoted text behind its opening quotes: its characters and what follows its
closing quotes.  `skip` characters belong to an escape that was read before. -/
def readText (quote : Char) (triple : Bool) (skip : Nat) :
    List Char → Option (List Char × List Char)
  | [] => none
  | c :: rest =>
    if skip > 0 then readText quote triple (skip - 1) rest
    else if c == quote then
      if triple then
        match rest with
        | d :: e :: after =>
          if d == quote && e == quote then some ([], after)
          else (readText quote triple 0 (d :: e :: after)).map fun r => (c :: r.1, r.2)
        | _ => none
      else some ([], rest)
    else if c == '\\' then
      match rest with
      | [] => none
      | '\n' :: after => readText quote triple 0 after
      | d :: after =>
        match letterEscape? d, escapeWidth? d with
        | some e, _ => (readText quote triple 0 after).map fun r => (e :: r.1, r.2)
        | none, some width =>
          match hexNumber? width after with
          | some n => (readText quote triple width after).map fun r => (Char.ofNat n :: r.1, r.2)
          | none => none
        | none, none => (readText quote triple 0 after).map fun r => (c :: d :: r.1, r.2)
    else if c == '\n' && !triple then none
    else (readText quote triple 0 rest).map fun r => (c :: r.1, r.2)

/-- Reads digits, between any two of which one underscore may stand. -/
def readDigits (isDigit : Char → Bool) : List Char → List Char × List Char
  | [] => ([], [])
  | c :: rest =>
    if isDigit c then
      match rest with
      | '_' :: d :: more =>
        if isDigit d then
          let (digits, after) := readDigits isDigit (d :: more)
          (c :: digits, after)
        else ([c], rest)
      | rest =>
        let (digits, after) := readDigits isDigit rest
        (c :: digits, after)
    else ([], c :: rest)

/-- The number that digits of a base stand for. -/
def digitsNumber (base : Nat) (digits : List Char) : Nat :=
  digits.foldl (fun n d => base * n + (Json.hexValue? d).getD 0) 0

/-- The words that may follow a number without a blank. -/
def wordsAfterNumber : List String :=
  ["and", "else", "for", "if", "in", "is", "not", "or"]

/-- Whether a number can end before a text. -/
def canEndNumber (rest : List Char) : Bool :=
  match rest with
  | c :: _ => !Text.isNameChar c || wordsAfterNumber.any fun w => w.toList.isPrefixOf rest
  | [] => true

/-- Whether a character is a digit of a base. -/
def isDigitOf (base : Nat) (c : Char) : Bool :=
  (Json.hexValue? c).any (· < base)

/-- The base that the letter behind a leading zero stands for. -/
def baseOf? (letter : Char) : Option Nat :=
  match letter.toLower with
  | 'x' => some 16
  | 'o' => some 8
  | 'b' => some 2
  | _ => none

/-- Reads the exponent of a number: its sign, its digits and what follows. -/
def readExponent? (cs : List Char) : Option (Bool × Nat × List Char) :=
  let signed (negative : Bool) (rest : List Char) : Option (Bool × Nat × List Char) :=
    let (digits, after) := readDigits Text.isAsciiDigit rest
    if digits.isEmpty then none else some (negative, digitsNumber 10 digits, after)
  match cs with
  | e :: '-' :: rest => if e.toLower == 'e' then signed true rest else none
  | e :: '+' :: rest => if e.toLower == 'e' then signed false rest else none
  | e :: rest => if e.toLower == 'e' then signed false rest else none
  | [] => none

/-- Reads a number in decimal notation.  A whole number of more than one digit does not
start with zero, unless it is zero. -/
def readDecimal (cs : List Char) : Option (Token × List Char) :=
  let (whole, rest) := readDigits Text.isAsciiDigit cs
  let (fraction, after) := match rest with
    | '.' :: rest => readDigits Text.isAsciiDigit rest
    | rest => ([], rest)
  let hasPoint := rest.head? == some '.'
  let digits := digitsNumber 10 (whole ++ fraction)
  match readExponent? after with
  | some (negative, exponent, after) =>
    let power : Int := (if negative then -(exponent : Int) else exponent) - fraction.length
    some (.float (Decimal.toFloat false digits power), after)
  | none =>
    if hasPoint then some (.float (Decimal.toFloat false digits (-fraction.length)), after)
    else if whole.head? == some '0' && digits != 0 then none
    else some (.int digits, after)

/-- Reads a number, which no letter follows. -/
def readNumber (cs : List Char) : Option (Token × List Char) :=
  let number := match cs with
    | '0' :: letter :: rest =>
      match baseOf? letter with
      | none => readDecimal cs
      | some base =>
        let rest := match rest with
          | '_' :: rest => rest
          | rest => rest
        let (digits, after) := readDigits (isDigitOf base) rest
        if digits.isEmpty then none else some (.int (digitsNumber base digits), after)
    | cs => readDecimal cs
  number.filter fun n => canEndNumber n.2

/-- The depth of a line, with tabs counted to multiples of eight and as single
blanks; the two counts have to agree in every comparison. -/
structure Depth where
  wide : Nat := 0
  narrow : Nat := 0
deriving DecidableEq

/-- Reads the blanks at the start of a line: its depth and the text behind them.  A
backslash at the end of blanks joins the next line, and the blanks before the first one
decide the depth if there are any.  `none` stands for a backslash inside a line. -/
def readDepth (depth : Depth) (fixed : Option Depth) : List Char → Option (Depth × List Char)
  | [] => some (fixed.getD depth, [])
  | ' ' :: rest => readDepth ⟨depth.wide + 1, depth.narrow + 1⟩ fixed rest
  | '\t' :: rest => readDepth ⟨(depth.wide / 8 + 1) * 8, depth.narrow + 1⟩ fixed rest
  | '\x0c' :: rest => readDepth {} fixed rest
  | '\\' :: '\n' :: rest =>
    if rest.isEmpty then none
    else
      let kept := if depth.wide = 0 then none else some ⟨depth.wide, depth.wide⟩
      readDepth depth (fixed.or kept) rest
  | '\\' :: _ => none
  | cs => some (fixed.getD depth, cs)

/-- The tokens for a line of the given depth under the depths that are open, the
innermost first, and the depths that are open in it. -/
def changeDepth (depth : Depth) (depths : List Depth) : List Token × List Depth :=
  match depths with
  | [] =>
    if depth.wide = 0 then (if depth.narrow = 0 then [] else [.bad .tabs], [])
    else ([.indent], [depth])
  | top :: outer =>
    if depth.wide = top.wide then
      (if depth.narrow = top.narrow then [] else [.bad .tabs], depths)
    else if top.wide < depth.wide then
      if depth.narrow ≤ top.narrow then ([.bad .tabs], depths) else ([.indent], depth :: depths)
    else
      match outer with
      | [] => if depth.wide = 0 then ([.dedent], []) else ([.bad .indentation], [])
      | next :: _ =>
        if next.wide < depth.wide then ([.bad .indentation], outer)
        else
          let (tokens, opened) := changeDepth depth outer
          match tokens with
          | .bad f :: _ => ([.bad f], opened)
          | _ => (.dedent :: tokens, opened)

/-- The closing bracket of an opening one. -/
def closerOf? : String → Option String
  | "(" => some ")"
  | "[" => some "]"
  | "\x7b" => some "\x7d"
  | _ => none

/-- Whether a mark closes a bracket. -/
def isCloser (mark : String) : Bool :=
  mark == ")" || mark == "]" || mark == "\x7d"

/-- Whether the tokens end in a fault. -/
def endsBadly : List Token → Bool
  | [.bad _] => true
  | _ :: rest => endsBadly rest
  | [] => false

/-- Cuts source into tokens.  `atStart` says that a line begins here; `depths` are the
depths of the open blocks, and `closers` the brackets that are to come.  `fuel` bounds
the cuts. -/
def cut (fuel : Nat) (atStart : Bool) (depths : List Depth) (closers : List String)
    (cs : List Char) : List Token :=
  match fuel with
  | 0 => [.bad .syntaxError]
  | fuel + 1 =>
    if atStart then
      match readDepth {} none cs with
      | none => [.unclosed]
      | some (_, []) => depths.map fun _ => .dedent
      | some (_, '\n' :: rest) => cut fuel true depths closers rest
      | some (_, '#' :: rest) => cut fuel true depths closers (rest.dropWhile (· != '\n'))
      | some (depth, rest) =>
        let (tokens, depths) := changeDepth depth depths
        if endsBadly tokens then tokens else tokens ++ cut fuel false depths closers rest
    else
      match cs with
      | [] => [.unclosed]
      | '\n' :: rest =>
        if closers.isEmpty then .newline :: cut fuel true depths closers rest
        else cut fuel false depths closers rest
      | '#' :: rest => cut fuel false depths closers (rest.dropWhile (· != '\n'))
      | '\\' :: rest =>
        match rest with
        | '\n' :: next :: more => cut fuel false depths closers (next :: more)
        | _ => [.unclosed]
      | c :: rest =>
        if c == ' ' || c == '\t' || c == '\x0c' then cut fuel false depths closers rest
        else if Text.isNameStart c then
          .name (String.ofList (cs.takeWhile Text.isNameChar)) ::
            cut fuel false depths closers (cs.dropWhile Text.isNameChar)
        else if Text.isAsciiDigit c ||
            (c == '.' && (rest.head?.map Text.isAsciiDigit).getD false) then
          match readNumber cs with
          | some (token, rest) => token :: cut fuel false depths closers rest
          | none => [.bad .syntaxError]
        else if c == '\'' || c == '"' then
          let triple := [c, c].isPrefixOf rest
          match readText c triple 0 (if triple then rest.drop 2 else rest) with
          | some (body, rest) => .text (String.ofList body) :: cut fuel false depths closers rest
          | none => [.bad .syntaxError]
        else
          match markAt? cs with
          | none => [.bad .syntaxError]
          | some m =>
            let after := cs.drop m.length
            match closerOf? m with
            | some closer => .mark m :: cut fuel false depths (closer :: closers) after
            | none =>
              if isCloser m then
                match closers with
                | closer :: outer =>
                  if closer == m then .mark m :: cut fuel false depths outer after
                  else [.bad .syntaxError]
                | [] => [.bad .syntaxError]
              else .mark m :: cut fuel false depths closers after

/-- Source with one kind of line end, and one at its end. -/
def joinLineEnds : List Char → List Char
  | [] => []
  | '\r' :: '\n' :: rest => '\n' :: joinLineEnds rest
  | '\r' :: rest => '\n' :: joinLineEnds rest
  | c :: rest => c :: joinLineEnds rest

/-- The tokens of source. -/
def tokens (source : String) : List Token :=
  let cs := joinLineEnds source.toList
  let cs := if cs.getLast? == some '\n' then cs else cs ++ ['\n']
  cut (2 * cs.length + 2) true [] [] cs

end ReplEngine.Language
