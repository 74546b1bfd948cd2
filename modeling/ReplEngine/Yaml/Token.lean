import ReplEngine.Text.Lines
import ReplEngine.Json.Reader

/-!
# Tokens of a document

Cuts a document into tokens.  In block style the indentation of a line opens and
closes collections, so the lexer keeps the columns of the open ones.  A scalar or
a flow collection turns out to be a mapping key only when a colon follows it on
the same line: the lexer remembers where a key may have started and puts the key
mark there afterwards.
-/

namespace ReplEngine.Yaml

/-- A token. -/
inductive Token where
  | blockSequenceStart
  | blockMappingStart
  | blockEnd
  | flowSequenceStart
  | flowSequenceEnd
  | flowMappingStart
  | flowMappingEnd
  | blockEntry
  | flowEntry
  | key
  | value
  | scalar (text : String) (plain : Bool)
  | documentStart
  | documentEnd
deriving Repr, DecidableEq, Inhabited

/-- A place in the document. -/
structure Place where
  rest : List Char
  index : Nat := 0
  line : Nat := 0
  column : Nat := 0

/-- Whether a character ends a line. -/
def isBreak (c : Char) : Bool :=
  c == '\n' || c == '\r' || c.toNat == 0x85 || c.toNat == 0x2028 || c.toNat == 0x2029

namespace Place

/-- The character `n` places ahead; none at the end. -/
def peek? (p : Place) (n : Nat) : Option Char :=
  p.rest[n]?

/-- Whether the end, a blank or a line end is `n` places ahead. -/
def isGap (p : Place) (n : Nat) : Bool :=
  match p.peek? n with
  | none => true
  | some c => c == ' ' || c == '\t' || isBreak c

/-- The next place. -/
def next (p : Place) : Place :=
  match p.rest with
  | [] => p
  | c :: rest =>
    if isBreak c then ⟨rest, p.index + 1, p.line + 1, 0⟩
    else ⟨rest, p.index + 1, p.line, p.column + 1⟩

/-- The place `n` characters further. -/
def forward : Nat → Place → Place
  | 0, p => p
  | n + 1, p => forward n p.next

/-- The place behind the characters that satisfy `f`. -/
def skipWhile (f : Char → Bool) (p : Place) : Place :=
  forward (p.rest.takeWhile f).length p

/-- Whether a document mark stands here. -/
def isDocumentMark (p : Place) : Bool :=
  (['-', '-', '-'].isPrefixOf p.rest || ['.', '.', '.'].isPrefixOf p.rest) && p.isGap 3

end Place

/-- Where a mapping key may have started. -/
structure KeyStart where
  token : Nat
  required : Bool
  index : Nat
  line : Nat
  column : Nat

/-- The lexer between two tokens. -/
structure Lexer where
  place : Place
  /-- The number of open flow collections. -/
  flow : Nat := 0
  /-- The column of the innermost block collection. -/
  indent : Int := -1
  /-- The columns of the outer ones. -/
  indents : List Int := []
  /-- Whether a key may start here. -/
  allowKey : Bool := true
  /-- For each flow level the place where a key may have started. -/
  keys : List (Nat × KeyStart) := []
  tokens : Array Token := #[]

namespace Lexer

/-- Adds a token. -/
def emit (l : Lexer) (t : Token) : Lexer :=
  { l with tokens := l.tokens.push t }

/-- The key start of the current flow level. -/
def keyStart? (l : Lexer) : Option KeyStart :=
  (l.keys.find? fun k => k.1 == l.flow).map (·.2)

/-- Forgets the key start of the current flow level; one that had to be a key is
a fault. -/
def forgetKey? (l : Lexer) : Option Lexer :=
  match l.keyStart? with
  | some k =>
    if k.required then none
    else some { l with keys := l.keys.filter fun k => k.1 != l.flow }
  | none => some l

/-- Remembers that a key may start here. -/
def saveKey? (l : Lexer) : Option Lexer := do
  if l.allowKey then
    let l ← l.forgetKey?
    let p := l.place
    let required := l.flow == 0 && l.indent == (p.column : Int)
    let key := ⟨l.tokens.size, required, p.index, p.line, p.column⟩
    return { l with keys := (l.flow, key) :: l.keys }
  else return l

/-- Forgets key starts on earlier lines and those too far back. -/
def dropStaleKeys? (l : Lexer) : Option Lexer :=
  let stale (k : Nat × KeyStart) : Bool :=
    k.2.line != l.place.line || 1024 < l.place.index - k.2.index
  if l.keys.any fun k => stale k && k.2.required then none
  else some { l with keys := l.keys.filter fun k => !stale k }

/-- Opens a block collection at a column, unless one is open there. -/
def addIndent (l : Lexer) (column : Nat) : Bool × Lexer :=
  if l.indent < (column : Int) then
    (true, { l with indents := l.indent :: l.indents, indent := column })
  else (false, l)

/-- Closes the block collections right of a column. -/
def unwind (l : Lexer) (column : Int) : Lexer :=
  if l.flow != 0 then l else
    let closed := (l.indent :: l.indents).takeWhile (column < ·)
    let left := (l.indent :: l.indents).drop closed.length
    { l with
      indent := left.headD (-1)
      indents := left.tail
      tokens := l.tokens ++ (Array.replicate closed.length Token.blockEnd) }

/-- Moves over blanks, comments and line ends to the next token. -/
def skipToToken (fuel : Nat) (l : Lexer) : Lexer :=
  match fuel with
  | 0 => l
  | fuel + 1 =>
    let p := l.place.skipWhile (· == ' ')
    let p := if p.peek? 0 == some '#' then p.skipWhile (fun c => !isBreak c) else p
    match p.peek? 0 with
    | some c =>
      if isBreak c then
        skipToToken fuel { l with place := p.next, allowKey := l.allowKey || l.flow == 0 }
      else { l with place := p }
    | none => { l with place := p }

/-- The breaks between the lines of a scalar: what stands for them, and the place
behind.  `none` at a document mark. -/
def scanBreaks (fuel : Nat) (blank : Char → Bool) (p : Place) (acc : List Char) :
    Option (List Char × Place) :=
  match fuel with
  | 0 => some (acc.reverse, p)
  | fuel + 1 =>
    if p.isDocumentMark && p.column == 0 then none
    else
      let p := p.skipWhile blank
      match p.peek? 0 with
      | some c =>
        if isBreak c then
          let shown := if c.toNat == 0x2028 || c.toNat == 0x2029 then c else '\n'
          scanBreaks fuel blank p.next (shown :: acc)
        else some (acc.reverse, p)
      | none => some (acc.reverse, p)

/-- What a line end and the breaks behind it stand for: a blank, or the breaks. -/
def folded (first : Char) (breaks : List Char) : List Char :=
  if first.toNat == 0x2028 || first.toNat == 0x2029 then first :: breaks
  else if breaks.isEmpty then [' ']
  else breaks

/-- Whether a character ends a word of a plain scalar.  `rest` follows it. -/
def endsPlain (inFlow : Bool) (c : Char) (rest : List Char) : Bool :=
  c == ' ' || c == '\t' || isBreak c
    || (c == ':' &&
      match rest with
      | [] => true
      | d :: _ => d == ' ' || d == '\t' || isBreak d || (inFlow && ",[]\x7b\x7d".toList.contains d))
    || (inFlow && ",?[]\x7b\x7d".toList.contains c)

/-- The length of the word of a plain scalar at the start of a text. -/
def plainLength (inFlow : Bool) : List Char → Nat
  | [] => 0
  | c :: rest => if endsPlain inFlow c rest then 0 else plainLength inFlow rest + 1

/-- Scans a plain scalar over its lines; `text` is what was read, reversed, and
`gap` stands between it and the next word. -/
def scanPlain (fuel : Nat) (l : Lexer) (text gap : List Char) : List Char × Lexer :=
  match fuel with
  | 0 => (text.reverse, l)
  | fuel + 1 =>
    if l.place.peek? 0 == some '#' then (text.reverse, l)
    else
      let length := plainLength (l.flow != 0) l.place.rest
      if length == 0 then (text.reverse, l)
      else
        let text := (l.place.rest.take length).reverse ++ gap.reverse ++ text
        let afterWord := l.place.forward length
        let blanks := afterWord.rest.takeWhile (· == ' ')
        let p := afterWord.forward blanks.length
        let l := { l with allowKey := false, place := p }
        let goOn (gap : List Char) (l : Lexer) : List Char × Lexer :=
          if gap.isEmpty || l.place.peek? 0 == some '#'
              || (l.flow == 0 && (l.place.column : Int) < l.indent + 1) then (text.reverse, l)
          else scanPlain fuel l text gap
        match p.peek? 0 with
        | some c =>
          if isBreak c then
            let l := { l with allowKey := true, place := p.next }
            match scanBreaks p.rest.length (· == ' ') p.next [] with
            | none => (text.reverse, l)
            | some (breaks, behind) => goOn (folded c breaks) { l with place := behind }
          else goOn blanks l
        | none => goOn blanks l

/-- The character of a one-letter escape in double quotes. -/
def escapeChar? (c : Char) : Option Char :=
  let table : List (Char × Nat) :=
    [('0', 0), ('a', 7), ('b', 8), ('t', 9), ('\t', 9), ('n', 10), ('v', 11), ('f', 12), ('r', 13),
     ('e', 0x1b), (' ', 0x20), ('"', 0x22), ('\\', 0x5c), ('/', 0x2f), ('N', 0x85), ('_', 0xa0),
     ('L', 0x2028), ('P', 0x2029)]
  (table.find? fun e => e.1 == c).map fun e => Char.ofNat e.2

/-- The number of hexadecimal digits of an escape. -/
def escapeDigits? (c : Char) : Option Nat :=
  if c == 'x' then some 2
  else if c == 'u' then some 4
  else if c == 'U' then some 8
  else none

/-- Scans a quoted scalar up to its closing quote; `text` is what was read,
reversed. -/
def scanQuoted (fuel : Nat) (double : Bool) (p : Place) (text : List Char) :
    Option (List Char × Place) :=
  match fuel with
  | 0 => none
  | fuel + 1 =>
    match p.rest with
    | [] => none
    | c :: rest =>
      if c == ' ' || c == '\t' || isBreak c then
        let blanks := p.rest.takeWhile fun c => c == ' ' || c == '\t'
        let behind := p.forward blanks.length
        match behind.peek? 0 with
        | none => none
        | some d =>
          if isBreak d then do
            let (breaks, p) ←
              scanBreaks p.rest.length (fun c => c == ' ' || c == '\t') behind.next []
            scanQuoted fuel double p ((folded d breaks).reverse ++ text)
          else scanQuoted fuel double behind (blanks.reverse ++ text)
      else if !double && c == '\'' then
        match rest with
        | '\'' :: _ => scanQuoted fuel double (p.forward 2) ('\'' :: text)
        | _ => some (text.reverse, p.next)
      else if double && c == '"' then some (text.reverse, p.next)
      else if double && c == '\\' then
        match rest with
        | [] => none
        | e :: more =>
          match escapeChar? e with
          | some x => scanQuoted fuel double (p.forward 2) (x :: text)
          | none => match escapeDigits? e with
            | some n => do
              let digits := more.take n
              if digits.length < n then none
              let code ← digits.foldlM (fun k d => (Json.hexValue? d).map (k * 16 + ·)) 0
              if 0x110000 ≤ code then none
              scanQuoted fuel double (p.forward (2 + n)) (Char.ofNat code :: text)
            | none =>
              if isBreak e then do
                let (breaks, p) ←
                  scanBreaks p.rest.length (fun c => c == ' ' || c == '\t') (p.forward 2) []
                scanQuoted fuel double p (breaks.reverse ++ text)
              else none
      else scanQuoted fuel double p.next (c :: text)

/-- Opens a flow collection. -/
def openFlow? (l : Lexer) (t : Token) : Option Lexer := do
  let l ← l.saveKey?
  return { l.emit t with flow := l.flow + 1, allowKey := true, place := l.place.next }

/-- Closes a flow collection. -/
def closeFlow? (l : Lexer) (t : Token) : Option Lexer := do
  let l ← l.forgetKey?
  if l.flow == 0 then none
  return { l.emit t with flow := l.flow - 1, allowKey := false, place := l.place.next }

/-- A dash that starts an entry of a block sequence. -/
def blockEntry? (l : Lexer) : Option Lexer := do
  if l.flow != 0 || !l.allowKey then none
  let (opened, l) := l.addIndent l.place.column
  let l := if opened then l.emit .blockSequenceStart else l
  let l ← { l with allowKey := true }.forgetKey?
  return { l.emit .blockEntry with place := l.place.next }

/-- A comma between the entries of a flow collection. -/
def flowEntry? (l : Lexer) : Option Lexer := do
  let l ← { l with allowKey := true }.forgetKey?
  return { l.emit .flowEntry with place := l.place.next }

/-- A question mark that starts a key. -/
def explicitKey? (l : Lexer) : Option Lexer := do
  if l.flow == 0 && !l.allowKey then none
  let (opened, l) := if l.flow == 0 then l.addIndent l.place.column else (false, l)
  let l := if opened then l.emit .blockMappingStart else l
  let l ← { l with allowKey := l.flow == 0 }.forgetKey?
  return { l.emit .key with place := l.place.next }

/-- A colon: what was read before it on this line is a key, or the key is
empty. -/
def value? (l : Lexer) : Option Lexer := do
  match l.keyStart? with
  | some k =>
    let l := { l with keys := l.keys.filter fun k => k.1 != l.flow }
    let (opened, l) := if l.flow == 0 then l.addIndent k.column else (false, l)
    let marks := if opened then #[Token.blockMappingStart, .key] else #[Token.key]
    let tokens := l.tokens.extract 0 k.token ++ marks ++ l.tokens.extract k.token l.tokens.size
    return { { l with tokens, allowKey := false }.emit .value with place := l.place.next }
  | none =>
    if l.flow == 0 && !l.allowKey then none
    let (opened, l) := if l.flow == 0 then l.addIndent l.place.column else (false, l)
    let l := if opened then l.emit .blockMappingStart else l
    let l ← { l with allowKey := l.flow == 0 }.forgetKey?
    return { l.emit .value with place := l.place.next }

/-- A document mark. -/
def documentMark? (l : Lexer) (t : Token) : Option Lexer := do
  let l := l.unwind (-1)
  let l ← l.forgetKey?
  return { l.emit t with allowKey := false, place := l.place.forward 3 }

/-- A quoted scalar. -/
def quoted? (l : Lexer) (double : Bool) : Option Lexer := do
  let l ← l.saveKey?
  let (text, p) ← scanQuoted l.place.rest.length double l.place.next []
  return { l.emit (.scalar (String.ofList text) false) with allowKey := false, place := p }

/-- A plain scalar. -/
def plain? (l : Lexer) : Option Lexer := do
  let l ← l.saveKey?
  let (text, l) := scanPlain l.place.rest.length { l with allowKey := false } [] []
  return l.emit (.scalar (String.ofList text) true)

/-- Whether a plain scalar can start here. -/
def startsPlain (l : Lexer) (c : Char) : Bool :=
  if "-?:,[]\x7b\x7d#&*!|>'\"%@`".toList.contains c || c == '\t' then
    !l.place.isGap 1 && (c == '-' || (l.flow == 0 && (c == '?' || c == ':')))
  else true

/-- Scans the next token; `none` is a fault, and at the end of the document the
second part is true. -/
def advance? (l : Lexer) : Option (Lexer × Bool) := do
  let l := skipToToken (l.place.rest.length + 1) l
  let l ← l.dropStaleKeys?
  let l := l.unwind l.place.column
  match l.place.peek? 0 with
  | none =>
    let l ← (l.unwind (-1)).forgetKey?
    if l.flow != 0 then none
    return (l, true)
  | some c =>
    let atMargin := l.place.column == 0
    let goOn (l : Option Lexer) : Option (Lexer × Bool) := l.map fun l => (l, false)
    if atMargin && l.place.isDocumentMark then
      goOn (l.documentMark? (if c == '-' then .documentStart else .documentEnd))
    else if c == '[' then goOn (l.openFlow? .flowSequenceStart)
    else if c == '\x7b' then goOn (l.openFlow? .flowMappingStart)
    else if c == ']' then goOn (l.closeFlow? .flowSequenceEnd)
    else if c == '\x7d' then goOn (l.closeFlow? .flowMappingEnd)
    else if c == ',' then goOn l.flowEntry?
    else if c == '-' && l.place.isGap 1 then goOn l.blockEntry?
    else if c == '?' && (l.flow != 0 || l.place.isGap 1) then goOn l.explicitKey?
    else if c == ':' && (l.flow != 0 || l.place.isGap 1) then goOn l.value?
    else if c == '\'' then goOn (l.quoted? false)
    else if c == '"' then goOn (l.quoted? true)
    else if l.startsPlain c then goOn l.plain?
    else none

/-- All tokens from here on. -/
def scan? (fuel : Nat) (l : Lexer) : Option (List Token) :=
  match fuel with
  | 0 => none
  | fuel + 1 => do
    let (l, done) ← l.advance?
    if done then return l.tokens.toList else scan? fuel l

end Lexer

/-- Characters a document may hold. -/
def isAllowed (c : Char) : Bool :=
  c == '\t' || c == '\n' || c == '\r' || c.toNat == 0x85
    || Text.CodeRange.covers
      [⟨0x20, 0x7e⟩, ⟨0xa0, 0xd7ff⟩, ⟨0xe000, 0xfffd⟩, ⟨0x10000, 0x10ffff⟩] c

/-- A text with line feeds for all other ways to end a line with a carriage
return. -/
def unifyLineEnds : List Char → List Char
  | [] => []
  | '\r' :: '\n' :: rest => '\n' :: unifyLineEnds rest
  | '\r' :: rest => '\n' :: unifyLineEnds rest
  | c :: rest => c :: unifyLineEnds rest

/-- The tokens of a document; `none` if it is malformed. -/
def tokens? (text : List Char) : Option (List Token) :=
  let text := unifyLineEnds text
  if text.all isAllowed then
    let rest := match text with
      | '\ufeff' :: rest => rest
      | rest => rest
    Lexer.scan? (rest.length + 2) { place := { rest } }
  else none

end ReplEngine.Yaml
