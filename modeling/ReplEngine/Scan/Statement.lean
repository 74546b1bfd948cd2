import ReplEngine.Scan.Token
import ReplEngine.Text.Lines

/-!
# Statements

Cuts a buffer into complete statements and the rest that is not complete yet.  A
simple statement ends at the first newline or semicolon outside brackets.  A
compound statement owns an indented block: it ends at a blank line, or before a
line that stands at the margin and does not continue it.  Statements are exact
pieces of the buffer, so together with the rest they give it back.
-/

namespace ReplEngine.Scan

/-- What ends a statement: the first line end, or the end of its block. -/
inductive Shape where
  | simple
  | compound
deriving Repr, DecidableEq

/-- Words that open a statement with a block. -/
def compoundWords : List String :=
  ["if", "while", "for", "def", "class", "with", "try", "async"]

/-- Words that continue a block at the margin. -/
def continuationWords : List String :=
  ["else", "elif", "except", "finally"]

/-- Words that a decorator line can stand before. -/
def decoratedWords : List String :=
  ["def", "class", "async"]

/-- The word at the start of a text; empty if there is none. -/
def leadingWord : List Char → List Char
  | [] => []
  | c :: rest => if Text.isWordStart c then c :: rest.takeWhile Text.isWordChar else []

/-- Whether a text starts with one of the given words. -/
def startsWithWord (words : List String) (text : List Char) : Bool :=
  words.contains (String.ofList (leadingWord text))

/-- The part of a text before its first newline. -/
def firstLine (text : List Char) : List Char :=
  text.takeWhile (· != '\n')

/-- The shape of the statement that starts with the given text.  A line that
starts with the word `match` opens a block only if it ends with a colon. -/
def shapeOf (text : List Char) : Shape :=
  if ['@'].isPrefixOf text then .compound
  else if startsWithWord compoundWords text then .compound
  else if startsWithWord ["match"] text
      && [':'].isSuffixOf (Text.trimRight (firstLine text)) then .compound
  else .simple

/-- Whether every line of a text that is not blank is a decorator. -/
def onlyDecorators (text : List Char) : Bool :=
  (Text.splitLines text).all fun line =>
    Text.isBlank line || ['@'].isPrefixOf (Text.trimLeft line)

/-- Whether the line at the start of `rest` closes the block whose text so far
is `block`.  A line without its newline is still being typed and closes
nothing. -/
def closesBlock (block rest : List Char) : Bool :=
  rest.contains '\n' &&
    match firstLine rest with
    | [] => false
    | c :: line =>
      if Text.isSpace c || c == '#' then false
      else if startsWithWord continuationWords (c :: line) then false
      else if startsWithWord decoratedWords (c :: line) || c == '@' then !onlyDecorators block
      else true

/-- The scanner between two characters. -/
structure Scanner where
  lexer : Lexer := {}
  /-- The shape of the current statement, once its first token was read. -/
  shape : Option Shape := none
  /-- The text of the current statement so far, reversed. -/
  statement : List Char := []
  /-- The text since the last newline token, reversed. -/
  line : List Char := []

/-- Whether the statement ends behind the token `kind`, given the scanner before
the token, its text including the token, and the text that follows. -/
def endsAt (shape : Option Shape) (depth : Nat) (kind : Kind)
    (line statement rest : List Char) : Bool :=
  depth == 0 &&
    match kind, shape with
    | .semicolon, some .simple => true
    | .newline, some .simple => true
    | .newline, some .compound => Text.isBlank line || closesBlock statement rest
    | _, _ => false

/-- The shape of the current statement after the token `kind`, at which the text
`text` starts: the first token that is no newline and no comment decides it. -/
def shapeAfter (shape : Option Shape) (kind : Kind) (text : List Char) : Option Shape :=
  match shape, kind with
  | some s, _ => some s
  | none, .newline => none
  | none, .comment => none
  | none, _ => some (shapeOf text)

/-- The statements of a text and its rest, from a scanner on. -/
def statementsFrom (s : Scanner) : List Char → List (List Char) × List Char
  | [] => ([], s.statement.reverse)
  | c :: rest =>
    let (lexer, token?) := s.lexer.step c rest
    let statement := c :: s.statement
    match token? with
    | none => statementsFrom { s with lexer, statement, line := c :: s.line } rest
    | some kind =>
      let shape := shapeAfter s.shape kind (c :: rest)
      let line := if kind = .newline then [] else c :: s.line
      if endsAt shape lexer.state.depth kind s.line.reverse statement.reverse rest then
        let (found, remainder) :=
          statementsFrom { lexer, shape := none, statement := [], line } rest
        (statement.reverse :: found, remainder)
      else statementsFrom { lexer, shape, statement, line } rest

/-- The complete statements of a buffer, and what is left of it. -/
def statements (buffer : List Char) : List (List Char) × List Char :=
  statementsFrom {} buffer

/-- The statements of a string. -/
def statementsOf (buffer : String) : List String × String :=
  let (found, rest) := statements buffer.toList
  (found.map String.ofList, String.ofList rest)

/-- Feeds chunks one after the other: each is scanned behind the rest of the
scans before it.  One result per chunk. -/
def feed (rest : String) : List String → List (List String × String)
  | [] => []
  | chunk :: chunks =>
    let result := statementsOf (rest ++ chunk)
    result :: feed result.2 chunks

end ReplEngine.Scan
