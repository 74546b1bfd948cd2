import ReplEngine.Text.CharClass

/-!
# Structural tokens

A shallow lexer for source text.  It knows strings, comments, brackets and line
continuations, and reports the characters outside strings and comments that give
a text its structure.  The lexer reads one character at a time and looks ahead at
most two: `Lexer.step` is the only place where the rules stand, and tokens, end
states and statements are all traversals of it.
-/

namespace ReplEngine.Scan

/-- The kinds of brackets. -/
inductive Bracket where
  | round
  | square
  | curly
deriving Repr, DecidableEq

/-- The opening character of a bracket. -/
def Bracket.opening : Bracket → Char
  | .round => '('
  | .square => '['
  | .curly => '\x7b'

/-- The bracket that a character opens. -/
def Bracket.ofOpening? (c : Char) : Option Bracket :=
  if c == '(' then some .round
  else if c == '[' then some .square
  else if c == '\x7b' then some .curly
  else none

/-- Whether a character closes a bracket. -/
def isClosing (c : Char) : Bool :=
  c == ')' || c == ']' || c == '\x7d'

/-- The marks that open a string. -/
inductive Mark where
  | single
  | double
deriving Repr, DecidableEq

/-- The character of a mark. -/
def Mark.char : Mark → Char
  | .single => '\''
  | .double => '"'

/-- The mark of a character. -/
def Mark.ofChar? (c : Char) : Option Mark :=
  if c == '\'' then some .single
  else if c == '"' then some .double
  else none

/-- How a string was opened: with one mark or with three. -/
structure Quote where
  mark : Mark
  triple : Bool
deriving Repr, DecidableEq

/-- The text that opens and closes the string. -/
def Quote.text (q : Quote) : List Char :=
  List.replicate (if q.triple then 3 else 1) q.mark.char

/-- Where in the text the lexer stands. -/
inductive Mode where
  | code
  | comment
  | string (quote : Quote)
deriving Repr, DecidableEq

/-- The lexical state at a place of the text: the mode and the open brackets,
innermost first. -/
structure State where
  mode : Mode := .code
  brackets : List Bracket := []
deriving Repr, DecidableEq

namespace State

/-- The quote of the string the text is in. -/
def quote? (s : State) : Option Quote :=
  match s.mode with
  | .string q => some q
  | _ => none

/-- Whether the text is inside a comment. -/
def inComment (s : State) : Bool :=
  s.mode = .comment

/-- Whether the text is inside a string. -/
def inString (s : State) : Bool :=
  s.quote?.isSome

/-- The number of open brackets. -/
def depth (s : State) : Nat :=
  s.brackets.length

end State

/-- The kinds of structural tokens. -/
inductive Kind where
  | newline
  | comment
  | string
  | opening
  | closing
  | semicolon
  | code
deriving Repr, DecidableEq

/-- The name of a kind. -/
def Kind.name : Kind → String
  | .newline => "newline"
  | .comment => "comment"
  | .string => "string"
  | .opening => "open"
  | .closing => "close"
  | .semicolon => "semicolon"
  | .code => "code"

/-- The lexer between two characters: its state, and how many of the following
characters belong to what was read already. -/
structure Lexer where
  state : State := {}
  skip : Nat := 0
deriving Repr, DecidableEq

namespace Lexer

/-- A step inside a string. -/
def stringStep (s : State) (q : Quote) (c : Char) (rest : List Char) : Lexer × Option Kind :=
  if c == '\\' then (⟨s, 1⟩, none)
  else if q.text.isPrefixOf (c :: rest) then
    (⟨{ s with mode := .code }, q.text.length - 1⟩, none)
  else if c == '\n' && !q.triple then
    -- an unescaped newline ends a string with single marks
    (⟨{ s with mode := .code }, 0⟩, some .newline)
  else (⟨s, 0⟩, none)

/-- A step inside a comment. -/
def commentStep (s : State) (c : Char) : Lexer × Option Kind :=
  if c == '\n' then (⟨{ s with mode := .code }, 0⟩, some .newline)
  else (⟨s, 0⟩, none)

/-- A step outside strings and comments. -/
def codeStep (s : State) (c : Char) (rest : List Char) : Lexer × Option Kind :=
  if c == '#' then (⟨{ s with mode := .comment }, 0⟩, some .comment)
  else match Mark.ofChar? c with
  | some mark =>
    let triple := [mark.char, mark.char].isPrefixOf rest
    (⟨{ s with mode := .string ⟨mark, triple⟩ }, if triple then 2 else 0⟩, some .string)
  | none => match Bracket.ofOpening? c with
  | some bracket => (⟨{ s with brackets := bracket :: s.brackets }, 0⟩, some .opening)
  | none =>
    if isClosing c then (⟨{ s with brackets := s.brackets.tail }, 0⟩, some .closing)
    else if c == '\\' && ['\n'].isPrefixOf rest then (⟨s, 1⟩, none)
    else if c == '\n' then (⟨s, 0⟩, some .newline)
    else if c == ';' then (⟨s, 0⟩, some .semicolon)
    else if Text.isSpace c then (⟨s, 0⟩, none)
    else (⟨s, 0⟩, some .code)

/-- Reads the character `c`, with `rest` after it: the lexer behind `c`, and the
token that `c` is, if it is one. -/
def step (l : Lexer) (c : Char) (rest : List Char) : Lexer × Option Kind :=
  match l.skip with
  | n + 1 => (⟨l.state, n⟩, none)
  | 0 =>
    match l.state.mode with
    | .string q => stringStep l.state q c rest
    | .comment => commentStep l.state c
    | .code => codeStep l.state c rest

/-- The tokens of a text, as offsets from the start of the text plus `offset`. -/
def tokensFrom (l : Lexer) (offset : Nat) : List Char → List (Nat × Kind)
  | [] => []
  | c :: rest =>
    let (next, token?) := l.step c rest
    match token? with
    | some kind => (offset, kind) :: next.tokensFrom (offset + 1) rest
    | none => next.tokensFrom (offset + 1) rest

/-- The lexer behind a text. -/
def run (l : Lexer) : List Char → Lexer
  | [] => l
  | c :: rest => (l.step c rest).1.run rest

end Lexer

/-- The structural tokens of a text with their offsets. -/
def tokens (text : List Char) : List (Nat × Kind) :=
  Lexer.tokensFrom {} 0 text

/-- The lexical state at the end of a text. -/
def lexicalState (text : List Char) : State :=
  (Lexer.run {} text).state

end ReplEngine.Scan
