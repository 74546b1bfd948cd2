import ReplEngine.Cursor.Expression
import ReplEngine.Text.Lines
import ReplEngine.Json.Basic
import ReplEngine.Error

/-!
# What the cursor is on

Says from the text alone what is being typed at a cursor: `completionAt` reports
the partial symbol left of the cursor and what kind of completion it asks for,
`callAt` the innermost open call and the number of the argument being typed.
-/

namespace ReplEngine.Cursor

open ReplEngine.Scan (Bracket Kind)

/-- A cursor as a client gives it: the end of the line, an offset that may be
negative or too large, or a truth value that counts as 0 or 1. -/
inductive Requested where
  | lineEnd
  | offset (n : Int)
  | truth (b : Bool)

/-- Reads a cursor; anything but null, a whole number or a truth value cannot cut
a text. -/
def Requested.ofJson : Json → Except Error Requested
  | .null => .ok .lineEnd
  | .int n => .ok (.offset n)
  | .bool b => .ok (.truth b)
  | _ => .error .notAnIndex

/-- The offset a cursor stands for in a line of the given length. -/
def Requested.position (length : Nat) : Requested → Int
  | .lineEnd => length
  | .offset n => n
  | .truth b => if b then 1 else 0

/-- The cursor as it is reported back. -/
def Requested.report (length : Nat) : Requested → Json
  | .truth b => .bool b
  | c => .int (c.position length)

/-- The text before an offset; a negative one counts from the end. -/
def textBefore (position : Int) (line : List Char) : List Char :=
  if position < 0 then line.take (line.length - position.natAbs) else line.take position.toNat

@[simp] theorem textBefore_natCast (n : Nat) (line : List Char) :
    textBefore n line = line.take n := by
  rw [textBefore, if_neg (by omega), Int.toNat_natCast]

/-- The expression a member is looked up on. -/
structure Context where
  text : String
  /-- Whether it consists of names and dots only. -/
  isBare : Bool
deriving Repr, DecidableEq

/-- A context from its text. -/
def Context.ofChars (text : List Char) : Context :=
  ⟨String.ofList text, (Text.splitAtChar '.' text).all isName⟩

/-- What a completion asks for. -/
inductive Wanted where
  | member (context : Context)
  | className
  | variableName
  | symbol
deriving Repr, DecidableEq

/-- The word for what is wanted. -/
def Wanted.name : Wanted → String
  | .member _ => "member"
  | .className => "class"
  | .variableName => "variable"
  | .symbol => "symbol"

/-- The context of a member completion. -/
def Wanted.context? : Wanted → Option Context
  | .member context => some context
  | _ => none

/-- A partial symbol, where it starts and stops, and what it asks for. -/
structure Completion where
  symbol : String
  start : Int
  stop : Int
  wanted : Wanted
deriving Repr, DecidableEq

/-- A text without one newline at its end. -/
def withoutFinalNewline (text : List Char) : List Char :=
  if ['\n'].isSuffixOf text then text.dropLast else text

/-- Whether a number is being typed at the end of a text. -/
def endsInNumber (text : List Char) : Bool :=
  match Text.takeRightWhile (fun c => Text.isWordChar c || c == '.') (withoutFinalNewline text) with
  | [] => false
  | c :: _ => Text.isDecimal c

/-- The partial name at the end of a text. -/
def partialName (text : List Char) : List Char :=
  (Text.takeRightWhile Text.isWordChar (withoutFinalNewline text)).dropWhile
    (fun c => !Text.isWordStart c)

/-- Whether a text ends with the word `raise` and blanks. -/
def awaitsRaised (text : List Char) : Bool :=
  let trimmed := Text.trimRight text
  trimmed.length < text.length &&
    match trimmed.reverse with
    | 'e' :: 's' :: 'i' :: 'a' :: 'r' :: [] => true
    | 'e' :: 's' :: 'i' :: 'a' :: 'r' :: c :: _ => !(Text.isWordChar c || c == '.')
    | _ => false

/-- Whether a list of names, each followed by a comma, leads from here to the
end of a line. -/
def namesToLineEnd (fuel : Nat) (text : List Char) : Bool :=
  let blanks := text.takeWhile Text.isSpace
  let rest := text.dropWhile Text.isSpace
  if blanks.contains '\n' || rest.isEmpty then true
  else match fuel with
  | 0 => false
  | fuel + 1 =>
    let afterName := (rest.dropWhile Text.isWordChar).dropWhile Text.isSpace
    (rest.takeWhile Text.isWordChar) != [] &&
      match afterName with
      | ',' :: further => namesToLineEnd fuel further
      | _ => false

/-- Whether a word that takes variable names opens the text, followed by blanks
and names up to the end of a line. -/
def opensNameList (text : List Char) : Bool :=
  let start := Text.trimLeft text
  ["del", "global", "nonlocal"].any fun word =>
    word.toList.isPrefixOf start &&
      match start.drop word.length with
      | [] => false
      | c :: rest => Text.isSpace c && namesToLineEnd rest.length rest

/-- Whether a variable name is expected at the end of a text: some line, or some
part of it behind a semicolon, is a list of names for `del`, `global` or
`nonlocal`. -/
def awaitsVariable (atStart : Bool) (text : List Char) : Bool :=
  (atStart && opensNameList text) ||
    match text with
    | [] => false
    | c :: rest => awaitsVariable (c == '\n' || c == ';') rest

/-- What is being completed at a position of a line; `none` inside strings and
comments, in numbers, and behind a dot with no expression before it. -/
def completionAt (line : List Char) (position : Int) : Option Completion :=
  let text := textBefore position line
  let state := Scan.lexicalState text
  if state.inString || state.inComment || endsInNumber text then none
  else
    let name := partialName text
    let before := text.take (text.length - name.length)
    let found (wanted : Wanted) : Option Completion :=
      some ⟨String.ofList name, position - name.length, position, wanted⟩
    if ['.'].isSuffixOf before then
      match contextExpression before.dropLast with
      | [] => none
      | expression => found (.member (.ofChars expression))
    else if awaitsRaised before then found .className
    else if awaitsVariable true before then found .variableName
    else found .symbol

/-- An open bracket: where it stands, its kind, and the commas behind it. -/
structure OpenBracket where
  offset : Nat
  bracket : Bracket
  commas : Nat

/-- The brackets left open by a token, innermost first.  `text` is the text from
the token on. -/
def bracketsAfter (opened : List OpenBracket) (offset : Nat) (kind : Kind) (c : Char) :
    List OpenBracket :=
  match kind, opened with
  | .opening, _ =>
    match Bracket.ofOpening? c with
    | some bracket => ⟨offset, bracket, 0⟩ :: opened
    | none => opened
  | .closing, _ => opened.tail
  | .code, innermost :: outer =>
    if c == ',' then { innermost with commas := innermost.commas + 1 } :: outer else opened
  | _, _ => opened

/-- The brackets open at the end of a text, innermost first. -/
def openBrackets (text : List Char) : List OpenBracket :=
  (Scan.tokens text).foldl (fun opened (offset, kind) =>
    bracketsAfter opened offset kind (text.getD offset ' ')) []

/-- A call: the name of what is called, the argument being typed, and the
expression before the name's dot. -/
structure Call where
  name : String
  argument : Nat
  context : Option Context
deriving Repr, DecidableEq

/-- The word for what is called. -/
def Call.kind (c : Call) : String :=
  if c.context.isSome then "method" else "function"

/-- The call of a callee; `none` if it is no name, or only a dot stands before
the name. -/
def callOf (callee : List Char) (argument : Nat) : Option Call :=
  match Text.cutAtLast? '.' callee with
  | none => if isName callee then some ⟨String.ofList callee, argument, none⟩ else none
  | some (context, name) =>
    if isName name && !context.isEmpty then
      some ⟨String.ofList name, argument, some (.ofChars context)⟩
    else none

/-- The call of the innermost round bracket that has a callee. -/
def innermostCall (text : List Char) : List OpenBracket → Option Call
  | [] => none
  | b :: outer =>
    if b.bracket != .round then innermostCall text outer
    else match contextExpression (Text.trimRight (text.take b.offset)) with
    | [] => innermostCall text outer
    | callee => callOf callee b.commas

/-- The innermost call open at a position of a line. -/
def callAt (line : List Char) (position : Int) : Option Call :=
  let text := textBefore position line
  innermostCall text (openBrackets text)

end ReplEngine.Cursor
