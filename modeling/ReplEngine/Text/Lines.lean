import ReplEngine.Text.CharClass

/-!
# Cutting text

Trimming blanks, cutting a text into lines and splitting it at separators, all
over lists of characters.
-/

namespace ReplEngine.Text

/-- The text without its leading white space. -/
def trimLeft (cs : List Char) : List Char :=
  cs.dropWhile isSpace

/-- The text without its trailing characters that satisfy `p`. -/
def dropRightWhile (p : Char → Bool) (cs : List Char) : List Char :=
  (cs.reverse.dropWhile p).reverse

/-- The longest suffix whose characters all satisfy `p`. -/
def takeRightWhile (p : Char → Bool) (cs : List Char) : List Char :=
  (cs.reverse.takeWhile p).reverse

/-- The text without its trailing white space. -/
def trimRight (cs : List Char) : List Char :=
  dropRightWhile isSpace cs

/-- The text without white space at either end. -/
def trim (cs : List Char) : List Char :=
  trimRight (trimLeft cs)

/-- A text is blank when it holds white space only. -/
def isBlank (cs : List Char) : Bool :=
  cs.all isSpace

/-- The lines of a text, without their line ends.  A carriage return followed by
a line feed is one line end, and a text that ends with a line end has no further
empty line. -/
def splitLinesFrom (line : List Char) : List Char → List (List Char)
  | [] => if line.isEmpty then [] else [line.reverse]
  | '\r' :: '\n' :: rest => line.reverse :: splitLinesFrom [] rest
  | c :: rest =>
    if isLineBreak c then line.reverse :: splitLinesFrom [] rest
    else splitLinesFrom (c :: line) rest

@[inherit_doc splitLinesFrom]
def splitLines (cs : List Char) : List (List Char) :=
  splitLinesFrom [] cs

/-- The pieces of a text between the occurrences of one character; there is
always at least one piece. -/
def splitAtChar (sep : Char) : List Char → List (List Char)
  | [] => [[]]
  | c :: rest =>
    if c == sep then [] :: splitAtChar sep rest
    else match splitAtChar sep rest with
      | [] => [[c]]
      | piece :: pieces => (c :: piece) :: pieces

/-- The blank-separated words of a text, collecting the current word reversed. -/
def wordsFrom (word : List Char) : List Char → List (List Char)
  | [] => if word.isEmpty then [] else [word.reverse]
  | c :: rest =>
    if isSpace c then
      if word.isEmpty then wordsFrom [] rest else word.reverse :: wordsFrom [] rest
    else wordsFrom (c :: word) rest

@[inherit_doc wordsFrom]
def words (cs : List Char) : List (List Char) :=
  wordsFrom [] cs

/-- Cuts a text at the last occurrence of a character: the part before it and
the part after it, or `none` if the character does not occur. -/
def cutAtLast? (sep : Char) (cs : List Char) : Option (List Char × List Char) :=
  let after := takeRightWhile (· != sep) cs
  if after.length < cs.length then
    some (cs.take (cs.length - after.length - 1), after)
  else none

/-- The lines of a text between line feeds only. -/
def splitAtNewlines (cs : List Char) : List (List Char) :=
  splitAtChar '\n' cs

/-- Joins pieces with a separator between neighbours. -/
def joinWith (sep : List Char) : List (List Char) → List Char
  | [] => []
  | [piece] => piece
  | piece :: pieces => piece ++ sep ++ joinWith sep pieces

/-- Pads a text with trailing blanks up to a width. -/
def padRight (width : Nat) (s : String) : String :=
  s ++ String.ofList (List.replicate (width - s.length) ' ')

/-- Pads a text with leading blanks up to a width. -/
def padLeft (width : Nat) (s : String) : String :=
  String.ofList (List.replicate (width - s.length) ' ') ++ s

/-- A run of blanks. -/
def spaces (n : Nat) : String :=
  String.ofList (List.replicate n ' ')

/-- The lines of a string. -/
def linesOf (s : String) : List String :=
  (splitLines s.toList).map String.ofList

/-- Whether a string starts with another one. -/
def startsWith (lead s : String) : Bool :=
  lead.toList.isPrefixOf s.toList

/-- Whether a string ends with another one. -/
def endsWith (tail s : String) : Bool :=
  tail.toList.isSuffixOf s.toList

end ReplEngine.Text
