import ReplEngine.Text.CodePoints

/-!
# Character classes

The classes of characters that reading, matching and printing text depend on.
ASCII is decided directly, and outside ASCII each class is a table of code point ranges.
-/

namespace ReplEngine.Text

/-- White space: the blanks of ASCII, the four information separators, and the
space separators of Unicode. -/
def isSpace (c : Char) : Bool :=
  CodeRange.covers
    [⟨0x09, 0x0d⟩, ⟨0x1c, 0x20⟩, ⟨0x85, 0x85⟩, ⟨0xa0, 0xa0⟩, ⟨0x1680, 0x1680⟩,
     ⟨0x2000, 0x200a⟩, ⟨0x2028, 0x2029⟩, ⟨0x202f, 0x202f⟩, ⟨0x205f, 0x205f⟩,
     ⟨0x3000, 0x3000⟩] c

/-- Characters that end a line when a text is cut into lines. -/
def isLineBreak (c : Char) : Bool :=
  CodeRange.covers
    [⟨0x0a, 0x0d⟩, ⟨0x1c, 0x1e⟩, ⟨0x85, 0x85⟩, ⟨0x2028, 0x2029⟩] c

/-- Whether a character is one of ASCII. -/
def isAscii (c : Char) : Bool :=
  c.toNat < 0x80

/-- Characters written as themselves in quoted text. -/
def isPrintable (c : Char) : Bool :=
  if isAscii c then 0x20 ≤ c.toNat && c.toNat < 0x7f
  else !CodeRange.covers unprintableTable c

/-- Membership of a printable character outside ASCII in a table. -/
def isListed (table : List CodeRange) (c : Char) : Bool :=
  isPrintable c && CodeRange.covers table c

/-- The digits of ASCII. -/
def isAsciiDigit (c : Char) : Bool :=
  '0' ≤ c && c ≤ '9'

/-- Decimal digits of any script. -/
def isDecimal (c : Char) : Bool :=
  if isAscii c then isAsciiDigit c else isListed decimalTable c

/-- Letters and numeric characters. -/
def isAlphanumeric (c : Char) : Bool :=
  if isAscii c then c.isAlphanum else isListed alphanumericTable c

/-- Characters of a word: letters, numeric characters and the underscore. -/
def isWordChar (c : Char) : Bool :=
  c == '_' || isAlphanumeric c

/-- Characters that may open an ASCII word. -/
def isWordStart (c : Char) : Bool :=
  c == '_' || c.isAlpha

/-- Characters that a name can start with. -/
def isNameStart (c : Char) : Bool :=
  if isAscii c then isWordStart c
  else (isAlphanumeric c && !CodeRange.covers innerTable c) ||
    CodeRange.covers [⟨0x1885, 0x1886⟩, ⟨0x2118, 0x2118⟩, ⟨0x212e, 0x212e⟩] c

/-- Characters that a name can go on with. -/
def isNameChar (c : Char) : Bool :=
  if isAscii c then isWordChar c
  else (isAlphanumeric c && !CodeRange.covers namelessTable c) || isListed markTable c

/-- A name. -/
def isIdentifier : List Char → Bool
  | [] => false
  | c :: rest => isNameStart c && rest.all isNameChar

end ReplEngine.Text
