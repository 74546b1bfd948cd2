import ReplEngine.Text.LetterCase

/-!
# Patterns

The syntax tree of a search pattern.  Case folding, line anchors and the dot
depend on flags; the reader resolves them, so a tree means the same wherever it
stands.
-/

namespace ReplEngine.Pattern

/-- The classes of characters with a one-letter escape. -/
inductive Category where
  | digit
  | space
  | word
deriving Repr, DecidableEq

/-- Membership in a category; `ascii` restricts it to ASCII. -/
def Category.holds (ascii : Bool) (k : Category) (c : Char) : Bool :=
  (!ascii || c.toNat < 128) &&
    match k with
    | .digit => Text.isDecimal c
    | .space => Text.isSpace c
    | .word => Text.isWordChar c

/-- A part of a character class. -/
inductive SetItem where
  | char (c : Char)
  | range (first last : Char)
  | category (k : Category) (negated : Bool)
deriving Repr, DecidableEq

/-- Places that match no character. -/
inductive Anchor where
  /-- The start of the text. -/
  | textStart
  /-- The start of a line. -/
  | lineStart
  /-- The end of the text, or before one newline at its end. -/
  | finalLineEnd
  /-- The end of a line. -/
  | lineEnd
  /-- The end of the text. -/
  | textEnd
  /-- Between a word character and another one, or not there; never in an empty text. -/
  | wordEdge (negated : Bool)
deriving Repr, DecidableEq

/-- How a repetition chooses the number of its rounds. -/
inductive Greed where
  /-- As many as possible, then fewer. -/
  | greedy
  /-- As few as possible, then more. -/
  | lazy
  /-- As many as possible, and no other number. -/
  | possessive
deriving Repr, DecidableEq

/-- A pattern. -/
inductive Expr where
  | empty
  | char (c : Char) (fold : Bool)
  /-- Any character; without `newlines` any but a newline. -/
  | any (newlines : Bool)
  | set (negated : Bool) (items : List SetItem) (fold ascii : Bool)
  | seq (first second : Expr)
  | alt (first second : Expr)
  | rep (body : Expr) (least : Nat) (most : Option Nat) (greed : Greed)
  | group (index : Nat) (body : Expr)
  | anchor (a : Anchor) (ascii : Bool)
  | backref (index : Nat) (fold : Bool)
  | lookAhead (negated : Bool) (body : Expr)
  | lookBehind (negated : Bool) (width : Nat) (body : Expr)
  /-- The body's first match only. -/
  | atomic (body : Expr)
  /-- One pattern if a group has matched, and another one if not. -/
  | given (index : Nat) (met unmet : Expr)
deriving Repr, Inhabited, DecidableEq

/-- One pattern after the other. -/
def Expr.inOrder (parts : List Expr) : Expr :=
  parts.foldl .seq .empty

/-- A pattern as it was written, with its groups. -/
structure Compiled where
  source : String
  expr : Expr
  /-- The number of groups. -/
  groups : Nat
  /-- The names of groups, in the order they were opened. -/
  names : List (String × Nat)
deriving Repr, DecidableEq

/-- Small letters that count as equal to a small letter, besides itself. -/
def kindred (c : Char) : List Char :=
  match Text.kindredTable.find? fun e => e.1 == c.toNat with
  | some e => e.2.map Char.ofNat
  | none => []

/-- Whether two characters are equal up to case. -/
def sameLetter (a b : Char) : Bool :=
  let a := Text.lowerChar a
  let b := Text.lowerChar b
  a == b || (kindred a).contains b

/-- The characters that have a given small letter, which is one of them. -/
def withLower (small : Char) : List Char :=
  let capitals := Text.lowerRuns.filterMap fun r =>
    let n := ((small.toNat : Int) - r.shift).toNat
    if r.has n then some (Char.ofNat n) else none
  small :: small.toUpper :: capitals

/-- The forms of a character up to case. -/
def caseForms (c : Char) : List Char :=
  let small := Text.lowerChar c
  (small :: kindred small).flatMap withLower

/-- Whether a character lies in a range. -/
def inRange (first last c : Char) : Bool :=
  first ≤ c && c ≤ last

/-- Membership of a character in a part of a class. -/
def SetItem.holds (fold ascii : Bool) (c : Char) : SetItem → Bool
  | .char d => if fold then sameLetter c d else c == d
  | .range first last =>
    if fold then (caseForms c).any (inRange first last) else inRange first last c
  | .category k negated => k.holds ascii c != negated

/-- Membership of a character in a class. -/
def inSet (negated : Bool) (items : List SetItem) (fold ascii : Bool) (c : Char) : Bool :=
  items.any (SetItem.holds fold ascii c) != negated

end ReplEngine.Pattern
