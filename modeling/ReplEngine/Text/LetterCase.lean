import ReplEngine.Text.CharClass

/-!
# Letter case

Upper and lower case.  Some mappings are not one to one: a few letters become several characters
in upper case, and the dotted capital I becomes a letter with a combining dot in lower case.  A
capital sigma becomes the final small sigma at the end of a word.
-/

namespace ReplEngine.Text

/-- The other case of a letter, if it stands in one of some runs. -/
def shifted (runs : List CaseRun) (c : Char) : Char :=
  match runs.find? (·.has c.toNat) with
  | some r => Char.ofNat ((c.toNat : Int) + r.shift).toNat
  | none => c

/-- The small letter of one capital letter, as far as it is a single character. -/
def lowerChar (c : Char) : Char :=
  if isAscii c then c.toLower else shifted lowerRuns c

/-- The capital letter of one small letter, as far as it is a single character. -/
def upperChar (c : Char) : Char :=
  if isAscii c then c.toUpper else shifted upperRuns c

/-- A letter that has a case. -/
def isCased (c : Char) : Bool :=
  if isAscii c then c.isAlpha else isListed casedTable c

/-- Marks that do not interrupt a word when looking for its end. -/
def isCaseIgnorable (c : Char) : Bool :=
  CodeRange.covers ignorableTable c

/-- Whether a capital sigma with the given characters before it (nearest first)
and after it ends a word: a cased letter stands before it and none after it,
ignorable marks apart. -/
def isFinalSigma (before after : List Char) : Bool :=
  let reaches (cs : List Char) : Bool :=
    match cs.dropWhile isCaseIgnorable with
    | [] => false
    | c :: _ => isCased c
  reaches before && !reaches after

/-- Lower case of a text whose preceding characters, nearest first, are `before`. -/
def lowerFrom (before : List Char) : List Char → List Char
  | [] => []
  | c :: rest =>
    let tail := lowerFrom (c :: before) rest
    if c.toNat == 0x130 then 'i' :: Char.ofNat 0x307 :: tail
    else if c.toNat == 0x3a3 then
      (if isFinalSigma before rest then Char.ofNat 0x3c2 else Char.ofNat 0x3c3) :: tail
    else lowerChar c :: tail

/-- Lower case of a text. -/
def lower (cs : List Char) : List Char :=
  lowerFrom [] cs

/-- Upper case of a text. -/
def upper (cs : List Char) : List Char :=
  cs.flatMap fun c =>
    match upperSequences.find? fun e => e.1 == c.toNat with
    | some e => e.2.map Char.ofNat
    | none => [upperChar c]

/-- Lower case of a string. -/
def lowerString (s : String) : String :=
  String.ofList (lower s.toList)

/-- Upper case of a string. -/
def upperString (s : String) : String :=
  String.ofList (upper s.toList)

end ReplEngine.Text
