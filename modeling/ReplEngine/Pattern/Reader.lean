import ReplEngine.Error
import ReplEngine.Pattern.Basic
import ReplEngine.Json.Reader

/-!
# Reading patterns

Turns the text of a pattern into its tree, or refuses it.
-/

namespace ReplEngine.Pattern

/-- The flags a pattern can set. -/
structure Flags where
  fold : Bool := false
  multiline : Bool := false
  dotAll : Bool := false
  verbose : Bool := false
  ascii : Bool := false

/-- What is known about the groups while reading. -/
structure Reading where
  /-- The number of groups opened so far. -/
  groups : Nat := 0
  names : List (String × Nat) := []
  /-- The closed groups, with the least and greatest length of their matches. -/
  closed : List (Nat × Nat × Option Nat) := []
  /-- The number of groups that were open or closed where the outermost lookbehind
  around the text began. -/
  behind : Option Nat := none
  /-- The greatest number of a group that a condition asks for. -/
  asked : Nat := 0
  /-- Whether the matches of a lookbehind are of different lengths, or too long. -/
  uneven : Bool := false

/-- Opens the next group, under a name if one is given, which has to be new. -/
def Reading.openGroup? (r : Reading) (name : Option String) : Option Reading :=
  let index := r.groups + 1
  match name with
  | none => some { r with groups := index }
  | some n =>
    if r.names.any (·.1 == n) then none
    else some { r with groups := index, names := r.names ++ [(n, index)] }

/-- Whether the match of a group can be referred to. -/
def Reading.canRefer (r : Reading) (index : Nat) : Bool :=
  r.closed.any (·.1 == index) && r.behind.all (index ≤ ·)

/-- Whether a condition can ask for the match of a group. -/
def Reading.canAsk (r : Reading) (index : Nat) : Bool :=
  index != 0 && (r.behind.isNone || r.canRefer index)

/-- The least and the greatest length of the matches of a pattern. -/
def Expr.width (closed : List (Nat × Nat × Option Nat)) : Expr → Nat × Option Nat
  | .empty | .anchor _ _ | .lookAhead _ _ | .lookBehind _ _ _ => (0, some 0)
  | .char _ _ | .any _ | .set _ _ _ _ => (1, some 1)
  | .seq a b =>
    let (least, most) := a.width closed
    let (least', most') := b.width closed
    (least + least', do return (← most) + (← most'))
  | .alt a b | .given _ a b =>
    let (least, most) := a.width closed
    let (least', most') := b.width closed
    (min least least', do return max (← most) (← most'))
  | .rep body low high _ =>
    let (least, most) := body.width closed
    (least * low, if most == some 0 then some 0 else do return (← most) * (← high))
  | .group _ body | .atomic body => body.width closed
  | .backref index _ => ((closed.find? fun g => g.1 == index).map (·.2)).getD (0, none)

/-- Whether a pattern holds a repetition. -/
def Expr.hasRepetition : Expr → Bool
  | .rep _ _ _ _ => true
  | .seq a b | .alt a b | .given _ a b => a.hasRepetition || b.hasRepetition
  | .group _ body | .atomic body | .lookAhead _ body | .lookBehind _ _ body => body.hasRepetition
  | .empty | .char _ _ | .any _ | .set _ _ _ _ | .anchor _ _ | .backref _ _ => false

/-- The value of hexadecimal digits. -/
def hexNumber? (cs : List Char) : Option Nat :=
  cs.foldlM (fun n c => (Json.hexValue? c).map (n * 16 + ·)) 0

/-- The character of a code point. -/
def charOfCode? (n : Nat) : Option Char :=
  if n < 0x110000 then some (Char.ofNat n) else none

/-- An escape of fixed hexadecimal length. -/
def hexEscape? (width : Nat) (cs : List Char) : Option (Char × List Char) := do
  let digits := cs.take width
  if digits.length < width then none
  else
    let c ← charOfCode? (← hexNumber? digits)
    return (c, cs.drop width)

/-- The control character of an escape letter. -/
def controlEscape? (c : Char) : Option Char :=
  if c == 'a' then some (Char.ofNat 7)
  else if c == 'f' then some (Char.ofNat 12)
  else if c == 'n' then some '\n'
  else if c == 'r' then some '\r'
  else if c == 't' then some '\t'
  else if c == 'v' then some (Char.ofNat 11)
  else none

/-- The category of an escape letter, and whether it is negated. -/
def categoryEscape? (c : Char) : Option (Category × Bool) :=
  if c == 'd' then some (.digit, false)
  else if c == 'D' then some (.digit, true)
  else if c == 's' then some (.space, false)
  else if c == 'S' then some (.space, true)
  else if c == 'w' then some (.word, false)
  else if c == 'W' then some (.word, true)
  else none

/-- Whether a character is an octal digit. -/
def isOctal (c : Char) : Bool :=
  '0' ≤ c && c ≤ '7'

/-- The value of octal digits. -/
def octalNumber (cs : List Char) : Nat :=
  cs.foldl (fun n c => n * 8 + (c.toNat - 48)) 0

/-- An escape that stands for one character, inside and outside classes.  `cs` is
the text behind the backslash.  No character is escaped by its name. -/
def charEscape? (cs : List Char) : Option (Char × List Char) :=
  match cs with
  | [] => none
  | 'x' :: rest => hexEscape? 2 rest
  | 'u' :: rest => hexEscape? 4 rest
  | 'U' :: rest => hexEscape? 8 rest
  | c :: rest =>
    match controlEscape? c with
    | some d => some (d, rest)
    | none => if c.isAlphanum then none else some (c, rest)

/-- One member of a class. -/
def setMember? (cs : List Char) : Option (SetItem × List Char) :=
  match cs with
  | [] => none
  | '\\' :: 'b' :: rest => some (.char (Char.ofNat 8), rest)
  | '\\' :: rest =>
    match rest.head?.bind categoryEscape? with
    | some (k, negated) => some (.category k negated, rest.drop 1)
    | none =>
      let octal := (rest.take 3).takeWhile isOctal
      if octal.isEmpty then (charEscape? rest).map fun (c, r) => (.char c, r)
      else if octalNumber octal < 256 then
        some (.char (Char.ofNat (octalNumber octal)), rest.drop octal.length)
      else none
  | c :: rest => some (.char c, rest)

/-- The members of a class up to its closing bracket, which as the first
character is a member. -/
def setMembers? (fuel : Nat) (acc : List SetItem) (cs : List Char) :
    Option (List SetItem × List Char) :=
  match fuel with
  | 0 => none
  | fuel + 1 =>
    match cs, acc with
    | ']' :: rest, _ :: _ => some (acc.reverse, rest)
    | _, _ => do
      let (item, rest) ← setMember? cs
      match rest with
      | '-' :: ']' :: after => return ((SetItem.char '-' :: item :: acc).reverse, after)
      | '-' :: after =>
        let (last, rest) ← setMember? after
        match item, last with
        | .char first, .char last =>
          if first ≤ last then setMembers? fuel (.range first last :: acc) rest else none
        | _, _ => none
      | _ => setMembers? fuel (item :: acc) rest

/-- The bounds of a counted repetition, behind its opening brace; `none` if the
brace is an ordinary character. -/
def repeatBounds? (cs : List Char) : Option (Nat × Option Nat × List Char) :=
  let low := cs.takeWhile Text.isAsciiDigit
  let rest := cs.drop low.length
  match rest with
  | '\x7d' :: after =>
    if low.isEmpty then none else some (Json.digitsValue low, some (Json.digitsValue low), after)
  | ',' :: more =>
    let high := more.takeWhile Text.isAsciiDigit
    match more.drop high.length with
    | '\x7d' :: after =>
      let upper := if high.isEmpty then none else some (Json.digitsValue high)
      some (Json.digitsValue low, upper, after)
    | _ => none
  | _ => none

/-- The least number of rounds that cannot be counted. -/
def roundLimit : Nat :=
  4294967295

/-- The bounds of a repetition mark at the start of a text; `none` if there is no mark. -/
def quantifier (cs : List Char) : Except Error (Option (Nat × Option Nat × List Char)) :=
  match cs with
  | '*' :: rest => .ok (some (0, none, rest))
  | '+' :: rest => .ok (some (1, none, rest))
  | '?' :: rest => .ok (some (0, some 1, rest))
  | '\x7b' :: rest =>
    match repeatBounds? rest with
    | none => .ok none
    | some (least, most, rest) =>
      -- a backslash with nothing to escape is noticed before the bounds are
      if rest == ['\\'] then .error .badPattern
      else if roundLimit ≤ least || most.any (roundLimit ≤ ·) then .error .tooManyRounds
      else if most.any (· < least) then .error .badPattern
      else .ok (some (least, most, rest))
  | _ => .ok none

/-- Whether a repetition mark may follow a part of a pattern. -/
def Expr.isRepeatable : Expr → Bool
  | .empty | .anchor _ _ | .rep _ _ _ _ => false
  | _ => true

/-- The letters of a group head such as `i`, `-i` or `i-m`. -/
structure FlagLetters where
  added : List Char
  removed : List Char

/-- The letters that stand for flags. -/
def flagLetters : List Char :=
  ['i', 'm', 's', 'x', 'a', 'u', 't']

/-- The flag letters at the start of a text, and the text behind them. -/
def readFlags? (cs : List Char) : Option (FlagLetters × List Char) :=
  let added := cs.takeWhile flagLetters.contains
  match cs.drop added.length with
  | '-' :: more =>
    let removed := more.takeWhile flagLetters.contains
    if removed.isEmpty then none else some (⟨added, removed⟩, more.drop removed.length)
  | rest => if added.isEmpty then none else some (⟨added, []⟩, rest)

/-- Whether both alphabets are asked for. -/
def conflict (letters : List Char) : Bool :=
  letters.contains 'a' && letters.contains 'u'

/-- Whether letters can stand at the head of a pattern. -/
def FlagLetters.isGlobal (l : FlagLetters) : Bool :=
  l.removed.isEmpty && !conflict l.added

/-- Whether letters can stand at the head of a group.  An alphabet can be chosen but not
taken back, and `t` is for whole patterns. -/
def FlagLetters.isLocal (l : FlagLetters) : Bool :=
  !conflict l.added && !l.added.contains 't' &&
    !l.removed.any fun c => ['a', 'u', 't'].contains c || l.added.contains c

/-- A flag letter set or cleared. -/
def Flags.put (value : Bool) (f : Flags) (c : Char) : Flags :=
  match c with
  | 'i' => { f with fold := value }
  | 'm' => { f with multiline := value }
  | 's' => { f with dotAll := value }
  | 'x' => { f with verbose := value }
  | 'a' => { f with ascii := true }
  | 'u' => { f with ascii := false }
  | _ => f

/-- The flags that letters change. -/
def FlagLetters.change (l : FlagLetters) (f : Flags) : Flags :=
  l.removed.foldl (Flags.put false) (l.added.foldl (Flags.put true) f)

/-- The text behind the first mark that no backslash escapes, or else `missing`. -/
def behindMark? (mark : Char) (missing : Option (List Char)) : List Char → Option (List Char)
  | [] => missing
  | ['\\'] => none
  | '\\' :: _ :: rest => behindMark? mark missing rest
  | c :: rest => if c == mark then some rest else behindMark? mark missing rest

/-- The text behind the comments at its start and, in verbose patterns, behind blanks and
line comments. -/
def skipIgnored? (fuel : Nat) (verbose : Bool) (cs : List Char) : Option (List Char) :=
  match fuel, cs with
  | 0, _ => some cs
  | _, [] => some []
  | fuel + 1, '(' :: '?' :: '#' :: rest =>
    (behindMark? ')' none rest).bind (skipIgnored? fuel verbose)
  | fuel + 1, c :: rest =>
    if verbose && c == '#' then
      (behindMark? '\n' (some []) rest).bind (skipIgnored? fuel verbose)
    else if verbose && " \t\n\r\x0b\x0c".toList.contains c then skipIgnored? fuel verbose rest
    else some cs

/-- An escape outside classes.  `cs` is the text behind the backslash. -/
def escapeExpr? (f : Flags) (r : Reading) (cs : List Char) : Option (Expr × List Char) :=
  match cs with
  | [] => none
  | c :: rest =>
    if c == 'A' then some (.anchor .textStart f.ascii, rest)
    else if c == 'Z' then some (.anchor .textEnd f.ascii, rest)
    else if c == 'b' then some (.anchor (.wordEdge false) f.ascii, rest)
    else if c == 'B' then some (.anchor (.wordEdge true) f.ascii, rest)
    else match categoryEscape? c with
    | some (k, negated) => some (.set false [.category k negated] f.fold f.ascii, rest)
    | none =>
      if c == '0' then
        let octal := (rest.take 2).takeWhile isOctal
        some (.char (Char.ofNat (octalNumber octal)) f.fold, rest.drop octal.length)
      else if Text.isAsciiDigit c then
        let octal := (cs.take 3).takeWhile isOctal
        if octal.length == 3 then
          if octalNumber octal < 256 then
            some (.char (Char.ofNat (octalNumber octal)) f.fold, cs.drop 3)
          else none
        else
          let digits := (cs.take 2).takeWhile Text.isAsciiDigit
          let index := Json.digitsValue digits
          if r.canRefer index then some (.backref index f.fold, cs.drop digits.length) else none
      else (charEscape? cs).map fun (c, rest) => (.char c f.fold, rest)

/-- The name at the start of a text and the text behind its closing mark. -/
def groupName? (close : Char) (cs : List Char) : Option (String × List Char) :=
  let name := cs.takeWhile (· != close)
  if name.length < cs.length && Text.isIdentifier name then
    some (String.ofList name, cs.drop (name.length + 1))
  else none

/-- The number of the group that a condition asks for, and the text behind the condition. -/
def condition? (r : Reading) (cs : List Char) : Option (Nat × List Char) := do
  let name := cs.takeWhile (· != ')')
  let rest ← if name.length < cs.length then some (cs.drop (name.length + 1)) else none
  let index ←
    if Text.isIdentifier name then (r.names.find? (·.1 == String.ofList name)).map (·.2)
    else if name.all Text.isAsciiDigit then some (Json.digitsValue name)
    else none
  if r.canAsk index then some (index, rest) else none

/-- A closing parenthesis at the start of a text. -/
def closing? : List Char → Option (List Char)
  | ')' :: rest => some rest
  | _ => none

/-- What is there, or a pattern that cannot be read. -/
def readable {α : Type} : Option α → Except Error α
  | some a => .ok a
  | none => .error .badPattern

/-- Puts a repetition mark behind a part of a pattern, if one follows. -/
def repeated (e : Expr) (cs : List Char) : Except Error (Expr × List Char) := do
  match ← quantifier cs with
  | none => return (e, cs)
  | some (least, most, rest) =>
    if e.isRepeatable then
      match rest with
      | '?' :: after => return (.rep e least most .lazy, after)
      | '+' :: after => return (.rep e least most .possessive, after)
      | _ => return (.rep e least most .greedy, rest)
    else .error .badPattern

mutual

/-- Reads alternatives up to a closing parenthesis or the end. -/
def readAlternatives (fuel : Nat) (f : Flags) (r : Reading) (cs : List Char) :
    Except Error (Expr × Reading × List Char) :=
  match fuel with
  | 0 => .error .badPattern
  | fuel + 1 => do
    let (first, r, rest) ← readSequence fuel f r .empty cs
    match rest with
    | '|' :: after =>
      let (second, r, rest) ← readAlternatives fuel f r after
      return (.alt first second, r, rest)
    | _ => return (first, r, rest)

/-- Reads parts one after the other; `done` is what was read before. -/
def readSequence (fuel : Nat) (f : Flags) (r : Reading) (done : Expr) (cs : List Char) :
    Except Error (Expr × Reading × List Char) :=
  match fuel with
  | 0 => .error .badPattern
  | fuel + 1 => do
    let cs ← readable (skipIgnored? cs.length f.verbose cs)
    match cs with
    | [] => return (done, r, [])
    | '|' :: _ | ')' :: _ => return (done, r, cs)
    | _ =>
      let (part, r, rest) ← readPart fuel f r cs
      let (part, rest) ← repeated part (← readable (skipIgnored? rest.length f.verbose rest))
      readSequence fuel f r (.seq done part) rest

/-- Reads one part: a character, a class, an anchor, an escape or a group. -/
def readPart (fuel : Nat) (f : Flags) (r : Reading) (cs : List Char) :
    Except Error (Expr × Reading × List Char) :=
  match fuel with
  | 0 => .error .badPattern
  | fuel + 1 => do
    match cs with
    | [] => .error .badPattern
    | '.' :: rest => return (.any f.dotAll, r, rest)
    | '^' :: rest =>
      return (.anchor (if f.multiline then .lineStart else .textStart) f.ascii, r, rest)
    | '$' :: rest =>
      return (.anchor (if f.multiline then .lineEnd else .finalLineEnd) f.ascii, r, rest)
    | '\\' :: rest =>
      let (e, rest) ← readable (escapeExpr? f r rest)
      return (e, r, rest)
    | '[' :: '^' :: rest =>
      let (items, rest) ← readable (setMembers? cs.length [] rest)
      return (.set true items f.fold f.ascii, r, rest)
    | '[' :: rest =>
      let (items, rest) ← readable (setMembers? cs.length [] rest)
      return (.set false items f.fold f.ascii, r, rest)
    | '(' :: '?' :: rest => readExtension fuel f r rest
    | '(' :: rest => readGroup fuel f r none rest
    | c :: rest =>
      -- a repetition mark has nothing to repeat here
      if (← quantifier cs).isSome then .error .badPattern else return (.char c f.fold, r, rest)

/-- Reads alternatives and the closing parenthesis behind them. -/
def readBody (fuel : Nat) (f : Flags) (r : Reading) (cs : List Char) :
    Except Error (Expr × Reading × List Char) :=
  match fuel with
  | 0 => .error .badPattern
  | fuel + 1 => do
    let (body, r, rest) ← readAlternatives fuel f r cs
    return (body, r, ← readable (closing? rest))

/-- Reads a group behind its head. -/
def readGroup (fuel : Nat) (f : Flags) (r : Reading) (name : Option String) (cs : List Char) :
    Except Error (Expr × Reading × List Char) :=
  match fuel with
  | 0 => .error .badPattern
  | fuel + 1 => do
    let opened ← readable (r.openGroup? name)
    let (body, r, rest) ← readBody fuel f opened cs
    let index := opened.groups
    return (.group index body, { r with closed := (index, body.width r.closed) :: r.closed }, rest)

/-- Reads a lookbehind behind its head. -/
def readLookBehind (fuel : Nat) (f : Flags) (r : Reading) (negated : Bool) (cs : List Char) :
    Except Error (Expr × Reading × List Char) :=
  match fuel with
  | 0 => .error .badPattern
  | fuel + 1 => do
    let outer := r.behind
    let (body, r, rest) ← readBody fuel f { r with behind := outer.or (some r.groups) } cs
    let (least, most) := body.width r.closed
    let uneven := r.uneven || most != some least || roundLimit < least
    return (.lookBehind negated least body, { r with behind := outer, uneven }, rest)

/-- Reads the two sides of a condition, of which the second may be missing. -/
def readSides (fuel : Nat) (f : Flags) (r : Reading) (index : Nat) (cs : List Char) :
    Except Error (Expr × Reading × List Char) :=
  match fuel with
  | 0 => .error .badPattern
  | fuel + 1 => do
    let (met, r, rest) ← readSequence fuel f r .empty cs
    match rest with
    | '|' :: after =>
      let (unmet, r, rest) ← readSequence fuel f r .empty after
      return (.given index met unmet, r, ← readable (closing? rest))
    | _ => return (.given index met .empty, r, ← readable (closing? rest))

/-- Reads what stands behind `(?`. -/
def readExtension (fuel : Nat) (f : Flags) (r : Reading) (cs : List Char) :
    Except Error (Expr × Reading × List Char) :=
  match fuel with
  | 0 => .error .badPattern
  | fuel + 1 => do
    match cs with
    | ':' :: rest =>
      let (body, r, rest) ← readBody fuel f r rest
      return (.seq .empty body, r, rest)
    | '>' :: rest =>
      let (body, r, rest) ← readBody fuel f r rest
      return (.atomic body, r, rest)
    | '=' :: rest =>
      let (body, r, rest) ← readBody fuel f r rest
      return (.lookAhead false body, r, rest)
    | '!' :: rest =>
      let (body, r, rest) ← readBody fuel f r rest
      return (.lookAhead true body, r, rest)
    | '<' :: '=' :: rest => readLookBehind fuel f r false rest
    | '<' :: '!' :: rest => readLookBehind fuel f r true rest
    | 'P' :: '<' :: rest =>
      let (name, rest) ← readable (groupName? '>' rest)
      readGroup fuel f r (some name) rest
    | 'P' :: '=' :: rest =>
      let (name, rest) ← readable (groupName? ')' rest)
      let index ← readable ((r.names.find? (·.1 == name)).map (·.2))
      if r.canRefer index then return (.backref index f.fold, r, rest) else .error .badPattern
    | '(' :: rest =>
      let (index, rest) ← readable (condition? r rest)
      readSides fuel f { r with asked := max r.asked index } index rest
    | _ =>
      let (letters, rest) ← readable (readFlags? cs)
      match rest, letters.isLocal with
      | ':' :: rest, true =>
        let (body, r, rest) ← readBody fuel (letters.change f) r rest
        return (.seq .empty body, r, rest)
      | _, _ => .error .badPattern

end

/-- The flags at the very start of a pattern, with their letters, and the text behind them. -/
def leadingFlags? (fuel : Nat) (f : Flags) (letters cs : List Char) :
    Option (Flags × List Char × List Char) :=
  match fuel with
  | 0 => some (f, letters, cs)
  | fuel + 1 => do
    let cs ← skipIgnored? cs.length f.verbose cs
    match cs with
    | '(' :: '?' :: rest =>
      match readFlags? rest with
      | some (l, ')' :: after) =>
        if l.isGlobal then leadingFlags? fuel (l.change f) (letters ++ l.added) after
        else some (f, letters, cs)
      | _ => some (f, letters, cs)
    | _ => some (f, letters, cs)

/-- Reads a whole pattern under the given flags. -/
def compile (source : String) (flags : Flags) : Except Error Compiled := do
  let text := source.toList
  let (f, letters, cs) ← readable (leadingFlags? text.length flags [] text)
  let (expr, r, rest) ← readAlternatives (6 * cs.length + 6) f {} cs
  let isWhole := rest.isEmpty && r.asked ≤ r.groups && !r.uneven
  if conflict letters then .error .conflictingFlags
  else if isWhole && !(letters.contains 't' && expr.hasRepetition) then
    return ⟨source, expr, r.groups, r.names⟩
  else .error .badPattern

end ReplEngine.Pattern
