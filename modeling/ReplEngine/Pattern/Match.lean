import ReplEngine.Pattern.Basic

/-!
# Matching

Backtracking search: the first alternative that leads to a match of everything
that follows wins.  `Expr.run` takes what follows as a function, so that trying
the next possibility is trying the next argument.
-/

namespace ReplEngine.Pattern

/-- A place in a text during a match: the text before it, reversed, the text
behind it, and what the groups have matched so far, latest first. -/
structure Spot where
  before : List Char
  after : List Char
  groups : List (Nat × List Char) := []

namespace Spot

/-- The text a group has matched. -/
def group? (s : Spot) (index : Nat) : Option (List Char) :=
  (s.groups.find? fun g => g.1 == index).map (·.2)

/-- The spot one character further, if that character satisfies `p`. -/
def advance? (p : Char → Bool) (s : Spot) : Option Spot :=
  match s.after with
  | [] => none
  | c :: rest => if p c then some { s with before := c :: s.before, after := rest } else none

/-- The spot behind a given text, if that text follows. -/
def advanceOver? (same : Char → Char → Bool) (text : List Char) (s : Spot) : Option Spot :=
  match text with
  | [] => some s
  | c :: rest => (s.advance? (same c)).bind (advanceOver? same rest)

/-- The spot `n` characters back. -/
def back? : Nat → Spot → Option Spot
  | 0, s => some s
  | n + 1, s =>
    match s.before with
    | [] => none
    | c :: rest => back? n { s with before := rest, after := c :: s.after }

/-- The text between an earlier spot and this one. -/
def since (s : Spot) (start : Spot) : List Char :=
  (s.before.take (s.before.length - start.before.length)).reverse

/-- Whether an anchor holds at a spot. -/
def isAt (s : Spot) (ascii : Bool) : Anchor → Bool
  | .textStart => s.before.isEmpty
  | .lineStart => s.before.isEmpty || s.before.head? == some '\n'
  | .textEnd => s.after.isEmpty
  | .finalLineEnd => s.after.isEmpty || s.after == ['\n']
  | .lineEnd => s.after.isEmpty || s.after.head? == some '\n'
  | .wordEdge negated =>
    let isWord (c? : Option Char) : Bool := c?.any (Category.holds ascii .word)
    let isEmpty := s.before.isEmpty && s.after.isEmpty
    !isEmpty && (isWord s.before.head? != isWord s.after.head?) != negated

end Spot

/-- What is tried behind a partial match. -/
abbrev Next := Spot → Option Spot

/-- The rounds of a repetition.  `body` matches one round, `count` rounds are
done, `last` is how much text followed when the latest optional round began: a
round that matched nothing is not repeated.  `fuel` bounds the rounds. -/
def rounds (body : Spot → Next → Option Spot) (least : Nat) (most : Option Nat) (lazy : Bool)
    (next : Next) : (fuel count : Nat) → (last : Option Nat) → Spot → Option Spot
  | 0, _, _, s => next s
  | fuel + 1, count, last, s =>
    if count < least then
      body s (rounds body least most lazy next fuel (count + 1) last)
    else
      let mayRepeat := most.all (count < ·) && last != some s.after.length
      let again : Unit → Option Spot := fun _ =>
        if mayRepeat then
          body s (rounds body least most lazy next fuel (count + 1) (some s.after.length))
        else none
      if lazy then (next s).or (again ())
      else match again () with
        | some result => some result
        | none => next s

/-- Matches a pattern at a spot and goes on with `next`. -/
def Expr.run : Expr → Spot → Next → Option Spot
  | .empty, s, next => next s
  | .char c fold, s, next =>
    (s.advance? fun d => if fold then sameLetter c d else c == d).bind next
  | .any newlines, s, next => (s.advance? fun c => newlines || c != '\n').bind next
  | .set negated items fold ascii, s, next =>
    (s.advance? (inSet negated items fold ascii)).bind next
  | .seq a b, s, next => a.run s fun t => b.run t next
  | .alt a b, s, next =>
    match a.run s next with
    | some result => some result
    | none => b.run s next
  | .rep body least most greed, s, next =>
    let fuel := least + s.after.length + 2
    match greed with
    | .greedy => rounds body.run least most false next fuel 0 none s
    | .lazy => rounds body.run least most true next fuel 0 none s
    | .possessive =>
      -- no round is tried again either
      let once : Spot → Next → Option Spot := fun s next => (body.run s some).bind next
      (rounds once least most false some fuel 0 none s).bind next
  | .group index body, s, next =>
    body.run s fun t => next { t with groups := (index, t.since s) :: t.groups }
  | .anchor a ascii, s, next => if s.isAt ascii a then next s else none
  | .backref index fold, s, next =>
    match s.group? index with
    | none => none
    | some text =>
      (s.advanceOver? (fun c d => if fold then sameLetter c d else c == d) text).bind next
  | .lookAhead negated body, s, next =>
    match body.run s some, negated with
    | some t, false => next { s with groups := t.groups }
    | none, true => next s
    | _, _ => none
  | .lookBehind negated width body, s, next =>
    match (s.back? width).bind fun start => body.run start some, negated with
    | some t, false => next { s with groups := t.groups }
    | none, true => next s
    | _, _ => none
  | .atomic body, s, next => (body.run s some).bind next
  | .given index met unmet, s, next =>
    if (s.group? index).isSome then met.run s next else unmet.run s next

/-- A match: what it covers and what its groups matched. -/
structure Found where
  text : List Char
  groups : List (Nat × List Char)

/-- The text a group of a match covers. -/
def Found.group? (f : Found) (index : Nat) : Option (List Char) :=
  (f.groups.find? fun g => g.1 == index).map (·.2)

/-- The match at a spot.  With `nonEmpty` a match of nothing does not count. -/
def matchAt? (e : Expr) (nonEmpty : Bool) (before after : List Char) : Option Spot :=
  e.run { before, after } fun s =>
    if nonEmpty && s.after.length == after.length then none else some s

/-- The first match at or behind a spot, with the text passed before it.  Only at
the first spot may `nonEmpty` exclude a match of nothing. -/
def search? (e : Expr) (nonEmpty : Bool) (before : List Char) :
    List Char → Option (List Char × Spot)
  | [] => (matchAt? e nonEmpty before []).map fun s => ([], s)
  | c :: rest =>
    match matchAt? e nonEmpty before (c :: rest) with
    | some s => some ([], s)
    | none => (search? e false (c :: before) rest).map fun (passed, s) => (c :: passed, s)

/-- Whether a pattern matches somewhere in a text. -/
def Compiled.occursIn (p : Compiled) (text : List Char) : Bool :=
  (search? p.expr false [] text).isSome

/-- The matches of a pattern, each with the text passed before it, and the text
behind the last one.  Behind a match of nothing the next one has to be longer if
it starts at the same place.  `fuel` bounds the number of matches. -/
def matchesFrom (e : Expr) : (fuel : Nat) → (nonEmpty : Bool) → (before after : List Char) →
    List (List Char × Found) × List Char
  | 0, _, _, after => ([], after)
  | fuel + 1, nonEmpty, before, after =>
    match search? e nonEmpty before after with
    | none => ([], after)
    | some (passed, s) =>
      let covered := (s.before.take (s.before.length - before.length - passed.length)).reverse
      let (more, rest) := matchesFrom e fuel covered.isEmpty s.before s.after
      ((passed, ⟨covered, s.groups⟩) :: more, rest)

/-- All matches of a pattern in a text, and the text behind the last one. -/
def Compiled.allMatches (p : Compiled) (text : List Char) : List (List Char × Found) × List Char :=
  matchesFrom p.expr (2 * text.length + 2) false [] text

end ReplEngine.Pattern
