import ReplEngine.Language.Token
import ReplEngine.Language.Tree

/-!
# Reading source

Tokens become statements by one token of lookahead.  The fault of source that cannot be
read is decided where reading stops: a line of unexpected depth is a fault of
indentation, and so is a missing block; everything else is a fault of syntax.
-/

namespace ReplEngine.Language

/-- The words that are no names. -/
def reservedWords : List String :=
  ["False", "None", "True", "and", "as", "assert", "async", "await", "break", "class",
   "continue", "def", "del", "elif", "else", "except", "finally", "for", "from", "global", "if",
   "import", "in", "is", "lambda", "nonlocal", "not", "or", "pass", "raise", "return", "try",
   "while", "with", "yield"]

/-- The fault of source in which nothing can go on with the given tokens. -/
def faultAt : List Token → Fault
  | .bad f :: _ => f
  | .indent :: _ | .dedent :: _ => .indentation
  | _ => .syntaxError

/-- The fault of source in which the given tokens should have been a block.  A later
fault of syntax inside a token comes first. -/
def blockFault (ts : List Token) : Fault :=
  match ts, ts.getLast? with
  | .bad f :: _, _ => f
  | .unclosed :: _, _ => .syntaxError
  | _, some (.bad .syntaxError) => .syntaxError
  | _, _ => .indentation

/-- Reading takes tokens from the front and can fail. -/
abbrev Reading := StateT (List Token) (Except Fault)

namespace Reading

/-- Nothing can be read here. -/
def fail {α : Type} : Reading α := fun ts => .error (faultAt ts)

/-- The next token. -/
def peek : Reading (Option Token) := fun ts => .ok (ts.head?, ts)

/-- Drops the next token. -/
def advance : Reading Unit := fun ts => .ok ((), ts.tail)

/-- Takes a mark if it comes next. -/
def acceptMark (m : String) : Reading Bool := fun ts =>
  match ts with
  | .mark n :: rest => .ok (if n == m then (true, rest) else (false, ts))
  | _ => .ok (false, ts)

/-- Takes a word if it comes next. -/
def acceptWord (w : String) : Reading Bool := fun ts =>
  match ts with
  | .name n :: rest => .ok (if n == w then (true, rest) else (false, ts))
  | _ => .ok (false, ts)

/-- Takes a mark that has to come next. -/
def expectMark (m : String) : Reading Unit := do
  if !(← acceptMark m) then fail

/-- Takes a word that has to come next. -/
def expectWord (w : String) : Reading Unit := do
  if !(← acceptWord w) then fail

/-- Takes a name that has to come next. -/
def expectName : Reading String := do
  match ← peek with
  | some (.name n) => if reservedWords.contains n then fail else advance *> pure n
  | _ => fail

/-- How many tokens are left, which bounds what can be repeated. -/
def left : Reading Nat := fun ts => .ok (ts.length, ts)

/-- Whether an expression can start with a token. -/
def startsExpression : Token → Bool
  | .name n => !reservedWords.contains n || ["None", "True", "False", "not"].contains n
  | .int _ | .float _ | .text _ => true
  | .mark m => ["(", "[", "\x7b", "-", "+", "..."].contains m
  | _ => false

/-- Whether an expression can start here. -/
def atExpression : Reading Bool := do
  return ((← peek).map startsExpression).getD false

/-- Items separated by commas after a first one; a trailing comma is allowed.  The
answer says whether there was a comma.  `limit` bounds their number. -/
def moreItems {α : Type} (item : Reading α) (limit : Nat) (comma : Bool) (got : List α) :
    Reading (List α × Bool) := do
  match limit with
  | 0 => fail
  | limit + 1 =>
    if ← acceptMark "," then
      if ← atExpression then moreItems item limit true (got ++ [← item])
      else return (got, true)
    else return (got, comma)

/-- One or more items separated by commas. -/
def commaList {α : Type} (item : Reading α) : Reading (List α × Bool) := do
  moreItems item ((← left) + 1) false [← item]

/-- Operands joined by operators of one level, from the left. -/
def chain (table : List (String × Operator)) (operand : Reading Expr) (limit : Nat)
    (first : Expr) : Reading Expr := do
  match limit with
  | 0 => fail
  | limit + 1 =>
    match ← peek with
    | some (.mark m) =>
      match table.find? fun e => e.1 == m with
      | some (_, op) =>
        advance
        chain table operand limit (.binary op first (← operand))
      | none => return first
    | _ => return first

/-- The operators of sums. -/
def sumOperators : List (String × Operator) :=
  [("+", .add), ("-", .subtract)]

/-- The operators of products. -/
def productOperators : List (String × Operator) :=
  [("*", .multiply), ("/", .divide), ("//", .floorDivide), ("%", .modulo)]

/-- The comparisons that are marks. -/
def comparisonMarks : List (String × Comparison) :=
  [("==", .equal), ("!=", .unequal), ("<", .less), ("<=", .lessOrEqual), (">", .greater),
   (">=", .greaterOrEqual)]

/-- Takes a comparison if one comes next. -/
def acceptComparison : Reading (Option Comparison) := do
  match ← peek with
  | some (.mark m) =>
    match comparisonMarks.find? fun e => e.1 == m with
    | some (_, c) => advance *> pure (some c)
    | none => return none
  | some (.name "in") => advance *> pure (some .within)
  | some (.name "is") => do
    advance
    return some (if ← acceptWord "not" then .notSame else .same)
  | some (.name "not") => do
    advance
    expectWord "in"
    return some .notWithin
  | _ => return none

/-- The comparisons behind a first operand. -/
def comparisons (operand : Reading Expr) (limit : Nat) (got : List (Comparison × Expr)) :
    Reading (List (Comparison × Expr)) := do
  match limit with
  | 0 => fail
  | limit + 1 =>
    match ← acceptComparison with
    | some c => comparisons operand limit (got ++ [(c, ← operand)])
    | none => return got

/-- An expression of operands joined by a word, grouped to the right. -/
def joined (word : String) (build : Expr → Expr → Expr) (operand : Reading Expr) (limit : Nat) :
    Reading Expr := do
  match limit with
  | 0 => fail
  | limit + 1 =>
    let first ← operand
    if ← acceptWord word then return build first (← joined word build operand limit)
    else return first

/-- The entries of a mapping behind its first one. -/
def entries (whole : Reading Expr) (limit : Nat) (got : List (Expr × Expr)) :
    Reading (List (Expr × Expr)) := do
  match limit with
  | 0 => fail
  | limit + 1 =>
    if ← acceptMark "," then
      if ← atExpression then
        let key ← whole
        expectMark ":"
        entries whole limit (got ++ [(key, ← whole)])
      else return got
    else return got

/-- The text of quoted texts that follow one another. -/
def texts (limit : Nat) (got : String) : Reading String := do
  match limit with
  | 0 => fail
  | limit + 1 =>
    match ← peek with
    | some (.text s) => advance *> texts limit (got ++ s)
    | _ => return got

/-- An expression without operators; `whole` reads the expressions in brackets. -/
def atom (whole : Reading Expr) : Reading Expr := do
  match ← peek with
  | some (.int n) => advance *> pure (.int n)
  | some (.float x) => advance *> pure (.float x)
  | some (.text _) => return .text (← texts ((← left) + 1) "")
  | some (.name "None") => advance *> pure .none
  | some (.name "True") => advance *> pure (.bool true)
  | some (.name "False") => advance *> pure (.bool false)
  | some (.name _) => return .name (← expectName)
  | some (.mark "...") => advance *> pure .ellipsis
  | some (.mark "(") => do
    advance
    if ← acceptMark ")" then return .tuple []
    let (items, comma) ← commaList whole
    expectMark ")"
    match items, comma with
    | [e], false => return e
    | items, _ => return .tuple items
  | some (.mark "[") => do
    advance
    if ← acceptMark "]" then return .list []
    let (items, _) ← commaList whole
    expectMark "]"
    return .list items
  | some (.mark "\x7b") => do
    advance
    if ← acceptMark "\x7d" then return .dict []
    let first ← whole
    if ← acceptMark ":" then
      let value ← whole
      let all ← entries whole ((← left) + 1) [(first, value)]
      expectMark "\x7d"
      return .dict all
    let (items, _) ← moreItems whole ((← left) + 1) false [first]
    expectMark "\x7d"
    return .set items
  | _ => fail

/-- An argument of a call, with its name if it has one. -/
def argument (whole : Reading Expr) : Reading (Option String × Expr) := fun ts =>
  match ts with
  | .name n :: .mark "=" :: rest =>
    if reservedWords.contains n then fail ts
    else (do return (some n, ← whole) : Reading (Option String × Expr)) rest
  | _ => (do return (none, ← whole) : Reading (Option String × Expr)) ts

/-- Whether arguments with a name stand behind those without. -/
def isOrdered : List (Option String × Expr) → Bool
  | [] => true
  | (some _, _) :: rest => rest.all fun a => a.1.isSome
  | (none, _) :: rest => isOrdered rest

/-- The calls, indices and members behind an expression. -/
def trailers (whole : Reading Expr) (limit : Nat) (e : Expr) : Reading Expr := do
  match limit with
  | 0 => fail
  | limit + 1 =>
    match ← peek with
    | some (.mark ".") => do
      advance
      trailers whole limit (.member e (← expectName))
    | some (.mark "[") => do
      advance
      let (items, comma) ← commaList whole
      expectMark "]"
      match items, comma with
      | [i], false => trailers whole limit (.item e i)
      | items, _ => trailers whole limit (.item e (.tuple items))
    | some (.mark "(") => do
      advance
      if ← acceptMark ")" then trailers whole limit (.call e [] [])
      else
        let (args, _) ← commaList (argument whole)
        if !isOrdered args then fail
        expectMark ")"
        let plain := args.filterMap fun a => if a.1.isNone then some a.2 else none
        let named := args.filterMap fun a => a.1.map fun n => (n, a.2)
        trailers whole limit (.call e plain named)
    | _ => return e

/-- The signs before an operand. -/
def signed (operand : Reading Expr) (limit : Nat) : Reading Expr := do
  match limit with
  | 0 => fail
  | limit + 1 =>
    if ← acceptMark "-" then return .negate (← signed operand limit)
    else if ← acceptMark "+" then return .keep (← signed operand limit)
    else operand

/-- The negations before an operand. -/
def negated (operand : Reading Expr) (limit : Nat) : Reading Expr := do
  match limit with
  | 0 => fail
  | limit + 1 =>
    if ← acceptWord "not" then return .not (← negated operand limit) else operand

/-- An expression, level by level; `whole` reads the expressions in brackets. -/
def levels (whole : Reading Expr) : Reading Expr := do
  let limit := (← left) + 1
  let primary : Reading Expr := do trailers whole limit (← atom whole)
  let unary := signed primary limit
  let product : Reading Expr := do chain productOperators unary limit (← unary)
  let sum : Reading Expr := do chain sumOperators product limit (← product)
  let comparison : Reading Expr := do
    let first ← sum
    match ← comparisons sum limit [] with
    | [] => return first
    | rest => return .compare first rest
  let conjunction := joined "and" .both (negated comparison limit) limit
  let disjunction := joined "or" .either conjunction limit
  let value ← disjunction
  if ← acceptWord "if" then
    let test ← disjunction
    expectWord "else"
    return .choose value test (← whole)
  else return value

/-- An expression; `fuel` bounds how deep brackets nest. -/
def expression : Nat → Reading Expr
  | 0 => fail
  | fuel + 1 => levels (expression fuel)

/-- An expression, or several that are a tuple without parentheses. -/
def expressions (fuel : Nat) : Reading Expr := do
  match ← commaList (expression fuel) with
  | ([e], false) => return e
  | (items, _) => return .tuple items

/-- The operators that update a name. -/
def updateOperators : List (String × Operator) :=
  [("+=", .add), ("-=", .subtract), ("*=", .multiply), ("/=", .divide), ("//=", .floorDivide),
   ("%=", .modulo)]

/-- The sides of an assignment behind its first one. -/
def sides (fuel limit : Nat) (got : List Expr) : Reading (List Expr) := do
  match limit with
  | 0 => fail
  | limit + 1 =>
    if ← acceptMark "=" then sides fuel limit (got ++ [← expressions fuel]) else return got

/-- The name that an expression is. -/
def targetName : Expr → Reading String
  | .name n => pure n
  | _ => fail

/-- A statement that starts with an expression. -/
def expressionStatement (fuel : Nat) : Reading Stmt := do
  let first ← expressions fuel
  match ← peek with
  | some (.mark "=") =>
    let all ← sides fuel ((← left) + 1) [first]
    return .assign (← all.dropLast.mapM targetName) (all.getLast?.getD first)
  | some (.mark m) =>
    match updateOperators.find? fun e => e.1 == m with
    | some (_, op) =>
      let target ← targetName first
      advance
      return .update target op (← expressions fuel)
    | none => return .expr first
  | _ => return .expr first

/-- Names joined by dots. -/
def dottedName (limit : Nat) : Reading String := do
  match limit with
  | 0 => fail
  | limit + 1 =>
    let name ← expectName
    if ← acceptMark "." then return name ++ "." ++ (← dottedName limit) else return name

/-- The name that something is imported under, if one is given. -/
def newName? : Reading (Option String) := do
  if ← acceptWord "as" then some <$> expectName else return none

/-- The part of a dotted name before its first dot. -/
def firstPart (path : String) : String :=
  String.ofList (path.toList.takeWhile (· != '.'))

/-- The import of a module. -/
def moduleImport : Reading Import := do
  let path ← dottedName ((← left) + 1)
  return { module := path, target := (← newName?).getD (firstPart path) }

/-- The import of a name from a module. -/
def itemImport (path : String) : Reading Import := do
  let name ← expectName
  return { module := path, item := some name, target := (← newName?).getD name }

/-- Items separated by commas, without a trailing one. -/
def strictList {α : Type} (item : Reading α) (limit : Nat) : Reading (List α) := do
  match limit with
  | 0 => fail
  | limit + 1 =>
    let first ← item
    if ← acceptMark "," then return first :: (← strictList item limit) else return [first]

/-- A statement on one line. -/
def simpleStatement (fuel : Nat) : Reading Stmt := do
  let limit := (← left) + 1
  if ← acceptWord "pass" then return .pass
  else if ← acceptWord "break" then return .leave
  else if ← acceptWord "continue" then return .next
  else if ← acceptWord "del" then
    let (names, _) ← commaList expectName
    return .delete names
  else if ← acceptWord "raise" then
    if ← atExpression then return .raise (some (← expression fuel)) else return .raise none
  else if ← acceptWord "return" then
    if ← atExpression then return .returns (some (← expressions fuel)) else return .returns none
  else if ← acceptWord "import" then return .imports (← strictList moduleImport limit)
  else if ← acceptWord "from" then
    let path ← dottedName limit
    expectWord "import"
    return .imports (← strictList (itemImport path) limit)
  else if ← acceptWord "global" then return .shared (← strictList expectName limit)
  else expressionStatement fuel

/-- The statements of one line. -/
def line (fuel limit : Nat) : Reading (List Stmt) := do
  match limit with
  | 0 => fail
  | limit + 1 =>
    let first ← simpleStatement fuel
    let closed ← acceptMark ";"
    match ← peek with
    | some .newline => advance *> pure [first]
    | _ => if closed then return first :: (← line fuel limit) else fail

/-- A parameter, with its default if it has one. -/
def param (fuel : Nat) : Reading (String × Option Expr) := do
  let name ← expectName
  if ← acceptMark "=" then return (name, some (← expression fuel)) else return (name, none)

/-- Whether parameters with a default stand behind those without. -/
def areOrdered : List (String × Option Expr) → Bool
  | [] => true
  | (_, some _) :: rest => rest.all fun p => p.2.isSome
  | (_, none) :: rest => areOrdered rest

/-- The parameters of a function in their parentheses. -/
def params (fuel : Nat) : Reading (List (String × Option Expr)) := do
  expectMark "("
  if ← acceptMark ")" then return []
  let (all, _) ← commaList (param fuel)
  if !areOrdered all then fail
  expectMark ")"
  return all

/-- The class that a class is derived from, in parentheses, if there is one. -/
def baseClass (fuel : Nat) : Reading (Option Expr) := do
  if ← acceptMark "(" then
    if ← acceptMark ")" then return none
    let base ← expression fuel
    expectMark ")"
    return some base
  else return none

/-- Statements up to the end of their block; `statement` reads one or a line of them. -/
def untilDedent (statement : Reading (List Stmt)) (limit : Nat) (got : List Stmt) :
    Reading (List Stmt) := do
  match limit with
  | 0 => fail
  | limit + 1 =>
    match ← peek with
    | some .dedent => advance *> pure got
    | _ => untilDedent statement limit (got ++ (← statement))

/-- The statements behind a colon: the rest of the line, or a block. -/
def block (fuel : Nat) (statement : Reading (List Stmt)) : Reading (List Stmt) := do
  expectMark ":"
  let limit := (← left) + 1
  match ← peek with
  | some .newline => do
    advance
    match ← peek with
    | some .indent => advance *> untilDedent statement limit []
    | _ => fun ts => .error (blockFault ts)
  | _ => line fuel limit

/-- What follows the block of a condition: further conditions, or what is done when none
of them holds. -/
def otherwise (fuel : Nat) (body : Reading (List Stmt)) (limit : Nat) : Reading (List Stmt) := do
  match limit with
  | 0 => fail
  | limit + 1 =>
    if ← acceptWord "elif" then
      let test ← expression fuel
      let yes ← body
      return [.choose test yes (← otherwise fuel body limit)]
    else if ← acceptWord "else" then body
    else return []

/-- A statement with blocks, or the statements of a line. -/
def statement (fuel : Nat) : Nat → Reading (List Stmt)
  | 0 => fail
  | depth + 1 => do
    let body := block fuel (statement fuel depth)
    if ← acceptWord "if" then
      let test ← expression fuel
      let yes ← body
      return [.choose test yes (← otherwise fuel body fuel)]
    else if ← acceptWord "while" then
      let test ← expression fuel
      return [.repeatWhile test (← body)]
    else if ← acceptWord "for" then
      let target ← expectName
      expectWord "in"
      let items ← expressions fuel
      return [.forEach target items (← body)]
    else if ← acceptWord "def" then
      let name ← expectName
      let params ← params fuel
      return [.define name params (← body)]
    else if ← acceptWord "class" then
      let name ← expectName
      let base ← baseClass fuel
      return [.defineClass name base (← body)]
    else line fuel fuel

/-- Statements up to the end of the source. -/
def program (fuel : Nat) (limit : Nat) (got : List Stmt) : Reading (List Stmt) := do
  match limit with
  | 0 => fail
  | limit + 1 =>
    match ← peek with
    | none => return got
    | some _ => program fuel limit (got ++ (← statement fuel fuel))

end Reading

/-- The statements of source; the whole of it is checked before any of it runs.  Source with a
null character is no source at all. -/
def read (source : String) : Except Fault (List Stmt) := do
  if source.toList.contains '\x00' then throw .wrongValue
  let ts := tokens source
  let fuel := ts.length + 1
  let (statements, _) ← Reading.program fuel fuel [] ts
  if arePlaced false false statements then return statements else throw .syntaxError

end ReplEngine.Language
