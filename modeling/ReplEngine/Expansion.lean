import ReplEngine.Pattern.Match
import ReplEngine.Pattern.Reader
import ReplEngine.Text.Lines
import ReplEngine.Text.Quoted
import ReplEngine.Json.Basic

/-!
# Expansion

Rules that change the source of a statement before it runs.  A rule pairs a pattern with
a replacer, which is called with each match: one that fills a template, or any other.  Two
rules are built in: `use` lines become imports, and `~@name` splices the items of a variable
into a line.  A set of rules is applied as one pass, each rule once and in order.
-/

namespace ReplEngine.Expansion

open ReplEngine.Pattern (Expr)

/-- A rule of expansion: a pattern, and what stands in the place of its matches.  Making
that may fail. -/
structure Rule where
  pattern : Pattern.Compiled
  replace : Pattern.Found → Except Error (List Char)

namespace Rule

/-- Replaces every match in a text. -/
def apply (r : Rule) (text : List Char) : Except Error (List Char) := do
  let (found, rest) := r.pattern.allMatches text
  let pieces ← found.mapM fun (passed, f) => do return passed ++ (← r.replace f)
  return pieces.flatten ++ rest

/-- The description of a rule. -/
def describe (r : Rule) : String :=
  "Macro(" ++ Text.quoteString r.pattern.source ++ ")"

end Rule

/-! ### Templates -/

/-- Fills a template with named values; a template may be wrong. -/
abbrev Renderer := List Char → List (String × List Char) → Except Error (List Char)

/-- The values a match offers to a template: its groups by number and by name; a
group without a match is empty. -/
def matchValues (p : Pattern.Compiled) (f : Pattern.Found) : List (String × List Char) :=
  let numbered := (List.range p.groups).map fun i =>
    (toString (i + 1), (f.group? (i + 1)).getD [])
  let named := p.names.map fun (name, i) => (name, (f.group? i).getD [])
  ("0", f.text) :: numbered ++ named

namespace Rule

/-- The rule of a pattern and a template. -/
def filling (render : Renderer) (p : Pattern.Compiled) (template : List Char) : Rule :=
  { pattern := p, replace := fun f => render template (matchValues p f) }

/-- The rule of a pattern and whatever is given as its template. -/
def ofJson (render : Renderer) (pattern : String) (template : Json) : Except Error Rule := do
  let p ← Pattern.compile pattern {}
  match template with
  | .str t => return filling render p t.toList
  | other => .error (.notATemplate other.typeName)

end Rule

/-! ### Imports -/

/-- A line that asks for an import under other names. -/
structure UseClause where
  indent : List Char
  path : List Char
  aliases : List (List Char)

/-- Blanks inside a line, at least so many. -/
def gapsExpr (least : Nat) : Expr :=
  .rep (.set false [.char ' ', .char '\t'] false false) least none .greedy

/-- A word: a letter or an underscore, and then characters of a class. -/
def wordExprs (items : List Pattern.SetItem) : List Expr :=
  [.set false [.range 'A' 'Z', .range 'a' 'z', .char '_'] false false,
    .rep (.set false items false false) 0 none .greedy]

/-- A name. -/
def nameExprs : List Expr :=
  wordExprs [.category .word false]

/-- A further name behind a comma. -/
def furtherNameExpr : Expr :=
  .seq .empty (.inOrder ([gapsExpr 0, .char ',' false, gapsExpr 0] ++ nameExprs))

/-- The part of a `use` line that gives new names. -/
def aliasesExpr : Expr :=
  .seq .empty (.inOrder [gapsExpr 1, .char 'a' false, .char 's' false, gapsExpr 1,
    .group 3 (.inOrder (nameExprs ++ [.rep furtherNameExpr 0 none .greedy]))])

/-- The pattern of `use` lines, in which `^` and `$` stand for the ends of lines. -/
def usePattern : Pattern.Compiled where
  source := "^(?P<indent>[ \\t]*)use[ \\t]+(?P<path>[A-Za-z_][\\w.]*)" ++
    "(?:[ \\t]+as[ \\t]+(?P<aliases>[A-Za-z_]\\w*(?:[ \\t]*,[ \\t]*[A-Za-z_]\\w*)*))?" ++
    "[ \\t]*;?[ \\t]*$"
  expr := .inOrder [.anchor .lineStart false, .group 1 (.inOrder [gapsExpr 0]),
    .char 'u' false, .char 's' false, .char 'e' false, gapsExpr 1,
    .group 2 (.inOrder (wordExprs [.category .word false, .char '.'])),
    .rep aliasesExpr 0 (some 1) .greedy,
    gapsExpr 0, .rep (.char ';' false) 0 (some 1) .greedy, gapsExpr 0, .anchor .lineEnd false]
  groups := 3
  names := [("indent", 1), ("path", 2), ("aliases", 3)]

namespace UseClause

/-- The clause that a match of a `use` line spells. -/
def ofFound (f : Pattern.Found) : UseClause where
  indent := (f.group? 1).getD []
  path := (f.group? 2).getD []
  aliases := match f.group? 3 with
    | none | some [] => []
    | some text => (Text.splitAtChar ',' text).map Text.trim

/-- The import of one name. -/
def importLine (u : UseClause) (name : Option (List Char)) : List Char :=
  let source := match Text.cutAtLast? '.' u.path with
    | some (module, item) =>
      if module.isEmpty then "import ".toList ++ u.path
      else "from ".toList ++ module ++ " import ".toList ++ item
    | none => "import ".toList ++ u.path
  match name with
  | none => source
  | some newName => source ++ " as ".toList ++ newName

/-- The imports of a `use` line, one per new name. -/
def render (u : UseClause) : List Char :=
  u.indent ++ match u.aliases with
    | [] => u.importLine none
    | aliases => Text.joinWith [';', ' '] (aliases.map fun a => u.importLine (some a))

end UseClause

/-- The rule that makes imports of `use` lines. -/
def Rule.use : Rule where
  pattern := usePattern
  replace := fun f => .ok (UseClause.ofFound f).render

/-! ### Splices -/

/-- The mark of a value that is source to be run in a further pass. -/
def deferredMark : List Char :=
  "return ".toList

/-- The rest of a deferred value; `none` if the value is not deferred. -/
def deferred? (value : String) : Option String :=
  if deferredMark.isPrefixOf value.toList
    then some (String.ofList (value.toList.drop deferredMark.length)) else none

/-- The pattern of a line with a splice, in which `^` and `$` stand for the ends of lines. -/
def splicePattern : Pattern.Compiled where
  source := "^(?P<before>.*?)~@(?P<var>[A-Za-z_]\\w*)(?P<after>.*)$"
  expr := .inOrder [.anchor .lineStart false,
    .group 1 (.inOrder [.rep (.any false) 0 none .lazy]), .char '~' false, .char '@' false,
    .group 2 (.inOrder nameExprs), .group 3 (.inOrder [.rep (.any false) 0 none .greedy]),
    .anchor .lineEnd false]
  groups := 3
  names := [("before", 1), ("var", 2), ("after", 3)]

/-- The line with a splice as an expression for its own source, with the items of the
variable in place of the splice. -/
def spliced (before name after : List Char) : List Char :=
  Text.quoted (deferredMark ++ before) ++ " + ', '.join(map(str, ".toList ++ name
    ++ ")) + ".toList ++ Text.quoted after

/-- The rule that expands the first splice of each line. -/
def Rule.splice : Rule where
  pattern := splicePattern
  replace := fun f => .ok (spliced ((f.group? 1).getD []) ((f.group? 2).getD [])
    ((f.group? 3).getD []))

/-! ### Sets of rules -/

/-- The rules that are always there. -/
def builtIn : List Rule :=
  [.use, .splice]

/-- Applies rules one after the other. -/
def expand (rules : List Rule) (text : List Char) : Except Error (List Char) :=
  rules.foldlM (fun text rule => rule.apply text) text

/-- The text after each rule. -/
def expandSteps (rules : List Rule) (text : List Char) : Except Error (List (List Char)) :=
  match rules with
  | [] => .ok []
  | rule :: rest => do
    let next ← rule.apply text
    return next :: (← expandSteps rest next)

end ReplEngine.Expansion
