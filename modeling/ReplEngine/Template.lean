import ReplEngine.Pattern.Match
import ReplEngine.Text.Lines
import ReplEngine.Text.Quoted
import ReplEngine.Error

/-!
# Templates

Texts with tags in double braces that are filled in from named values.  A tag
can be replaced by a value, open or close a section, change the delimiters, or
be a comment.  Values are texts: a section is rendered once if its value is not
empty, an inverted section if it is.
-/

namespace ReplEngine.Template

open ReplEngine.Pattern (Expr Spot)

/-- A part of a parsed template. -/
inductive Node where
  | text (s : List Char)
  | value (key : List Char)
  | block (key : List Char) (inverted : Bool) (body : List Node)
deriving Inhabited

/-- The delimiters of tags. -/
structure Delimiters where
  opening : List Char := ['\x7b', '\x7b']
  closing : List Char := ['\x7d', '\x7d']

/-- A text taken literally, as a pattern. -/
def literalExpr (text : List Char) : Expr :=
  text.foldr (fun c e => .seq (.char c false) e) .empty

/-- Blanks, as many as possible. -/
def blanksExpr : Expr :=
  .rep (.set false [.category .space false] false false) 0 none .greedy

/-- Some characters, as few as possible; without `newlines` on one line. -/
def fewExpr (newlines : Bool) : Expr :=
  .rep (.any newlines) 1 none .lazy

/-- The parts of a tag that a match reports. -/
inductive Part where
  | indent
  | change
  | delimiters
  | rawMark
  | rawName
  | mark
  | key

/-- The number of a part's group. -/
def Part.index : Part → Nat
  | .indent => 1
  | .change => 2
  | .delimiters => 3
  | .rawMark => 4
  | .rawName => 5
  | .mark => 6
  | .key => 7

/-- A part of a tag as a group. -/
def Part.expr (p : Part) (body : Expr) : Expr :=
  .group p.index body

/-- One pattern after the other. -/
def sequenceExpr (parts : List Expr) : Expr :=
  parts.foldr .seq .empty

/-- The marks that say what a tag is. -/
def markExpr : Expr :=
  .rep (.set false ("!>&/#^".toList.map .char) false false) 0 (some 1) .greedy

/-- A tag between the given delimiters: a change of delimiters, a name in a
third pair of braces, or an optional mark and a key. -/
def tagExpr (d : Delimiters) : Expr :=
  let change := sequenceExpr
    [Part.change.expr (.char '=' false), blanksExpr, Part.delimiters.expr (fewExpr false),
      blanksExpr, .char '=' false]
  let raw := sequenceExpr
    [Part.rawMark.expr (.char '\x7b' false), blanksExpr, Part.rawName.expr (fewExpr false),
      blanksExpr, .char '\x7d' false]
  let plain := sequenceExpr [Part.mark.expr markExpr, blanksExpr, Part.key.expr (fewExpr true)]
  sequenceExpr
    [Part.indent.expr (.rep (.set false [.char ' ', .char '\t'] false false) 0 none .greedy),
      literalExpr d.opening, blanksExpr, .alt change (.alt raw plain), blanksExpr,
      literalExpr d.closing]

/-- What a tag asks for. -/
inductive Tag where
  | value (key : List Char)
  | comment
  | included
  | change (delimiters : List Char)
  | opens (key : List Char) (inverted : Bool)
  | closes (key : List Char)

/-- The tag of a match. -/
def Tag.ofSpot (s : Spot) : Tag :=
  let part (p : Part) : List Char := (s.group? p.index).getD []
  if (s.group? Part.change.index).isSome then .change (part .delimiters)
  else if (s.group? Part.rawMark.index).isSome then .value (part .rawName)
  else match part .mark with
  | ['!'] => .comment
  | ['>'] => .included
  | ['/'] => .closes (part .key)
  | ['#'] => .opens (part .key) false
  | ['^'] => .opens (part .key) true
  | _ => .value (part .key)

/-- Whether a tag is replaced by a value. -/
def Tag.isValue : Tag → Bool
  | .value _ => true
  | _ => false

/-- A section still open: its key and kind, and the parts before it, reversed. -/
structure Frame where
  key : List Char
  inverted : Bool
  before : List Node

/-- Whether a character ends a line. -/
def endsLine (c : Char) : Bool :=
  c == '\r' || c == '\n'

/-- The text behind the line end at its start. -/
def dropLineEnd : List Char → List Char
  | '\r' :: '\n' :: rest => rest
  | '\r' :: rest => rest
  | '\n' :: rest => rest
  | rest => rest

/-- Adds text to reversed parts, unless it is empty. -/
def addText (text : List Char) (nodes : List Node) : List Node :=
  if text.isEmpty then nodes else .text text :: nodes

/-- A tag found in a template: the text before it, the tag, and what follows. -/
structure Occurrence where
  passed : List Char
  tag : Tag
  before : List Char
  after : List Char

/-- The next tag at or behind a place.  A tag that is no value and stands alone
on its line takes the whole line. -/
def nextTag? (d : Delimiters) (before after : List Char) : Option Occurrence := do
  let (passed, s) ← Pattern.search? (tagExpr d) false before after
  let tag := Tag.ofSpot s
  let indent := (s.group? Part.indent.index).getD []
  let startsLine := match passed.reverse ++ before with
    | [] => true
    | c :: _ => endsLine c
  let stopsLine := match s.after with
    | [] => true
    | c :: _ => endsLine c
  if startsLine && stopsLine && !tag.isValue then
    let rest := dropLineEnd s.after
    let lineEnd := s.after.take (s.after.length - rest.length)
    return ⟨passed, tag, lineEnd.reverse ++ s.before, rest⟩
  else return ⟨passed ++ indent, tag, s.before, s.after⟩

/-- Parses a template from a place on.  `nodes` are the parts read so far,
reversed, and `frames` the open sections, innermost first.  Of a section that is
never closed only the inside is kept. -/
def parseFrom (fuel : Nat) (d : Delimiters) (frames : List Frame) (nodes : List Node)
    (before after : List Char) : Except Error (List Node) :=
  match fuel with
  | 0 => .ok (addText after nodes).reverse
  | fuel + 1 =>
    match nextTag? d before after with
    | none => .ok (addText after nodes).reverse
    | some o =>
      let nodes := addText o.passed nodes
      match o.tag with
      | .value key => parseFrom fuel d frames (.value key :: nodes) o.before o.after
      | .comment | .included => parseFrom fuel d frames nodes o.before o.after
      | .change delimiters =>
        match Text.words delimiters with
        | opening :: closing :: _ => parseFrom fuel ⟨opening, closing⟩ frames nodes o.before o.after
        | _ => .error .missingDelimiter
      | .opens key inverted =>
        parseFrom fuel d (⟨key, inverted, nodes⟩ :: frames) [] o.before o.after
      | .closes key =>
        match frames with
        | [] => .error .badTemplate
        | frame :: outer =>
          if key != frame.key then .error .badTemplate
          else
            let node := Node.block key frame.inverted nodes.reverse
            parseFrom fuel d outer (node :: frame.before) o.before o.after

/-- Parses a template. -/
def parse (template : List Char) : Except Error (List Node) :=
  parseFrom (template.length + 1) {} [] [] [] template

/-- What a template is filled from: the named values, and the values of the
sections around the current place, innermost first. -/
structure Scope where
  values : List (String × List Char)
  sections : List (List Char) := []

/-- All named values, as a table in text. -/
def Scope.tableText (s : Scope) : List Char :=
  let entry (v : String × List Char) : List Char :=
    Text.quoted v.1.toList ++ [':', ' '] ++ Text.quoted v.2
  '\x7b' :: Text.joinWith [',', ' '] (s.values.map entry) ++ ['\x7d']

/-- The value of a key: a dot is the value of the innermost section, or outside
sections the table of all values; an unknown key is empty. -/
def Scope.lookup (s : Scope) (key : List Char) : List Char :=
  if key == ['.'] then s.sections.headD s.tableText
  else ((s.values.find? fun v => v.1.toList == key).map (·.2)).getD []

mutual

/-- Renders one part. -/
def Node.render (s : Scope) : Node → List Char
  | .text t => t
  | .value key => s.lookup key
  | .block key inverted body =>
    let value := s.lookup key
    if inverted then
      if value.isEmpty then renderAll s body else []
    else if value.isEmpty then []
    else renderAll { s with sections := value :: s.sections } body

/-- Renders parts one after the other. -/
def renderAll (s : Scope) : List Node → List Char
  | [] => []
  | node :: rest => node.render s ++ renderAll s rest

end

/-- Renders a template with named values. -/
def render (template : List Char) (values : List (String × List Char)) :
    Except Error (List Char) := do
  return renderAll { values } (← parse template)

end ReplEngine.Template
