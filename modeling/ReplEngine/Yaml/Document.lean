import ReplEngine.Settings
import ReplEngine.Yaml.Scalar
import ReplEngine.Yaml.Token

/-!
# Documents

Builds the value of a document from its tokens.  Of entries with equal keys the
last value counts, at the place of the first; a collection is no key.
-/

namespace ReplEngine.Yaml

/-- Sets an entry of a mapping. -/
def setEntry (entries : List (Value × Value)) (key value : Value) : List (Value × Value) :=
  match entries with
  | [] => [(key, value)]
  | (k, v) :: rest =>
    if k.same key then (k, value) :: rest else (k, v) :: setEntry rest key value

/-- Whether a value can be a key. -/
def isKey : Value → Bool
  | .list _ | .dict _ => false
  | _ => true

/-- Adds an entry whose key is allowed. -/
def addEntry? (entries : List (Value × Value)) (key value : Value) :
    Option (List (Value × Value)) :=
  if isKey key then some (setEntry entries key value) else none

/-- What an expected node may be. -/
inductive Style where
  /-- Inside a flow collection. -/
  | flow
  | block
  /-- Behind a key, where a sequence needs no indentation. -/
  | behindKey
deriving DecidableEq

mutual

/-- Reads a node. -/
def node? (fuel : Nat) (style : Style) (ts : List Token) : Option (Value × List Token) :=
  match fuel with
  | 0 => none
  | fuel + 1 =>
    match ts with
    | .scalar text plain :: rest => some (if plain then plainValue text else .str text, rest)
    | .flowSequenceStart :: rest => flowItems? fuel true [] rest
    | .flowMappingStart :: rest => flowEntries? fuel true [] rest
    | .blockSequenceStart :: rest => if style = .flow then none else blockItems? fuel false [] rest
    | .blockMappingStart :: rest => if style = .flow then none else blockEntries? fuel [] rest
    | .blockEntry :: _ => if style = .behindKey then blockItems? fuel true [] ts else none
    | _ => none

/-- Reads a node, or nothing if one of the tokens that end its place follows. -/
def nodeOrNone? (fuel : Nat) (style : Style) (ends : List Token) (ts : List Token) :
    Option (Value × List Token) :=
  match fuel with
  | 0 => none
  | fuel + 1 =>
    match ts with
    | [] => some (.none, [])
    | t :: _ => if ends.contains t then some (.none, ts) else node? fuel style ts

/-- Reads the entries of a block sequence.  One without indentation of its own
ends where no further entry follows. -/
def blockItems? (fuel : Nat) (indentless : Bool) (acc : List Value) (ts : List Token) :
    Option (Value × List Token) :=
  match fuel with
  | 0 => none
  | fuel + 1 =>
    match ts with
    | .blockEntry :: rest => do
      let ends : List Token :=
        if indentless then [.blockEntry, .key, .value, .blockEnd] else [.blockEntry, .blockEnd]
      let (item, rest) ← nodeOrNone? fuel .block ends rest
      blockItems? fuel indentless (item :: acc) rest
    | .blockEnd :: rest =>
      if indentless then some (.list acc.reverse, ts) else some (.list acc.reverse, rest)
    | _ => if indentless then some (.list acc.reverse, ts) else none

/-- Reads the entries of a block mapping. -/
def blockEntries? (fuel : Nat) (acc : List (Value × Value)) (ts : List Token) :
    Option (Value × List Token) :=
  match fuel with
  | 0 => none
  | fuel + 1 => do
    let ends : List Token := [.key, .value, .blockEnd]
    let valueOf (rest : List Token) : Option (Value × List Token) :=
      match rest with
      | .value :: rest => nodeOrNone? fuel .behindKey ends rest
      | rest => some (.none, rest)
    match ts with
    | .key :: rest =>
      let (key, rest) ← nodeOrNone? fuel .behindKey ends rest
      let (value, rest) ← valueOf rest
      blockEntries? fuel (← addEntry? acc key value) rest
    | .blockEnd :: rest => return (.dict acc, rest)
    | _ => none

/-- Reads the items of a flow sequence. -/
def flowItems? (fuel : Nat) (first : Bool) (acc : List Value) (ts : List Token) :
    Option (Value × List Token) :=
  match fuel with
  | 0 => none
  | fuel + 1 => do
    match ts with
    | .flowSequenceEnd :: rest => return (.list acc.reverse, rest)
    | _ =>
      let ts ← if first then some ts else match ts with
        | .flowEntry :: rest => some rest
        | _ => none
      match ts with
      | .flowSequenceEnd :: rest => return (.list acc.reverse, rest)
      | .key :: rest =>
        let (key, rest) ← nodeOrNone? fuel .flow [.value, .flowEntry, .flowSequenceEnd] rest
        let (value, rest) ← match rest with
          | .value :: rest => nodeOrNone? fuel .flow [.flowEntry, .flowSequenceEnd] rest
          | rest => some (.none, rest)
        flowItems? fuel false (.dict (← addEntry? [] key value) :: acc) rest
      | _ =>
        let (item, rest) ← node? fuel .flow ts
        flowItems? fuel false (item :: acc) rest

/-- Reads the entries of a flow mapping. -/
def flowEntries? (fuel : Nat) (first : Bool) (acc : List (Value × Value)) (ts : List Token) :
    Option (Value × List Token) :=
  match fuel with
  | 0 => none
  | fuel + 1 => do
    match ts with
    | .flowMappingEnd :: rest => return (.dict acc, rest)
    | _ =>
      let ts ← if first then some ts else match ts with
        | .flowEntry :: rest => some rest
        | _ => none
      match ts with
      | .flowMappingEnd :: rest => return (.dict acc, rest)
      | .key :: rest =>
        let (key, rest) ← nodeOrNone? fuel .flow [.value, .flowEntry, .flowMappingEnd] rest
        let (value, rest) ← match rest with
          | .value :: rest => nodeOrNone? fuel .flow [.flowEntry, .flowMappingEnd] rest
          | rest => some (.none, rest)
        flowEntries? fuel false (← addEntry? acc key value) rest
      | _ =>
        let (key, rest) ← node? fuel .flow ts
        flowEntries? fuel false (← addEntry? acc key .none) rest

end

/-- Reads a text as one document; `none` if it is malformed or holds several. -/
def read? (text : String) : Option Value := do
  let ts ← tokens? text.toList
  let ts := ts.dropWhile (· == .documentEnd)
  let ts := match ts with
    | .documentStart :: rest => rest
    | rest => rest
  let (value, rest) ←
    nodeOrNone? (4 * ts.length + 4) .block [.documentStart, .documentEnd] ts
  if (rest.dropWhile (· == .documentEnd)).isEmpty then return value else none

/-- Reads a text as one document. -/
def reader : Settings.DocumentReader := fun text =>
  match read? text with
  | some value => .ok value
  | none => .error .malformed

end ReplEngine.Yaml
