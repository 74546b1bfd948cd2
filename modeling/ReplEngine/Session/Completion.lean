import ReplEngine.Json.Access
import ReplEngine.Cursor.Place

/-!
# Completions for a line editor

A worker completes the symbol before the cursor, and a line editor replaces the word
before the cursor.  The two may start at different places: `candidate` turns a completion
of the symbol into a replacement of the word.
-/

namespace ReplEngine

/-- The place that an offset stands for in a text of the given length; a negative one
counts from the end. -/
def placeIn (length : Nat) (offset : Int) : Nat :=
  if offset < 0 then (offset + length).toNat else min offset.toNat length

/-- The part of a text between two offsets. -/
def slice (cs : List Char) (start stop : Int) : List Char :=
  (cs.take (placeIn cs.length stop)).drop (placeIn cs.length start)

/-- The replacement of the word before the cursor by a completion of the symbol that
starts at `start`. -/
def candidate (line : List Char) (cursor : Int) (word : List Char) (start : Int)
    (completion : List Char) : List Char :=
  let wordStart := cursor - word.length
  if wordStart ≤ start then slice line wordStart start ++ completion
  else completion.drop (wordStart - start).toNat

/-- The candidates of a worker's answer, in order. -/
def candidates (line : String) (cursor : Int) (word : String) (body : Json) :
    Except Error (List String) := do
  let start ← match ← body.part "start" with
    | .int n => pure n
    | .bool b => pure (if b then 1 else 0)
    | j => throw (.notComparable j.typeName)
  let completions ← (← body.part "completions").walk
  completions.mapM fun
    | .str c => pure (String.ofList (candidate line.toList cursor word.toList start c.toList))
    | j => throw (.notJoinable j.typeName)

end ReplEngine
