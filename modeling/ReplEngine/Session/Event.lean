import ReplEngine.Wire.Message
import ReplEngine.Text.Lines

/-!
# Events of a session

What the user of a session does, and what a session does in return.
-/

namespace ReplEngine

/-- What comes from the user while a line is read. -/
inductive Input where
  /-- A line. -/
  | line (text : String)
  /-- The wish to drop what was typed before, and then a line or the end. -/
  | cleared (text : Option String)
  /-- The wish to complete the word that ends at the cursor of a line. -/
  | complete (line : String) (cursor : Int) (word : String)
  | endOfInput

/-- What a session does. -/
inductive Event where
  /-- It asks for a line. -/
  | prompt (text : String)
  /-- It prints a line that is read, after the prompt. -/
  | echo (text : String)
  /-- It offers completions. -/
  | completions (texts : List String)
  /-- It has read a line, or the end of the input. -/
  | read (line : Option String)
  /-- It remembers a line. -/
  | history (line : String)
  /-- It sends a request to the worker. -/
  | request (method : String) (body : Json)
  | out (text : String)
  | err (text : String)
  /-- It stores the lines that it remembers. -/
  | saved

namespace Event

/-- The lines that are remembered. -/
def remembered (events : List Event) : List String :=
  events.filterMap fun
    | .history line => some line
    | _ => none

/-- An event in front of others, joined with the first of them if both print to the same
stream. -/
def joinText : Event → List Event → List Event
  | .echo s, .out t :: rest | .out s, .out t :: rest => .out (s ++ t) :: rest
  | .err s, .err t :: rest => .err (s ++ t) :: rest
  | .echo s, rest => .out s :: rest
  | e, rest => e :: rest

/-- Events with adjacent texts of one stream joined. -/
def joinTexts (events : List Event) : List Event :=
  events.foldr joinText []

end Event

/-- The lines of a stream as input. -/
def Input.ofStream (text : String) : List Input :=
  let pieces := Text.splitAtNewlines text.toList
  let lines := if pieces.getLast? == some [] then pieces.dropLast else pieces
  lines.map fun l => .line (String.ofList l)

end ReplEngine
