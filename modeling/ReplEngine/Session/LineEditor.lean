import ReplEngine.Settings

/-!
# Line editing

The terminal reads lines, remembers them and asks for completions.  A line editor is what
stands between it and a session: it decides which calls the terminal gets, and keeps the
completions of a word while the terminal asks for them one by one.
-/

namespace ReplEngine

/-- A call to the terminal. -/
inductive TerminalCall where
  | setHistoryLength (length : Int)
  | readHistory (path : String)
  | writeHistory (path : String)
  | readLine (prompt : String)
  /-- The characters that end a word. -/
  | setDelimiters (characters : String)
  | installCompleter
  | bindKey (binding : String)
  | askLine
  | askCursor
  /-- The question for completions, which goes to the session. -/
  | complete (line : String) (cursor : Int) (word : String)
deriving Repr, DecidableEq

/-- What the editor finds when it uses the history file. -/
structure HistoryAccess where
  isPresent : Bool := false
  /-- Why the file cannot be read. -/
  readFault : Option String := none
  /-- Why the file cannot be written. -/
  writeFault : Option String := none

/-- A line editor. -/
structure LineEditor where
  historyFile : Option String
  /-- The completions of the last word. -/
  found : List String := []

/-- What a line editor does in one step. -/
structure Edited (α : Type) where
  editor : LineEditor
  calls : List TerminalCall := []
  warnings : List String := []
  result : α

namespace LineEditor

/-- How many lines are remembered. -/
def historyLength : Int := 1000

/-- The characters that end a word.  The dot is none of them, so that the name of a member
is completed together with its owner. -/
def delimiters : String :=
  " \t\n`~!@#$%^&*()-=+[\x7b]\x7d\\|;:'\",<>/?"

/-- The key that completes. -/
def completionKey : String := "tab: complete"

/-- Starts a line editor; an empty name is no file. -/
def start (historyFile : Option String) (home : String) (length : Int)
    (access : HistoryAccess) : Edited Unit :=
  let path := (historyFile.filter (!·.isEmpty)).map (Settings.expandHome home)
  let editor : LineEditor := { historyFile := path }
  let first := TerminalCall.setHistoryLength length
  match path, access.isPresent with
  | some path, true =>
    { editor := editor, calls := [first, .readHistory path], result := (),
      warnings := (access.readFault.map fun reason =>
        "cannot read history from " ++ path ++ ": " ++ reason).toList }
  | _, _ => { editor := editor, calls := [first], result := () }

/-- Reads a line with a prompt. -/
def readLine (e : LineEditor) (prompt : String) (typed : Option String) :
    Edited (Option String) :=
  { editor := e, calls := [.readLine prompt], result := typed }

/-- Remembers a line.  The terminal has done so when it read the line. -/
def remember (e : LineEditor) (_line : String) : Edited Unit :=
  { editor := e, result := () }

/-- Stores the lines that the terminal remembers. -/
def save (e : LineEditor) (access : HistoryAccess) : Edited Unit :=
  match e.historyFile with
  | none => { editor := e, result := () }
  | some path =>
    { editor := e, calls := [.writeHistory path], result := (),
      warnings := (access.writeFault.map fun reason =>
        "cannot write history to " ++ path ++ ": " ++ reason).toList }

/-- Has the terminal ask for completions. -/
def installCompleter (e : LineEditor) : Edited Unit :=
  { editor := e, result := (),
    calls := [.setDelimiters delimiters, .installCompleter, .bindKey completionKey] }

/-- Answers the terminal's question for one of the completions of a word.  The question
for the first one finds them all. -/
def completion (e : LineEditor) (complete : String → Int → String → List String)
    (index : Nat) (line : String) (cursor : Int) (word : String) : Edited (Option String) :=
  match index with
  | 0 =>
    let found := complete line cursor word
    { editor := { e with found := found }, result := found[0]?,
      calls := [.askLine, .askCursor, .complete line cursor word] }
  | index => { editor := e, result := e.found[index]? }

end LineEditor

end ReplEngine
