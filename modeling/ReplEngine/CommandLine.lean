import ReplEngine.Repl

/-!
# Command line

What the program does with its arguments and files: it loads the settings, and then runs a
script or reads lines.  A script stops at its first failure.
-/

namespace ReplEngine.CommandLine

/-- What the arguments ask for. -/
structure Options where
  /-- The script to run. -/
  script : Option String := none
  /-- The file with the settings. -/
  settings : Option String := none
deriving Repr, DecidableEq

/-- The option that names the file with the settings. -/
def settingsOption : String := "--config"

/-- Reads arguments, after those that were read before. -/
def Options.read (o : Options) : List String → Option Options
  | [] => some o
  | [arg] =>
    if Text.startsWith (settingsOption ++ "=") arg then
      some { o with settings := some (String.ofList (arg.toList.drop (settingsOption.length + 1))) }
    else if Text.startsWith "-" arg || o.script.isSome then none
    else some { o with script := some arg }
  | arg :: next :: rest =>
    if arg == settingsOption then Options.read { o with settings := some next } rest
    else (Options.read o [arg]).bind fun o => o.read (next :: rest)
termination_by args => args.length

/-- How the program is called. -/
def usage : String := "usage: quill [-h] [--config CONFIG] [script]"

/-- A file: its path, and its text if there is such a file. -/
structure TextFile where
  path : String
  content : Option String

/-- A text with all line ends made into newlines. -/
def unifyLineEnds : List Char → List Char
  | '\r' :: '\n' :: rest => '\n' :: unifyLineEnds rest
  | '\r' :: rest => '\n' :: unifyLineEnds rest
  | c :: rest => c :: unifyLineEnds rest
  | [] => []

/-- How a run has ended. -/
structure Finished where
  code : Nat
  events : List Event

/-- A run that ends with a complaint. -/
def complain (text : String) : Finished :=
  { code := 1, events := [.err (text ++ "\n")] }

/-- What a session leaves. -/
def Finished.ofSession (s : Repl.ReplSession) : Except Error Finished := do
  return { code := ← s.exitCode, events := s.events }

/-- Runs a script. -/
def runScript (r : Repl) (script : TextFile) : Except Error Finished :=
  match script.content with
  | none => .ok (complain ("Error: file not found: " ++ script.path))
  | some text =>
    let lines := Input.ofStream (String.ofList (unifyLineEnds text.toList))
    Finished.ofSession (r.run {} { welcome := false, stopOnFailure := true } lines)

/-- Whether an error in the settings is one that the program expects: a value that is wrong, or a
file that is missing. -/
def isExpected (e : Error) : Bool :=
  e.kind = .value || e.kind = .missingFile

/-- Loads the settings and sets the interpreter up; a file that is wrong or missing is a
complaint. -/
def prepare (render : Expansion.Renderer) (settings : Settings.Checked) :
    Except Error (Finished ⊕ (Settings × Repl)) :=
  match settings.result with
  | .error e => if isExpected e then .ok (.inl (complain ("quill: " ++ e.message))) else .error e
  | .ok s => do return .inr (s, ← Repl.ofSettings render s {})

/-- Runs the program on a script, or on lines. -/
def run (render : Expansion.Renderer) (settings : Settings.Checked) (script : Option TextFile)
    (inputs : List Input) : Except Error Finished := do
  match ← prepare render settings with
  | .inl finished => return finished
  | .inr (_, r) =>
    match script with
    | some file => runScript r file
    | none => Finished.ofSession (r.run {} {} inputs)

end ReplEngine.CommandLine
