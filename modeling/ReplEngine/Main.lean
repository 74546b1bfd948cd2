import ReplEngine.CommandLine
import ReplEngine.Session.LineEditor
import ReplEngine.Template
import ReplEngine.Yaml.Document

/-!
# The program

Reads the arguments, the environment and the files, runs what `CommandLine` decides, and
prints what a session does.
-/

namespace ReplEngine.Main

open CommandLine

/-- The text of a file, if it can be read. -/
def textOf? (path : String) : IO (Option String) := do
  try return some (← IO.FS.readFile path)
  catch _ => return none

/-- A terminal: the lines that it remembers. -/
structure Terminal where
  editor : LineEditor
  lines : List String := []

/-- Carries out a call to the terminal. -/
def Terminal.perform (t : Terminal) : TerminalCall → IO Terminal
  | .readHistory path => do
    let text := (← textOf? path).getD ""
    return { t with lines := (Text.linesOf text) ++ t.lines }
  | .writeHistory path => do
    IO.FS.writeFile path (String.join (t.lines.map (· ++ "\n")))
    return t
  | _ => return t

/-- Shows what a session does. -/
def Terminal.handle (t : Terminal) (e : Event) : IO Terminal := do
  match e with
  | .prompt text | .echo text | .out text => do
    IO.print text
    (← IO.getStdout).flush
    return t
  | .err text => do
    IO.eprint text
    return t
  | .history line => return { t with lines := t.lines ++ [line] }
  | .saved =>
    try (t.editor.save {}).calls.foldlM perform t
    catch e => do
      for warning in (t.editor.save { writeFault := some (toString e) }).warnings do
        IO.eprintln warning
      return t
  | _ => return t

/-- Reads lines until the session is over. -/
partial def converse (host : Language.Host) (t : Terminal) (s : Repl.ReplSession) :
    IO Repl.ReplSession := do
  let t ← s.events.foldlM Terminal.handle t
  let s := { s with events := [] }
  if s.ending.isSome then return s
  let line ← (← IO.getStdin).getLine
  let input := if line.isEmpty then Input.endOfInput
    else .line (String.ofList (Text.dropRightWhile (· == '\n') line.toList))
  converse host t (s.take (Repl.peer host) input)

/-- Runs an interpreter on the lines of the standard input. -/
def interact (settings : Settings) (r : Repl) (home : String) : IO (Except Error Nat) := do
  let file := Settings.expandHome home settings.historyFile
  let present := (← textOf? file).isSome
  let started := LineEditor.start (some settings.historyFile) home LineEditor.historyLength
    { isPresent := present }
  let t ← (started.calls ++ started.editor.installCompleter.calls).foldlM Terminal.perform
    { editor := started.editor }
  let s ← converse {} t (r.start {} {})
  return s.exitCode

/-- Shows the events of a run. -/
def showFinished (f : Finished) : IO Nat := do
  for e in Event.joinTexts f.events do
    match e with
    | .out text => IO.print text
    | .err text => IO.eprint text
    | _ => pure ()
  return f.code

/-- Does what the arguments ask for. -/
def runOptions (o : Options) : IO (Except Error Nat) := do
  let home := (← IO.getEnv "HOME").getD ""
  let path := Settings.filePath o.settings (← IO.getEnv "QUILL_CONFIG") home
  let named := o.settings.filter (!·.isEmpty)
  let checked := match named, ← textOf? path with
    | some given, none => Settings.load Yaml.reader given true none
    | _, content => Settings.load Yaml.reader path named.isSome content
  for warning in checked.warnings do
    IO.eprintln warning
  match prepare Template.render checked, o.script.filter (!·.isEmpty) with
  | .error e, _ => return .error e
  | .ok (.inl finished), _ => .ok <$> showFinished finished
  | .ok (.inr (_, r)), some script =>
    match runScript r ⟨script, ← textOf? script⟩ with
    | .ok finished => .ok <$> showFinished finished
    | .error e => return .error e
  | .ok (.inr (settings, r)), none => interact settings r home

end ReplEngine.Main

/-- The exit status is that of the session; arguments that cannot be read give 2. -/
def main (args : List String) : IO UInt32 := do
  match ReplEngine.CommandLine.Options.read {} args with
  | none => do
    IO.eprintln ReplEngine.CommandLine.usage
    return 2
  | some options =>
    match ← ReplEngine.Main.runOptions options with
    | .ok code => return code.toUInt32
    | .error e => do
      IO.eprintln e.message
      return 1
