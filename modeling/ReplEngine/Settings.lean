import ReplEngine.Layout
import ReplEngine.Text.LetterCase

/-!
# Settings

What a user can set for a session, and how a document is checked for it.  Keys
that are not known are reported and ignored; the first key with a wrong value
refuses the document.
-/

namespace ReplEngine

/-- The levels of log messages. -/
inductive LogLevel where
  | debug
  | info
  | warning
  | error
  | critical
deriving Repr, DecidableEq

namespace LogLevel

/-- The name of a level. -/
def name : LogLevel → String
  | .debug => "DEBUG"
  | .info => "INFO"
  | .warning => "WARNING"
  | .error => "ERROR"
  | .critical => "CRITICAL"

/-- All levels. -/
def all : List LogLevel :=
  [.debug, .info, .warning, .error, .critical]

/-- The level of a name. -/
def ofName? (s : String) : Option LogLevel :=
  all.find? fun l => l.name == s

end LogLevel

/-- A pattern and the template that replaces its matches. -/
structure RuleText where
  pattern : String
  template : String
deriving Repr, DecidableEq

/-- The settings of a session. -/
structure Settings where
  prompt : String := "quill> "
  historyFile : String := "~/.quill_history"
  inspector : Inspector := .dump
  locals : List (String × Value) := []
  startHooks : List String := []
  failureHooks : List String := []
  rules : List RuleText := []
  logLevel : LogLevel := .warning
  logFile : Option String := none

namespace Settings

/-- The keys of a settings document. -/
def keys : List String :=
  ["prompt", "history_file", "inspector", "locals", "start_hooks", "failure_hooks", "macros",
   "log_level", "log_file"]

/-- A settings document: its entries, and the place it was read from. -/
structure Document where
  source : String
  entries : List (Value × Value)

namespace Document

/-- The value of a key. -/
def get? (d : Document) (key : String) : Option Value :=
  (d.entries.find? fun e => e.1.same (.str key)).map (·.2)

/-- The value of a key, unless it is missing or nothing. -/
def some? (d : Document) (key : String) : Option Value :=
  match d.get? key with
  | some .none => none
  | v => v

/-- Refuses the document. -/
def refuse {α : Type} (d : Document) (fault : SettingsFault) : Except Error α :=
  .error (.settings d.source fault)

/-- The messages about keys that are not known. -/
def warnings (d : Document) : List String :=
  d.entries.filterMap fun e =>
    if keys.any fun k => e.1.same (.str k) then none
    else
      let key := match e.1.repr with
        | .ok text => text
        | .error _ => ""
      some (d.source ++ ": ignoring unknown key " ++ key)

/-- A text setting. -/
def text (d : Document) (key default : String) : Except Error String :=
  match d.get? key with
  | none => .ok default
  | some v => match v.str? with
    | some s => .ok s
    | none => d.refuse (.notText key)

/-- The inspector setting. -/
def inspector (d : Document) : Except Error Inspector :=
  match d.get? "inspector" with
  | none => .ok .dump
  | some v => match v.unhashable? with
    | some typeName => .error (.unhashable typeName)
    | none => match v.str?.bind Inspector.ofName? with
      | some i => .ok i
      | none => d.refuse .inspector

/-- The names bound at the start of a session. -/
def locals (d : Document) : Except Error (List (String × Value)) :=
  match d.some? "locals" with
  | none => .ok []
  | some v => match v.entries? with
    | none => d.refuse .locals
    | some entries =>
      match entries.mapM fun e => e.1.str?.map fun name => (name, e.2) with
      | some named => .ok named
      | none => d.refuse .locals

/-- A list of statements to run. -/
def hooks (d : Document) (key : String) : Except Error (List String) :=
  match d.some? key with
  | none => .ok []
  | some v => match v.listItems?.bind fun items => items.mapM Value.str? with
    | some texts => .ok texts
    | none => d.refuse (.hooks key)

/-- One rule. -/
def ruleText? (v : Value) : Option RuleText := do
  let entries ← v.entries?
  let field (key : String) : Option String :=
    (entries.find? fun e => e.1.same (.str key)).bind fun e => e.2.str?
  return ⟨← field "pattern", ← field "template"⟩

/-- The rules. -/
def rules (d : Document) : Except Error (List RuleText) :=
  match d.get? "macros" with
  | none => .ok []
  | some v =>
    if !v.isTruthy then .ok []
    else match v.iterate? with
    | none => .error (.notIterable v.typeLabel)
    | some items => match items.mapM ruleText? with
      | some rules => .ok rules
      | none => d.refuse .rules

/-- The level of log messages. -/
def logLevel (d : Document) : Except Error LogLevel :=
  match d.get? "log_level" with
  | none => .ok .warning
  | some v => do
    match LogLevel.ofName? (Text.upperString (← v.text)) with
    | some level => return level
    | none => d.refuse .logLevel

/-- The file for log messages. -/
def logFile (d : Document) : Except Error (Option String) :=
  match d.some? "log_file" with
  | none => .ok none
  | some v => v.text.map some

/-- Checks a document. -/
def check (d : Document) : Except Error Settings := do
  let default : Settings := {}
  let prompt ← d.text "prompt" default.prompt
  let historyFile ← d.text "history_file" default.historyFile
  let inspector ← d.inspector
  let locals ← d.locals
  let startHooks ← d.hooks "start_hooks"
  let failureHooks ← d.hooks "failure_hooks"
  let rules ← d.rules
  let logLevel ← d.logLevel
  let logFile ← d.logFile
  return { prompt, historyFile, inspector, locals, startHooks, failureHooks, rules, logLevel,
           logFile }

end Document

/-- The outcome of checking a value for settings: messages, and the settings or
what is wrong. -/
structure Checked where
  warnings : List String
  result : Except Error Settings

/-- Checks a value.  Nothing at all stands for the defaults. -/
def check (source : String) (v : Value) : Checked :=
  match v with
  | .none => ⟨[], .ok {}⟩
  | v => match v.entries? with
    | none => ⟨[], .error (.settings source .topLevel)⟩
    | some entries =>
      let document : Document := { source, entries }
      ⟨document.warnings, document.check⟩

/-- Why a text gives no value. -/
inductive ReadFault where
  /-- It is no document. -/
  | malformed
  /-- It is one, and the value of a part cannot be made. -/
  | raised (e : Error)

/-- Reads the text of a file as a value. -/
abbrev DocumentReader := String → Except ReadFault Value

/-- The settings of a file.  Without a file they are the defaults, unless the
file was named. -/
def load (read : DocumentReader) (path : String) (named : Bool) (content : Option String) :
    Checked :=
  match content with
  | none => ⟨[], if named then .error (.settingsNotFound path) else .ok {}⟩
  | some text => match read text with
    | .error .malformed => ⟨[], .error (.malformedDocument path)⟩
    | .error (.raised e) => ⟨[], .error e⟩
    | .ok v => check path v

/-- Where settings are looked for when no file is named. -/
def defaultPath : String :=
  "~/.quill.yaml"

/-- The home directory without slashes at its end, and the rest of a path. -/
def underHome (home : String) (rest : List Char) : String :=
  match Text.dropRightWhile (· == '/') home.toList ++ rest with
  | [] => "/"
  | full => String.ofList full

/-- A path with a leading tilde replaced by the home directory.  A tilde with a
user's name stays. -/
def expandHome (home : String) (path : String) : String :=
  match path.toList with
  | ['~'] => underHome home []
  | '~' :: '/' :: rest => underHome home ('/' :: rest)
  | _ => path

/-- A path without empty and dot components.  Two slashes at the start are kept,
any other number becomes one. -/
def normalizePath (path : String) : String :=
  let cs := path.toList
  let root := match cs with
    | '/' :: '/' :: '/' :: _ => "/"
    | '/' :: '/' :: _ => "//"
    | '/' :: _ => "/"
    | _ => ""
  let parts := (Text.splitAtChar '/' cs).filter fun part => part != [] && part != ['.']
  let full := root ++ String.ofList (Text.joinWith ['/'] parts)
  if full.isEmpty then "." else full

/-- The path of the settings file: the one named, else the one of the
environment, else the default. -/
def filePath (named environment : Option String) (home : String) : String :=
  let given (p : Option String) : Option String := p.filter (!·.isEmpty)
  normalizePath (expandHome home (((given named).or (given environment)).getD defaultPath))

end Settings

/-- The state of the log: its name, level and where messages go. -/
structure LogSetup where
  name : String := "quill"
  level : LogLevel
  toFile : Bool

/-- The form of a log line. -/
def LogSetup.format : String :=
  "%(asctime)s - %(name)s - %(levelname)s - %(message)s"

/-- Sets up the log; the name of the level has to be known. -/
def LogSetup.configure (level : String) (toFile : Bool) : Except Error LogSetup :=
  match LogLevel.ofName? level with
  | some level => .ok { level, toFile }
  | none => .error (.unknownLogLevel level)

end ReplEngine
