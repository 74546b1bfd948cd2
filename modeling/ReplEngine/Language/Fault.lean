import ReplEngine.Value.Text

/-!
# Faults

How evaluated source can end before its time: it raises an error, or it asks to
exit.  `Fault.name` is the name that the language gives to the class of an error.
-/

namespace ReplEngine

/-- An error that evaluated source raises. -/
inductive Fault where
  /-- Source that is no source of the language. -/
  | syntaxError
  /-- A block that is missing, or that is not where it can be. -/
  | indentation
  /-- Blanks and tabs that do not agree on the depth of a line. -/
  | tabs
  | unboundName
  /-- A variable of a function that is read before it is bound. -/
  | unboundLocal
  | wrongType
  | wrongValue
  | zeroDivision
  | wrongIndex
  | wrongKey
  | missingAttribute
  | missingModule
  /-- A module without the name that is imported from it. -/
  | missingImport
  /-- The wish to raise again what was not raised. -/
  | nothingRaised
  /-- Calls or loops that go too far. -/
  | recursion
  /-- Source that is deferred again and again. -/
  | unsettled (passes : Nat)
  /-- A hook that is neither source nor something to call. -/
  | notAHook (typeName : String)
  /-- A failure of the engine itself. -/
  | engine (error : Error)
deriving Repr, DecidableEq

namespace Fault

/-- The class of an error of the language. -/
def name : Fault → String
  | .syntaxError => "SyntaxError"
  | .indentation => "IndentationError"
  | .tabs => "TabError"
  | .unboundName => "NameError"
  | .unboundLocal => "UnboundLocalError"
  | .wrongType | .notAHook _ => "TypeError"
  | .wrongValue => "ValueError"
  | .zeroDivision => "ZeroDivisionError"
  | .wrongIndex => "IndexError"
  | .wrongKey => "KeyError"
  | .missingAttribute => "AttributeError"
  | .missingModule => "ModuleNotFoundError"
  | .missingImport => "ImportError"
  | .nothingRaised => "RuntimeError"
  | .recursion | .unsettled _ => "RecursionError"
  | .engine _ => "Exception"

/-- The errors that source can raise by name. -/
def named : List Fault :=
  [.syntaxError, .indentation, .tabs, .unboundName, .unboundLocal, .wrongType, .wrongValue,
   .zeroDivision, .wrongIndex, .wrongKey, .missingAttribute, .missingModule, .missingImport,
   .nothingRaised, .recursion]

/-- The error of a name. -/
def ofName? (name : String) : Option Fault :=
  named.find? fun f => f.name == name

/-- The wording of the errors that the engine raises in place of the language. -/
def message? : Fault → Option String
  | .unsettled passes =>
    some ("macro expansion did not settle after " ++ toString passes ++ " passes")
  | .notAHook typeName => some ("hooks must be code strings or callables, not " ++ typeName)
  | .recursion => some "maximum recursion depth exceeded"
  | .engine e => some e.message
  | _ => none

end Fault

/-- What source gives when it asks to exit. -/
inductive ExitCode where
  | none
  | number (n : Int)
  /-- Anything else, by its text. -/
  | complaint (text : String)
deriving Repr, DecidableEq

namespace ExitCode

/-- The status of a process that exits: a number counts by its lowest byte, and a
complaint counts as 1. -/
def status : ExitCode → Nat
  | none => 0
  | number n => (n % 256).toNat
  | complaint _ => 1

/-- What is printed for the reader of the error stream. -/
def errorText : ExitCode → String
  | complaint text => text ++ "\n"
  | _ => ""

/-- The exit code that a value is. -/
def ofValue (v : Value) : Except Error ExitCode :=
  match v.plain with
  | .none => .ok none
  | .int n => .ok (number n)
  | .bool b => .ok (number (if b then 1 else 0))
  | _ => complaint <$> v.text

end ExitCode

/-- How source ends before its time. -/
inductive Raised where
  /-- An error, with the text that source gave it. -/
  | fault (f : Fault) (text : String := "")
  | exit (code : ExitCode)
deriving Repr, DecidableEq

end ReplEngine
