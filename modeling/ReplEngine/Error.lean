import ReplEngine.Text.Quoted

/-!
# Errors

Everything that can go wrong in the engine, one constructor per cause.  The
wording of each stands in `Error.message`.
-/

namespace ReplEngine

/-- What can be wrong with settings. -/
inductive SettingsFault where
  | topLevel
  | notText (key : String)
  | inspector
  | locals
  | hooks (key : String)
  | rules
  | logLevel
deriving Repr, DecidableEq

/-- The wording of a fault in settings. -/
def SettingsFault.message : SettingsFault → String
  | .topLevel => "top level must be a mapping"
  | .notText key => "'" ++ key ++ "' must be a string"
  | .inspector => "'inspector' must be one of ['dump', 'export']"
  | .locals => "'locals' must map names to values"
  | .hooks key => "'" ++ key ++ "' must be a list of code strings"
  | .rules => "each macro needs a 'pattern' and a 'template' string"
  | .logLevel => "'log_level' must be one of DEBUG, INFO, WARNING, ERROR, CRITICAL"

/-- A failure of the engine. -/
inductive Error where
  /-- A cursor that is no whole number. -/
  | notAnIndex
  /-- A pattern that cannot be read. -/
  | badPattern
  /-- A repetition in a pattern that asks for more rounds than can be counted. -/
  | tooManyRounds
  /-- A pattern that asks for two alphabets at once. -/
  | conflictingFlags
  /-- A template whose sections do not match. -/
  | badTemplate
  /-- A change of delimiters that does not name two. -/
  | missingDelimiter
  /-- A template of another type than text. -/
  | notATemplate (typeName : String)
  /-- An object that failed to describe itself. -/
  | description (complaint : String)
  /-- An inspector that does not exist. -/
  | unknownInspector (name : String)
  /-- A fault in the settings read from `source`. -/
  | settings (source : String) (fault : SettingsFault)
  /-- A settings file that is no document. -/
  | malformedDocument (source : String)
  /-- A settings file that was named and does not exist. -/
  | settingsNotFound (path : String)
  /-- A level of log messages that does not exist. -/
  | unknownLogLevel (name : String)
  /-- A value that cannot be looked up in a table. -/
  | unhashable (typeName : String)
  /-- A value that cannot be walked through. -/
  | notIterable (typeName : String)
  /-- A payload whose size does not fit the header of a frame. -/
  | frameTooLong (size : Nat)
  /-- A value that cannot travel in a message. -/
  | unserializable (typeName : String)
  /-- A key that cannot travel in a message. -/
  | unserializableKey (typeName : String)
  /-- A whole number with more digits than are written. -/
  | tooManyDigits
  /-- Halves of surrogate pairs in a text, which have no encoding: the first of them, where it
  stands, and how many stand there together. -/
  | unencodable (half position count : Nat)
  /-- Bytes that end before a header does. -/
  | truncatedHeader
  /-- Bytes that end before the payload that the header announces. -/
  | truncatedFrame (expected got : Nat)
  /-- A payload that is no JSON text. -/
  | malformedFrame (reason : String)
  /-- A payload that is JSON and no message; the text shows it. -/
  | notAMessage (shown : String)
  /-- A message that should have been a request. -/
  | notARequest (shown : String)
  /-- A message that should have been a response with a known status. -/
  | notAResponse (shown : String)
  /-- A worker that did not announce itself. -/
  | notReady
  /-- A connection whose other end is closed. -/
  | connectionClosed
  /-- A connection that the other end dropped with bytes unread. -/
  | connectionReset
  /-- A connection that took only a part of the bytes. -/
  | shortWrite (written total : Nat)
  /-- A connection that was lost while writing to it. -/
  | connectionLost
  /-- A connection that failed in an earlier write. -/
  | brokenPipe
  /-- A name that stands for nothing. -/
  | unresolved (name : String)
  /-- A module whose name is no text. -/
  | notALead (typeName : String)
  /-- A relation between classes that does not exist. -/
  | unknownRelation (name : String)
  /-- A search for symbols that is neither a pattern nor a list of patterns. -/
  | notASearch
  /-- A pattern that is no text. -/
  | notAPattern
  /-- A group of symbols without a symbol. -/
  | emptyGroup
  /-- A source of symbols that lists nothing by itself. -/
  | notImplemented
  /-- A value without parts that was asked for one. -/
  | notSubscriptable (typeName : String)
  /-- A sequence that was asked for a part by a name. -/
  | wrongSubscript (complaint : String)
  /-- A mapping without the key that was asked for. -/
  | missingKey (key : String)
  /-- A value without the attribute that was asked for. -/
  | missingAttribute (name : String)
  /-- A value that cannot be padded. -/
  | unformattable (typeName : String)
  /-- An offset that is no number. -/
  | notComparable (typeName : String)
  /-- A text that cannot be joined with something else. -/
  | notJoinable (typeName : String)
deriving Repr, DecidableEq

/-- What a caller can tell apart in an error without reading its wording. -/
inductive ErrorKind where
  /-- A message that cannot be sent, or bytes and messages that should not have come. -/
  | protocol
  /-- A connection that is gone. -/
  | connection
  /-- A worker that did not start. -/
  | startup
  | type
  | value
  | lookup
  | key
  | attribute
  | index
  | missingFile
  | overflow
  | pattern
  | template
  | unimplemented
deriving Repr, DecidableEq

namespace Error

/-- The kind of an error. -/
def kind : Error → ErrorKind
  | .notAnIndex | .notATemplate _ | .unhashable _ | .notIterable _ | .notALead _ | .notASearch
  | .notAPattern | .notSubscriptable _ | .wrongSubscript _ | .unformattable _ | .notComparable _
  | .notJoinable _ => .type
  | .missingKey _ => .key
  | .missingAttribute _ => .attribute
  | .unresolved _ => .lookup
  | .unknownRelation _ | .emptyGroup | .settings _ _ | .malformedDocument _ | .unknownLogLevel _
  | .description _ | .unknownInspector _ | .conflictingFlags => .value
  | .notImplemented => .unimplemented
  | .settingsNotFound _ => .missingFile
  | .tooManyRounds => .overflow
  | .badPattern => .pattern
  | .badTemplate => .template
  | .missingDelimiter => .index
  | .connectionClosed | .connectionReset | .shortWrite _ _ | .connectionLost | .brokenPipe =>
    .connection
  | .notReady => .startup
  | .frameTooLong _ | .unserializable _ | .unserializableKey _ | .tooManyDigits
  | .unencodable _ _ _ | .truncatedHeader | .truncatedFrame _ _ | .malformedFrame _
  | .notAMessage _ | .notARequest _ | .notAResponse _ => .protocol

/-- The wording of an error. -/
def message : Error → String
  | .notAnIndex => "slice indices must be integers or None or have an __index__ method"
  | .badPattern | .badTemplate | .missingDelimiter => ""
  | .tooManyRounds => "the repetition number is too large"
  | .conflictingFlags => "ASCII and UNICODE flags are incompatible"
  | .notATemplate typeName =>
    "macro replacer must be a template string or a callable, not " ++ typeName
  | .description complaint => complaint
  | .unknownInspector name =>
    "unknown inspector " ++ Text.quoteString name ++ "; expected one of ['dump', 'export']"
  | .settings source fault => source ++ ": " ++ fault.message
  | .malformedDocument source => source ++ ": malformed document"
  | .settingsNotFound path => "config file not found: " ++ path
  | .unknownLogLevel name => "Unknown level: " ++ Text.quoteString name
  | .unhashable typeName => "unhashable type: '" ++ typeName ++ "'"
  | .notIterable typeName => "'" ++ typeName ++ "' object is not iterable"
  | .frameTooLong size =>
    "frame of " ++ toString size ++ " bytes does not fit a 4-byte length prefix"
  | .unserializable typeName =>
    "message is not serializable: Object of type " ++ typeName ++ " is not JSON serializable"
  | .unserializableKey typeName =>
    "message is not serializable: keys must be str, int, float, bool or None, not " ++ typeName
  | .tooManyDigits =>
    "message is not serializable: Exceeds the limit (4300 digits) for integer string conversion; "
      ++ "use sys.set_int_max_str_digits() to increase the limit"
  | .unencodable half position count =>
    "message is not serializable: 'utf-8' codec can't encode character"
      ++ (if count = 1 then
          " '\\u" ++ String.ofList (Text.hexPadded 4 half) ++ "' in position " ++ toString position
        else "s in position " ++ toString position ++ "-" ++ toString (position + count - 1))
      ++ ": surrogates not allowed"
  | .truncatedHeader => "truncated frame header"
  | .truncatedFrame expected got =>
    "truncated frame: expected " ++ toString expected ++ " bytes, got " ++ toString got
  | .malformedFrame reason => "malformed frame: " ++ reason
  | .notAMessage shown => "frame is neither a request nor a response: " ++ shown
  | .notARequest shown => "expected a request, got " ++ shown
  | .notAResponse shown => "expected a response, got " ++ shown
  | .notReady => "EvalWorker failed to start"
  | .connectionClosed => "Socket error: closed"
  | .connectionReset => "Socket error: [Errno 104] Connection reset by peer"
  | .shortWrite written total =>
    "Socket error: wrote " ++ toString written ++ " of " ++ toString total ++ " bytes."
  | .connectionLost => "Socket error: Connection lost"
  | .brokenPipe => "Socket error: [Errno 32] Broken pipe"
  | .unresolved name => name
  | .notALead typeName =>
    "startswith first arg must be str or a tuple of str, not " ++ typeName
  | .unknownRelation name => "unknown relation " ++ Text.quoteString name
  | .notASearch => "apropos filter should be a string or a list of strings"
  | .notAPattern => "first argument must be string or compiled pattern"
  | .emptyGroup => "MultiSymbol needs at least one symbol"
  | .notImplemented => ""
  | .notSubscriptable typeName => "'" ++ typeName ++ "' object is not subscriptable"
  | .wrongSubscript complaint => complaint
  | .missingKey key => Text.quoteString key
  | .missingAttribute name => name
  | .unformattable typeName => "unsupported format string passed to " ++ typeName ++ ".__format__"
  | .notComparable typeName =>
    "'>=' not supported between instances of '" ++ typeName ++ "' and 'int'"
  | .notJoinable typeName => "can only concatenate str (not \"" ++ typeName ++ "\") to str"

end Error

end ReplEngine
