import StreamRelay.Settings

/-!
# Arguments

What the command line asks for, the options that it knows, and why it is refused.
-/

namespace StreamRelay

/-- What the command line asks for. -/
structure Arguments where
  url : Option String := none
  output : Option String := none
  userAgent : Option String := none
  headers : List Header.Field := []
  chunkSize : Nat := ({} : Settings).chunkSize
  connectTimeout : Nat := ({} : Settings).connectTimeout
  readTimeout : Nat := ({} : Settings).readTimeout
  scanStderr : Bool := false
  verbose : Nat := 0
  quiet : Bool := false
deriving DecidableEq, Repr

namespace Arguments

/-- The changes of settings that the arguments ask for. -/
def changes (a : Arguments) : List Settings.Change :=
  [.chunkSize a.chunkSize, .connectTimeout a.connectTimeout, .readTimeout a.readTimeout] ++
    a.headers.map .header ++ a.userAgent.toList.map .userAgent

/-- The settings that the arguments ask for. -/
def settings (a : Arguments) : Settings := .ofChanges a.changes

/-- The least grave level of what is told on the error stream, unless the surroundings say
otherwise. -/
def logLevel (a : Arguments) : String :=
  if a.quiet then "error"
  else match a.verbose with
    | 0 => "info"
    | 1 => "debug"
    | _ => "trace"

end Arguments

namespace CommandLine

/-- The options that have a value. -/
inductive Valued where
  | output
  | userAgent
  | header
  | chunkSize
  | connectTimeout
  | readTimeout
deriving DecidableEq, Repr

/-- The options without a value. -/
inductive Flag where
  | scanStderr
  | verbose
  | quiet
  | help
  | version
deriving DecidableEq, Repr

/-- An option. -/
inductive Switch where
  | valued (v : Valued)
  | flag (f : Flag)
deriving DecidableEq, Repr

/-- Why a command line is refused, or what is shown instead of going to work. -/
inductive Refusal where
  /-- There is neither a URL nor a scan. -/
  | missingUrl
  /-- An argument is none of those that are known. -/
  | unknownArgument
  /-- Two arguments exclude each other, or one is given twice. -/
  | conflict
  /-- An option lacks its value, or has an empty path. -/
  | invalidValue
  /-- The value of an option cannot be used. -/
  | badValue
  /-- An option that has no value is given one. -/
  | unneededValue
  /-- The help is asked for, in full or in short. -/
  | help (full : Bool)
  /-- The version is asked for. -/
  | version
deriving DecidableEq, Repr

/-- Whether an option may be given more than once. -/
def Switch.isRepeatable : Switch → Bool
  | .valued .header | .flag .verbose => true
  | _ => false

/-- An option as it is named, shown and explained. -/
structure Entry where
  switch : Switch
  short : Option Char
  long : String
  /-- The name of its value. -/
  value : Option String := none
  explanation : String
  /-- What stands for a missing value. -/
  fallback : Option String := none

/-- The options, in the order in which they are shown. -/
def entries : List Entry := [
  { switch := .valued .output, short := some 'o', long := "output", value := some "OUTPUT",
    explanation := "Write the stream to this file instead of stdout" },
  { switch := .valued .userAgent, short := none, long := "user-agent", value := some "USER_AGENT",
    explanation := "User-Agent sent with the request" },
  { switch := .valued .header, short := some 'H', long := "header", value := some "HEADERS",
    explanation := "Extra request header, as 'Name: value' (repeatable)" },
  { switch := .valued .chunkSize, short := none, long := "chunk-size", value := some "CHUNK_SIZE",
    explanation := "Bytes per pipe write", fallback := some (toString ({} : Settings).chunkSize) },
  { switch := .valued .connectTimeout, short := none, long := "connect-timeout",
    value := some "CONNECT_TIMEOUT", explanation := "Connect timeout in seconds (1-3600)",
    fallback := some (toString ({} : Settings).connectTimeout) },
  { switch := .valued .readTimeout, short := none, long := "read-timeout",
    value := some "READ_TIMEOUT", explanation := "Read timeout in seconds (1-3600)",
    fallback := some (toString ({} : Settings).readTimeout) },
  { switch := .flag .scanStderr, short := none, long := "scan-stderr",
    explanation :=
      "Read diagnostic lines from stdin and report those that look like DNS failures" },
  { switch := .flag .verbose, short := some 'v', long := "verbose",
    explanation := "Increase output verbosity (-v for debug, -vv for trace)" },
  { switch := .flag .quiet, short := some 'q', long := "quiet",
    explanation := "Suppress non-error output" },
  { switch := .flag .help, short := some 'h', long := "help", explanation := "Print help" },
  { switch := .flag .version, short := some 'V', long := "version",
    explanation := "Print version" }]

/-- The option with a long name. -/
def ofLong? (name : String) : Option Switch :=
  (entries.find? (·.long = name)).map (·.switch)

/-- The option with a short name. -/
def ofShort? (name : Char) : Option Switch :=
  (entries.find? (·.short = some name)).map (·.switch)

end CommandLine

end StreamRelay
