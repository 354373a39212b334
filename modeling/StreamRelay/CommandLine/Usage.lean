import StreamRelay.CommandLine.Arguments

/-!
# Help and version

The texts that the command line shows instead of going to work.
-/

namespace StreamRelay.CommandLine

/-- The name of the program. -/
def programName : String := "stream-pump"

/-- The text that tells the version. -/
def versionText : String := s!"{programName} {programVersion}\n"

/-- What the program is for, in one line. -/
def summary : String := "Relay an HTTP byte stream into an OS pipe and classify DNS failures"

/-- What the program is for, in full. -/
def description : List String := [
  "Relay an HTTP stream to stdout or a file.",
  "",
  "The stream is fetched on a background thread and read back through an OS pipe. " ++
    "Exits with 2 when the host name cannot be resolved, " ++
    "so wrappers can skip the source instead of retrying."]

/-- How an option is written. -/
def Entry.form (e : Entry) : String :=
  let short := match e.short with
    | some c => s!"-{c}, "
    | none => "    "
  let value := match e.value with
    | some name => s!" <{name}>"
    | none => if e.switch.isRepeatable then "..." else ""
  s!"  {short}--{e.long}{value}"

/-- What is said of an option; the help itself tells how to get the other one. -/
def Entry.text (full : Bool) (e : Entry) : String :=
  match e.switch with
  | .flag .help =>
    e.explanation ++ (if full then " (see a summary with '-h')" else " (see more with '--help')")
  | _ => e.explanation

/-- The space before an explanation. -/
def margin : String := "          "

/-- The lines of an option. -/
def Entry.lines (full : Bool) (e : Entry) : List String :=
  let text := margin ++ e.text full
  let fallback := e.fallback.map (fun value => s!"[default: {value}]")
  match fallback with
  | none => [e.form, text]
  | some note =>
    if full then [e.form, text, margin, margin ++ note] else [e.form, text ++ " " ++ note]

/-- The lines of all options; in full there is an empty line between two of them. -/
def optionLines (full : Bool) : List String :=
  (if full then [""] else []).intercalate (entries.map (·.lines full))

/-- The lines about the URL. -/
def urlLines (full : Bool) : List String :=
  if full then ["  [URL]", margin ++ "Stream URL to relay"] else ["  [URL]  Stream URL to relay"]

/-- The text of the help. -/
def helpText (full : Bool) : String :=
  "\n".intercalate
    ((if full then description else [summary]) ++
      ["", s!"Usage: {programName} [OPTIONS] [URL]", "", "Arguments:"] ++ urlLines full ++
      ["", "Options:"] ++ optionLines full) ++ "\n"

end StreamRelay.CommandLine
