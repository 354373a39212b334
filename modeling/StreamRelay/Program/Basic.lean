import StreamRelay.CommandLine.Parser
import StreamRelay.CommandLine.Usage
import StreamRelay.Program.Relay
import StreamRelay.Scan

/-!
# The program

What the command line does: it relays a stream, or it scans diagnostics from the input.
-/

namespace StreamRelay

/-- Scans diagnostics. -/
def scanDiagnostics (w : Surroundings) : Result :=
  let scan := Scan.ofBytes w.input
  let stdout := Bytes.ofText scan.text
  if scan.complete then
    { code := if scan.found.isEmpty then 0 else Exit.dnsFailureCode, stdout, files := w.files }
  else .failed w.files .diagnostics stdout

/-- What a command line that is refused leaves behind. -/
def refused (r : CommandLine.Refusal) (w : Surroundings) : Result :=
  match r with
  | .help full =>
    { code := 0, stdout := Bytes.ofText (CommandLine.helpText full), files := w.files }
  | .version => { code := 0, stdout := Bytes.ofText CommandLine.versionText, files := w.files }
  | _ => { code := refusalCode, files := w.files }

/-- What the program does with arguments that were accepted. -/
def perform (a : Arguments) (w : Surroundings) : Option Result :=
  if a.scanStderr then some (scanDiagnostics w)
  else match a.url with
    | none => some (.failed w.files .noUrl [])
    | some url => Relay.run a url w

/-- What the program does with a command line. -/
def program (args : List String) (w : Surroundings) : Option Result :=
  match CommandLine.parse args with
  | .error r => some (refused r w)
  | .ok a => perform a w

end StreamRelay
