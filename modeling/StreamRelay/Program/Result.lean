import StreamRelay.Files
import StreamRelay.Pump.Basic
import StreamRelay.Network

/-!
# Surroundings and results

What a program finds when it starts, and what it leaves behind when it ends.
-/

namespace StreamRelay

/-- Why the program failed: what it was about, and the cause. -/
inductive ProgramFault where
  /-- The settings are not valid. -/
  | settings (cause : Settings.Invalid)
  /-- The output file could not be created. -/
  | output (path : String) (code : Int)
  /-- The pump could not be started. -/
  | start (cause : StartFault)
  /-- The stream could not be written. -/
  | sink (code : Int)
  /-- The diagnostics were no text. -/
  | diagnostics
  /-- No stream was asked for. -/
  | noUrl
deriving DecidableEq, Repr

namespace ProgramFault

/-- What a fault is about, and its cause if there is one. -/
def parts : ProgramFault → String × Option String
  | settings cause => ("invalid pump settings", some cause.text)
  | output path code => (s!"failed to create output file {path}", some (SystemError.text code))
  | start cause => ("failed to start stream pump", some cause.text)
  | sink code => ("failed to write stream output", some (SystemError.text code))
  | diagnostics =>
    ("failed to read diagnostics from stdin", some "stream did not contain valid UTF-8")
  | noUrl => ("a stream URL is required", none)

/-- The text of a fault on the error stream. -/
def text (f : ProgramFault) : String :=
  match f.parts with
  | (about, none) => s!"Error: {about}\n"
  | (about, some cause) => s!"Error: {about}\n\nCaused by:\n    {cause}\n"

end ProgramFault

/-- The exit code of a program that failed. -/
def failureCode : UInt8 := 1

/-- The exit code of a command line that was refused. -/
def refusalCode : UInt8 := 2

/-- The surroundings of a program. -/
structure Surroundings where
  files : Files := {}
  input : Bytes := []
  network : Network
  /-- Whether the user interrupts a relay that does not come to its end. -/
  interrupts : Bool := false

/-- What a program leaves behind. -/
structure Result where
  code : UInt8
  stdout : Bytes := []
  files : Files
  fault : Option ProgramFault := none

/-- What is written on the error stream apart from the journal. -/
def Result.stderr (r : Result) : String := (r.fault.map ProgramFault.text).getD ""

/-- A program that failed, with what it had written before. -/
def Result.failed (files : Files) (fault : ProgramFault) (stdout : Bytes) : Result :=
  { code := failureCode, stdout, files, fault := some fault }

end StreamRelay
