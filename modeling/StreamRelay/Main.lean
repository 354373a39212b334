import StreamRelay.Program.Basic

/-!
# The command line

The program, run on the streams and files of its host. It has no sockets of its own: names are
looked up as on a host without a name server, and no route leads to any address.
-/

namespace StreamRelay.Main

/-- The error code of a call that failed. -/
def errorCode : IO.Error → Int
  | .noFileOrDirectory _ code _ | .interrupted _ code _ | .permissionDenied _ code _
  | .invalidArgument _ code _ | .resourceExhausted _ code _ | .inappropriateType _ code _
  | .alreadyExists _ code _ | .otherError code _ | .resourceBusy code _
  | .resourceVanished code _ | .hardwareFault code _ | .unsatisfiedConstraints code _
  | .illegalOperation code _ | .protocolError code _ | .timeExpired code _
  | .noSuchThing _ code _ | .unsupportedOperation code _ => code.toNat
  | .unexpectedEof | .userError _ => 0

/-- Shows a result, of which `write` takes the bytes. -/
def finish (r : Result) (write : ByteArray → IO Unit) : IO UInt32 := do
  let fault ← try
      write r.stdout.toByteArray
      pure r.fault
    catch e => pure (some (.sink (errorCode e)))
  match fault with
  | none => return r.code.toNat.toUInt32
  | some fault =>
    (← IO.getStderr).putStr fault.text
    return failureCode.toNat.toUInt32

/-- Shows a result on the output. -/
def finishOnStdout (r : Result) : IO UInt32 := do
  let stdout ← IO.getStdout
  finish r (fun bytes => do
    stdout.write bytes
    stdout.flush)

/-- Relays a stream to the output, or to a file that is created first. -/
def relay (a : Arguments) (url : String) : IO UInt32 := do
  match Pump.withSettings url a.settings with
  | .error invalid => finishOnStdout (.failed {} (.settings invalid) [])
  | .ok _ =>
    let result := (Relay.run { a with output := none } url { network := .isolated }).getD
      { code := failureCode, files := {} }
    match a.output with
    | none => finishOnStdout result
    | some path =>
      let handle : Except Int IO.FS.Handle ← try
          pure (.ok (← IO.FS.Handle.mk path .write))
        catch e => pure (.error (errorCode e))
      match handle with
      | .error code => finishOnStdout (.failed {} (.output path code) [])
      | .ok handle =>
        finish result (fun bytes => do
          handle.write bytes
          handle.flush)

/-- Scans the diagnostics on the input. -/
def scan : IO UInt32 := do
  let input ← (← IO.getStdin).readBinToEnd
  finishOnStdout (scanDiagnostics { network := .isolated, input := input.toList })

end StreamRelay.Main

/-- Does what the command line asks for. -/
def main (args : List String) : IO UInt32 :=
  open StreamRelay in
  match CommandLine.parse args with
  | .error refusal => Main.finishOnStdout (refused refusal { network := .isolated })
  | .ok a =>
    if a.scanStderr then Main.scan
    else match a.url with
      | some url => Main.relay a url
      | none => Main.finishOnStdout (.failed {} .noUrl [])
