import StreamRelay.CommandLine.Arguments

/-!
# Reading the command line

Arguments are read from left to right. The value of an option may be part of its argument, as in
`--output=f`, `-of` and `-o=f`, or be the next argument, unless that looks like an option itself;
short options can share one argument; and behind `--` nothing is an option.

A value that is an argument of its own is looked at only when the next option or the URL is met, or
at the end, so that an unknown argument right behind it is refused first. What excludes or requires
something else is looked at last.
-/

namespace StreamRelay.CommandLine

/-- What has been read so far. -/
structure Reading where
  arguments : Arguments := {}
  /-- The options that have been given. -/
  given : List Switch := []
  /-- An option that still waits for its value, or whose value has not been looked at yet. -/
  pending : Option (Valued × Option String) := none
  /-- Whether no more options can follow. -/
  ended : Bool := false
deriving DecidableEq, Repr

/-- The value of decimal digits, with or without a plus sign, that fits into 64 bits. -/
def word? (value : String) : Option Nat :=
  let cs := match value.toList with
    | '+' :: cs => cs
    | cs => cs
  if !cs.isEmpty && cs.all Char.isDigit then
    let n := cs.foldl (fun n c => 10 * n + (c.toNat - '0'.toNat)) 0
    if n < UInt64.size then some n else none
  else none

/-- A number of seconds that a timeout may have. -/
def seconds? (value : String) : Option Nat := (word? value).filter (fun n => 1 ≤ n ∧ n ≤ 3600)

/-- The arguments with the value of an option, if it can be used. -/
def setValue (a : Arguments) (v : Valued) (value : String) : Except Refusal Arguments :=
  match v with
  | .output => if value.isEmpty then .error .invalidValue else .ok { a with output := some value }
  | .userAgent => .ok { a with userAgent := some value }
  | .header =>
    match Header.Field.parse value with
    | .ok field => .ok { a with headers := a.headers ++ [field] }
    | .error _ => .error .badValue
  | .chunkSize =>
    match word? value with
    | some n => .ok { a with chunkSize := n }
    | none => .error .badValue
  | .connectTimeout =>
    match seconds? value with
    | some n => .ok { a with connectTimeout := n }
    | none => .error .badValue
  | .readTimeout =>
    match seconds? value with
    | some n => .ok { a with readTimeout := n }
    | none => .error .badValue

/-- The greatest number of times that an option is counted. -/
def maxCount : Nat := 255

namespace Reading

/-- Refuses an option that has been given and may be given only once. -/
def checkOnce (r : Reading) (s : Switch) : Except Refusal Unit :=
  if r.given.contains s && !s.isRepeatable then .error .conflict else .ok ()

/-- Looks at the value of an option. -/
def give (r : Reading) (v : Valued) (value : Option String) : Except Refusal Reading :=
  match value with
  | none => .error .invalidValue
  | some value => do
    r.checkOnce (.valued v)
    let arguments ← setValue r.arguments v value
    return { r with arguments, given := .valued v :: r.given }

/-- Looks at the value that has not been looked at yet. -/
def resolve (r : Reading) : Except Refusal Reading :=
  match r.pending with
  | none => .ok r
  | some (v, value) => ({ r with pending := none } : Reading).give v value

/-- Meets an option whose value is part of the same argument. -/
def attach (r : Reading) (v : Valued) (value : String) : Except Refusal Reading := do
  (← r.resolve).give v (some value)

/-- Meets an option whose value is the next argument. -/
def expect (r : Reading) (v : Valued) : Except Refusal Reading := do
  return { ← r.resolve with pending := some (v, none) }

/-- Meets an option without a value. The long name of the help asks for all of it. -/
def setFlag (r : Reading) (f : Flag) (isLong : Bool) : Except Refusal Reading := do
  let r ← r.resolve
  r.checkOnce (.flag f)
  let a := r.arguments
  let r := { r with given := .flag f :: r.given }
  match f with
  | .scanStderr => return { r with arguments := { a with scanStderr := true } }
  | .verbose => return { r with arguments := { a with verbose := min (a.verbose + 1) maxCount } }
  | .quiet => return { r with arguments := { a with quiet := true } }
  | .help => throw (.help isLong)
  | .version => throw .version

/-- Meets an argument that begins with two dashes, and of which this is the rest. -/
def readLong (r : Reading) (cs : List Char) : Except Refusal Reading :=
  let name := String.ofList (cs.takeWhile (· != '='))
  let value := match cs.dropWhile (· != '=') with
    | [] => none
    | _ :: value => some (String.ofList value)
  match ofLong? name, value with
  | none, _ => .error .unknownArgument
  | some (.valued v), some value => r.attach v value
  | some (.valued v), none => r.expect v
  | some (.flag _), some _ => .error .unneededValue
  | some (.flag f), none => r.setFlag f true

/-- Meets an argument that begins with one dash, and of which this is the rest. -/
def readShort (r : Reading) : List Char → Except Refusal Reading
  | [] => .ok r
  | c :: cs =>
    match ofShort? c, cs with
    | none, _ => .error .unknownArgument
    | some (.valued v), [] => r.expect v
    | some (.valued v), '=' :: value => r.attach v (String.ofList value)
    | some (.valued v), value => r.attach v (String.ofList value)
    | some (.flag f), _ => do readShort (← r.setFlag f false) cs

/-- Meets an argument that is no option. -/
def readPlain (r : Reading) (arg : String) : Except Refusal Reading :=
  if r.arguments.url.isSome then .error .unknownArgument
  else do
    let r ← r.resolve
    return { r with arguments := { r.arguments with url := some arg } }

/-- Meets an argument. -/
def read (r : Reading) (arg : String) : Except Refusal Reading :=
  if r.ended then r.readPlain arg
  else match arg.toList with
    | ['-', '-'] => .ok { r with ended := true }
    | '-' :: '-' :: cs => r.readLong cs
    | '-' :: c :: cs => r.readShort (c :: cs)
    | _ =>
      match r.pending with
      | some (v, none) => .ok { r with pending := some (v, some arg) }
      | _ => r.readPlain arg

/-- The arguments at the end of the command line. There is either a URL or a scan. -/
def finish (r : Reading) : Except Refusal Arguments := do
  let a := (← r.resolve).arguments
  match a.url, a.scanStderr with
  | some _, true => throw .conflict
  | none, false => throw .missingUrl
  | _, _ => return a

end Reading

/-- Reads the arguments of a command line, without the name of the program. -/
def parse (args : List String) : Except Refusal Arguments := do
  (← args.foldlM Reading.read {}).finish

end StreamRelay.CommandLine
