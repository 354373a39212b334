import StreamRelay.Text.Blank

/-!
# Header fields

The names and values of header fields, when they are valid, and how a field is read from a text such
as `Referer: https://portal.example/`.
-/

namespace StreamRelay.Header

/-- The characters of a token. -/
def isTokenChar (c : Char) : Bool := c.isAlphanum || "!#$%&'*+-.^_|~`".toList.contains c

/-- The greatest length of a name. -/
def maxNameLength : Nat := 65535

/-- Whether a text is a valid name: a token that is neither empty nor too long. -/
def isName (name : String) : Bool :=
  !name.isEmpty && name.utf8ByteSize ≤ maxNameLength && name.toList.all isTokenChar

/-- Whether a text is a valid value: it has no control characters but the tab. -/
def isValue (value : String) : Bool :=
  value.toList.all (fun c => c == '\t' || (0x20 ≤ c.toNat && c.toNat != 0x7F))

/-- The form under which a name is kept; two names are one when it is the same. -/
def folded (name : String) : String := String.ofList (name.toList.map Char.toLower)

/-- A name and a value, as given. -/
structure Field where
  name : String
  value : String
deriving DecidableEq, Repr

/-- Whether both parts of a field are valid. -/
def Field.isValid (f : Field) : Bool := isName f.name && isValue f.value

/-- Why a text is no field. -/
inductive ParseError where
  /-- There is no colon in it. -/
  | noColon (raw : String)
  /-- There is no name before its colon. -/
  | noName (raw : String)
deriving DecidableEq, Repr

/-- The text of an error. -/
def ParseError.text : ParseError → String
  | noColon raw => s!"expected 'Name: value', got '{raw}'"
  | noName raw => s!"missing header name in '{raw}'"

/-- Reads a field: a name, the first colon, and a value, without the white space around each. -/
def Field.parse (raw : String) : Except ParseError Field :=
  let cs := raw.toList
  match cs.dropWhile (· != ':') with
  | [] => .error (.noColon raw)
  | _ :: rest =>
    let name := Text.trim (cs.takeWhile (· != ':'))
    if name.isEmpty then .error (.noName raw)
    else .ok ⟨String.ofList name, String.ofList (Text.trim rest)⟩

end StreamRelay.Header
