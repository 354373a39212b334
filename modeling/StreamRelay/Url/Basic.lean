import StreamRelay.Address.Basic

/-!
# URLs

The parts of a URL and its text. All parts are kept in the form in which they are written.
-/

namespace StreamRelay

/-- The host of a URL. -/
inductive Host where
  /-- A name that a resolver may be asked for. -/
  | name (text : List Char)
  | address (a : Address)
  /-- The host of a URL whose scheme has no rules for hosts. -/
  | other (text : List Char)
deriving DecidableEq

/-- The text of a host within a URL. -/
def Host.text : Host → List Char
  | name text | other text => text
  | address (.v4 a) => a.text.toList
  | address (.v6 a _) => '[' :: a.groupText.toList ++ [']']

/-- The path of a URL. -/
inductive UrlPath where
  /-- A text without structure. -/
  | flat (text : List Char)
  /-- Segments, before each of which a slash is written. -/
  | segments (parts : List (List Char))
deriving DecidableEq

/-- The text of a path. -/
def UrlPath.text : UrlPath → List Char
  | flat text => text
  | segments parts => parts.flatMap ('/' :: ·)

/-- A URL. -/
structure Url where
  scheme : List Char
  user : List Char := []
  password : List Char := []
  host : Option Host := none
  port : Option UInt16 := none
  path : UrlPath
  query : Option (List Char) := none
  fragment : Option (List Char) := none
deriving DecidableEq

namespace Url

/-- The special schemes, with their usual ports. -/
def specialSchemes : List (String × Option UInt16) :=
  [("http", some 80), ("https", some 443), ("ws", some 80), ("wss", some 443), ("ftp", some 21),
    ("file", none)]

/-- The usual port of a scheme. -/
def usualPort (scheme : List Char) : Option UInt16 :=
  ((specialSchemes.lookup (String.ofList scheme)).getD none)

/-- Whether a scheme is one of the special ones. -/
def isSpecial (scheme : List Char) : Bool :=
  (specialSchemes.lookup (String.ofList scheme)).isSome

/-- The text of the credentials of a URL. -/
def credentials (u : Url) : List Char :=
  if u.user.isEmpty && u.password.isEmpty then []
  else u.user ++ (if u.password.isEmpty then [] else ':' :: u.password) ++ ['@']

/-- The text of the part of a URL that names its host. -/
def authority (u : Url) : List Char :=
  match u.host with
  | some host =>
    ['/', '/'] ++ u.credentials ++ host.text ++
      (u.port.elim [] (fun p => ':' :: (toString p).toList))
  | none =>
    match u.path with
    | .segments ([] :: _ :: _) => ['/', '.']
    | _ => []

/-- The characters of a URL. -/
def chars (u : Url) : List Char :=
  u.scheme ++ [':'] ++ u.authority ++ u.path.text ++ u.query.elim [] ('?' :: ·) ++
    u.fragment.elim [] ('#' :: ·)

/-- The text of a URL. -/
def text (u : Url) : String := String.ofList u.chars

end Url

end StreamRelay
