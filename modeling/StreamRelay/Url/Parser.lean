import StreamRelay.Url.Host

/-!
# Reading URLs

How a URL is read from a text that is not relative to another URL: scheme, credentials, host, port,
path, query and fragment.
-/

namespace StreamRelay.Url

/-- Whether a character is taken away around a URL. -/
def isPadding (c : Char) : Bool := c.toNat ≤ 0x20

/-- The text of a URL without what is around it, and without line ends and tabs within. -/
def cleaned (cs : List Char) : List Char :=
  let inner := ((cs.dropWhile isPadding).reverse.dropWhile isPadding).reverse
  inner.filter (fun c => !(c == '\t' || c == '\n' || c == '\r'))

/-- Whether a character may stand in a scheme behind its first letter. -/
def isSchemeChar (c : Char) : Bool := c.isAlphanum || c == '+' || c == '-' || c == '.'

/-- The scheme that a text begins with, in lower case, and what stands behind its colon. -/
def scheme? (cs : List Char) : Option (List Char × List Char) :=
  match cs, cs.dropWhile isSchemeChar with
  | c :: _, ':' :: rest =>
    if c.isAlpha then some ((cs.takeWhile isSchemeChar).map Char.toLower, rest) else none
  | _, _ => none

/-- Whether a character separates the segments of a path. -/
def isSlash (special : Bool) (c : Char) : Bool := c == '/' || (special && c == '\\')

/-- Whether a character ends the part of a URL that names its host. -/
def endsAuthority (special : Bool) (c : Char) : Bool := isSlash special c || c == '?' || c == '#'

/-- What stands before the last `@` of a text, if there is one, and what stands behind it. -/
def splitCredentials (cs : List Char) : Option (List Char) × List Char :=
  let back := cs.reverse
  match back.dropWhile (· != '@') with
  | [] => (none, cs)
  | _ :: before => (some before.reverse, (back.takeWhile (· != '@')).reverse)

/-- The length of the host at the start of a text; a colon between brackets is part of it. -/
def hostLength (inBrackets : Bool) : List Char → Nat
  | [] => 0
  | c :: cs =>
    if c == ':' && !inBrackets then 0
    else hostLength (if c == '[' then true else if c == ']' then false else inBrackets) cs + 1

/-- The port that digits stand for; there may be none. -/
def port? (cs : List Char) : Option (Option UInt16) :=
  if cs.isEmpty then some none
  else if cs.all Char.isDigit then
    match Numeral.value 10 cs with
    | some n => if n < UInt16.size then some (some n.toUInt16) else none
    | none => none
  else none

/-- The user name and the password in credentials, in encoded form. -/
def splitUser (cs : List Char) : List Char × List Char :=
  (Percent.encode Percent.inUserInfo (cs.takeWhile (· != ':')),
    Percent.encode Percent.inUserInfo ((cs.dropWhile (· != ':')).drop 1))

/-- The parts of a text between the slashes in it. -/
def splitSlashes (special : Bool) : List Char → List (List Char)
  | [] => [[]]
  | c :: cs =>
    if isSlash special c then [] :: splitSlashes special cs
    else match splitSlashes special cs with
      | [] => [[c]]
      | p :: ps => (c :: p) :: ps

/-- Whether a segment stands for the place where it is. -/
def isHere (segment : List Char) : Bool :=
  [".", "%2e"].contains (String.ofList (segment.map Char.toLower))

/-- Whether a segment stands for the place above. -/
def isAbove (segment : List Char) : Bool :=
  ["..", ".%2e", "%2e.", "%2e%2e"].contains (String.ofList (segment.map Char.toLower))

/-- Whether a text names a drive, as `c:` does. -/
def isDrive (cs : List Char) : Bool :=
  match cs with
  | [c, d] => c.isAlpha && (d == ':' || d == '|')
  | _ => false

/-- The segments of a path, of which `done` holds those before the given ones, back to front. No
segment leads up from a drive. -/
def resolveSegments (done : List (List Char)) : List (List Char) → List (List Char)
  | [] => done.reverse
  | s :: rest =>
    let last := rest.isEmpty
    if isAbove s then
      let above := if done.head?.any isDrive then done else done.drop 1
      resolveSegments (if last then [] :: above else above) rest
    else if isHere s then resolveSegments (if last then [] :: done else done) rest
    else resolveSegments (Percent.encode Percent.inPath s :: done) rest

/-- The path that a text stands for. A URL with a special scheme has at least one segment. -/
def pathOf (special : Bool) (cs : List Char) : UrlPath :=
  match cs with
  | [] => .segments (if special then [[]] else [])
  | c :: rest =>
    .segments (resolveSegments [] (splitSlashes special (if isSlash special c then rest else cs)))

/-- A URL with the path, the query and the fragment that a text stands for. -/
def withRest (u : Url) (toPath : List Char → UrlPath) (cs : List Char) : Url :=
  let special := isSpecial u.scheme
  let beforeFragment := cs.takeWhile (· != '#')
  let fragment := (cs.dropWhile (· != '#')).drop 1
  let beforeQuery := beforeFragment.takeWhile (· != '?')
  let query := (beforeFragment.dropWhile (· != '?')).drop 1
  { u with
    path := toPath beforeQuery
    query :=
      if beforeFragment.contains '?' then
        some (Percent.encode (if special then Percent.inSpecialQuery else Percent.inQuery) query)
      else none
    fragment :=
      if cs.contains '#' then some (Percent.encode Percent.inFragment fragment) else none }

/-- A URL that names its host at the start of a text. Only where the scheme is not special may the
host be missing, and then there is no port, no user and no password, and a lone `@` ends the text.
A backslash ends the port. -/
def ofAuthority? (scheme : List Char) (cs : List Char) : Option Url := do
  let special := isSpecial scheme
  let authority := cs.takeWhile (fun c => !endsAuthority special c)
  let after := cs.dropWhile (fun c => !endsAuthority special c)
  let (credentials, place) := splitCredentials authority
  let (user, password) := (credentials.map splitUser).getD ([], [])
  let length := hostLength false place
  let hostText := place.take length
  let portText := place.drop length
  let portEnd := (portText.drop 1).dropWhile (· != '\\')
  if hostText.isEmpty &&
      (special || !portText.isEmpty || !user.isEmpty || !password.isEmpty ||
        (credentials = some [] && !after.isEmpty)) then none
  else
    let host ← if hostText.isEmpty then some (.other []) else Host.ofText? special hostText
    let port ← port? ((portText.drop 1).takeWhile (· != '\\'))
    let u : Url :=
      { scheme, user, password, host := some host
        port := if port = usualPort scheme then none else port
        path := .segments [] }
    return u.withRest (pathOf special) (portEnd ++ after)

/-- A URL of a file. Its host may be missing. -/
def ofFile? (cs : List Char) : Option Url :=
  let scheme := "file".toList
  let base : Url := { scheme, host := some (.other []), path := .segments [] }
  match cs with
  | a :: b :: rest =>
    if isSlash true a && isSlash true b then
      let name := rest.takeWhile (fun c => !endsAuthority true c)
      let after := rest.dropWhile (fun c => !endsAuthority true c)
      if isDrive name then some (base.withRest (pathOf true) rest)
      else if name.isEmpty then some (base.withRest (pathOf true) after)
      else do
        let host ← Host.ofText? true name
        let own := host = .name "localhost".toList
        return { base with host := some (if own then .other [] else host) }.withRest (pathOf true)
          after
    else some (base.withRest (pathOf true) cs)
  | _ => some (base.withRest (pathOf true) cs)

/-- The URL that a text stands for. -/
def parse? (text : String) : Option Url := do
  let (scheme, rest) ← scheme? (cleaned text.toList)
  if scheme = "file".toList then ofFile? rest
  else if isSpecial scheme then ofAuthority? scheme (rest.dropWhile (isSlash true))
  else
    match rest with
    | '/' :: '/' :: rest => ofAuthority? scheme rest
    | '/' :: _ => return ({ scheme, path := .segments [] } : Url).withRest (pathOf false) rest
    | _ =>
      let flat cs := UrlPath.flat (Percent.encode Percent.isControl cs)
      return ({ scheme, path := .segments [] } : Url).withRest flat rest

end StreamRelay.Url
