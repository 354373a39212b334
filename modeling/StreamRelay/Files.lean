import StreamRelay.Bytes
import StreamRelay.Fault.System

/-!
# Files

A tree of files, as far as creating and writing one file asks for it.
-/

namespace StreamRelay

/-- What is found under a path. -/
inductive Node where
  | directory
  | file (content : Bytes)
  /-- A device that takes in all that is written to it, and keeps nothing. -/
  | sink
  /-- A device that takes in nothing. -/
  | full
deriving DecidableEq, Repr

/-- A tree of files: paths as lists of names from the root, and the directory that relative paths
start from. -/
structure Files where
  nodes : List (List String × Node) := []
  current : List String := []
deriving DecidableEq, Repr

namespace Files

/-- What is found under a path; the root is always there. -/
def find? (f : Files) (path : List String) : Option Node :=
  if path.isEmpty then some .directory else f.nodes.lookup path

/-- Puts a node under a path. -/
def put (f : Files) (path : List String) (node : Node) : Files :=
  { f with nodes := (path, node) :: f.nodes.filter (·.1 != path) }

/-- The greatest length of a name, in bytes. -/
def maxName : Nat := 255

/-- The greatest length of a path, in bytes. -/
def maxPath : Nat := 4095

/-- The names in the text of a path; among them may be those of a directory itself and of the one
above it. -/
def names (path : String) : List String := (path.splitOn "/").filter (fun name => !name.isEmpty)

/-- The place that a name leads to from a directory. -/
def enter (place : List String) (name : String) : List String :=
  if name = "." then place else if name = ".." then place.dropLast else place ++ [name]

/-- The directory that names lead to from a directory, or the error code on the way. -/
def walk (f : Files) (place : List String) : List String → Except Int (List String)
  | [] => .ok place
  | name :: rest =>
    if maxName < name.utf8ByteSize then .error SystemError.nameTooLong
    else match f.find? (enter place name) with
      | some .directory => walk f (enter place name) rest
      | some _ => .error SystemError.notDirectory
      | none => .error SystemError.notFound

/-- Creates a file under a path, or empties the one that is there. The result is its place, or an
error code. A path that ends like that of a directory is refused as one, whatever is there. -/
def create (f : Files) (path : String) : Except Int (Files × List String) := do
  if path.isEmpty then throw SystemError.notFound
  if maxPath < path.utf8ByteSize then throw SystemError.nameTooLong
  let start := if path.startsWith "/" then [] else f.current
  let last := (names path).getLastD "."
  let parent ← f.walk start (names path).dropLast
  if path.endsWith "/" || last = "." || last = ".." then throw SystemError.isDirectory
  if maxName < last.utf8ByteSize then throw SystemError.nameTooLong
  let place := enter parent last
  match f.find? place with
  | some .directory => throw SystemError.isDirectory
  | some (.file _) | none => return (f.put place (.file []), place)
  | some _ => return (f, place)

/-- Appends bytes to what is found under a place, or gives an error code. -/
def append (f : Files) (place : List String) (bytes : Bytes) : Except Int Files :=
  match f.find? place with
  | some (.file content) => .ok (f.put place (.file (content ++ bytes)))
  | some .full => if bytes.isEmpty then .ok f else .error SystemError.noSpace
  | some .sink => .ok f
  | some .directory => .error SystemError.isDirectory
  | none => .error SystemError.notFound

end Files

end StreamRelay
