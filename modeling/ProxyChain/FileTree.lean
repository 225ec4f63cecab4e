import ProxyChain.Path
import ProxyChain.Table

/-!
# File trees

Files and directories by the names that lead to them. Every step of a path has to lead through a
directory; a single dot stays where it is and two dots lead back up. An empty path leads nowhere, and
paths and names are limited in length.
-/

namespace ProxyChain

/-- What stands at a place. -/
inductive FileTree.Node where
  | directory
  | file (contents : String)
  deriving DecidableEq, Repr

/-- A place: the names that lead to it from the root. -/
abbrev FileTree.Place := List Path

/-- What stands at each place. The root is a directory and is not listed. -/
abbrev FileTree := Table FileTree.Place FileTree.Node

/-- Why a file or directory cannot be used. -/
inductive FileError where
  | notFound
  | exists
  | notDirectory
  | isDirectory
  | nameTooLong
  /-- The path holds a null character. -/
  | nullCharacter
  deriving DecidableEq, Repr

/-- What went wrong, in words, with the system's number for it if it was asked. -/
def FileError.message : FileError → String
  | notFound => "No such file or directory (os error 2)"
  | .exists => "File exists (os error 17)"
  | notDirectory => "Not a directory (os error 20)"
  | isDirectory => "Is a directory (os error 21)"
  | nameTooLong => "File name too long (os error 36)"
  | nullCharacter => "file name contained an unexpected NUL byte"

namespace FileTree

/-- The names between slashes, of which `read` are the first bytes of the first one. Nothing between two
slashes is no name. -/
def namesFrom (read : Wire.Bytes) : Wire.Bytes → List Path
  | [] => if read.isEmpty then [] else [⟨read⟩]
  | b :: rest =>
    if b = Path.slash then (if read.isEmpty then [] else [⟨read⟩]) ++ namesFrom [] rest
    else namesFrom (read ++ [b]) rest

/-- The names in a path. A slash at its end asks for a directory, as a single dot does. -/
def names (path : Path) : List Path :=
  namesFrom [] path.bytes ++ if path.bytes.getLast? == some Path.slash then [Path.ofText "."] else []

/-- What stands at a place. -/
def node? (t : FileTree) (place : Place) : Option Node :=
  if place.isEmpty then some .directory else t.get? place

/-- Whether a directory stands at a place. -/
def isDirectory (t : FileTree) (place : Place) : Bool := t.node? place == some .directory

/-- The place that a name leads to. -/
def enter (place : Place) (name : Path) : Place :=
  if name = Path.ofText "." then place else if name = Path.ofText ".." then place.dropLast else place ++ [name]

/-- The most bytes in a name. -/
def longestName : Nat := 255

/-- The most bytes in a path. -/
def longestPath : Nat := 4095

/-- The place that names lead to. There may be nothing there, but all before are directories. -/
def follow (t : FileTree) : Place → List Path → Except FileError Place
  | place, [] => .ok place
  | place, name :: rest =>
    match t.node? place with
    | none => .error .notFound
    | some (.file _) => .error .notDirectory
    | some .directory =>
      if longestName < name.bytes.length then .error .nameTooLong
      else t.follow (enter place name) rest

/-- The place that names lead to from the root. -/
def locate (t : FileTree) (names : List Path) : Except FileError Place := t.follow [] names

/-- The names in a path that may be asked for. -/
def checkedNames (path : Path) : Except FileError (List Path) :=
  if path.bytes.contains 0 then .error .nullCharacter
  else if path.bytes.isEmpty then .error .notFound
  else if longestPath < path.bytes.length then .error .nameTooLong
  else .ok (names path)

/-- Creates one directory. -/
def makeDirectory (t : FileTree) (names : List Path) : Except FileError FileTree := do
  let place ← t.locate names
  if (t.node? place).isSome then throw .exists
  return t.set place .directory

/-- Whether names lead to a directory. -/
def leadsToDirectory (t : FileTree) (names : List Path) : Bool :=
  match t.locate names with
  | .ok place => t.isDirectory place
  | .error _ => false

/-- The tree after an operation that changes nothing when it fails. -/
def after (t : FileTree) : Except FileError FileTree → Except FileError Unit × FileTree
  | .ok t => (.ok (), t)
  | .error e => (.error e, t)

/-- Creates one directory, unless it is there. -/
def ensureDirectory (t : FileTree) (names : List Path) : Except FileError Unit × FileTree :=
  t.after <|
    match t.makeDirectory names with
    | .ok t => .ok t
    | .error e => if t.leadsToDirectory names then .ok t else .error e

/-- Creates a directory whose names are given last first. If the one above it is missing, that is
created before, and stays there if the directory itself cannot be created. -/
def ensureAll (t : FileTree) : (reversed : List Path) → Except FileError Unit × FileTree
  | [] => (.ok (), t)
  | name :: above =>
    let names := (name :: above).reverse
    match t.makeDirectory names with
    | .error .notFound =>
      match t.ensureAll above with
      | (.ok (), t) => t.ensureDirectory names
      | failed => failed
    | .error _ | .ok _ => t.ensureDirectory names

/-- Creates a directory and those above it, as far as they are missing. There is nothing to create
for an empty path. -/
def createDirectory (t : FileTree) (path : Path) : Except FileError Unit × FileTree :=
  if path.bytes.isEmpty then (.ok (), t)
  else
    match checkedNames path with
    | .ok names => t.ensureAll names.reverse
    | .error e => (.error e, t)

/-- The contents of a file. -/
def read (t : FileTree) (path : Path) : Except FileError String := do
  match t.node? (← t.locate (← checkedNames path)) with
  | some (.file contents) => return contents
  | some .directory => throw .isDirectory
  | none => throw .notFound

/-- Writes a file, over what it held before. -/
def write (t : FileTree) (path : Path) (contents : String) : Except FileError FileTree := do
  let place ← t.locate (← checkedNames path)
  if t.isDirectory place then throw .isDirectory
  return t.set place (.file contents)

/-- Deletes a file. -/
def delete (t : FileTree) (path : Path) : Except FileError FileTree := do
  let place ← t.locate (← checkedNames path)
  match t.node? place with
  | some (.file _) => return t.erase place
  | some .directory => throw .isDirectory
  | none => throw .notFound

/-- The paths of everything below a place, as they are shown. -/
def below (t : FileTree) (place : Place) : List String :=
  (t.keys.filter fun p => place.isPrefixOf p && p != place).map fun p => "/".intercalate (p.map Path.display)

end FileTree

end ProxyChain
