import RouteLens.Files.Path
import RouteLens.Files.OsError

/-!
# File trees

The files, directories and symbolic links below a root, and what paths lead to. A path is followed
name by name: every name but the last must lead to a directory, links are followed wherever they
stand, and a path that ends in a slash leads to a directory. Names are limited to 255 octets, paths
to fewer than 4096, and a path may pass through 40 links.
-/

namespace RouteLens

/-- What stands at a place of a tree. -/
inductive Entry
  | file (content : Bytes)
  | directory
  | link (target : Path)
  deriving DecidableEq, Repr

/-- A place in a tree: the names from the root. -/
abbrev Place := List Bytes

/-- The entries of a tree by place, the newest first; the root itself is always a directory. -/
structure FileTree where
  entries : List (Place × Entry) := []
  deriving Repr

namespace FileTree

/-- The longest name. -/
def maxName : Nat := 255

/-- The bound that paths stay below. -/
def maxPath : Nat := 4096

/-- The most links that one path may pass through. -/
def maxLinks : Nat := 40

/-- The name that leads to the directory itself. -/
def here : Bytes := Utf8.encodeString "."

/-- The name that leads to the directory above. -/
def above : Bytes := Utf8.encodeString ".."

/-- What stands at a place. -/
def entry? (t : FileTree) (place : Place) : Option Entry :=
  if place.isEmpty then some .directory else t.entries.lookup place

/-- Puts an entry at a place. -/
def put (t : FileTree) (place : Place) (e : Entry) : FileTree :=
  ⟨(place, e) :: t.entries.filter (·.1 ≠ place)⟩

/-- Removes what stands at a place. -/
def erase (t : FileTree) (place : Place) : FileTree :=
  ⟨t.entries.filter (·.1 ≠ place)⟩

/-- The names in the directory at a place. -/
def children (t : FileTree) (place : Place) : List Bytes :=
  t.entries.filterMap fun (p, _) =>
    match p.getLast? with
    | some name => if p.dropLast = place then some name else none
    | none => none

/-- Follows names from a place, through at most `links` links. With `create` the last name may lead
to nothing yet. -/
def walk (t : FileTree) (create : Bool) (links : Nat) (place : Place) :
    List Bytes → Except OsError Place
  | [] => .ok place
  | name :: rest =>
    if t.entry? place ≠ some .directory then .error .notDirectory
    else if name = [] ∨ name = here then t.walk create links place rest
    else if name = above then t.walk create links place.dropLast rest
    else if name.length > maxName then .error .nameTooLong
    else match t.entry? (place ++ [name]) with
      | none => if create && rest.isEmpty then .ok (place ++ [name]) else .error .noEntry
      | some (.link target) => match links with
        | 0 => .error .tooManyLinks
        | links + 1 =>
          t.walk create links (if Path.isAbsolute target then [] else place)
            (Path.names target ++ rest)
      | some _ => t.walk create links (place ++ [name]) rest
termination_by names => (links, names.length)

/-- The names of a path that can be followed at all. -/
def checkPath (p : Path) : Except OsError (List Bytes) :=
  if p.contains 0 then .error .invalidArgument
  else if p.isEmpty then .error .noEntry
  else if p.length ≥ maxPath then .error .nameTooLong
  else .ok (Path.names p)

/-- The place that an absolute path leads to. -/
def resolve (t : FileTree) (p : Path) : Except OsError Place := do
  t.walk false maxLinks [] (← checkPath p)

/-- The place that an absolute path leads to, or would lead to once its last name is created. -/
def resolveNew (t : FileTree) (p : Path) : Except OsError Place := do
  t.walk true maxLinks [] (← checkPath p)

/-- Whether a path leads to something. -/
def pathExists (t : FileTree) (p : Path) : Bool :=
  match t.resolve p with
  | .ok _ => true
  | .error _ => false

/-- Whether a path leads to a directory. -/
def isDirectory (t : FileTree) (p : Path) : Bool :=
  match t.resolve p with
  | .ok place => t.entry? place = some .directory
  | .error _ => false

/-- The content of the file that a path leads to. -/
def read (t : FileTree) (p : Path) : Except OsError Bytes := do
  match t.entry? (← t.resolve p) with
  | some (.file content) => .ok content
  | _ => .error .isDirectory

/-- The text of the file that a path leads to, if there is one and it is UTF-8. -/
def readText? (t : FileTree) (p : Path) : Option String :=
  match t.read p with
  | .ok content => Utf8.decode? content
  | .error _ => none

/-- Writes the file that a path leads to. -/
def write (t : FileTree) (p : Path) (content : Bytes) : Except OsError FileTree := do
  let place ← t.resolveNew p
  match t.entry? place with
  | some .directory => .error .isDirectory
  | _ => .ok (t.put place (.file content))

/-- Makes the directories that names lead to from a place, where they are missing. -/
def makeDirectoriesFrom (t : FileTree) (place : Place) : List Bytes → Except OsError FileTree
  | [] => .ok t
  | name :: rest => do
    let next ← t.walk true maxLinks place [name]
    match t.entry? next with
    | some .directory => t.makeDirectoriesFrom next rest
    | some _ => .error .alreadyExists
    | none => (t.put next .directory).makeDirectoriesFrom next rest

/-- Makes a directory and those above it, where they are missing. -/
def makeDirectories (t : FileTree) (p : Path) : Except OsError FileTree := do
  t.makeDirectoriesFrom [] (← checkPath p)

/-- The path without its last name and the slash before that. -/
def parent (p : Path) : Path :=
  (p.reverse.dropWhile (· ≠ Path.slash)).drop 1 |>.reverse

/-- The last name of a path. -/
def lastName (p : Path) : Bytes :=
  (p.reverse.takeWhile (· ≠ Path.slash)).reverse

/-- The place of the entry that a path names itself, a link not followed. -/
def placeItself (t : FileTree) (p : Path) : Except OsError Place := do
  let _ ← checkPath p
  let place ← t.walk false maxLinks [] (Path.names (parent p))
  if t.entry? place = some .directory then .ok (place ++ [lastName p]) else .error .notDirectory

/-- Puts an entry at a path, after making the directories above it. -/
def place (t : FileTree) (p : Path) : Entry → Except OsError FileTree
  | .directory => t.makeDirectories p
  | .file content => do
    let t ← if (parent p).isEmpty then .ok t else t.makeDirectories (parent p)
    t.write p content
  | .link target => do
    let t ← if (parent p).isEmpty then .ok t else t.makeDirectories (parent p)
    let spot ← t.placeItself p
    match t.entry? spot with
    | none => .ok (t.put spot (.link target))
    | some _ => .error .alreadyExists

/-- Removes the file or link that a path names. -/
def remove (t : FileTree) (p : Path) : Except OsError FileTree := do
  let spot ← t.placeItself p
  match t.entry? spot with
  | none => .error .noEntry
  | some .directory => .error .isDirectory
  | some _ => .ok (t.erase spot)

end FileTree

end RouteLens
