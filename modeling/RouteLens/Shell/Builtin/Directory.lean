import RouteLens.Shell.Builtin.Basic

/-!
# The directory of a shell

The commands `cd` and `pwd`. Unless it is asked for otherwise, a name that leads up takes back the
name before it, wherever that leads.
-/

namespace RouteLens.Shell

namespace Builtin

open Effect

/-- The names of a path without those that lead back. -/
def withoutDots (done : List Bytes) : List Bytes → List Bytes
  | [] => done.reverse
  | name :: rest =>
    if name.isEmpty || name = FileTree.here then withoutDots done rest
    else if name = FileTree.above then withoutDots done.tail rest
    else withoutDots (name :: done) rest

/-- The path with some names from the root. -/
def absolutePath (names : List Bytes) : Path :=
  Path.slash :: List.intercalate [Path.slash] names

/-- The path of a directory without links and names that lead back, as far as it is there. -/
def physicalPath (files : FileTree) (dir : Path) : Path :=
  match files.resolve dir with
  | .ok place => absolutePath place
  | .error _ => dir

/-- Whether links on the way count as what they lead to; the option given last decides. -/
def isPhysical (options : List Given) : Bool :=
  (options.getLast?.map (·.letter)) == some 'P'

/-- Whether a name is looked for among the paths of `CDPATH`. -/
def isSearched (target : Chars) : Bool :=
  match target with
  | '/' :: _ => false
  | ['.'] => false
  | '.' :: '/' :: _ => false
  | ['.', '.'] => false
  | '.' :: '.' :: '/' :: _ => false
  | _ => true

/-- The first path of `CDPATH` that leads to a directory with a name, and that directory as seen
from the shell. -/
def searched? (s : State) (target : Chars) : Option (Chars × Chars) :=
  let paths := match (s.bindings.lookup "CDPATH".toList).bind Variable.value with
    | some paths => paths.splitOn ':'
    | none => []
  paths.findSome? fun path =>
    let full := if path.isEmpty then target else path ++ '/' :: target
    if s.files.isDirectory (Path.join s.dir (Chars.toBytes full)) then some (path, full) else none

/-- Gives an exported variable a value. -/
def assignExported (name : String) (value : Chars) : Effect Unit := do
  assign name.toList value
  putVariable name.toList (some { value := some value, exported := true })

/-- Changes the directory of the shell. -/
def changeDirectory (args : List Chars) : Effect Nat := do
  let (options, operands) ← takeOptions "LP" args
  let (target, shows) ← match operands with
    | [] => do pure ((← valueOf? "HOME".toList).getD [], false)
    | ['-'] :: _ => do pure ((← valueOf? "OLDPWD".toList).getD [], true)
    | operand :: _ => pure (operand, false)
  let s ← get
  let asked := if target.isEmpty then ['.'] else target
  let (path, shows) := match if isSearched target then searched? s asked else none with
    | some (found, full) => (full, shows || !found.isEmpty)
    | none => (asked, shows)
  let full := Path.join s.dir (Chars.toBytes path)
  let dir :=
    if isPhysical options then physicalPath s.files full
    else absolutePath (withoutDots [] (Path.names full))
  if s.files.isDirectory dir then
    assignExported "OLDPWD" (Chars.ofBytes s.dir)
    assignExported "PWD" (Chars.ofBytes dir)
    modify fun s => { s with dir }
    if shows then print (Chars.ofBytes dir ++ ['\n']) else return 0
  else fatal ("can't cd to ".toList ++ asked)

/-- Writes the directory of the shell. -/
def printDirectory (args : List Chars) : Effect Nat := do
  let (options, _) ← takeOptions "LP" args
  let s ← get
  let dir := if isPhysical options then physicalPath s.files s.dir else s.dir
  print (Chars.ofBytes dir ++ ['\n'])

end Builtin

end RouteLens.Shell
