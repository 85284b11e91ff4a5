import RouteLens.Shell.Program

/-!
# Finding programs

What the name of a command leads to: what stands at its path if there is a slash in it, or else the
first program with that name in a directory that `PATH` lists.
-/

namespace RouteLens.Shell

/-- What a name of a command leads to. -/
inductive Found
  | program (path : Chars) (program : Program)
  | missing
  /-- There is something, but it is no program. -/
  | denied

namespace Found

/-- What stands at a path. -/
def ofPath (s : State) (path : Chars) : Found :=
  match s.files.resolve (Path.join s.dir (Chars.toBytes path)) with
  | .ok place => match Program.ofPlace? place with
    | some found => .program path found
    | none => .denied
  | .error _ => .missing

/-- The paths that a name has in some directories; a directory without a name is that of the
shell. -/
def paths (directories name : Chars) : List Chars :=
  (directories.splitOn ':').map fun dir => if dir.isEmpty then name else dir ++ '/' :: name

/-- What the first of some paths leads to that leads to a program; what is none is passed over, but
known to be there. -/
def search (s : State) (denied : Bool) : List Chars → Found
  | [] => if denied then .denied else .missing
  | path :: rest => match ofPath s path with
    | .program path found => .program path found
    | .missing => search s denied rest
    | .denied => search s true rest

/-- The directories that programs usually are in. -/
def usualDirectories : Chars :=
  "/usr/local/sbin:/usr/local/bin:/usr/sbin:/usr/bin:/sbin:/bin".toList

end Found

namespace Effect

/-- What the name of a command leads to. -/
def find (name : Chars) : Effect Found := do
  let s ← get
  if name.contains '/' then return .ofPath s name
  else return .search s false (Found.paths ((← valueOf? "PATH".toList).getD []) name)

/-- What the name of a command leads to where programs usually are. -/
def findUsual (name : Chars) : Effect Found := do
  let s ← get
  if name.contains '/' then return .ofPath s name
  else return .search s false (Found.paths Found.usualDirectories name)

end Effect

end RouteLens.Shell
