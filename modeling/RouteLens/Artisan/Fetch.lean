import RouteLens.Artisan.Child
import RouteLens.Config
import RouteLens.Text.Blank

/-!
# Fetching the route listing

Running a project's `artisan` script for the JSON text of its routes. A project without the script
has no routes, and no program is started for it; otherwise the outcome of the program is classified,
first by whether it ran to its end in time, then by its status, and last by its output.
-/

namespace RouteLens

/-- Why there is no listing. -/
inductive FetchError
  | io (failure : IoFailure)
  | exit (status stderr : String)
  | timeout (limit : Duration)
  | utf8 (fault : Utf8.Fault)
  deriving DecidableEq, Repr

namespace FetchError

/-- The wording of an error. -/
def message : FetchError → String
  | io failure => "Failed to run artisan: " ++ failure.message
  | exit status stderr => "artisan route:list exited with " ++ status ++ ": " ++ stderr
  | timeout limit => "artisan route:list timed out after " ++ limit.text
  | utf8 fault => "artisan output is not valid UTF-8: " ++ fault.message

end FetchError

namespace Artisan

/-- The script that makes a directory a project. -/
def standardScript : String := "artisan"

/-- The listing of a project without routes. -/
def emptyListing : String := "[]"

/-- Whether a script, as seen from a directory, leads to anything. -/
def hasScript (files : FileTree) (dir : Path) (script : String) : Bool :=
  files.pathExists (Path.joinString dir script)

/-- Whether a directory is a project. -/
def isProject (files : FileTree) (dir : Path) : Bool :=
  hasScript files dir standardScript

/-- What a program wrote for people to read. -/
def diagnostics (stderr : Bytes) : String :=
  String.ofList (Text.trim (Utf8.decodeLossy stderr).toList)

/-- The listing that the outcome of a command gives, or why there is none. -/
def classify (limit : Duration) : Outcome → Except FetchError String
  | .notStarted failure => .error (.io failure)
  | .notAwaited failure => .error (.io failure)
  | .overdue => .error (.timeout limit)
  | .ended status stdout stderr =>
    if status.isSuccess then
      match Utf8.decode stdout with
      | .ok listing => .ok listing
      | .error fault => .error (.utf8 fault)
    else .error (.exit status.text (diagnostics stderr))

/-- The command that lists the routes of the project in a directory. -/
def command (config : Config) (dir : Path) : Command :=
  { program := config.php
    args := config.artisan :: config.routeListArgs
    dir
    limit := config.timeout }

/-- A fetch that was made. -/
structure Fetch where
  listing : Except FetchError String
  /-- The command that was run, if there was one. -/
  ran : Option Command

/-- Fetches the route listing of the project in a directory: the fetch, and the files afterwards. -/
def fetch (launch : Launcher) (config : Config) (dir : Path) (files : FileTree) :
    Fetch × FileTree :=
  if hasScript files dir config.artisan then
    let command := command config dir
    let (outcome, files) := launch command files
    (⟨classify config.timeout outcome, some command⟩, files)
  else (⟨.ok emptyListing, none⟩, files)

end Artisan

end RouteLens
