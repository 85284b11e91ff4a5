import RouteLens.Json.Record
import RouteLens.Text.Duration
import RouteLens.Files.Tree

/-!
# Configuration

The settings of a workspace, from a JSON file in its directory. A setting that the file leaves out
has its default, and a file that cannot be read or decoded counts as empty: never are some of its
settings taken and others not.
-/

namespace RouteLens

/-- The settings of a workspace. -/
structure Config where
  /-- Whether lenses are shown at all. -/
  enabled : Bool := true
  /-- The program that runs the script. -/
  php : String := "php"
  /-- The script that lists routes, as seen from the workspace. -/
  artisan : String := "artisan"
  /-- The arguments of the script. -/
  routeListArgs : List String := ["route:list", "--json"]
  /-- How many seconds the program may take. -/
  timeoutSecs : UInt64 := 30
  deriving DecidableEq, Repr

namespace Config

/-- The name of the file that holds the settings. -/
def fileName : String := "laravel-routes.json"

/-- The keys of the settings, in order. -/
def keys : List String := ["enabled", "php", "artisan", "routeListArgs", "timeoutSecs"]

/-- The settings that a record gives. -/
def ofRecord? (record : Record) : Option Config := do
  let standard : Config := {}
  let enabled ← record.get? 0 (.withDefault "enabled" Literal.bool? standard.enabled)
  let php ← record.get? 1 (.withDefault "php" Literal.string? standard.php)
  let artisan ← record.get? 2 (.withDefault "artisan" Literal.string? standard.artisan)
  let routeListArgs ← record.get? 3
    (.withDefault "routeListArgs" Literal.strings? standard.routeListArgs)
  let timeoutSecs ← record.get? 4
    (.withDefault "timeoutSecs" Literal.uint64? standard.timeoutSecs)
  some { enabled, php, artisan, routeListArgs, timeoutSecs }

/-- The settings that a text holds. -/
def decode? (text : String) : Option Config :=
  (Record.parse keys text).bind ofRecord?

/-- The settings in the file at a path; the defaults if there is none that can be decoded. -/
def loadFile (files : FileTree) (path : Path) : Config :=
  ((files.readText? path).bind decode?).getD {}

/-- The settings of the workspace in a directory. -/
def load (files : FileTree) (dir : Path) : Config :=
  loadFile files (Path.joinString dir fileName)

/-- How long the program may take. -/
def timeout (config : Config) : Duration :=
  { secs := config.timeoutSecs.toNat }

end Config

end RouteLens
