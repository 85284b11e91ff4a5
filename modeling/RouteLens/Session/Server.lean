import RouteLens.Cache.Basic
import RouteLens.Session.Message
import RouteLens.Session.Params

/-!
# Serving a workspace

What a session does between its beginning and its end: it announces its workspace, keeps documents
and the route table, and answers requests for lenses and commands. A fetch in it reads the files and
may change them.
-/

namespace RouteLens

/-- A session under way. -/
structure Server where
  config : Config
  cache : RouteCache
  documents : Documents := {}

/-- What came of a call: messages to the client in order, the answer to a request, and the fetch
that was made, if there was one. -/
structure Reply where
  messages : List ClientMessage := []
  answer : Option (Except Refusal Answer) := none
  fetch : Option Artisan.Fetch := none

namespace Reply

/-- No message, and an answer. -/
def ofAnswer (answer : Answer) : Reply :=
  { answer := some (.ok answer) }

end Reply

namespace Server

/-- A session that begins, with the configuration of its workspace. -/
def start (files : FileTree) (workspace : Workspace) : Server :=
  let root := workspace.root?
  { config := match root with
      | some dir => Config.load files dir
      | none => {}
    cache := { dir := root } }

/-- What a session says of its workspace once it has begun. -/
def announcement (s : Server) (files : FileTree) : List ClientMessage :=
  let workspace := match s.cache.dir with
    | some dir =>
      if Artisan.isProject files dir then .log .info ("Laravel project: " ++ Path.display dir)
      else .log .info ("No artisan in " ++ Path.display dir ++ ", route lenses disabled")
    | none => .log .warning "No workspace root, route lenses disabled"
  [.log .info "Laravel Routes Language Server initialized", workspace] ++
    if s.config.enabled then [] else [.log .info "Route lenses disabled by configuration"]

/-- Fetches the routes anew if there is a directory to fetch in: the server, the files, and the
fetch. -/
def refresh (launch : Launcher) (s : Server) (files : FileTree) :
    Server × FileTree × Option Artisan.Fetch :=
  match s.cache.start? with
  | none => (s, files, none)
  | some (dir, cache) =>
    let (fetch, files) := Artisan.fetch launch s.config dir files
    ({ s with cache := cache.finish (.ofExcept fetch.listing) }, files, some fetch)

/-- Fetches the routes if the table is still to be loaded. -/
def load (launch : Launcher) (s : Server) (files : FileTree) :
    Server × FileTree × Option Artisan.Fetch :=
  if s.cache.wantsLoad then s.refresh launch files else (s, files, none)

/-- Answers a request for the lenses of a document: none for what is no PHP file and where lenses
are not wanted; otherwise those of its text under the table, which is loaded first. -/
def codeLens (launch : Launcher) (s : Server) (files : FileTree) (uri : Url) :
    Reply × Server × FileTree :=
  if uri.isPhpFile && s.config.enabled then
    let (s, files, fetch) := s.load launch files
    let lenses := (s.documents.text? files uri).bind (Lens.ofSource s.cache.table)
    ({ Reply.ofAnswer (.lenses lenses) with fetch }, s, files)
  else (.ofAnswer (.lenses none), s, files)

/-- The token of the progress of a fetch. -/
def progressToken : String := "laravel-routes/refresh"

/-- The messages of a command that fetches the routes anew, for so many actions in the end. -/
def refreshMessages (actions : Nat) : List ClientMessage :=
  [.log .info "Refreshing Laravel routes...",
    .createProgress progressToken,
    .beginProgress progressToken "Loading Laravel routes",
    .endProgress progressToken ("Routes loaded for " ++ toString actions ++ " actions"),
    .refreshLenses,
    .log .info ("Laravel routes refreshed (" ++ toString actions ++ " actions)")]

/-- Carries out a command: fetches the routes anew, or warns of a name that no command has. -/
def executeCommand (launch : Launcher) (s : Server) (files : FileTree) (command : String) :
    Reply × Server × FileTree :=
  if command = refreshCommand then
    let (s, files, fetch) := s.refresh launch files
    let actions := s.cache.table.size
    ({ messages := refreshMessages actions, answer := some (.ok (.refreshed actions)), fetch },
      s, files)
  else
    ({ Reply.ofAnswer .nothing with
        messages := [.log .warning ("Unknown command: " ++ command)] }, s, files)

end Server

end RouteLens
