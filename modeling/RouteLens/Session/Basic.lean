import RouteLens.Session.Call
import RouteLens.Session.Server

/-!
# Sessions

A session from before its beginning to after its end, one call at a time, between changes of the
files from outside. A session begins with the first `initialize` whose parameters can be decoded,
and serves until `shutdown`; requests at any other time are refused, and notifications dropped.
-/

namespace RouteLens

/-- How far a session has come. -/
inductive Lifecycle
  | fresh
  | serving (server : Server)
  | stopped
  | exited

/-- A session and the files around it. -/
structure Session where
  files : FileTree := {}
  lifecycle : Lifecycle := .fresh

/-- Something that happens to a session. -/
inductive SessionStep
  | write (path : Path) (entry : Entry)
  | remove (path : Path)
  | read (path : Path)
  | call (call : Call)

/-- What can be seen of a step. -/
inductive SessionAnswer
  | written
  | removed (done : Bool)
  | text (text : Option String)
  | reply (reply : Reply)
  /-- Nobody is there any more. -/
  | exited

namespace Session

/-- Refuses a call: a request is told why, a notification is dropped. -/
def refuse (call : Call) (refusal : Refusal) : Reply :=
  if call.notify then {} else { answer := some (.error refusal) }

/-- The session with a server that serves, and files. -/
def withServer (files : FileTree) (server : Server) : Session :=
  ⟨files, .serving server⟩

/-- Carries out a request of a session that serves. -/
def serveRequest (launch : Launcher) (files : FileTree) (server : Server) :
    Request → Reply × Session
  | .begin _ => ({ answer := some (.error .invalidRequest) }, withServer files server)
  | .codeLens uri =>
    let (reply, server, files) := server.codeLens launch files uri
    (reply, withServer files server)
  | .executeCommand command =>
    let (reply, server, files) := server.executeCommand launch files command
    (reply, withServer files server)
  | .shutdown => (.ofAnswer .nothing, ⟨files, .stopped⟩)

/-- Takes in a notification of a session that serves. -/
def serveNotification (files : FileTree) (server : Server) : Notification → Reply × Session
  | .initialized => ({ messages := server.announcement files }, withServer files server)
  | .document event =>
    ({}, withServer files { server with documents := server.documents.apply event })

/-- Carries out a call of a session that serves. A call to stop stops it however it is made. -/
def serve (launch : Launcher) (files : FileTree) (server : Server) (call : Call) :
    Method → Reply × Session
  | .request .begin => (refuse call .invalidRequest, withServer files server)
  | .request method =>
    let left := if method = .shutdown then ⟨files, .stopped⟩ else withServer files server
    if call.notify then ({}, left)
    else match method.decode? call.params with
      | some request => serveRequest launch files server request
      | none => (refuse call .invalidParams, left)
  | .notification method =>
    if call.notify then match method.decode? call.params with
      | some notification => serveNotification files server notification
      | none => ({}, withServer files server)
    else (refuse call .invalidRequest, withServer files server)
  | .unofferedRequest params =>
    (refuse call (if call.params.any params.accepts then .methodNotFound else .invalidParams),
      withServer files server)
  | .unheardNotification => (refuse call .invalidRequest, withServer files server)
  | _ => ({}, withServer files server)

/-- Begins a session, if the call says with what. -/
def begin (files : FileTree) (call : Call) : Reply × Session :=
  if call.notify then ({}, ⟨files, .fresh⟩)
  else match call.params.bind Params.workspace? with
    | some workspace => (.ofAnswer .capabilities, withServer files (Server.start files workspace))
    | none => (refuse call .invalidParams, ⟨files, .fresh⟩)

/-- Carries out a call of a method. -/
def dispatch (launch : Launcher) (s : Session) (call : Call) (method : Method) :
    Reply × Session :=
  match method with
  | .exit => ({}, { s with lifecycle := .exited })
  | .unknown =>
    (if Method.isSilent call.method then {} else refuse call .methodNotFound, s)
  | method => match s.lifecycle with
    | .fresh => match method with
      | .request .begin => begin s.files call
      | _ => (refuse call .notInitialized, s)
    | .serving server => serve launch s.files server call method
    | .stopped => (refuse call .invalidRequest, s)
    | .exited => ({}, s)

/-- Carries out a step. -/
def step (launch : Launcher) (s : Session) (step : SessionStep) : SessionAnswer × Session :=
  match s.lifecycle with
  | .exited => (.exited, s)
  | _ => match step with
    | .write path entry =>
      (.written, { s with files := (s.files.place path entry).toOption.getD s.files })
    | .remove path => match s.files.remove path with
      | .ok files => (.removed true, { s with files })
      | .error _ => (.removed false, s)
    | .read path => (.text (s.files.readText? path), s)
    | .call call =>
      let (reply, s) := s.dispatch launch call (Method.ofName call.method)
      (.reply reply, s)

/-- Carries out steps in order. -/
def run (launch : Launcher) (s : Session) : List SessionStep → List SessionAnswer × Session
  | [] => ([], s)
  | first :: rest =>
    let (answer, s) := s.step launch first
    let (answers, last) := s.run launch rest
    (answer :: answers, last)

end Session

end RouteLens
