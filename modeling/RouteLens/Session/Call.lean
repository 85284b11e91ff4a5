import RouteLens.Session.Params
import RouteLens.Session.Unoffered

/-!
# Calls

What a client calls: requests, which are answered, and notifications, which are not. A method is
one or the other, whichever way it is called.
-/

namespace RouteLens

/-- A message from the client. -/
structure Call where
  method : String
  params : Option Json := none
  /-- Whether it is sent as a notification. -/
  notify : Bool := false

/-- A request that is offered. -/
inductive Request
  | begin (workspace : Workspace)
  | codeLens (uri : Url)
  | executeCommand (command : String)
  | shutdown
  deriving DecidableEq, Repr

/-- A notification that is listened to. -/
inductive Notification
  | initialized
  | document (event : DocumentEvent)
  deriving DecidableEq, Repr

/-- The methods of requests that are offered. -/
inductive RequestMethod
  | begin
  | codeLens
  | executeCommand
  | shutdown
  deriving DecidableEq, Repr

/-- The methods of notifications that are listened to. -/
inductive NotificationMethod
  | initialized
  | opened
  | changed
  | saved
  | closed
  deriving DecidableEq, Repr

namespace RequestMethod

/-- The request that a method with parameters makes. -/
def decode? : RequestMethod → Option Json → Option Request
  | begin, params => (params.bind Params.workspace?).map .begin
  | codeLens, params => (params.bind Params.codeLens?).map .codeLens
  | executeCommand, params => (params.bind Params.command?).map .executeCommand
  | shutdown, none => some .shutdown
  | shutdown, some _ => none

end RequestMethod

namespace NotificationMethod

/-- The notification that a method with parameters makes. -/
def decode? (method : NotificationMethod) (params : Option Json) : Option Notification :=
  params.bind fun params => match method with
    | initialized => (params.record? []).map fun _ => .initialized
    | opened => (Params.opened? params).map .document
    | changed => (Params.changed? params).map .document
    | saved => (Params.saved? params).map .document
    | closed => (Params.closed? params).map .document

end NotificationMethod

/-- What a method is. -/
inductive Method
  | request (method : RequestMethod)
  | notification (method : NotificationMethod)
  /-- Ends everything at once. -/
  | exit
  /-- A request of the protocol that is not offered, with the shape of its parameters. -/
  | unofferedRequest (params : Shape)
  /-- A notification of the protocol that nobody listens to. -/
  | unheardNotification
  /-- No method of the protocol. -/
  | unknown

namespace Method

/-- The methods that do something, by name. -/
def known : List (String × Method) :=
  [("initialize", .request .begin),
    ("shutdown", .request .shutdown),
    ("textDocument/codeLens", .request .codeLens),
    ("workspace/executeCommand", .request .executeCommand),
    ("initialized", .notification .initialized),
    ("textDocument/didOpen", .notification .opened),
    ("textDocument/didChange", .notification .changed),
    ("textDocument/didSave", .notification .saved),
    ("textDocument/didClose", .notification .closed),
    ("exit", .exit)]

/-- The names of notifications of the protocol that nobody listens to. -/
def unheardNotifications : List String :=
  ["textDocument/willSave", "workspace/didChangeConfiguration",
    "workspace/didChangeWorkspaceFolders", "workspace/didCreateFiles", "workspace/didRenameFiles",
    "workspace/didDeleteFiles", "workspace/didChangeWatchedFiles"]

/-- What the method with a name is. -/
def ofName (name : String) : Method :=
  match known.lookup name with
  | some method => method
  | none => match Unoffered.requests.lookup name with
    | some params => .unofferedRequest params
    | none => if unheardNotifications.contains name then .unheardNotification else .unknown

/-- Whether a method without a meaning is passed over in silence. -/
def isSilent (name : String) : Bool :=
  "$/".toList.isPrefixOf name.toList

end Method

end RouteLens
