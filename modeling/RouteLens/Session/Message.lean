import RouteLens.Json.Basic
import RouteLens.Lens

/-!
# Messages

What a session sends: messages to the client on its own account, and answers to requests.
-/

namespace RouteLens

/-- How much a logged text matters. -/
inductive Severity
  | warning
  | info
  deriving DecidableEq, Repr

namespace Severity

/-- The number of a severity. -/
def code : Severity → Nat
  | warning => 2
  | info => 3

end Severity

/-- A message to the client. -/
inductive ClientMessage
  | log (severity : Severity) (text : String)
  /-- Asks for a progress display. -/
  | createProgress (token : String)
  | beginProgress (token title : String)
  | endProgress (token text : String)
  /-- Asks the client to ask for lenses anew. -/
  | refreshLenses
  deriving DecidableEq, Repr

namespace ClientMessage

/-- The method of a message. -/
def method : ClientMessage → String
  | log _ _ => "window/logMessage"
  | createProgress _ => "window/workDoneProgress/create"
  | beginProgress _ _ => "$/progress"
  | endProgress _ _ => "$/progress"
  | refreshLenses => "workspace/codeLens/refresh"

/-- Whether the client is to answer. -/
def isRequest : ClientMessage → Bool
  | createProgress _ => true
  | refreshLenses => true
  | _ => false

/-- The parameters of a message. -/
def params : ClientMessage → Json
  | log severity text =>
    .object [("type", .ofNat severity.code), ("message", .string text)]
  | createProgress token => .object [("token", .string token)]
  | beginProgress token title =>
    .object [("token", .string token), ("value", .object [("kind", .string "begin"),
      ("title", .string title), ("cancellable", .bool false)])]
  | endProgress token text =>
    .object [("token", .string token), ("value", .object [("kind", .string "end"),
      ("message", .string text)])]
  | refreshLenses => .null

end ClientMessage

/-- Why a request is refused. -/
inductive Refusal
  /-- The session has not begun. -/
  | notInitialized
  /-- The session has begun already, or is over. -/
  | invalidRequest
  | methodNotFound
  /-- The parameters cannot be decoded. -/
  | invalidParams
  deriving DecidableEq, Repr

namespace Refusal

/-- The number of a refusal. -/
def code : Refusal → Int
  | notInitialized => -32002
  | invalidRequest => -32600
  | methodNotFound => -32601
  | invalidParams => -32602

/-- The wording of a refusal; what is wrong with parameters has none. -/
def message? : Refusal → Option String
  | notInitialized => some "Server not initialized"
  | invalidRequest => some "Invalid request"
  | methodNotFound => some "Method not found"
  | invalidParams => none

end Refusal

/-- The result of a request. -/
inductive Answer
  /-- What the session offers. -/
  | capabilities
  | lenses (lenses : Option (List Lens))
  /-- The routes have been fetched anew, for so many actions. -/
  | refreshed (actions : Nat)
  | nothing
  deriving DecidableEq, Repr

/-- The command that fetches the routes anew. -/
def refreshCommand : String := "laravel-routes.refresh"

namespace Answer

/-- What the session offers, as JSON. -/
def capabilitiesJson : Json :=
  .object [
    ("capabilities", .object [
      ("textDocumentSync", .ofNat 1),
      ("codeLensProvider", .object [("resolveProvider", .bool false)]),
      ("executeCommandProvider", .object [("commands", .array [.string refreshCommand])])]),
    ("serverInfo", .object [
      ("name", .string "laravel-routes-lsp"), ("version", .string "0.1.0")])]

/-- A result as JSON. -/
def toJson : Answer → Json
  | capabilities => capabilitiesJson
  | lenses found => Lens.listToJson found
  | refreshed actions => .object [("success", .bool true), ("actions", .ofNat actions)]
  | nothing => .null

end Answer

end RouteLens
