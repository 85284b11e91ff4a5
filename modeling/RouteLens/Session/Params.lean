import RouteLens.Session.Capabilities
import RouteLens.Session.Documents

/-!
# Parameters

Decoding of the parameters of requests and notifications. A record is an object that has its
required keys, or an array with exactly the values of its fields; keys that nobody knows are passed
over, and a null counts as missing where a value may be missing.
-/

namespace RouteLens

/-- What a client says of its workspace when a session begins. -/
structure Workspace where
  rootUri : Option Url := none
  folders : List Url := []
  deriving DecidableEq, Repr

namespace Workspace

/-- The directory of a workspace: the root if there is one, or else the first folder, as far as it
denotes a path. -/
def root? (workspace : Workspace) : Option Path :=
  match workspace.rootUri with
  | some uri => uri.filePath?
  | none => workspace.folders.head?.bind Url.filePath?

end Workspace

namespace Json

/-- The values of the fields of a record. -/
def record? (keys : List String) : Json → Option (List (Option Json))
  | .object members => some (keys.map (member? · members))
  | .array items => if items.length = keys.length then some (items.map some) else none
  | _ => none

/-- Whether the value is an object. -/
def isObject : Json → Bool
  | .object _ => true
  | _ => false

/-- The value that must be there. -/
def needed {α : Type} (decode : Json → Option α) (value : Option Json) : Option α :=
  value.bind decode

/-- The value that may be missing or null. -/
def optional {α : Type} (decode : Json → Option α) : Option Json → Option (Option α)
  | none => some none
  | some .null => some none
  | some value => (decode value).map some

/-- The URL that a value is. -/
def url? (value : Json) : Option Url :=
  value.string?.bind fun text => (Url.parse text).toOption

/-- The integer from `low` up to but not including `high` that a value is. -/
def integerIn? (low high : Int) (value : Json) : Option Int :=
  value.integer?.filter fun n => low ≤ n ∧ n < high

/-- The signed integer of 32 bits that a value is. -/
def int32? : Json → Option Int :=
  integerIn? (-0x80000000) 0x80000000

/-- The unsigned integer of 32 bits that a value is. -/
def uint32? : Json → Option Int :=
  integerIn? 0 0x100000000

/-- The value itself if it is an object. -/
def object? (value : Json) : Option Json :=
  if value.isObject then some value else none

/-- Whether the value can name a progress display. -/
def progressToken? : Json → Option Unit
  | .string _ => some ()
  | value => value.int32?.map fun _ => ()

end Json

namespace Params

open Json

/-- Checks that a value has a shape. -/
def check? (shape : Shape) (value : Json) : Option Unit :=
  if shape.accepts value then some () else none

/-- How much tracing a client asks for. -/
def trace : Shape := .word ["off", "messages", "verbose"]

/-- What program a client is. -/
def clientInfo : Shape := .record [("name", .string), ("version", .optional .string)]

/-- The URL of a workspace folder. -/
def folder? (value : Json) : Option Url := do
  let [uri, name] ← value.record? ["uri", "name"] | none
  let uri ← needed url? uri
  let _ ← needed string? name
  some uri

/-- The workspace that a session begins with. -/
def workspace? (value : Json) : Option Workspace := do
  let [processId, rootPath, rootUri, _, capabilities, trace, folders, clientInfo, locale] ←
    value.record? ["processId", "rootPath", "rootUri", "initializationOptions", "capabilities",
      "trace", "workspaceFolders", "clientInfo", "locale"] | none
  let _ ← optional uint32? processId
  let _ ← optional string? rootPath
  let rootUri ← optional url? rootUri
  let _ ← needed (check? Capabilities.client) capabilities
  let _ ← optional (check? Params.trace) trace
  let folders ← optional (fun value => value.array?.bind (·.mapM folder?)) folders
  let _ ← optional (check? Params.clientInfo) clientInfo
  let _ ← optional string? locale
  some { rootUri, folders := folders.getD [] }

/-- Checks the tokens of parameters that may name progress displays; these come as objects. -/
def tokens? (keys : List String) (value : Json) : Option Unit := do
  let value ← value.object?
  let _ ← keys.mapM fun key => optional progressToken? (value.get? key)
  some ()

/-- The URL of a document. -/
def document? (value : Json) : Option Url := do
  let [uri] ← value.record? ["uri"] | none
  needed url? uri

/-- The document whose lenses are asked for. -/
def codeLens? (value : Json) : Option Url := do
  let _ ← tokens? ["workDoneToken", "partialResultToken"] value
  needed document? (value.get? "textDocument")

/-- The command that is asked for. -/
def command? (value : Json) : Option String := do
  let _ ← tokens? ["workDoneToken"] value
  let _ ← ((value.get? "arguments").getD (.array [])).array?
  needed string? (value.get? "command")

/-- A document that has been opened. -/
def opened? (value : Json) : Option DocumentEvent := do
  let [document] ← value.record? ["textDocument"] | none
  let [uri, languageId, version, text] ←
    (← document).record? ["uri", "languageId", "version", "text"] | none
  let uri ← needed url? uri
  let _ ← needed string? languageId
  let _ ← needed int32? version
  let text ← needed string? text
  some (.opened uri text)

/-- Checks a place in a document. -/
def position? (value : Json) : Option Unit := do
  let [line, character] ← value.record? ["line", "character"] | none
  let _ ← needed uint32? line
  let _ ← needed uint32? character
  some ()

/-- Checks a range of a document. -/
def range? (value : Json) : Option Unit := do
  let [start, stop] ← value.record? ["start", "end"] | none
  let _ ← needed position? start
  needed position? stop

/-- The text of a change. -/
def change? (value : Json) : Option String := do
  let [range, rangeLength, text] ← value.record? ["range", "rangeLength", "text"] | none
  let _ ← optional range? range
  let _ ← optional uint32? rangeLength
  needed string? text

/-- A document that has been changed. -/
def changed? (value : Json) : Option DocumentEvent := do
  let [document, changes] ← value.record? ["textDocument", "contentChanges"] | none
  let [uri, version] ← (← document).record? ["uri", "version"] | none
  let uri ← needed url? uri
  let _ ← needed int32? version
  let changes ← needed array? changes
  some (.changed uri (← changes.mapM change?))

/-- A document that has been saved. -/
def saved? (value : Json) : Option DocumentEvent := do
  let [document, text] ← value.record? ["textDocument", "text"] | none
  let uri ← needed document? document
  some (.saved uri (← optional string? text))

/-- A document that has been closed. -/
def closed? (value : Json) : Option DocumentEvent := do
  let [document] ← value.record? ["textDocument"] | none
  return .closed (← needed document? document)

end Params

end RouteLens
