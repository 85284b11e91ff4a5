import RouteLens.Session.Shape

/-!
# Requests that are not offered

The requests of the protocol that a session does not offer, with the shapes of their parameters: one
with malformed parameters is refused for them before it is refused for its method.
-/

namespace RouteLens.Unoffered

open Shape

/-! ## Parts of parameters -/

/-- Members of an object, with others passed over; no array stands for it. -/
def members (fields : List (String × Shape)) : Shape :=
  .object fields .any

/-- The name of a progress display. -/
def token : Shape := .either int32 .string

/-- The member that names a progress display. -/
def workDone : List (String × Shape) := [("workDoneToken", .optional token)]

/-- The members that name displays of progress and of partial results. -/
def progress : List (String × Shape) :=
  ("partialResultToken", .optional token) :: workDone

/-- A place in a document. -/
def position : Shape := .record [("line", uint32), ("character", uint32)]

/-- A range of a document. -/
def range : Shape := .record [("start", position), ("end", position)]

/-- A document. -/
def document : Shape := .record [("uri", .url)]

/-- The member that names a document. -/
def inDocument : List (String × Shape) := [("textDocument", document)]

/-- The members that name a place in a document. -/
def atPosition : List (String × Shape) :=
  [("textDocument", document), ("position", position)]

/-- The members that name a range of a document. -/
def inRange : List (String × Shape) :=
  [("textDocument", document), ("range", range)]

/-- A range of some document. -/
def location : Shape := .record [("uri", .url), ("range", range)]

/-- A command of the server. -/
def command : Shape := .record [
  ("title", .string),
  ("command", .string),
  ("arguments", .optional (.list .any))]

/-- A text with markup. -/
def markup : Shape := .record [("kind", markupKind), ("value", .string)]

/-- A text with or without markup. -/
def documentation : Shape := .either .string markup

/-- A new text for a range. -/
def textEdit : Shape := .record [("range", range), ("newText", .string)]

/-- A symbol among others of a hierarchy, with tags of a shape. -/
def hierarchyItem (tags : Shape) : Shape := .record [
  ("name", .string),
  ("kind", int32),
  ("tags", .optional tags),
  ("detail", .optional .string),
  ("uri", .url),
  ("range", range),
  ("selectionRange", range),
  ("data", .optional .any)]

/-- A part of a hierarchy of calls. -/
def callItem : Shape := hierarchyItem (.list int32)

/-- A part of a hierarchy of types; it has one tag. -/
def typeItem : Shape := hierarchyItem int32

/-- What is wrong with a range. -/
def diagnostic : Shape := .record [
  ("range", range),
  ("severity", .optional int32),
  ("code", .optional token),
  ("codeDescription", .optional (.record [("href", .url)])),
  ("source", .optional .string),
  ("message", .string),
  ("relatedInformation", .optional (.list (.record [
    ("location", location), ("message", .string)]))),
  ("tags", .optional (.list int32)),
  ("data", .optional .any)]

/-- Edits of one document. -/
def documentEdit : Shape := .record [
  ("textDocument", .record [("uri", .url), ("version", .optional int32)]),
  ("edits", .list textEdit)]

/-- A change of which files there are. -/
def fileChange : Shape := .tagged "kind" [
  ("create", .record [
    ("uri", .url),
    ("options", .optional (flags ["overwrite", "ignoreIfExists"])),
    ("annotationId", .optional .string)]),
  ("rename", .record [
    ("oldUri", .url),
    ("newUri", .url),
    ("options", .optional (flags ["overwrite", "ignoreIfExists"])),
    ("annotationId", .optional .string)]),
  ("delete", .record [
    ("uri", .url),
    ("options", .optional (options [
      ("recursive", .bool), ("ignoreIfNotExists", .bool), ("annotationId", .string)]))])]

/-- Edits of a workspace. -/
def workspaceEdit : Shape := .record [
  ("changes", .omissible (.dictionary .url (.list textEdit))),
  ("documentChanges", .optional
    (.either (.list documentEdit) (.list (.either fileChange documentEdit)))),
  ("changeAnnotations", .optional (.dictionary .string (.record [
    ("label", .string),
    ("needsConfirmation", .optional .bool),
    ("description", .optional .string)])))]

/-- How a document is to be formatted; any other setting is a truth value, a number or a text. -/
def formatting : Shape := .object [
  ("tabSize", uint32),
  ("insertSpaces", .bool),
  ("trimTrailingWhitespace", .optional .bool),
  ("insertFinalNewline", .optional .bool),
  ("trimFinalNewlines", .optional .bool)] (.either .bool (.either int32 .string))

/-- A signature that is shown in a call. -/
def signature : Shape := .record [
  ("label", .string),
  ("documentation", .optional documentation),
  ("parameters", .optional (.list (.record [
    ("label", .either .string (.pair uint32)),
    ("documentation", .optional documentation)]))),
  ("activeParameter", .optional uint32)]

/-- The signatures that are shown in a call. -/
def signatureHelp : Shape := .record [
  ("signatures", .list signature),
  ("activeSignature", .optional uint32),
  ("activeParameter", .optional uint32)]

/-- A completion. -/
def completionItem : Shape := .record [
  ("label", .string),
  ("labelDetails", .optional (options [("detail", .string), ("description", .string)])),
  ("kind", .optional int32),
  ("detail", .optional .string),
  ("documentation", .optional documentation),
  ("deprecated", .optional .bool),
  ("preselect", .optional .bool),
  ("sortText", .optional .string),
  ("filterText", .optional .string),
  ("insertText", .optional .string),
  ("insertTextFormat", .optional int32),
  ("insertTextMode", .optional int32),
  ("textEdit", .optional (.either textEdit
    (.record [("newText", .string), ("insert", range), ("replace", range)]))),
  ("additionalTextEdits", .optional (.list textEdit)),
  ("command", .optional command),
  ("commitCharacters", .optional (.list .string)),
  ("data", .optional .any),
  ("tags", .optional (.list int32))]

/-- A hint between the characters of a document. -/
def inlayHint : Shape := .record [
  ("position", position),
  ("label", .either .string (.list (.record [
    ("value", .string),
    ("tooltip", .optional documentation),
    ("location", .optional location),
    ("command", .optional command)]))),
  ("kind", .optional int32),
  ("textEdits", .optional (.list textEdit)),
  ("tooltip", .optional documentation),
  ("paddingLeft", .optional .bool),
  ("paddingRight", .optional .bool),
  ("data", .optional .any)]

/-- An action on a range. -/
def codeAction : Shape := .record [
  ("title", .string),
  ("kind", .optional .string),
  ("diagnostics", .optional (.list diagnostic)),
  ("edit", .optional workspaceEdit),
  ("command", .optional command),
  ("isPreferred", .optional .bool),
  ("disabled", .optional (.record [("reason", .string)])),
  ("data", .optional .any)]

/-- A symbol of a workspace. -/
def workspaceSymbol : Shape := .record [
  ("name", .string),
  ("kind", int32),
  ("tags", .optional (.list int32)),
  ("containerName", .optional .string),
  ("location", .either location document),
  ("data", .optional .any)]

/-- Files by their URIs, which need not be URLs. -/
def files (keys : List String) : Shape :=
  .record [("files", .list (.record (keys.map (·, .string))))]

/-! ## Requests -/

/-- The requests that are not offered, with their parameters. -/
def requests : List (String × Shape) := [
  ("textDocument/willSaveWaitUntil",
    .record [("textDocument", document), ("reason", int32)]),
  ("textDocument/declaration", members (atPosition ++ progress)),
  ("textDocument/definition", members (atPosition ++ progress)),
  ("textDocument/typeDefinition", members (atPosition ++ progress)),
  ("textDocument/implementation", members (atPosition ++ progress)),
  ("textDocument/references", members (atPosition ++ progress ++
    [("context", .record [("includeDeclaration", .bool)])])),
  ("textDocument/prepareCallHierarchy", members (atPosition ++ workDone)),
  ("callHierarchy/incomingCalls", members (("item", callItem) :: progress)),
  ("callHierarchy/outgoingCalls", members (("item", callItem) :: progress)),
  ("textDocument/prepareTypeHierarchy", members (atPosition ++ workDone)),
  ("typeHierarchy/supertypes", members (("item", typeItem) :: progress)),
  ("typeHierarchy/subtypes", members (("item", typeItem) :: progress)),
  ("textDocument/documentHighlight", members (atPosition ++ progress)),
  ("textDocument/documentLink", members (inDocument ++ progress)),
  ("documentLink/resolve", .record [
    ("range", range),
    ("target", .optional .url),
    ("tooltip", .optional .string),
    ("data", .optional .any)]),
  ("textDocument/hover", members (atPosition ++ workDone)),
  ("codeLens/resolve", .record [
    ("range", range), ("command", .optional command), ("data", .optional .any)]),
  ("textDocument/foldingRange", members (inDocument ++ progress)),
  ("textDocument/selectionRange",
    members (inDocument ++ progress ++ [("positions", .list position)])),
  ("textDocument/documentSymbol", members (inDocument ++ progress)),
  ("textDocument/semanticTokens/full", members (inDocument ++ progress)),
  ("textDocument/semanticTokens/full/delta",
    members (inDocument ++ progress ++ [("previousResultId", .string)])),
  ("textDocument/semanticTokens/range", members (inRange ++ progress)),
  ("textDocument/inlineValue", members (inRange ++ workDone ++
    [("context", .record [("frameId", int32), ("stoppedLocation", range)])])),
  ("textDocument/inlayHint", members (inRange ++ workDone)),
  ("inlayHint/resolve", inlayHint),
  ("textDocument/moniker", members (atPosition ++ progress)),
  ("textDocument/completion", members (atPosition ++ progress ++
    [("context", .optional (.record
      [("triggerKind", int32), ("triggerCharacter", .optional .string)]))])),
  ("completionItem/resolve", completionItem),
  ("textDocument/diagnostic", members (inDocument ++ progress ++
    [("identifier", .optional .string), ("previousResultId", .optional .string)])),
  ("workspace/diagnostic", members (progress ++
    [("identifier", .optional .string),
      ("previousResultIds", .list (.record [("uri", .url), ("value", .string)]))])),
  ("textDocument/signatureHelp", members (atPosition ++ workDone ++
    [("context", .optional (.record [
      ("triggerKind", int32),
      ("triggerCharacter", .optional .string),
      ("isRetrigger", .bool),
      ("activeSignatureHelp", .optional signatureHelp)]))])),
  ("textDocument/codeAction", members (inRange ++ progress ++
    [("context", .record [
      ("diagnostics", .list diagnostic),
      ("only", .optional (.list .string)),
      ("triggerKind", .optional int32)])])),
  ("codeAction/resolve", codeAction),
  ("textDocument/documentColor", members (inDocument ++ progress)),
  ("textDocument/colorPresentation", members (inRange ++ progress ++
    [("color", .record
      [("red", .number), ("green", .number), ("blue", .number), ("alpha", .number)])])),
  ("textDocument/formatting", members (inDocument ++ workDone ++ [("options", formatting)])),
  ("textDocument/rangeFormatting", members (inRange ++ workDone ++ [("options", formatting)])),
  ("textDocument/onTypeFormatting",
    members (atPosition ++ [("ch", .string), ("options", formatting)])),
  ("textDocument/rename", members (atPosition ++ workDone ++ [("newName", .string)])),
  ("textDocument/prepareRename", .record atPosition),
  ("textDocument/linkedEditingRange", members (atPosition ++ workDone)),
  ("workspace/symbol", members (("query", .string) :: progress)),
  ("workspaceSymbol/resolve", workspaceSymbol),
  ("workspace/willCreateFiles", files ["uri"]),
  ("workspace/willRenameFiles", files ["oldUri", "newUri"]),
  ("workspace/willDeleteFiles", files ["uri"])]

end RouteLens.Unoffered
