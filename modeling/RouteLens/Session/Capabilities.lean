import RouteLens.Session.Shape

/-!
# Client capabilities

The shape of what a client says of itself when a session begins. The session goes by none of it, but
does not begin unless all of it is well formed.
-/

namespace RouteLens.Capabilities

open Shape

/-- Capabilities that can only be registered later on. -/
def registration : Shape := flags ["dynamicRegistration"]

/-- Capabilities to ask for something anew. -/
def refresh : Shape := flags ["refreshSupport"]

/-- The properties that a client can ask for later. -/
def resolution : Shape := .record [("properties", .list .string)]

/-- The kinds of symbols that a client knows. -/
def symbolKinds : Shape := options [("valueSet", .list int32)]

/-- The tags that a client knows; a truth value stands for all or none. -/
def tagSupport : Shape := .omissible (.either .bool (valueSet int32))

/-- Edits of a workspace. -/
def workspaceEdit : Shape := options [
  ("documentChanges", .bool),
  ("resourceOperations", .list (.word ["create", "rename", "delete"])),
  ("failureHandling", .word ["abort", "transactional", "textOnlyTransactional", "undo"]),
  ("normalizesLineEndings", .bool),
  ("changeAnnotationSupport", flags ["groupsOnLabel"])]

/-- Searches for symbols of a workspace. -/
def workspaceSymbol : Shape := .record [
  ("dynamicRegistration", .optional .bool),
  ("symbolKind", .optional symbolKinds),
  ("tagSupport", tagSupport),
  ("resolveSupport", .optional resolution)]

/-- Messages about files. -/
def fileOperations : Shape :=
  flags ["dynamicRegistration", "didCreate", "willCreate", "didRename", "willRename", "didDelete",
    "willDelete"]

/-- Capabilities for a workspace. -/
def workspace : Shape := options [
  ("applyEdit", .bool),
  ("workspaceEdit", workspaceEdit),
  ("didChangeConfiguration", registration),
  ("didChangeWatchedFiles", flags ["dynamicRegistration", "relativePatternSupport"]),
  ("symbol", workspaceSymbol),
  ("executeCommand", registration),
  ("workspaceFolders", .bool),
  ("configuration", .bool),
  ("semanticTokens", refresh),
  ("codeLens", refresh),
  ("fileOperations", fileOperations),
  ("inlineValue", refresh),
  ("inlayHint", refresh),
  ("diagnostic", refresh)]

/-- Completions of one kind. -/
def completionItem : Shape := .record [
  ("snippetSupport", .optional .bool),
  ("commitCharactersSupport", .optional .bool),
  ("documentationFormat", .optional (.list markupKind)),
  ("deprecatedSupport", .optional .bool),
  ("preselectSupport", .optional .bool),
  ("tagSupport", tagSupport),
  ("insertReplaceSupport", .optional .bool),
  ("resolveSupport", .optional resolution),
  ("insertTextModeSupport", .optional (valueSet int32)),
  ("labelDetailsSupport", .optional .bool)]

/-- Completions. -/
def completion : Shape := options [
  ("dynamicRegistration", .bool),
  ("completionItem", completionItem),
  ("completionItemKind", symbolKinds),
  ("contextSupport", .bool),
  ("insertTextMode", int32),
  ("completionList", options [("itemDefaults", .list .string)])]

/-- Texts shown over a place. -/
def hover : Shape := options [
  ("dynamicRegistration", .bool),
  ("contentFormat", .list markupKind)]

/-- Signatures shown in a call. -/
def signatureHelp : Shape := options [
  ("dynamicRegistration", .bool),
  ("signatureInformation", options [
    ("documentationFormat", .list markupKind),
    ("parameterInformation", flags ["labelOffsetSupport"]),
    ("activeParameterSupport", .bool)]),
  ("contextSupport", .bool)]

/-- Symbols of a document. -/
def documentSymbol : Shape := .record [
  ("dynamicRegistration", .optional .bool),
  ("symbolKind", .optional symbolKinds),
  ("hierarchicalDocumentSymbolSupport", .optional .bool),
  ("tagSupport", tagSupport)]

/-- Links to another place. -/
def goto : Shape := flags ["dynamicRegistration", "linkSupport"]

/-- Actions on a range. -/
def codeAction : Shape := options [
  ("dynamicRegistration", .bool),
  ("codeActionLiteralSupport", .record [("codeActionKind", valueSet .string)]),
  ("isPreferredSupport", .bool),
  ("disabledSupport", .bool),
  ("dataSupport", .bool),
  ("resolveSupport", resolution),
  ("honorsChangeAnnotations", .bool)]

/-- Renamings. -/
def rename : Shape := options [
  ("dynamicRegistration", .bool),
  ("prepareSupport", .bool),
  ("prepareSupportDefaultBehavior", int32),
  ("honorsChangeAnnotations", .bool)]

/-- Diagnostics that are sent unasked. -/
def publishDiagnostics : Shape := .record [
  ("relatedInformation", .optional .bool),
  ("tagSupport", tagSupport),
  ("versionSupport", .optional .bool),
  ("codeDescriptionSupport", .optional .bool),
  ("dataSupport", .optional .bool)]

/-- Folding of ranges. -/
def foldingRange : Shape := options [
  ("dynamicRegistration", .bool),
  ("rangeLimit", uint32),
  ("lineFoldingOnly", .bool),
  ("foldingRangeKind", options [("valueSet", .list (.word ["comment", "imports", "region"]))]),
  ("foldingRange", flags ["collapsedText"])]

/-- Colours of tokens. -/
def semanticTokens : Shape := .record [
  ("dynamicRegistration", .optional .bool),
  ("requests", options [
    ("range", .bool),
    ("full", .either .bool (.object [("delta", .optional .bool)] .any))]),
  ("tokenTypes", .list .string),
  ("tokenModifiers", .list .string),
  ("formats", .list .string),
  ("overlappingTokenSupport", .optional .bool),
  ("multilineTokenSupport", .optional .bool),
  ("serverCancelSupport", .optional .bool),
  ("augmentsSyntaxTokens", .optional .bool)]

/-- Capabilities for a document. -/
def textDocument : Shape := options [
  ("synchronization", flags ["dynamicRegistration", "willSave", "willSaveWaitUntil", "didSave"]),
  ("completion", completion),
  ("hover", hover),
  ("signatureHelp", signatureHelp),
  ("references", registration),
  ("documentHighlight", registration),
  ("documentSymbol", documentSymbol),
  ("formatting", registration),
  ("rangeFormatting", registration),
  ("onTypeFormatting", registration),
  ("declaration", goto),
  ("definition", goto),
  ("typeDefinition", goto),
  ("implementation", goto),
  ("codeAction", codeAction),
  ("codeLens", registration),
  ("documentLink", flags ["dynamicRegistration", "tooltipSupport"]),
  ("colorProvider", registration),
  ("rename", rename),
  ("publishDiagnostics", publishDiagnostics),
  ("foldingRange", foldingRange),
  ("selectionRange", registration),
  ("linkedEditingRange", registration),
  ("callHierarchy", registration),
  ("semanticTokens", semanticTokens),
  ("moniker", registration),
  ("typeHierarchy", registration),
  ("inlineValue", registration),
  ("inlayHint", options [("dynamicRegistration", .bool), ("resolveSupport", resolution)]),
  ("diagnostic", flags ["dynamicRegistration", "relatedDocumentSupport"])]

/-- Capabilities of a window. -/
def window : Shape := options [
  ("workDoneProgress", .bool),
  ("showMessage", options [("messageActionItem", flags ["additionalPropertiesSupport"])]),
  ("showDocument", .record [("support", .bool)])]

/-- Capabilities that belong to no part. -/
def general : Shape := options [
  ("regularExpressions", .record [("engine", .string), ("version", .optional .string)]),
  ("markdown", .record [("parser", .string), ("version", .optional .string),
    ("allowedTags", .optional (.list .string))]),
  ("staleRequestSupport", .record [("cancel", .bool),
    ("retryOnContentModified", .list .string)]),
  ("positionEncodings", .list .string)]

/-- All that a client says of its capabilities. -/
def client : Shape := options [
  ("workspace", workspace),
  ("textDocument", textDocument),
  ("window", window),
  ("general", general),
  ("experimental", .any)]

end RouteLens.Capabilities
