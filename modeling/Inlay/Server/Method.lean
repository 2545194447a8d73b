import Inlay.Server.Shape

/-!
# Methods of the editor protocol

Every method has parameters of a certain shape.  Methods are requests, which are
answered, or notices, which are not; the server knows more of both than it makes
use of.
-/

namespace Inlay

namespace Shape

/-! ## Common shapes -/

/-- A place in a text. -/
def position : Shape := .record "Position" [("line", .natural), ("character", .natural)]

/-- A part of a text. -/
def range : Shape := .record "Range" [("start", position), ("end", position)]

/-- The name of a document. -/
def document : Shape := .record "TextDocumentIdentifier" [("uri", .uri)]

/-- A token for progress. -/
def token : Shape := .either "NumberOrString" [.integer, .text]

/-- A record that may carry a token for progress. -/
def workDone : Shape := .record "WorkDoneProgressParams" [("workDoneToken", .optional token)]

/-- A record that may carry a token for partial results. -/
def partialResult : Shape := .record "PartialResultParams" [("partialResultToken", .optional token)]

/-- The fields of a place in a document. -/
def documentPositionFields : List (String × Shape) :=
  [("textDocument", document), ("position", position)]

/-- A place in a document. -/
def documentPosition : Shape := .record "TextDocumentPositionParams" documentPositionFields

/-- A question about a document. -/
def aboutDocument (name : String) : Shape :=
  .merged name [("textDocument", document)] [workDone, partialResult]

/-- A question about a place in a document. -/
def aboutPlace (name : String) : Shape := .merged name [] [documentPosition, workDone]

/-- A question about a place in a document that may be answered bit by bit. -/
def aboutPlaces (name : String) : Shape :=
  .merged name [] [documentPosition, workDone, partialResult]

/-- A command. -/
def command : Shape :=
  .record "Command"
    [("title", .text), ("command", .text), ("arguments", .optional (.list .anything))]

/-- A member of a hierarchy; `tags` is the shape of its tags. -/
def hierarchyItem (name : String) (tags : Shape) : Shape :=
  .record name [("name", .text), ("kind", .integer), ("tags", .optional tags),
    ("detail", .optional .text), ("uri", .uri), ("range", range), ("selectionRange", range),
    ("data", .optional .anything)]

/-- A question about a member of a hierarchy of calls. -/
def aboutCalls (name : String) : Shape :=
  .merged name [("item", hierarchyItem "CallHierarchyItem" (.list .integer))]
    [workDone, partialResult]

/-- A question about a member of a hierarchy of types. -/
def aboutTypes (name : String) : Shape :=
  .merged name [("item", hierarchyItem "TypeHierarchyItem" .integer)] [workDone, partialResult]

/-- How a text is laid out. -/
def layout : Shape :=
  .merged "FormattingOptions" [("tabSize", .natural), ("insertSpaces", .boolean),
    ("trimTrailingWhitespace", .optional .boolean), ("insertFinalNewline", .optional .boolean),
    ("trimFinalNewlines", .optional .boolean)] []

/-- A list of files. -/
def files (name file : String) (fields : List String) : Shape :=
  .record name [("files", .list (.record file (fields.map fun field => (field, .text))))]

/-! ## Starting -/

/-- What an editor is able to do in general. -/
def generalCapabilities : Shape :=
  .record "GeneralClientCapabilities" [
    ("regularExpressions", .optional (.record "RegularExpressionsClientCapabilities"
      [("engine", .text), ("version", .optional .text)])),
    ("markdown", .optional (.record "MarkdownClientCapabilities"
      [("parser", .text), ("version", .optional .text), ("allowedTags", .optional (.list .text))])),
    ("staleRequestSupport", .optional (.record "StaleRequestSupportClientCapabilities"
      [("cancel", .boolean), ("retryOnContentModified", .list .text)])),
    ("positionEncodings", .optional (.list .text))]

/-- What an editor is able to do. -/
def capabilities : Shape :=
  .record "ClientCapabilities" [
    ("workspace", .optional (.object "WorkspaceClientCapabilities")),
    ("textDocument", .optional (.object "TextDocumentClientCapabilities")),
    ("window", .optional (.object "WindowClientCapabilities")),
    ("general", .optional generalCapabilities),
    ("experimental", .optional .anything)]

/-- The parameters of the first request. -/
def introduction : Shape :=
  .record "InitializeParams" [
    ("processId", .optional .natural),
    ("rootPath", .optional .text),
    ("rootUri", .defaulted (.optional .uri)),
    ("initializationOptions", .optional .anything),
    ("capabilities", capabilities),
    ("trace", .defaulted (.optional (.choice ["off", "messages", "verbose"]))),
    ("workspaceFolders",
      .optional (.list (.record "WorkspaceFolder" [("uri", .uri), ("name", .text)]))),
    ("clientInfo",
      .optional (.record "ClientInfo" [("name", .text), ("version", .optional .text)])),
    ("locale", .optional .text)]

end Shape

open Shape

/-! ## Notices -/

/-- The notices that the server heeds, with the shapes of their parameters. -/
def noticeShapes : List (String × Shape) := [
  ("initialized", .record "InitializedParams" []),
  ("textDocument/didOpen", .record "DidOpenTextDocumentParams" [
    ("textDocument", .record "TextDocumentItem"
      [("uri", .uri), ("languageId", .text), ("version", .integer), ("text", .text)])]),
  ("textDocument/didChange", .record "DidChangeTextDocumentParams" [
    ("textDocument",
      .record "VersionedTextDocumentIdentifier" [("uri", .uri), ("version", .integer)]),
    ("contentChanges", .list (.record "TextDocumentContentChangeEvent"
      [("range", .optional range), ("rangeLength", .optional .natural), ("text", .text)]))]),
  ("textDocument/didSave", .record "DidSaveTextDocumentParams"
    [("textDocument", document), ("text", .optional .text)]),
  ("textDocument/didClose", .record "DidCloseTextDocumentParams" [("textDocument", document)])]

/-- Notices that the server knows and does not heed. -/
def unheededNotices : List String := [
  "textDocument/willSave", "workspace/didChangeConfiguration",
  "workspace/didChangeWorkspaceFolders", "workspace/didChangeWatchedFiles",
  "workspace/didCreateFiles", "workspace/didRenameFiles", "workspace/didDeleteFiles"]

/-- Whether a method is that of a notice. -/
def isNotice (method : String) : Bool :=
  (noticeShapes.lookup method).isSome || unheededNotices.contains method

/-! ## Requests -/

/-- The requests about documents that the server answers, with the shapes of
their parameters. -/
def queryShapes : List (String × Shape) := [
  ("textDocument/definition", aboutPlaces "GotoDefinitionParams"),
  ("textDocument/references", .merged "ReferenceParams"
    [("context", .record "ReferenceContext" [("includeDeclaration", .boolean)])]
    [documentPosition, workDone, partialResult]),
  ("textDocument/prepareRename", documentPosition),
  ("textDocument/rename", .merged "RenameParams" [("newName", .text)] [documentPosition, workDone]),
  ("textDocument/documentSymbol", aboutDocument "DocumentSymbolParams")]

/-- The requests to which the server has no answer, with the shapes of their
parameters. -/
def unansweredShapes : List (String × Shape) := [
  ("textDocument/willSaveWaitUntil", .record "WillSaveTextDocumentParams"
    [("textDocument", document), ("reason", .integer)]),
  ("textDocument/declaration", aboutPlaces "GotoDefinitionParams"),
  ("textDocument/typeDefinition", aboutPlaces "GotoDefinitionParams"),
  ("textDocument/implementation", aboutPlaces "GotoDefinitionParams"),
  ("textDocument/prepareCallHierarchy", aboutPlace "CallHierarchyPrepareParams"),
  ("callHierarchy/incomingCalls", aboutCalls "CallHierarchyIncomingCallsParams"),
  ("callHierarchy/outgoingCalls", aboutCalls "CallHierarchyOutgoingCallsParams"),
  ("textDocument/prepareTypeHierarchy", aboutPlace "TypeHierarchyPrepareParams"),
  ("typeHierarchy/supertypes", aboutTypes "TypeHierarchySupertypesParams"),
  ("typeHierarchy/subtypes", aboutTypes "TypeHierarchySubtypesParams"),
  ("textDocument/documentHighlight", aboutPlaces "DocumentHighlightParams"),
  ("textDocument/documentLink", aboutDocument "DocumentLinkParams"),
  ("documentLink/resolve", .record "DocumentLink"
    [("range", range), ("target", .optional .uri), ("tooltip", .optional .text),
     ("data", .optional .anything)]),
  ("textDocument/hover", aboutPlace "HoverParams"),
  ("textDocument/codeLens", aboutDocument "CodeLensParams"),
  ("codeLens/resolve", .record "CodeLens"
    [("range", range), ("command", .optional command), ("data", .optional .anything)]),
  ("textDocument/foldingRange", aboutDocument "FoldingRangeParams"),
  ("textDocument/selectionRange", .merged "SelectionRangeParams"
    [("textDocument", document), ("positions", .list position)] [workDone, partialResult]),
  ("textDocument/semanticTokens/full", aboutDocument "SemanticTokensParams"),
  ("textDocument/semanticTokens/full/delta", .merged "SemanticTokensDeltaParams"
    [("textDocument", document), ("previousResultId", .text)] [workDone, partialResult]),
  ("textDocument/semanticTokens/range", .merged "SemanticTokensRangeParams"
    [("textDocument", document), ("range", range)] [workDone, partialResult]),
  ("textDocument/inlineValue", .merged "InlineValueParams"
    [("textDocument", document), ("range", range),
     ("context", .record "InlineValueContext" [("frameId", .integer), ("stoppedLocation", range)])]
    [workDone]),
  ("textDocument/inlayHint", .merged "InlayHintParams"
    [("textDocument", document), ("range", range)] [workDone]),
  ("inlayHint/resolve", .record "InlayHint"
    [("position", position), ("label", .anything), ("kind", .optional .integer),
     ("textEdits", .optional (.list (.record "TextEdit" [("range", range), ("newText", .text)]))),
     ("tooltip", .optional .anything), ("paddingLeft", .optional .boolean),
     ("paddingRight", .optional .boolean), ("data", .optional .anything)]),
  ("textDocument/moniker", aboutPlaces "MonikerParams"),
  ("textDocument/completion", .merged "CompletionParams"
    [("context", .optional (.record "CompletionContext"
      [("triggerKind", .integer), ("triggerCharacter", .optional .text)]))]
    [documentPosition, workDone, partialResult]),
  ("completionItem/resolve", .merged "CompletionItem" [("label", .text)] []),
  ("textDocument/diagnostic", .merged "DocumentDiagnosticParams"
    [("textDocument", document), ("identifier", .optional .text),
     ("previousResultId", .optional .text)] [workDone, partialResult]),
  ("workspace/diagnostic", .merged "WorkspaceDiagnosticParams"
    [("identifier", .optional .text),
     ("previousResultIds", .list (.record "PreviousResultId" [("uri", .uri), ("value", .text)]))]
    [workDone, partialResult]),
  ("textDocument/signatureHelp", .merged "SignatureHelpParams"
    [("context", .optional (.record "SignatureHelpContext"
      [("triggerKind", .integer), ("triggerCharacter", .optional .text),
       ("isRetrigger", .boolean), ("activeSignatureHelp", .optional (.object "SignatureHelp"))]))]
    [documentPosition, workDone]),
  ("textDocument/codeAction", .merged "CodeActionParams"
    [("textDocument", document), ("range", range),
     ("context", .record "CodeActionContext"
      [("diagnostics", .list (.object "Diagnostic")), ("only", .optional (.list .text)),
       ("triggerKind", .optional .integer)])]
    [workDone, partialResult]),
  ("codeAction/resolve", .merged "CodeAction" [("title", .text)] []),
  ("textDocument/documentColor", aboutDocument "DocumentColorParams"),
  ("textDocument/colorPresentation", .merged "ColorPresentationParams"
    [("textDocument", document),
     ("color", .record "Color"
      [("red", .number), ("green", .number), ("blue", .number), ("alpha", .number)]),
     ("range", range)]
    [workDone, partialResult]),
  ("textDocument/formatting", .merged "DocumentFormattingParams"
    [("textDocument", document), ("options", layout)] [workDone]),
  ("textDocument/rangeFormatting", .merged "DocumentRangeFormattingParams"
    [("textDocument", document), ("range", range), ("options", layout)] [workDone]),
  ("textDocument/onTypeFormatting", .merged "DocumentOnTypeFormattingParams"
    [("ch", .text), ("options", layout)] [documentPosition]),
  ("textDocument/linkedEditingRange", aboutPlace "LinkedEditingRangeParams"),
  ("workspace/symbol",
    .merged "WorkspaceSymbolParams" [("query", .text)] [partialResult, workDone]),
  ("workspaceSymbol/resolve", .record "WorkspaceSymbol"
    [("name", .text), ("kind", .integer), ("tags", .optional (.list .integer)),
     ("containerName", .optional .text), ("location", .anything), ("data", .optional .anything)]),
  ("workspace/willCreateFiles", files "CreateFilesParams" "FileCreate" ["uri"]),
  ("workspace/willRenameFiles", files "RenameFilesParams" "FileRename" ["oldUri", "newUri"]),
  ("workspace/willDeleteFiles", files "DeleteFilesParams" "FileDelete" ["uri"]),
  ("workspace/executeCommand", .merged "ExecuteCommandParams"
    [("command", .text), ("arguments", .defaulted (.list .anything))] [workDone])]

end Inlay
