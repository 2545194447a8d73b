import Inlay.Document
import Inlay.Server.Encoding
import Inlay.Server.Method
import Inlay.Uri.File

/-!
# Messages of the editor

What the editor can ask of the server and tell it, and how such messages are
read from their method and parameters.
-/

namespace Inlay

/-- A question about a document. -/
inductive Query where
  | definition (uri : Uri) (cursor : Position)
  | references (uri : Uri) (cursor : Position) (includeDeclaration : Bool)
  | prepareRename (uri : Uri) (cursor : Position)
  | rename (uri : Uri) (cursor : Position) (newName : String)
  | symbols (uri : Uri)

/-- The document a question is about. -/
def Query.uri : Query → Uri
  | .definition uri _ | .references uri _ _ | .prepareRename uri _ | .rename uri _ _
  | .symbols uri => uri

/-- Something the editor tells the server. -/
inductive Notice where
  /-- The editor is ready. -/
  | ready
  | opened (uri : Uri) (text : String) (version : Int)
  | changed (uri : Uri) (version : Int) (changes : List Change)
  | saved (uri : Uri)
  | closed (uri : Uri)

/-! ## Reading parameters -/

/-- Decodes a URI. -/
def uri? (value : Json) : Option Uri := value.text?.bind Uri.parse?

/-- The URI of a document given by name. -/
def documentUri? (document : Json) : Option Uri := do
  let field ← document.record? ["uri"]
  uri? (← field "uri")

/-- The fields of parameters that name a document and a position. -/
def placeFields : List String := ["textDocument", "position"]

/-- The document and the position that parameters name. -/
def documentPosition? (params : Json) : Option (Uri × Position) := do
  let field ← params.record? placeFields
  some (← documentUri? (← field "textDocument"), ← Position.ofJson? (← field "position"))

/-- The position encodings an editor offers. -/
def offeredEncodings? (capabilities : Json) : Option (List String) := do
  let field ← capabilities.record?
    ["workspace", "textDocument", "window", "general", "experimental"]
  match field "general" with
  | none | some .null => some []
  | some general =>
      let field ← general.record?
        ["regularExpressions", "markdown", "staleRequestSupport", "positionEncodings"]
      match field "positionEncodings" with
      | none | some .null => some []
      | some encodings => encodings.texts?

/-- Reads a question whose parameters have the right shape. -/
def Query.ofMessage? (method : String) (params : Json) : Option Query :=
  match method with
  | "textDocument/definition" => do
      let (uri, cursor) ← documentPosition? params
      some (.definition uri cursor)
  | "textDocument/references" => do
      let (uri, cursor) ← documentPosition? params
      let context ← (← params.get? "context").record? ["includeDeclaration"]
      some (.references uri cursor (← (← context "includeDeclaration").bool?))
  | "textDocument/prepareRename" => do
      let (uri, cursor) ← documentPosition? params
      some (.prepareRename uri cursor)
  | "textDocument/rename" => do
      let (uri, cursor) ← documentPosition? params
      some (.rename uri cursor (← (← params.get? "newName").text?))
  | "textDocument/documentSymbol" => do
      some (.symbols (← documentUri? (← params.get? "textDocument")))
  | _ => none

/-- Reads what the editor tells in parameters of the right shape. -/
def Notice.ofMessage? (method : String) (params : Json) : Option Notice :=
  match method with
  | "initialized" => some .ready
  | "textDocument/didOpen" => do
      let field ← params.record? ["textDocument"]
      let item ← (← field "textDocument").record? ["uri", "languageId", "version", "text"]
      some (.opened (← uri? (← item "uri")) (← (← item "text").text?)
        (← (← item "version").int32?))
  | "textDocument/didChange" => do
      let field ← params.record? ["textDocument", "contentChanges"]
      let item ← (← field "textDocument").record? ["uri", "version"]
      let changes ← (← (← field "contentChanges").items?).mapM Change.ofJson?
      some (.changed (← uri? (← item "uri")) (← (← item "version").int32?) changes)
  | "textDocument/didSave" => do
      let field ← params.record? ["textDocument", "text"]
      some (.saved (← documentUri? (← field "textDocument")))
  | "textDocument/didClose" => do
      let field ← params.record? ["textDocument"]
      some (.closed (← documentUri? (← field "textDocument")))
  | _ => none

/-- Reads a notice; parameters of another shape tell nothing. -/
def Notice.read? (method : String) (params : Json) : Option Notice := do
  let shape ← noticeShapes.lookup method
  if shape.fits params then ofMessage? method params else none

/-- What the first request says: the options, and the position encodings on offer. -/
structure Greeting where
  options : Option Json
  encodings : List String

/-- Reads the first request from parameters of the right shape. -/
def Greeting.ofParams? (params : Json) : Option Greeting := do
  let field ← params.record? ["processId", "rootPath", "rootUri", "initializationOptions",
    "capabilities", "trace", "workspaceFolders", "clientInfo", "locale"]
  some {
    options := field "initializationOptions"
    encodings := ← offeredEncodings? (← field "capabilities") }

/-! ## Answers -/

/-- The answer to a request. -/
inductive Answer where
  | result (value : Json)
  | error (code : Int) (message : String)

namespace Answer

/-- The answer for a failure. -/
def ofFailure (failure : Failure) : Answer := .error failure.rpcCode failure.chain

/-- The server has not been initialized. -/
def notInitialized : Answer := .error (-32002) "Server not initialized"

/-- The request does not fit the state of the server. -/
def invalidRequest : Answer := .error (-32600) "Invalid request"

/-- The method is not known. -/
def methodNotFound : Answer := .error (-32601) "Method not found"

/-- The parameters do not fit the method. -/
def invalidParams (reason : String) : Answer := .error (-32602) reason

/-- The parameters of a message, if they have the right shape; otherwise the
answer that says what is wrong with them. -/
def checkShape (shape : Shape) : Option Json → Except Answer Json
  | none => .error (invalidParams "Missing params field")
  | some params =>
      match shape.complaint? params with
      | none => .ok params
      | some complaint => .error (invalidParams complaint.message)

/-- The parameters of a message, read as they must be. -/
def readParams (shape : Shape) (read : Json → Option α) (params : Option Json) :
    Except Answer α := do
  match read (← checkShape shape params) with
  | some value => .ok value
  | none => .error (invalidParams "Invalid params")

end Answer

/-- Something the server tells the editor. -/
structure Announcement where
  method : String
  params : Json

namespace Announcement

/-- The problems of a document; without a version they are not tied to one. -/
def diagnostics (uri : Uri) (diagnostics : List Diagnostic) (version : Option Int) :
    Announcement where
  method := "textDocument/publishDiagnostics"
  params := .ofSome [
    ("uri", some (.str uri.render)),
    ("diagnostics", some (.list Diagnostic.toJson diagnostics)),
    ("version", version.map .int)]

/-- The number of an informational message. -/
def infoType : Nat := 3

/-- A message for the user's log. -/
def info (message : String) : Announcement where
  method := "window/logMessage"
  params := .ofMembers [("type", .nat infoType), ("message", .str message)]

end Announcement

end Inlay
