import Inlay.Engine
import Inlay.Server.Message

/-!
# The language server

The server keeps the open documents and answers the editor.  A document that is
opened, changed or saved is validated: its text is analysed and the problems
found are published, provided that the document is still the one that was
analysed, in the same version.

Before it is initialized the server answers no question and heeds no notice, and
after shutdown it is the same; only the first successful initialization counts.
After it has been told to exit it no longer reacts at all.
-/

namespace Inlay

/-- Where the server is in its life. -/
inductive Phase where
  | uninitialized
  | running
  | shutDown
  | exited
  deriving Repr, DecidableEq

/-- The state of the server. -/
structure Server (σ : Type) where
  phase : Phase := .uninitialized
  /-- The engine, once it is known how to build it. -/
  engine : Option (Engine σ) := none
  /-- Builds the engine from the options of the editor. -/
  launch : Option Json → Outcome (Engine σ)
  /-- The state of the analyzer. -/
  analysis : σ
  /-- The open documents, at most one for each URI. -/
  documents : List Document := []
  nextDocumentId : Nat := 0

namespace Server

variable {σ : Type}

/-- Builds an engine from defaults, options, environment and command line. -/
def settingsFor (lookUp : String → Option String) (overrides : Settings.Overrides)
    (options : Option Json) : Outcome Settings := do
  let (settings, merged) := Settings.applyOptions {} options
  merged
  let (settings, checked) := settings.withEnvironment lookUp
  checked
  let settings := settings.withOverrides overrides
  settings.validate
  return settings

/-! ## Documents -/

/-- The document open under a URI. -/
def document? (server : Server σ) (uri : Uri) : Option Document :=
  server.documents.find? fun document => document.uri == uri

/-- The documents without the one under a URI. -/
def without (documents : List Document) (uri : Uri) : List Document :=
  documents.filter fun document => document.uri != uri

/-- Puts a document in the place of the one under its URI. -/
def putDocument (server : Server σ) (document : Document) : Server σ :=
  { server with documents := without server.documents document.uri ++ [document] }

/-- Opens a document under a fresh id. -/
def openDocument (server : Server σ) (uri : Uri) (text : String) (version : Int) :
    Server σ × Document :=
  let document : Document :=
    { id := server.nextDocumentId, uri, revision := ⟨text.toList, version⟩ }
  ({ server with nextDocumentId := server.nextDocumentId + 1 }.putDocument document, document)

/-- Closes the document under a URI. -/
def closeDocument (server : Server σ) (uri : Uri) : Server σ :=
  { server with documents := without server.documents uri }

/-! ## Validation -/

/-- A text to analyse and the document it was taken from. -/
structure Validation where
  uri : Uri
  documentId : Nat
  text : String
  version : Int
  deriving Repr, DecidableEq

/-- The validation of a document's current text. -/
def validationOf (document : Document) : Validation :=
  ⟨document.uri, document.id, document.text, document.version⟩

/-- Whether the document a validation was started for is still open and in the
same version. -/
def isCurrent (server : Server σ) (validation : Validation) : Bool :=
  match server.document? validation.uri with
  | some document => document.id == validation.documentId && document.version == validation.version
  | none => false

/-- Publishes the problems found by a validation that is still current. -/
def publish (server : Server σ) (validation : Validation) (found : List Diagnostic) :
    List Announcement :=
  if server.isCurrent validation then
    [.diagnostics validation.uri found (some validation.version)]
  else []

/-- Runs a computation of the analyzer. -/
def analyse (server : Server σ) (work : StateM σ α) : Server σ × α :=
  let (value, analysis) := work.run server.analysis
  ({ server with analysis }, value)

/-- Analyses a text and publishes the problems found. -/
def validate (server : Server σ) (validation : Validation) : Server σ × List Announcement :=
  match server.engine with
  | none => (server, [])
  | some engine =>
      let (server, found) := server.analyse
        (engine.diagnostics ⟨validation.uri.documentPath, validation.text⟩)
      (server, server.publish validation found)

/-! ## Notices -/

/-- What is said when the editor is ready. -/
def greeting (server : Server σ) : String :=
  let backend :=
    match server.engine with
    | some engine => engine.analyzer.name
    | none => "none"
  "Pike language server initialized (" ++ backend ++ ")"

/-- Heeds a notice.  A change to a document that is not open, or to a version
that is not newer, is ignored. -/
def heed (server : Server σ) : Notice → Server σ × List Announcement
  | .ready => (server, [.info server.greeting])
  | .opened uri text version =>
      let (server, document) := server.openDocument uri text version
      server.validate (validationOf document)
  | .changed uri version changes =>
      match server.document? uri with
      | none => (server, [])
      | some document =>
          match document.apply changes version with
          | .ok document => (server.putDocument document).validate (validationOf document)
          | .error _ => (server, [])
  | .saved uri =>
      match server.document? uri with
      | some document => server.validate (validationOf document)
      | none => (server, [])
  | .closed uri => (server.closeDocument uri, [.diagnostics uri [] none])

/-! ## Questions -/

/-- Where the identifier at a cursor is declared, for the editor. -/
def definition (engine : Engine σ) (uri : Uri) (source : SourceDocument) (cursor : Position) :
    Analysis σ Json := do
  let declared ← engine.declarationAt source cursor
  return .option id do
    let location ← declared
    let target ← location.uri? uri
    some (placeJson target.render location.range)

/-- Removes the first occurrence on a line. -/
def eraseOnLine (line : Nat) (found : List Occurrence) : List Occurrence :=
  found.eraseP fun occurrence => occurrence.range.start.line == line

/-- The occurrences without the declaration, when it is known to be in the same
document. -/
def withoutDeclaration (uri : Uri) (declared : Outcome (Option Location))
    (found : List Occurrence) : List Occurrence :=
  match declared with
  | .ok (some location) =>
      if location.uri? uri = some uri then eraseOnLine location.line found else found
  | _ => found

/-- The references to the identifier at a cursor, for the editor. -/
def references (engine : Engine σ) (uri : Uri) (source : SourceDocument) (cursor : Position)
    (includeDeclaration : Bool) : Analysis σ Json := do
  let found ← engine.occurrencesAt source cursor
  let kept ←
    if includeDeclaration || found.isEmpty then pure found
    else
      let declared ← Analysis.attempt (engine.declarationAt source cursor)
      pure (withoutDeclaration uri declared found)
  return .list (fun occurrence => placeJson uri.render occurrence.range) kept

/-- What a rename would rename, for the editor. -/
def prepareRename (engine : Engine σ) (source : SourceDocument) (cursor : Position) :
    Analysis σ Json := do
  return .option
    (fun target =>
      .ofMembers [("range", target.range.toJson), ("placeholder", .str target.placeholder)])
    (← engine.prepareRename source cursor)

/-- The edits of one document, for the editor. -/
def editsJson (uri : Uri) (edits : List TextEdit) : Json :=
  .ofMembers [("changes", .ofMembers [(uri.render, .list
    (fun edit => .ofMembers [("range", edit.range.toJson), ("newText", .str edit.newText)])
    edits)])]

/-- The edits of a rename, for the editor. -/
def rename (engine : Engine σ) (uri : Uri) (source : SourceDocument) (cursor : Position)
    (newName : String) : Analysis σ Json := do
  return .option (editsJson uri) (← engine.rename source cursor newName)

/-- The symbols of a document, for the editor. -/
def symbols (engine : Engine σ) (source : SourceDocument) : Analysis σ Json := do
  return .arr (Forest.toJsonList (.ofText source.text) (← engine.symbolTree source))

/-- Answers a question about the text of a document. -/
def answerFor (engine : Engine σ) (source : SourceDocument) : Query → Analysis σ Json
  | .definition uri cursor => definition engine uri source cursor
  | .references uri cursor includeDeclaration =>
      references engine uri source cursor includeDeclaration
  | .prepareRename _ cursor => prepareRename engine source cursor
  | .rename uri cursor newName => rename engine uri source cursor newName
  | .symbols _ => symbols engine source

/-- Answers a question; a document that is not open has no answer. -/
def ask (server : Server σ) (query : Query) : Server σ × Answer :=
  match server.engine, server.document? query.uri with
  | none, _ => (server, .ofFailure (.server "Server has not been initialized"))
  | some _, none => (server, .result .null)
  | some engine, some document =>
      let source : SourceDocument := ⟨document.uri.documentPath, document.text⟩
      let (server, outcome) := server.analyse (answerFor engine source query).run
      match outcome with
      | .ok value => (server, .result value)
      | .error failure => (server, .ofFailure failure)

/-! ## The life of the server -/

/-- The one position encoding in which characters are counted as here. -/
def encodingName : String := "utf-32"

/-- What the server tells the editor about itself. -/
def introduction (encodings : List String) : Json :=
  .ofMembers [
    ("capabilities", .ofSome [
      ("positionEncoding",
        if encodings.contains encodingName then some (.str encodingName) else none),
      ("textDocumentSync", some (.ofMembers [
        ("openClose", .bool true), ("change", .nat 2), ("save", .bool true)])),
      ("definitionProvider", some (.bool true)),
      ("referencesProvider", some (.bool true)),
      ("renameProvider", some (.ofMembers [("prepareProvider", .bool true)])),
      ("documentSymbolProvider", some (.bool true))]),
    ("serverInfo", .ofMembers [
      ("name", .str "pike-language-server"), ("version", .str "0.1.0")])]

/-- Initializes the server; a failure to build the engine leaves it as it was. -/
def setUp (server : Server σ) (options : Option Json) (encodings : List String) :
    Server σ × Answer :=
  let built : Outcome (Engine σ) :=
    match server.engine with
    | some engine => .ok engine
    | none => server.launch options
  match built with
  | .ok engine =>
      ({ server with engine := some engine, phase := .running }, .result (introduction encodings))
  | .error failure => (server, .ofFailure failure)

/-- Shuts the server down. -/
def shutdown (server : Server σ) : Server σ × Answer :=
  let server := { server with phase := .shutDown }
  match server.engine with
  | some engine => ((server.analyse engine.shutdown).1, .result .null)
  | none => (server, .result .null)

/-- What stands against answering a request now. -/
def objection? (server : Server σ) : Option Answer :=
  match server.phase with
  | .uninitialized => some .notInitialized
  | .running => none
  | .shutDown | .exited => some .invalidRequest

/-- Handles the first request; a later one of the kind is refused unread. -/
def introduce (server : Server σ) (params : Option Json) : Server σ × Answer :=
  if server.phase = .uninitialized then
    match Answer.readParams Shape.introduction Greeting.ofParams? params with
    | .ok greeting => server.setUp greeting.options greeting.encodings
    | .error answer => (server, answer)
  else (server, .invalidRequest)

/-- Handles the request to shut down, which takes no parameters; it shuts the
server down even if it is refused for them. -/
def conclude (server : Server σ) (params : Option Json) : Server σ × Answer :=
  match server.objection?, params with
  | some objection, _ => (server, objection)
  | none, some params =>
      ({ server with phase := .shutDown }, .invalidParams ("Unexpected params: " ++ params.render))
  | none, none => server.shutdown

/-- Handles a question given by method, shape of the parameters and parameters. -/
def question (server : Server σ) (method : String) (shape : Shape) (params : Option Json) :
    Server σ × Answer :=
  match server.objection? with
  | some objection => (server, objection)
  | none =>
      match Answer.readParams shape (Query.ofMessage? method) params with
      | .ok query => server.ask query
      | .error answer => (server, answer)

/-- The answer to a request that is known but not supported. -/
def decline (server : Server σ) (shape : Shape) (params : Option Json) : Answer :=
  match server.objection?, Answer.checkShape shape params with
  | some objection, _ => objection
  | none, .error answer => answer
  | none, .ok _ => .methodNotFound

/-- The answer to a request about a document, or to one that is not known.  A
notice is no request, and an unknown method that only concerns the transport is
ignored. -/
def reply (server : Server σ) (method : String) (params : Option Json) :
    Server σ × Option Answer :=
  match queryShapes.lookup method, unansweredShapes.lookup method with
  | some shape, _ =>
      let (server, answer) := server.question method shape params
      (server, some answer)
  | none, some shape => (server, some (server.decline shape params))
  | none, none =>
      if method = "$/cancelRequest" then (server, some .invalidRequest)
      else if isNotice method then (server, some (server.objection?.getD .invalidRequest))
      else (server, if method.startsWith "$/" then none else some .methodNotFound)

/-- Handles a request given by method and parameters. -/
def request (server : Server σ) (method : String) (params : Option Json) :
    Server σ × Option Answer :=
  if server.phase = .exited then (server, none)
  else
    match method with
    | "exit" => ({ server with phase := .exited }, none)
    | "initialize" =>
        let (server, answer) := server.introduce params
        (server, some answer)
    | "shutdown" =>
        let (server, answer) := server.conclude params
        (server, some answer)
    | method => server.reply method params

/-- Handles a notification given by method and parameters.  Shutting down and
exiting need no answer; any other request, and a notice that cannot be read, is
ignored. -/
def notify (server : Server σ) (method : String) (params : Json) :
    Server σ × List Announcement :=
  match server.phase, method with
  | .exited, _ => (server, [])
  | _, "exit" => ({ server with phase := .exited }, [])
  | .running, "shutdown" => ({ server with phase := .shutDown }, [])
  | .running, method =>
      match Notice.read? method params with
      | some notice => server.heed notice
      | none => (server, [])
  | _, _ => (server, [])

end Server

end Inlay
