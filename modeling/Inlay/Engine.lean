import Inlay.Analyzer.Basic
import Inlay.Occurrence
import Inlay.Settings
import Inlay.Symbol.Merge
import Inlay.Symbol.Outline
import Inlay.Uri.File

/-!
# What can be asked about a document

The engine joins the analyzer of the host language with the detection of
embedded markup.  Navigation passes on the analyzer's failures; outlines and
diagnostics make do with what could be found out.
-/

namespace Inlay

/-- A document as the engine sees it. -/
structure SourceDocument where
  /-- The path handed to the analyzer. -/
  path : String
  text : String

/-- An analyzer and the settings for embedded markup. -/
structure Engine (σ : Type) where
  analyzer : Analyzer σ
  thresholds : Thresholds := {}
  keywords : Keywords := Keywords.standard
  catalog : Catalog := .html

/-- An edit of a range. -/
structure TextEdit where
  range : Range
  newText : String
  deriving Repr, DecidableEq

namespace Engine

variable {σ : Type}

/-- The engine with an analyzer and the given settings. -/
def ofSettings (analyzer : Analyzer σ) (settings : Settings) : Engine σ where
  analyzer := analyzer
  thresholds := settings.thresholds
  keywords := settings.keywordSet
  catalog := settings.markupCatalog

/-! ## Tokens and occurrences -/

/-- The tokens of a source. -/
def tokenize (engine : Engine σ) (source : String) : Analysis σ (List Token) := do
  return (← engine.analyzer.tokenize source).map engine.keywords.token

/-- A failed analysis, as opposed to a missing capability or a failure to reach
the analyzer. -/
def isFailedAnalysis (failure : Failure) : Bool :=
  failure.layer = .pike && failure.kind = .analysis

/-- The result of a computation, or a default when it fails in a tolerable way. -/
def orElseDefault (isTolerable : Failure → Bool) (fallback : α) (work : Analysis σ α) :
    Analysis σ α :=
  tryCatch work fun failure => if isTolerable failure then pure fallback else throw failure

/-- The tokens of a source; none when its analysis fails. -/
def tokensOrNone (engine : Engine σ) (source : String) : Analysis σ (List Token) :=
  orElseDefault isFailedAnalysis [] (engine.tokenize source)

/-- The occurrences of a name. -/
def occurrences (engine : Engine σ) (document : SourceDocument) (name : String) :
    Analysis σ (List Occurrence) := do
  return findOccurrences document.text (← engine.tokensOrNone document.text) name

/-- The identifier at a cursor. -/
def identifierAt? (source : String) (tokens : List Token) (cursor : Position) : Option Token :=
  ((tokenAt? source tokens cursor).map Prod.fst).filter Token.isIdentifier

/-- The occurrences of the identifier at a cursor. -/
def occurrencesAt (engine : Engine σ) (document : SourceDocument) (cursor : Position) :
    Analysis σ (List Occurrence) := do
  let tokens ← engine.tokensOrNone document.text
  match identifierAt? document.text tokens cursor with
  | some token => return findOccurrences document.text tokens token.text
  | none => return []

/-! ## Renaming -/

/-- What a rename at a cursor would rename. -/
def prepareRename (engine : Engine σ) (document : SourceDocument) (cursor : Position) :
    Analysis σ (Option RenameTarget) := do
  return renameTarget? (← engine.tokensOrNone document.text) cursor.line

/-- The edits that rename the identifier at a cursor; nothing when there is
none. -/
def rename (engine : Engine σ) (document : SourceDocument) (cursor : Position) (newName : String) :
    Analysis σ (Option (List TextEdit)) := do
  if engine.keywords.classify newName ≠ .identifier then
    throw (.invalidInput ("'" ++ newName ++ "' is not a valid identifier"))
  match ← engine.occurrencesAt document cursor with
  | [] => return none
  | found => return some (found.map fun occurrence => ⟨occurrence.range, newName⟩)

/-! ## Declarations -/

/-- Where the identifier at a cursor is declared. -/
def declarationAt (engine : Engine σ) (document : SourceDocument) (cursor : Position) :
    Analysis σ (Option Location) := do
  let tokens ← engine.tokenize document.text
  match identifierAt? document.text tokens cursor with
  | none => return none
  | some token =>
      let resolved ← tryCatch
        (engine.analyzer.resolve document.text document.path token.text token.line)
        fun failure =>
          throw (failure.context .server .internal ("Failed to resolve '" ++ token.text ++ "'"))
      return (resolved.filter fun place => !place.isEmpty).map Location.parse

/-! ## Outline and diagnostics -/

/-- The embedded regions of a source. -/
def regions (engine : Engine σ) (source : String) : List Region :=
  (detect engine.thresholds engine.catalog source).regions

/-- A failure of the analyzer itself. -/
def isAnalyzerFailure (failure : Failure) : Bool := failure.layer = .pike

/-- The host symbols of a document; none when the analyzer has none to offer. -/
def hostForest (engine : Engine σ) (document : SourceDocument) : Analysis σ Forest := do
  let symbols ← orElseDefault isAnalyzerFailure [] (engine.analyzer.symbols document.text)
  let tokens ←
    if symbols.isEmpty then pure []
    else orElseDefault isAnalyzerFailure [] (engine.tokenize document.text)
  return hostSymbols document.text tokens symbols

/-- The host symbols with a symbol for each region's literal, merged with the
outlines of the regions. -/
def mergeRegions (catalog : Catalog) (regions : List Region) (host : Forest) : Forest :=
  Forest.merge (host ++ regions.map Region.literalNode)
    (regions.map fun region => ⟨.ofRegion region, (region.outline catalog).roots⟩)

/-- The symbols of a document and of the markup embedded in it. -/
def symbolTree (engine : Engine σ) (document : SourceDocument) : Analysis σ Forest := do
  return mergeRegions engine.catalog (engine.regions document.text) (← engine.hostForest document)

/-- The problems of a document.  A failing analyzer leaves those of the embedded
markup. -/
def diagnostics (engine : Engine σ) (document : SourceDocument) : StateM σ (List Diagnostic) := do
  let reported ← (engine.analyzer.diagnostics document.text document.path).run
  let index := LineIndex.ofText document.text
  let host :=
    match reported with
    | .ok raw => raw.map (RawDiagnostic.toDiagnostic index)
    | .error _ => []
  return host ++ markupDiagnostics engine.catalog document.text (engine.regions document.text)

/-- Ends the analyzer's work. -/
def shutdown (engine : Engine σ) : StateM σ Unit := engine.analyzer.shutdown

end Engine

end Inlay
