import Inlay.Json.Value
import Inlay.LineIndex
import Inlay.Location
import Inlay.Symbol.Outline

/-!
# Diagnostics

Two sources report problems.  The interpreter reports compiler diagnostics by
line; each covers the whole line.  The markup of a region is checked here for
deprecated tags, closing tags that close nothing, and elements never closed;
each such diagnostic covers the tag at fault.
-/

namespace Inlay

/-- How bad a problem is, worst first. -/
inductive Severity where
  | error
  | warning
  | information
  | hint
  deriving Repr, DecidableEq

/-- The number of a severity in the editor protocol. -/
def Severity.code : Severity → Nat
  | .error => 1
  | .warning => 2
  | .information => 3
  | .hint => 4

/-- A problem in a document. -/
structure Diagnostic where
  range : Range
  severity : Severity
  /-- Which of the markup checks found it. -/
  code : Option String := none
  source : String
  message : String
  /-- Whether it is about something deprecated. -/
  deprecated : Bool := false
  deriving Repr, DecidableEq

/-! ## Problems reported by the interpreter -/

/-- A problem as the interpreter reports it. -/
structure RawDiagnostic where
  message : String
  /-- The line, counted from one. -/
  line : Option Nat := none
  /-- A place naming the line, used when the line is absent. -/
  location : Option String := none
  severity : Option String := none
  deriving Repr, DecidableEq

namespace RawDiagnostic

/-- Decodes a reported problem. -/
def ofJson? (value : Json) : Option RawDiagnostic := do
  let field ← value.record? ["message", "line", "location", "severity"]
  some {
    message := ← Json.required (field "message") Json.text?
    line := ← Json.optional (field "line") none (Json.nullable Json.nat32?)
    location := ← Json.optional (field "location") none (Json.nullable Json.text?)
    severity := ← Json.optional (field "severity") none (Json.nullable Json.text?) }

/-- The line, counted from zero. -/
def lineIndex (raw : RawDiagnostic) : Nat :=
  match raw.line, raw.location with
  | some line, _ => max line 1 - 1
  | none, some location => (Location.parse location).line
  | none, none => 0

/-- The severity a problem is reported with; unless it says otherwise it is an
error. -/
def severityOf (name : Option String) : Severity :=
  match name.map Text.lowercase with
  | some "warning" | some "warn" => .warning
  | some "info" | some "information" => .information
  | some "hint" => .hint
  | _ => .error

/-- The diagnostic of a reported problem: it covers the reported line, or the
last line when the document is shorter. -/
def toDiagnostic (index : LineIndex) (raw : RawDiagnostic) : Diagnostic :=
  let line := min raw.lineIndex (index.lineCount - 1)
  let start := (index.lineStart? line).getD 0
  let stop := (index.lineEnd? line).getD start
  { range := index.range start stop
    severity := severityOf raw.severity
    source := "pike"
    message := raw.message }

end RawDiagnostic

/-! ## Problems of embedded markup -/

/-- The diagnostic for a tag of a region. -/
def tagDiagnostic (index : LineIndex) (mapping : Mapping) (code message : String)
    (marker : Marker) : Diagnostic :=
  { range := index.range (mapping.clampToDocument marker.offset)
      (mapping.clampToDocument marker.stop)
    severity := .warning
    code := some code
    source := "pike-markup"
    message }

/-- The diagnostic for a deprecated tag, if it is one. -/
def deprecationDiagnostic? (index : LineIndex) (catalog : Catalog) (mapping : Mapping)
    (marker : Marker) : Option Diagnostic :=
  if marker.kind = .openTag ∨ marker.kind = .selfClosingTag then
    (catalog.deprecation? marker.name).map fun replacement =>
      { tagDiagnostic index mapping "deprecated-tag"
          ("<" ++ marker.name ++ "> is deprecated, use " ++ replacement ++ " instead") marker with
        deprecated := true }
  else none

/-- The problems of a region, by start. -/
def Region.diagnostics (index : LineIndex) (catalog : Catalog) (region : Region) :
    List Diagnostic :=
  let mapping := Mapping.ofRegion region
  let outline := region.outline catalog
  let deprecated := region.markers.filterMap (deprecationDiagnostic? index catalog mapping)
  let stray := outline.strayClosers.map fun marker =>
    tagDiagnostic index mapping "unmatched-close"
      ("</" ++ marker.name ++ "> has no matching opening tag") marker
  let unclosed := outline.unclosed.map fun marker =>
    tagDiagnostic index mapping "unclosed-tag" ("<" ++ marker.name ++ "> is never closed") marker
  (deprecated ++ stray ++ unclosed).mergeSort fun a b => a.range.start ≤ b.range.start

/-- The problems of all regions of a document. -/
def markupDiagnostics (catalog : Catalog) (source : String) (regions : List Region) :
    List Diagnostic :=
  regions.flatMap (Region.diagnostics (.ofText source) catalog)

end Inlay
