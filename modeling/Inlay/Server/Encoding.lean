import Inlay.Diagnostic
import Inlay.Symbol.Node

/-!
# Values of the editor protocol

How positions, diagnostics, symbols and edits are written for the editor, and
how positions and ranges are read.  Members without a value are left out.
-/

namespace Inlay

namespace Position

/-- A position for the editor. -/
def toJson (position : Position) : Json :=
  .ofMembers [("line", .nat position.line), ("character", .nat position.character)]

/-- Decodes a position. -/
def ofJson? (value : Json) : Option Position := do
  let field ← value.record? ["line", "character"]
  some ⟨← Json.required (field "line") Json.nat32?,
    ← Json.required (field "character") Json.nat32?⟩

end Position

namespace Range

/-- A range for the editor. -/
def toJson (range : Range) : Json :=
  .ofMembers [("start", range.start.toJson), ("end", range.stop.toJson)]

/-- Decodes a range. -/
def ofJson? (value : Json) : Option Range := do
  let field ← value.record? ["start", "end"]
  some ⟨← Json.required (field "start") Position.ofJson?,
    ← Json.required (field "end") Position.ofJson?⟩

end Range

/-- The tag of a diagnostic about something deprecated. -/
def deprecatedTag : Nat := 2

/-- A diagnostic for the editor. -/
def Diagnostic.toJson (diagnostic : Diagnostic) : Json :=
  .ofSome [
    ("range", some diagnostic.range.toJson),
    ("severity", some (.nat diagnostic.severity.code)),
    ("code", diagnostic.code.map .str),
    ("source", some (.str diagnostic.source)),
    ("message", some (.str diagnostic.message)),
    ("tags", if diagnostic.deprecated then some (.arr [.nat deprecatedTag]) else none)]

mutual

/-- A symbol for the editor; the whole range is also the one to select. -/
def Node.toJson (index : LineIndex) : Node → Json
  | .mk entry children =>
      let range := (index.range entry.start entry.stop).toJson
      .ofSome [
        ("name", some (.str entry.name)),
        ("detail", entry.detail.map .str),
        ("kind", some (.int entry.kind.code)),
        ("range", some range),
        ("selectionRange", some range),
        ("children",
          if children.isEmpty then none else some (.arr (Forest.toJsonList index children)))]

/-- The symbols of a forest for the editor. -/
def Forest.toJsonList (index : LineIndex) : Forest → List Json
  | [] => []
  | node :: rest => node.toJson index :: Forest.toJsonList index rest

end

/-- A range of some document for the editor. -/
def placeJson (uri : String) (range : Range) : Json :=
  .ofMembers [("uri", .str uri), ("range", range.toJson)]

end Inlay
