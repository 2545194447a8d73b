import Inlay.Decimal.Fixed
import Inlay.Occurrence
import Inlay.Symbol.Node

/-!
# Symbols of the host language

The interpreter reports the name of a symbol and the line it is declared on,
both counted from one, and possibly the line on which its body ends.  The column
comes from the token stream when a token of that name stands on the line, and
otherwise from a search of the line.
-/

namespace Inlay

/-! ## Reported symbols -/

/-- A symbol as the interpreter reports it. -/
inductive RawSymbol where
  | mk (name kind : String) (line : Nat) (endLine : Option Nat) (children : List RawSymbol)
  deriving Repr, Inhabited

namespace RawSymbol

/-- The fields of a reported symbol, in the order of their positions. -/
def fieldNames : List String := ["name", "kind", "line", "end_line", "children"]

/-- Decodes a reported symbol whose children nest at most the given depth. -/
def ofJsonWithin? : Nat → Json → Option RawSymbol
  | 0, _ => none
  | depth + 1, value => do
      let field ← value.record? fieldNames
      let name ← Json.required (field "name") Json.text?
      let kind ← Json.optional (field "kind") "" Json.text?
      let line ← Json.required (field "line") Json.nat32?
      let endLine ← Json.optional (field "end_line") none (Json.nullable Json.nat32?)
      let children ← Json.optional (field "children") [] fun children => do
        (← children.items?).mapM (ofJsonWithin? depth)
      some (.mk name kind line endLine children)

/-- Decodes a reported symbol.  Every level of children takes up at least one
container, so the nesting of the value bounds that of the symbol. -/
def ofJson? (value : Json) : Option RawSymbol := ofJsonWithin? (value.nesting + 1) value

end RawSymbol

/-- The class of a reported kind; the case of ASCII letters does not matter. -/
def SymbolKind.ofReported (kind : String) : SymbolKind :=
  match Text.lowercase kind with
  | "class" | "program" => ofClass
  | "function" | "method" | "lambda" => ofFunction
  | "variable" => ofVariable
  | "constant" => ofConstant
  | "enum" => ofEnum
  | "typedef" => ofType
  | "inherit" | "import" | "module" => ofModule
  | _ => ofObject

/-! ## Symbols of the document -/

/-- A source with what is needed to place symbols in it. -/
structure Placement where
  index : LineIndex
  tokens : List (Token × Position)

namespace Placement

/-- The placement for a source and its tokens. -/
def of (source : String) (tokens : List Token) : Placement :=
  ⟨.ofText source, tokenPositions source tokens⟩

/-- The offset at which a name is declared on a line: that of the first token
with the name, else of the first place where the name is found on the line, else
the start of the line.  A line that does not exist gives the end of the
document. -/
def declarationOffset (placement : Placement) (line : Nat) (name : String) : Nat :=
  match placement.index.lines[line]? with
  | none => placement.index.length
  | some content =>
      let lineStart := LineIndex.widthOf (placement.index.lines.take line)
      match placement.tokens.find? fun placed => placed.2.line == line && placed.1.text == name with
      | some placed => lineStart + placed.2.character
      | none =>
          let searched := content.take (contentWidth content)
          lineStart + (Text.firstOffset? name.toList searched).getD 0

/-- The range of a symbol: from its declaration to the end of its last line, at
least over its name and at most to the end of the document. -/
def symbolRange (placement : Placement) (name : String) (line : Nat) (endLine : Option Nat) :
    Nat × Nat :=
  let line := max line 1 - 1
  let start := placement.declarationOffset line name
  let nameStop := start + name.length
  let bodyStop :=
    match endLine with
    | some endLine =>
        if line ≤ max endLine 1 - 1 then
          (placement.index.lineEnd? (max endLine 1 - 1)).getD placement.index.length
        else nameStop
    | none => nameStop
  (start, min (max bodyStop nameStop) (max placement.index.length start))

mutual

/-- The symbol of a reported one. -/
def symbol (placement : Placement) : RawSymbol → Node
  | .mk name kind line endLine children =>
      let (start, stop) := placement.symbolRange name line endLine
      .mk { Entry.of name (.ofReported kind) start stop .host with detail := some kind }
        (placement.symbols children)

/-- The symbols of reported ones. -/
def symbols (placement : Placement) : List RawSymbol → Forest
  | [] => []
  | raw :: rest => placement.symbol raw :: placement.symbols rest

end

end Placement

/-- The host symbols of a source. -/
def hostSymbols (source : String) (tokens : List Token) (symbols : List RawSymbol) : Forest :=
  (Placement.of source tokens).symbols symbols

/-- A host symbol for the literal that holds a region, so that the region's
elements nest under it. -/
def Region.literalNode (region : Region) : Node :=
  .leaf { Entry.of (Region.language ++ " literal") .ofLiteral region.literalStart
      region.literalStop .host with
    detail := some ("confidence " ++ Decimal.fixed 2 region.confidence) }

end Inlay
