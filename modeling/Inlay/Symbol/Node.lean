import Inlay.Json.Value
import Inlay.LineIndex
import Inlay.Region.Mapping

/-!
# Symbol trees

A symbol covers a range of characters and owns the symbols nested in it.  The
offsets of an embedded tree count characters of its content until the tree is
placed in the document.
-/

namespace Inlay

/-- Which language a symbol belongs to. -/
inductive Origin where
  | host
  | embedded
  deriving Repr, DecidableEq

namespace Origin

/-- Host symbols come before embedded ones. -/
def rank : Origin → Nat
  | .host => 0
  | .embedded => 1

/-- The name of an origin. -/
def name : Origin → String
  | .host => "host"
  | .embedded => "embedded"

/-- The origin of a name. -/
def ofName? (name : String) : Option Origin :=
  [Origin.host, .embedded].find? fun origin => origin.name = name

end Origin

/-- The class of a symbol, as the editor protocol numbers them. -/
structure SymbolKind where
  code : Int
  deriving Repr, DecidableEq

namespace SymbolKind

/-- A module, or something that brings one in. -/
def ofModule : SymbolKind := ⟨2⟩

/-- A class or program. -/
def ofClass : SymbolKind := ⟨5⟩

/-- An element of embedded markup. -/
def ofElement : SymbolKind := ⟨8⟩

/-- An enumeration. -/
def ofEnum : SymbolKind := ⟨10⟩

/-- A function or method. -/
def ofFunction : SymbolKind := ⟨12⟩

/-- A variable. -/
def ofVariable : SymbolKind := ⟨13⟩

/-- A constant. -/
def ofConstant : SymbolKind := ⟨14⟩

/-- A string literal. -/
def ofLiteral : SymbolKind := ⟨15⟩

/-- Anything else. -/
def ofObject : SymbolKind := ⟨19⟩

/-- A named type. -/
def ofType : SymbolKind := ⟨26⟩

end SymbolKind

/-- What a symbol is, apart from the symbols nested in it. -/
structure Entry where
  name : String
  kind : SymbolKind
  /-- Offset of the first character. -/
  start : Nat
  /-- Offset one past the last character. -/
  stop : Nat
  origin : Origin
  detail : Option String := none
  deriving Repr, DecidableEq

namespace Entry

/-- An entry whose range does not end before it starts. -/
def of (name : String) (kind : SymbolKind) (start stop : Nat) (origin : Origin) : Entry :=
  { name, kind, start, stop := max stop start, origin }

/-- Whether the range holds another one. -/
def contains (outer inner : Entry) : Bool :=
  outer.start ≤ inner.start && inner.stop ≤ outer.stop

/-- Whether the ranges share a character. -/
def overlaps (a b : Entry) : Bool :=
  a.start < b.stop && b.start < a.stop

/-- Whether two entries stand for one symbol; details do not count. -/
def same (a b : Entry) : Bool :=
  a.name == b.name && a.kind == b.kind && a.start == b.start && a.stop == b.stop
    && a.origin == b.origin

/-- The order of siblings: by start, host symbols first. -/
def precedes (a b : Entry) : Bool :=
  a.start < b.start || (a.start == b.start && a.origin.rank < b.origin.rank)

/-- The entry with its range cut at a bound. -/
def clip (entry : Entry) (bound : Nat) : Entry :=
  let stop := min entry.stop bound
  { entry with stop, start := min entry.start stop }

/-- The entry moved from a content to the document. -/
def place (entry : Entry) (mapping : Mapping) : Entry :=
  { entry with
    start := mapping.clampToDocument entry.start
    stop := mapping.clampToDocument entry.stop }

end Entry

/-- A symbol and the symbols nested in it. -/
inductive Node where
  | mk (entry : Entry) (children : List Node)
  deriving Repr

/-- Symbols side by side. -/
abbrev Forest := List Node

namespace Node

/-- The symbol itself. -/
def entry : Node → Entry
  | .mk entry _ => entry

/-- The symbols nested directly in it. -/
def children : Node → Forest
  | .mk _ children => children

/-- A symbol without nested ones. -/
def leaf (entry : Entry) : Node := .mk entry []

end Node

/-! ## Whole trees -/

mutual

/-- The number of symbols of a tree. -/
def Node.size : Node → Nat
  | .mk _ children => 1 + Forest.size children

/-- The number of symbols of a forest. -/
def Forest.size : Forest → Nat
  | [] => 0
  | node :: rest => node.size + Forest.size rest

end

mutual

/-- The tree with every range cut at a bound. -/
def Node.clip (bound : Nat) : Node → Node
  | .mk entry children => .mk (entry.clip bound) (Forest.clip bound children)

/-- The forest with every range cut at a bound. -/
def Forest.clip (bound : Nat) : Forest → Forest
  | [] => []
  | node :: rest => node.clip bound :: Forest.clip bound rest

end

mutual

/-- The tree moved from a content to the document. -/
def Node.place (mapping : Mapping) : Node → Node
  | .mk entry children => .mk (entry.place mapping) (Forest.place mapping children)

/-- The forest moved from a content to the document. -/
def Forest.place (mapping : Mapping) : Forest → Forest
  | [] => []
  | node :: rest => node.place mapping :: Forest.place mapping rest

end

mutual

/-- The symbols of a tree with their depths, a symbol before those nested in it. -/
def Node.flatten (depth : Nat) : Node → List (Nat × Entry)
  | .mk entry children => (depth, entry) :: Forest.flatten (depth + 1) children

/-- The symbols of a forest with their depths. -/
def Forest.flatten (depth : Nat) : Forest → List (Nat × Entry)
  | [] => []
  | node :: rest => node.flatten depth ++ Forest.flatten depth rest

end

end Inlay
