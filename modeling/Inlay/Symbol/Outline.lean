import Inlay.Symbol.Node

/-!
# The outline of a region

Elements are rebuilt from the tags of a region with a stack of open elements.
Void and self-closing tags are leaves.  A closing tag closes the innermost open
element of its name, and with it every element opened since; one without an open
element of its name is stray.  What is still open at the end of the content is
closed there.

Elements closed by something other than their own closing tag are reported as
unclosed, unless their closing tag may be left out.
-/

namespace Inlay

/-- An element whose closing tag has not been met. -/
structure OpenElement where
  /-- The opening tag. -/
  marker : Marker
  /-- The elements closed inside it so far. -/
  children : Forest := []

/-- The elements of a region and the faults of its tags. -/
structure Outline where
  /-- The outermost elements, with offsets in the content. -/
  roots : Forest := []
  /-- Opening tags whose element was never closed, by offset. -/
  unclosed : List Marker := []
  /-- Closing tags without an open element. -/
  strayClosers : List Marker := []

/-- An outline being built: the open elements, innermost first, and the outline
of what has been closed.  Unclosed tags are listed in the order found. -/
structure OutlineBuilder where
  stack : List OpenElement := []
  outline : Outline := {}

/-- The name of an element: its tag, followed by its id. -/
def Marker.elementName (marker : Marker) : String :=
  match marker.elementId with
  | some id => marker.name ++ "#" ++ id
  | none => marker.name

/-- The symbol of an element that starts with a tag. -/
def Marker.element (marker : Marker) (stop : Nat) (children : Forest) : Node :=
  .mk (.of marker.elementName .ofElement marker.offset stop .embedded) children

namespace OutlineBuilder

/-- Adds a closed element to the innermost open one. -/
def attach (builder : OutlineBuilder) (node : Node) : OutlineBuilder :=
  match builder.stack with
  | [] => { builder with outline.roots := builder.outline.roots ++ [node] }
  | parent :: outer =>
      { builder with stack := { parent with children := parent.children ++ [node] } :: outer }

/-- Closes the innermost open element at the given offset. -/
def closeInner (builder : OutlineBuilder) (stop : Nat) : OutlineBuilder :=
  match builder.stack with
  | [] => builder
  | inner :: outer =>
      { builder with stack := outer }.attach (inner.marker.element stop inner.children)

/-- Closes the innermost open element without its own closing tag. -/
def abandonInner (catalog : Catalog) (builder : OutlineBuilder) (stop : Nat) : OutlineBuilder :=
  match builder.stack with
  | [] => builder
  | inner :: _ =>
      let reported := if catalog.hasOptionalEnd inner.marker.name then [] else [inner.marker]
      { builder with outline.unclosed := builder.outline.unclosed ++ reported }.closeInner stop

/-- Closes the innermost `count` open elements without closing tags of their
own. -/
def abandon (catalog : Catalog) (stop : Nat) : Nat → OutlineBuilder → OutlineBuilder
  | 0, builder => builder
  | count + 1, builder => abandon catalog stop count (builder.abandonInner catalog stop)

/-- Reads one marker. -/
def step (catalog : Catalog) (builder : OutlineBuilder) (marker : Marker) : OutlineBuilder :=
  match marker.kind with
  | .openTag =>
      if catalog.isVoid marker.name then builder.attach (marker.element marker.stop [])
      else { builder with stack := { marker } :: builder.stack }
  | .selfClosingTag => builder.attach (marker.element marker.stop [])
  | .closeTag =>
      match builder.stack.findIdx? fun element => element.marker.name == marker.name with
      | some depth => (builder.abandon catalog marker.offset depth).closeInner marker.stop
      | none =>
          { builder with outline.strayClosers := builder.outline.strayClosers ++ [marker] }
  | .attribute | .entity => builder

end OutlineBuilder

/-- The outline of a content from its markers. -/
def Outline.build (catalog : Catalog) (contentLength : Nat) (markers : List Marker) : Outline :=
  let read := markers.foldl (OutlineBuilder.step catalog) {}
  let outline := (read.abandon catalog contentLength read.stack.length).outline
  { outline with unclosed := outline.unclosed.mergeSort fun a b => a.offset ≤ b.offset }

/-- The outline of a region. -/
def Region.outline (catalog : Catalog) (region : Region) : Outline :=
  .build catalog region.contentLength region.markers

end Inlay
