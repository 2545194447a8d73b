import Inlay.Catalog

/-!
# Markers

A marker is a piece of literal content that looks like markup: a tag, an
attribute inside a tag, or a character entity.  Offsets count characters of the
content.
-/

namespace Inlay

/-- What a marker is. -/
inductive MarkerKind where
  | openTag
  | closeTag
  | selfClosingTag
  | attribute
  | entity
  deriving Repr, DecidableEq

namespace MarkerKind

/-- Whether a marker is a tag. -/
def isTag : MarkerKind → Bool
  | .openTag | .closeTag | .selfClosingTag => true
  | .attribute | .entity => false

/-- The name of a kind. -/
def name : MarkerKind → String
  | .openTag => "openTag"
  | .closeTag => "closeTag"
  | .selfClosingTag => "selfClosingTag"
  | .attribute => "attribute"
  | .entity => "entity"

/-- The kind of a name. -/
def ofName? (name : String) : Option MarkerKind :=
  [MarkerKind.openTag, .closeTag, .selfClosingTag, .attribute, .entity].find? fun kind =>
    kind.name = name

end MarkerKind

/-- A marker. -/
structure Marker where
  kind : MarkerKind
  /-- The name of a tag or attribute in small letters, or the whole entity. -/
  name : String
  /-- Offset of the first character. -/
  offset : Nat
  /-- Number of characters. -/
  length : Nat
  /-- The value of the `id` attribute of a tag. -/
  elementId : Option String := none
  /-- Whether the catalog knows the name. -/
  known : Bool
  deriving Repr, DecidableEq

namespace Marker

/-- Offset one past the last character. -/
def stop (marker : Marker) : Nat := marker.offset + marker.length

/-- How much each character of the marker speaks for markup. -/
def weight (marker : Marker) : Float :=
  match marker.kind, marker.known with
  | .openTag, true | .closeTag, true | .selfClosingTag, true => 1.0
  | .openTag, false | .closeTag, false | .selfClosingTag, false => 0.4
  | .attribute, true => 0.5
  | .attribute, false => 0.2
  | .entity, _ => 0.5

/-- The weighted share of a content that markers cover, between zero and one. -/
def confidence (markers : List Marker) (contentLength : Nat) : Float :=
  if contentLength = 0 then 0.0
  else
    let covered := markers.foldl
      (fun sum marker => sum + marker.weight * Float.ofNat marker.length) 0.0
    let share := covered / Float.ofNat contentLength
    if share < 0.0 then 0.0 else if 1.0 < share then 1.0 else share

end Marker

end Inlay
