import Inlay.LineIndex
import Inlay.Region.Basic

/-!
# Between content and document

A region's content is a stretch of the document, so offsets in the two differ by
a constant.  Positions are converted through the lines of the content and of the
document.
-/

namespace Inlay

/-- Where a content stands in the document. -/
structure Mapping where
  /-- Document offset of the first content character. -/
  documentStart : Nat
  /-- Number of content characters. -/
  contentLength : Nat
  deriving Repr, DecidableEq

namespace Mapping

/-- The mapping of a region. -/
def ofRegion (region : Region) : Mapping := ⟨region.start, region.contentLength⟩

/-- Document offset one past the content. -/
def documentStop (mapping : Mapping) : Nat := mapping.documentStart + mapping.contentLength

/-- The document offset of a content offset. -/
def toDocument (mapping : Mapping) (offset : Nat) : Nat := mapping.documentStart + offset

/-- The document offset of a content offset, cut to the end of the content. -/
def clampToDocument (mapping : Mapping) (offset : Nat) : Nat :=
  mapping.toDocument (min offset mapping.contentLength)

/-- The content offset of a document offset inside the content. -/
def toContent? (mapping : Mapping) (offset : Nat) : Option Nat :=
  if mapping.documentStart ≤ offset ∧ offset < mapping.documentStop then
    some (offset - mapping.documentStart)
  else none

theorem toContent?_toDocument (mapping : Mapping) {offset : Nat}
    (inside : offset < mapping.contentLength) :
    mapping.toContent? (mapping.toDocument offset) = some offset := by
  simp [toContent?, toDocument, documentStop, inside]

end Mapping

/-- Converts positions between a region's content and the document. -/
structure RegionMapper where
  mapping : Mapping
  content : LineIndex
  document : LineIndex

namespace RegionMapper

/-- The mapper of a region in a document. -/
def ofRegion (region : Region) (document : LineIndex) : RegionMapper :=
  ⟨.ofRegion region, .ofChars region.content, document⟩

/-- The document position of a content position. -/
def toDocument? (mapper : RegionMapper) (position : Position) : Option Position :=
  (mapper.content.offset? position).map fun offset =>
    mapper.document.position (mapper.mapping.toDocument offset)

/-- The content position of a document position inside the region. -/
def toContent? (mapper : RegionMapper) (position : Position) : Option Position := do
  let offset ← mapper.document.offset? position
  let inner ← mapper.mapping.toContent? offset
  some (mapper.content.position inner)

/-- The document range of a content range. -/
def rangeToDocument? (mapper : RegionMapper) (range : Range) : Option Range := do
  some ⟨← mapper.toDocument? range.start, ← mapper.toDocument? range.stop⟩

end RegionMapper

end Inlay
