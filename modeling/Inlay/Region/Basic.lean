import Inlay.Literal
import Inlay.Marker.Scan

/-!
# Embedded regions

A string literal whose content is covered by enough markup is an embedded
region.  Literals below a least length, or without any marker, are never
considered; a literal that scores below the confidence floor is discarded.
-/

namespace Inlay

/-- What a literal must satisfy to count as embedded markup. -/
structure Thresholds where
  /-- Regions scoring below this are discarded. -/
  confidenceFloor : Float := 0.3
  /-- Literals with fewer content characters are never considered. -/
  minLiteralLength : Nat := 3

/-- Decodes thresholds; a setting that is missing keeps its default. -/
def Thresholds.ofJson? (value : Json) : Option Thresholds := do
  let field ← value.record? ["confidenceFloor", "minLiteralLength"]
  let standard : Thresholds := {}
  some {
    confidenceFloor :=
      ← Json.optional (field "confidenceFloor") standard.confidenceFloor Json.float?
    minLiteralLength :=
      ← Json.optional (field "minLiteralLength") standard.minLiteralLength Json.nat64? }

/-- A piece of markup inside a string literal.  Offsets count characters of the
document; the content is never empty. -/
structure Region where
  /-- Offset of the literal's opening delimiter. -/
  literalStart : Nat
  /-- Offset one past the literal's closing quote. -/
  literalStop : Nat
  /-- Offset of the first content character. -/
  start : Nat
  /-- Offset one past the last content character. -/
  stop : Nat
  content : List Char
  /-- How much of the content is markup, between zero and one. -/
  confidence : Float
  /-- The markers of the content, with offsets in the content. -/
  markers : List Marker

namespace Region

/-- The language of every region. -/
def language : String := "html"

/-- The number of content characters. -/
def contentLength (region : Region) : Nat := region.stop - region.start

/-- Whether a document offset lies in the content. -/
def contains (region : Region) (offset : Nat) : Bool :=
  region.start ≤ offset && offset < region.stop

end Region

/-- What became of a literal. -/
inductive Verdict where
  /-- Too short, or without markers. -/
  | plain
  /-- With markers, but below the confidence floor. -/
  | discarded
  | region (region : Region)

/-- Judges a literal. -/
def Thresholds.judge (thresholds : Thresholds) (catalog : Catalog) (literal : Literal) : Verdict :=
  let length := literal.contentLength
  if length = 0 ∨ length < thresholds.minLiteralLength then .plain
  else
    let markers := Marker.scan catalog literal.content
    if markers.isEmpty then .plain
    else
      let confidence := Marker.confidence markers length
      if confidence < thresholds.confidenceFloor then .discarded
      else .region {
        literalStart := literal.start
        literalStop := literal.stop
        start := literal.contentStart
        stop := literal.contentStop
        content := literal.content
        confidence
        markers }

/-- The outcome of looking for regions in a source. -/
structure Detection where
  /-- The regions, in document order. -/
  regions : List Region
  /-- The number of literals with markers that scored too low. -/
  discarded : Nat
  /-- The number of literals of the source. -/
  literals : Nat

/-- The name of the detection in logs. -/
def detectorName : String := "pike-html-literals"

/-- Looks for regions in a source. -/
def detect (thresholds : Thresholds) (catalog : Catalog) (source : String) : Detection :=
  let verdicts := (Literal.scan source.toList).map (thresholds.judge catalog)
  { regions := verdicts.filterMap fun
      | .region region => some region
      | _ => none
    discarded := verdicts.countP fun
      | .discarded => true
      | _ => false
    literals := verdicts.length }

end Inlay
