import Inlay.Proofs.Literal.Standing
import Inlay.Region.Basic

/-!
# The span of a literal

A literal reaches from its opening delimiter to its closing quote, and its content fills
the space between them.  A region has the span of its literal, so it lies strictly inside
it, and its markers are those of the content.
-/

namespace Inlay

namespace Literal

/-- The content lies between the delimiters and fills the space between them. -/
structure Framed (literal : Literal) : Prop where
  opened : literal.start < literal.contentStart
  filled : literal.contentStart + literal.content.length = literal.contentStop
  closed : literal.stop = literal.contentStop + 1

theorem StandsIn.framed {source : List Char} {literal : Literal}
    (stands : literal.StandsIn source) : literal.Framed where
  opened := stands.opened
  filled := by
    have ordered := stands.ordered
    have closed := stands.closed
    have within := stands.within
    rw [← stands.content, List.extract_eq_take_drop, List.length_take, List.length_drop]
    omega
  closed := stands.closed

/-- Every literal has its content between its quotes. -/
theorem scan_framed (source : List Char) : ∀ literal ∈ scan source, literal.Framed :=
  fun _ found => (standsIn_of_mem_scan found).framed

end Literal

/-! ## Regions -/

/-- A region lies strictly inside its literal, its content fills it, and its markers are
those of the content. -/
structure Region.Framed (catalog : Catalog) (region : Region) : Prop where
  opened : region.literalStart < region.start
  filled : region.start + region.content.length = region.stop
  closed : region.stop < region.literalStop
  scanned : region.markers = Marker.scan catalog region.content

/-- The region has the span and the content of the literal. -/
structure Region.Covers (literal : Literal) (region : Region) : Prop where
  literalStart : region.literalStart = literal.start
  literalStop : region.literalStop = literal.stop
  start : region.start = literal.contentStart
  stop : region.stop = literal.contentStop
  content : region.content = literal.content

/-- A literal that is judged to be a region is long enough and has markers. -/
theorem Thresholds.of_judge_eq_region {thresholds : Thresholds} {catalog : Catalog}
    {literal : Literal} {region : Region}
    (judged : thresholds.judge catalog literal = .region region) :
    region.Covers literal ∧ 0 < literal.contentLength ∧
      thresholds.minLiteralLength ≤ literal.contentLength ∧
      region.markers = Marker.scan catalog literal.content ∧ region.markers ≠ [] := by
  simp only [Thresholds.judge] at judged
  split at judged
  next => cases judged
  next long =>
    rw [not_or, Nat.not_lt] at long
    split at judged
    next => cases judged
    next marked =>
      split at judged
      next => cases judged
      next =>
        cases judged
        exact ⟨⟨rfl, rfl, rfl, rfl, rfl⟩, Nat.pos_of_ne_zero long.1, long.2, rfl,
          mt List.isEmpty_iff.2 marked⟩

/-- A region takes its span and its content from the literal, and its markers from the content.
-/
theorem Thresholds.judge_framed {thresholds : Thresholds} {catalog : Catalog} {literal : Literal}
    {region : Region} (framed : literal.Framed)
    (judged : thresholds.judge catalog literal = .region region) : region.Framed catalog := by
  obtain ⟨covers, -, -, scanned, -⟩ := of_judge_eq_region judged
  refine ⟨?_, ?_, ?_, ?_⟩
  · rw [covers.literalStart, covers.start]
    exact framed.opened
  · rw [covers.start, covers.content, covers.stop]
    exact framed.filled
  · rw [covers.stop, covers.literalStop, framed.closed]
    exact Nat.lt_succ_self _
  · rw [scanned, covers.content]

/-- Every region lies inside its literal and has the markers of its content. -/
theorem detect_framed (thresholds : Thresholds) (catalog : Catalog) (source : String) :
    ∀ region ∈ (detect thresholds catalog source).regions, region.Framed catalog := by
  intro region membership
  obtain ⟨verdict, listed, found⟩ := List.mem_filterMap.1 membership
  obtain ⟨literal, scanned, rfl⟩ := List.mem_map.1 listed
  split at found
  next judged =>
    cases found
    exact Thresholds.judge_framed (Literal.scan_framed _ literal scanned) judged
  next => cases found

theorem Region.Framed.contentLength_eq {catalog : Catalog} {region : Region}
    (framed : region.Framed catalog) : region.contentLength = region.content.length := by
  rw [Region.contentLength, ← framed.filled, Nat.add_sub_cancel_left]

end Inlay
