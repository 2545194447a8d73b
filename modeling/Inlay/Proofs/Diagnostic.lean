import Inlay.Diagnostic
import Inlay.Proofs.Region.Mapping
import Inlay.Proofs.Symbol.TagSoup

/-!
# What diagnostics point at

A diagnostic of a region reports a tag: one that is deprecated, one that closes nothing, or
one that is never closed (`Region.Reports`).  Its range goes through the mapping of the region
and the lines of the document, and yet it stands for the tag, from its `<` to its `>`
(`Region.CoversTag`): neither of the two breaks a line, so neither end of the tag is an
offset that the document cuts.

The diagnostics of each region are sorted by where they start, and regions are in order
and apart, so those of the document are sorted too.

A diagnostic of the interpreter covers a line, whatever place was reported.
-/

namespace Inlay

open Text (StandsAt)

/-! ## What is reported -/

/-- A diagnostic with the given range reports a tag of the region. -/
inductive Region.Reports (catalog : Catalog) (region : Region) (marker : Marker) (range : Range) :
    Diagnostic → Prop where
  | deprecated {replacement : String} (listed : marker ∈ region.markers)
      (opens : marker.kind = .openTag ∨ marker.kind = .selfClosingTag)
      (outdated : catalog.deprecation? marker.name = some replacement) :
      Reports catalog region marker range ⟨range, .warning, some "deprecated-tag", "pike-markup",
        "<" ++ marker.name ++ "> is deprecated, use " ++ replacement ++ " instead", true⟩
  | stray (listed : marker ∈ (region.outline catalog).strayClosers) :
      Reports catalog region marker range ⟨range, .warning, some "unmatched-close", "pike-markup",
        "</" ++ marker.name ++ "> has no matching opening tag", false⟩
  | unclosed (listed : marker ∈ (region.outline catalog).unclosed) :
      Reports catalog region marker range ⟨range, .warning, some "unclosed-tag", "pike-markup",
        "<" ++ marker.name ++ "> is never closed", false⟩

namespace Region

variable {catalog : Catalog} {region : Region} {marker : Marker}

/-- The range of a marker of the region in the document. -/
def markerRange (document : LineIndex) (region : Region) (marker : Marker) : Range :=
  document.range (region.start + marker.offset) (region.start + marker.stop)

/-- The tags that are reported are among the markers of the region. -/
theorem Reports.tag {range : Range} {diagnostic : Diagnostic} (framed : region.Framed catalog)
    (reports : region.Reports catalog marker range diagnostic) :
    marker ∈ region.markers ∧ marker.kind.isTag = true := by
  have inOrder : Marker.InOrder region.contentLength (region.markers.filter (·.kind.isTag)) := by
    rw [framed.contentLength_eq, framed.scanned, Marker.filter_isTag_scan]
    exact Marker.tags_inOrder catalog region.content
  cases reports with
  | deprecated listed opens =>
      refine ⟨listed, ?_⟩
      rcases opens with kind | kind <;> rw [kind] <;> rfl
  | stray listed =>
      rw [outline, Outline.strayClosers_build catalog inOrder, List.mem_filter] at listed
      exact ⟨listed.1, Marker.isTag_of_closeTag (of_decide_eq_true listed.2).1⟩
  | unclosed listed =>
      rw [outline, Outline.unclosed_build catalog inOrder, List.mem_filter] at listed
      exact ⟨listed.1, Marker.isTag_of_opens (of_decide_eq_true listed.2).1⟩

theorem Framed.standsIn_of_mem (framed : region.Framed catalog) (listed : marker ∈ region.markers) :
    marker.StandsIn catalog region.content :=
  Marker.standsIn_of_mem_scan (framed.scanned ▸ listed)

/-- A marker lies in the content, so its range is not cut. -/
theorem Framed.markerRange_eq (framed : region.Framed catalog) (document : LineIndex)
    (listed : marker ∈ region.markers) :
    document.range ((Mapping.ofRegion region).clampToDocument marker.offset)
        ((Mapping.ofRegion region).clampToDocument marker.stop) =
      region.markerRange document marker := by
  have within := (framed.standsIn_of_mem listed).within.2
  rw [← framed.contentLength_eq] at within
  have starts : min marker.offset region.contentLength = marker.offset :=
    Nat.min_eq_left (Nat.le_trans (Nat.le_add_right _ _) within)
  have stops : min marker.stop region.contentLength = marker.stop := Nat.min_eq_left within
  simp only [Mapping.clampToDocument, Mapping.toDocument, Mapping.ofRegion, starts, stops,
    markerRange]

theorem mem_diagnostics_iff {document : LineIndex} {diagnostic : Diagnostic}
    (framed : region.Framed catalog) :
    diagnostic ∈ region.diagnostics document catalog ↔
      ∃ marker, region.Reports catalog marker (region.markerRange document marker) diagnostic := by
  rw [diagnostics, List.mem_mergeSort, List.mem_append, List.mem_append, List.mem_filterMap,
    List.mem_map, List.mem_map]
  constructor
  · rintro ((⟨marker, listed, made⟩ | ⟨marker, listed, rfl⟩) | ⟨marker, listed, rfl⟩)
    · rw [deprecationDiagnostic?] at made
      split at made
      next opens =>
        obtain ⟨replacement, outdated, rfl⟩ := Option.map_eq_some_iff.1 made
        refine ⟨marker, ?_⟩
        rw [← framed.markerRange_eq document listed]
        exact .deprecated listed opens outdated
      next => cases made
    · have reports : region.Reports catalog marker (region.markerRange document marker) _ :=
        .stray listed
      refine ⟨marker, ?_⟩
      rwa [tagDiagnostic, framed.markerRange_eq document (reports.tag framed).1]
    · have reports : region.Reports catalog marker (region.markerRange document marker) _ :=
        .unclosed listed
      refine ⟨marker, ?_⟩
      rwa [tagDiagnostic, framed.markerRange_eq document (reports.tag framed).1]
  · rintro ⟨marker, reports⟩
    have listed := (reports.tag framed).1
    rw [← framed.markerRange_eq document listed] at reports
    cases reports with
    | deprecated _ opens outdated =>
        refine .inl (.inl ⟨marker, listed, ?_⟩)
        rw [deprecationDiagnostic?, if_pos opens, outdated]
        rfl
    | stray stray => exact .inl (.inr ⟨marker, stray, rfl⟩)
    | unclosed unclosed => exact .inr ⟨marker, unclosed, rfl⟩

/-! ## Where a diagnostic stands -/

/-- The range stands for the offsets of a tag of the region, from its `<` to its `>`. -/
structure CoversTag (source : String) (region : Region) (marker : Marker) (range : Range) :
    Prop where
  fits : range.Fits32
  start : (LineIndex.ofText source).offset? range.start = some (region.start + marker.offset)
  stop : (LineIndex.ofText source).offset? range.stop = some (region.start + marker.stop)
  nonempty : marker.offset < marker.stop
  inside : region.start + marker.stop ≤ region.stop
  text : source.toList.extract (region.start + marker.offset) (region.start + marker.stop) =
    marker.text region.content
  tag : ∃ inner, marker.text region.content = '<' :: (inner ++ ['>']) ∧
    ∀ c ∈ inner, c ≠ '<' ∧ c ≠ '>'

theorem CoversTag.of_isTag {source : String} (short : source.length < 2 ^ 32)
    (framed : region.Framed catalog) (stands : region.StandsIn source.toList)
    (quoted : region.QuotedIn source.toList) (listed : marker ∈ region.markers)
    (isTag : marker.kind.isTag = true) :
    region.CoversTag source marker (region.markerRange (.ofText source) marker) := by
  have standsInContent := framed.standsIn_of_mem listed
  have within := standsInContent.within
  have filled := framed.filled
  have inText := quoted.content_standsAt.length_le
  have nonempty : marker.offset < marker.stop := Nat.lt_add_of_pos_right within.1
  rw [← String.length_toList] at short
  -- The angle brackets stand in the source where they stand in the content.
  obtain ⟨opens, closes⟩ := standsInContent.brackets isTag
  rw [← quoted.content_standsAt.getElem?_eq (by omega)] at opens closes
  have atStart := LineIndex.inContent_of_solid opens (by decide)
  have atStop : (LineIndex.ofChars source.toList).InContent (region.start + marker.stop) := by
    refine LineIndex.inContent_of_not_behindReturn (by omega) ?_
    rintro ⟨index, behind, back⟩
    obtain rfl : index = region.start + (marker.stop - 1) := by omega
    rw [closes] at back
    cases back
  exact ⟨LineIndex.range_fits32 short (by omega) (by omega), atStart.offset?_position (by omega),
    atStop.offset?_position (by omega), nonempty, by omega, (stands.markers marker listed).2,
    standsInContent.spelledBy_text.of_isTag isTag⟩

/-! ## The order of diagnostics -/

theorem pairwise_diagnostics (document : LineIndex) (catalog : Catalog) (region : Region) :
    (region.diagnostics document catalog).Pairwise fun a b => a.range.start ≤ b.range.start := by
  refine (List.pairwise_mergeSort ?_ ?_ _).imp of_decide_eq_true
  · intro a b c first second
    exact decide_eq_true (Position.le_trans (of_decide_eq_true first) (of_decide_eq_true second))
  · intro a b
    rw [Bool.or_eq_true, decide_eq_true_iff, decide_eq_true_iff]
    exact Position.le_total _ _

/-- A diagnostic of a region starts between the quotes of its literal. -/
theorem Framed.start_le_of_mem_diagnostics {document : LineIndex} {diagnostic : Diagnostic}
    (framed : region.Framed catalog) (listed : diagnostic ∈ region.diagnostics document catalog) :
    document.position region.literalStart ≤ diagnostic.range.start ∧
      diagnostic.range.start ≤ document.position region.literalStop := by
  obtain ⟨marker, reports⟩ := (mem_diagnostics_iff framed).1 listed
  have within := (framed.standsIn_of_mem (reports.tag framed).1).within
  have opened := framed.opened
  have filled := framed.filled
  have closed := framed.closed
  rw [Marker.stop] at within
  have starts : diagnostic.range.start = document.position (region.start + marker.offset) := by
    cases reports <;> rfl
  rw [starts]
  exact ⟨LineIndex.position_mono document (by omega), LineIndex.position_mono document (by omega)⟩

end Region

theorem pairwise_markupDiagnostics (thresholds : Thresholds) (catalog : Catalog) (source : String) :
    (markupDiagnostics catalog source (detect thresholds catalog source).regions).Pairwise
      fun a b => a.range.start ≤ b.range.start := by
  refine List.pairwise_flatMap.2 ⟨fun region _ => region.pairwise_diagnostics _ catalog, ?_⟩
  refine (pairwise_detect thresholds catalog source).imp_of_mem ?_
  intro first second inFirst inSecond apart a ofFirst b ofSecond
  have early := (detect_framed thresholds catalog source first inFirst).start_le_of_mem_diagnostics
    ofFirst
  have late := (detect_framed thresholds catalog source second inSecond).start_le_of_mem_diagnostics
    ofSecond
  exact Position.le_trans early.2 (Position.le_trans (LineIndex.position_mono _ apart) late.1)

/-! ## Diagnostics of the interpreter -/

/-- The range is that of a line, from its first character to the end of its content. -/
def LineIndex.IsLine (document : LineIndex) (line : Nat) (range : Range) : Prop :=
  ∃ start stop, document.lineStart? line = some start ∧ document.lineEnd? line = some stop ∧
    range = ⟨⟨line, 0⟩, ⟨line, stop - start⟩⟩

theorem RawDiagnostic.range_toDiagnostic {document : LineIndex} {raw : RawDiagnostic}
    {start stop : Nat}
    (starts : document.lineStart? (min raw.lineIndex (document.lineCount - 1)) = some start)
    (ends : document.lineEnd? (min raw.lineIndex (document.lineCount - 1)) = some stop) :
    (raw.toDiagnostic document).range = document.range start stop := by
  rw [toDiagnostic, starts, ends, Option.getD_some, Option.getD_some]

/-- The reported line is covered if it exists, and else the last one. -/
theorem RawDiagnostic.toDiagnostic_isLine {text : List Char} (short : text.length < 2 ^ 32)
    (raw : RawDiagnostic) :
    ∃ line < (LineIndex.ofChars text).lineCount,
      (raw.lineIndex < (LineIndex.ofChars text).lineCount → line = raw.lineIndex) ∧
      (LineIndex.ofChars text).IsLine line (raw.toDiagnostic (.ofChars text)).range ∧
      (raw.toDiagnostic (.ofChars text)).range.Fits32 := by
  have nonempty : 0 < (LineIndex.ofChars text).lineCount :=
    List.length_pos_iff.2 (splitLines_ne_nil text)
  have inRange : min raw.lineIndex ((LineIndex.ofChars text).lineCount - 1) <
      (LineIndex.ofChars text).lineCount := by omega
  have present := List.getElem?_eq_getElem inRange
  have starts := LineIndex.lineStart?_eq present
  have ends := LineIndex.lineEnd?_eq present
  rw [range_toDiagnostic starts ends]
  refine ⟨_, inRange, fun reported => by omega, ⟨_, _, starts, ends, ?_⟩, ?_⟩
  · have atStart := LineIndex.position_of_le_contentWidth present (Nat.zero_le _)
    have atEnd := LineIndex.position_of_le_contentWidth present (Nat.le_refl _)
    rw [LineIndex.range, atEnd, Nat.add_sub_cancel_left, ← atStart, Nat.add_zero]
  · have inText := LineIndex.widthOf_take_add_le_of_le_contentWidth present (Nat.le_refl _)
    exact LineIndex.range_fits32 short (Nat.le_add_right _ _) inText

/-! ## All diagnostics -/

/-- The diagnostics of the markup of a source are sorted, report every fault of a tag and
nothing else, and each covers in the document just the tag that it reports; a diagnostic of
the interpreter covers one line of the document, the reported one if it exists. -/
theorem markupDiagnostics_cover (thresholds : Thresholds) (catalog : Catalog) (source : String)
    (short : source.length < 2 ^ 32) :
    let document := LineIndex.ofText source
    let regions := (detect thresholds catalog source).regions
    let found := markupDiagnostics catalog source regions
    (found.Pairwise fun a b => a.range.start ≤ b.range.start) ∧
    (∀ diagnostic ∈ found, ∃ region ∈ regions, ∃ marker ∈ region.markers,
      region.Reports catalog marker diagnostic.range diagnostic ∧
        region.CoversTag source marker diagnostic.range) ∧
    (∀ region ∈ regions, ∀ marker diagnostic,
      region.Reports catalog marker (region.markerRange document marker) diagnostic →
        diagnostic ∈ found) ∧
    (∀ raw : RawDiagnostic, ∃ line < document.lineCount,
      (raw.lineIndex < document.lineCount → line = raw.lineIndex) ∧
      document.IsLine line (raw.toDiagnostic document).range ∧
      (raw.toDiagnostic document).range.Fits32) := by
  intro document regions found
  have framed := detect_framed thresholds catalog source
  refine ⟨pairwise_markupDiagnostics thresholds catalog source, ?_, ?_,
    RawDiagnostic.toDiagnostic_isLine (String.length_toList ▸ short)⟩
  · intro diagnostic listed
    obtain ⟨region, inRegions, ofRegion⟩ := List.mem_flatMap.1 listed
    obtain ⟨marker, reports⟩ := (Region.mem_diagnostics_iff (framed region inRegions)).1 ofRegion
    obtain ⟨inMarkers, isTag⟩ := reports.tag (framed region inRegions)
    have covers := Region.CoversTag.of_isTag short (framed region inRegions)
      (detect_standsIn inRegions) (detect_quotedIn inRegions) inMarkers isTag
    have same : diagnostic.range = region.markerRange document marker := by cases reports <;> rfl
    refine ⟨region, inRegions, marker, inMarkers, ?_⟩
    rw [same]
    exact ⟨reports, covers⟩
  · intro region inRegions marker diagnostic reports
    exact List.mem_flatMap.2 ⟨region, inRegions,
      (Region.mem_diagnostics_iff (framed region inRegions)).2 ⟨marker, reports⟩⟩

/-- A deprecated tag behind a wide character, in a region over two lines that end with a
carriage return and a line feed, and a problem reported far past the last line. -/
theorem markupDiagnostics_cover_deprecated :
    let source := "x=\r\n#\"é<center>\r\n\";"
    let document := LineIndex.ofText source
    let regions := (detect {} Catalog.html source).regions
    let found := markupDiagnostics Catalog.html source regions
    let deprecated : Diagnostic := ⟨⟨⟨1, 3⟩, ⟨1, 11⟩⟩, .warning, some "deprecated-tag",
      "pike-markup", "<center> is deprecated, use CSS text-align instead", true⟩
    let raw : RawDiagnostic := { message := "unexpected end", line := some (2 ^ 32 - 1) }
    (found.Pairwise fun a b => a.range.start ≤ b.range.start) ∧
      deprecated ∈ found ∧
      (∃ region ∈ regions, ∃ marker ∈ region.markers,
        region.CoversTag source marker deprecated.range) ∧
      document.IsLine 2 (raw.toDiagnostic document).range := by
  intro source document regions found deprecated raw
  let literal : Literal := ⟨4, 18, 6, 17, "é<center>\r\n".toList, true⟩
  let center : Marker := ⟨.openTag, "center", 1, 8, none, true⟩
  have scanned : Marker.scan Catalog.html literal.content = [center] :=
    Marker.scan_eq_singleton (by decide +kernel)
  have inRegions : literal.region [center] ∈ regions :=
    Literal.region_mem_detect (by decide +kernel) scanned (by decide) (by decide)
      (by decide +kernel)
  obtain ⟨sorted, covers, complete, lines⟩ :=
    markupDiagnostics_cover {} Catalog.html source (by decide)
  have outdated : Catalog.html.deprecation? center.name = some "CSS text-align" := by
    decide +kernel
  have placed : (literal.region [center]).markerRange document center = deprecated.range := by
    decide +kernel
  have reads : "<" ++ center.name ++ "> is deprecated, use " ++ "CSS text-align" ++ " instead" =
      deprecated.message := by
    decide +kernel
  have inFound := complete _ inRegions center _
    (.deprecated (List.mem_singleton_self _) (.inl rfl) outdated)
  rw [placed, reads] at inFound
  obtain ⟨region, inRegions, marker, inMarkers, -, covered⟩ := covers _ inFound
  refine ⟨sorted, inFound, ⟨region, inRegions, marker, inMarkers, covered⟩, ?_⟩
  have ranged : (raw.toDiagnostic document).range.start = ⟨2, 0⟩ := by decide
  obtain ⟨line, -, -, ⟨start, stop, starts, ends, same⟩, -⟩ := lines raw
  obtain rfl : line = 2 := congrArg Position.line ((congrArg Range.start same).symm.trans ranged)
  exact ⟨start, stop, starts, ends, same⟩

end Inlay
