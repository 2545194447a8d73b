import Inlay.Proofs.Literal
import Inlay.Proofs.Marker.Spelling
import Mathlib.Data.List.Forall2

/-!
# Regions in their source

Detection looks at the literals of a source one after the other and keeps some of them as
regions, so the regions are in order and apart as the literals are.  The content of a
region is a stretch of the source, and each of its markers is a stretch of the content;
an offset in the content is therefore an offset in the source less the start of the region.
-/

namespace Inlay

open Text (StandsAt)

/-! ## One literal -/

/-- The delimiters of the region's literal stand around its content, and what it says of its
content and its markers holds of the source. -/
structure Region.StandsIn (source : List Char) (region : Region) : Prop where
  opened : region.literalStart < region.start
  nonempty : region.start < region.stop
  closed : region.literalStop = region.stop + 1
  within : region.literalStop ≤ source.length
  content : source.extract region.start region.stop = region.content
  length : region.contentLength = region.content.length
  marked : region.markers ≠ []
  markers : ∀ marker ∈ region.markers, marker.stop ≤ region.content.length ∧
    source.extract (region.start + marker.offset) (region.start + marker.stop) =
      marker.text region.content

theorem Region.standsIn_of_judge {thresholds : Thresholds} {catalog : Catalog} {source : List Char}
    {literal : Literal} {region : Region} (written : literal.WrittenIn source)
    (judged : thresholds.judge catalog literal = .region region) : region.StandsIn source := by
  obtain ⟨covers, nonempty, -, scanned, marked⟩ := Thresholds.of_judge_eq_region judged
  have stands := written.standsIn
  have framed := Thresholds.judge_framed stands.framed judged
  have content := written.content_standsAt
  rw [← covers.content, ← covers.start] at content
  refine ⟨framed.opened, ?_, ?_, ?_, ?_, framed.contentLength_eq, marked, ?_⟩
  · rw [covers.start, covers.stop]
    exact Nat.lt_of_sub_pos nonempty
  · rw [covers.literalStop, covers.stop, stands.closed]
  · rw [covers.literalStop]
    exact stands.within
  · rw [← framed.filled, content.extract_eq]
  · intro marker listed
    rw [scanned, ← covers.content] at listed
    have markerStands := Marker.standsIn_of_mem_scan listed
    refine ⟨markerStands.within.2, ?_⟩
    obtain ⟨stretch, -, place, width⟩ := markerStands
    rw [Marker.text, Marker.stop, width, place.extract_eq, ← Nat.add_assoc,
      (content.trans place).extract_eq]

/-! ## All literals -/

/-- The region that a literal is judged to be. -/
def Verdict.region? : Verdict → Option Region
  | .region found => some found
  | _ => none

theorem Verdict.region?_eq_some {verdict : Verdict} {region : Region} :
    verdict.region? = some region ↔ verdict = .region region := by
  cases verdict <;> simp [region?]

theorem detect_regions_eq (thresholds : Thresholds) (catalog : Catalog) (source : String) :
    (detect thresholds catalog source).regions =
      (Literal.scan source.toList).filterMap
        fun literal => (thresholds.judge catalog literal).region? := by
  rw [detect, List.filterMap_map]
  rfl

/-- What is made of some members of a list comes from them in order. -/
theorem exists_sublist_filterMap {α β : Type} (make : α → Option β) (given : List α) :
    ∃ chosen, chosen.Sublist given ∧
      List.Forall₂ (fun a b => make a = some b) chosen (given.filterMap make) := by
  induction given with
  | nil => exact ⟨[], .slnil, .nil⟩
  | cons first rest ih =>
      obtain ⟨chosen, among, made⟩ := ih
      cases here : make first with
      | none =>
          rw [List.filterMap_cons_none here]
          exact ⟨chosen, among.cons _, made⟩
      | some b =>
          rw [List.filterMap_cons_some here]
          exact ⟨first :: chosen, among.cons_cons _, .cons here made⟩

/-- A literal that counts as a region does not count as discarded. -/
theorem length_filterMap_add_countP_le {α β : Type} {make : α → Option β} {drop : α → Bool}
    (never : ∀ a, (make a).isSome = true → drop a = false) (given : List α) :
    (given.filterMap make).length + given.countP drop ≤ given.length := by
  induction given with
  | nil => exact Nat.le_refl _
  | cons first rest ih =>
      cases here : make first with
      | none =>
          rw [List.filterMap_cons_none here, List.countP_cons, List.length_cons]
          split <;> omega
      | some b =>
          have kept := never first (by rw [here, Option.isSome_some])
          rw [List.filterMap_cons_some here, List.countP_cons, kept, List.length_cons,
            List.length_cons, if_neg Bool.false_ne_true]
          omega

/-- The region of a literal with the given markers. -/
def Literal.region (literal : Literal) (markers : List Marker) : Region where
  literalStart := literal.start
  literalStop := literal.stop
  start := literal.contentStart
  stop := literal.contentStop
  content := literal.content
  confidence := Marker.confidence markers literal.contentLength
  markers := markers

/-- A marker found alone needs no sorting. -/
theorem Marker.scan_eq_singleton {catalog : Catalog} {content : List Char} {marker : Marker}
    (unsorted : (Text.findAll tagAt content).flatMap (ofTagWithAttributes catalog) ++
      (Text.findAll entityAt content).map ofEntity = [marker]) :
    scan catalog content = [marker] := by
  rw [scan, unsorted, List.mergeSort_singleton]

/-- A literal that is long enough and has markers is a region unless it scores too low. -/
theorem Literal.region_mem_detect {thresholds : Thresholds} {catalog : Catalog} {source : String}
    {literal : Literal} {markers : List Marker} (found : literal ∈ scan source.toList)
    (scanned : Marker.scan catalog literal.content = markers) (marked : markers.isEmpty = false)
    (long : ¬(literal.contentLength = 0 ∨ literal.contentLength < thresholds.minLiteralLength))
    (confident :
      ¬Marker.confidence markers literal.contentLength < thresholds.confidenceFloor) :
    literal.region markers ∈ (detect thresholds catalog source).regions := by
  have judged : thresholds.judge catalog literal = .region (literal.region markers) := by
    simp only [Thresholds.judge, if_neg long, scanned, marked, Bool.false_eq_true, if_false,
      if_neg confident, region]
  rw [detect_regions_eq]
  exact List.mem_filterMap.2 ⟨literal, found, Verdict.region?_eq_some.2 judged⟩

theorem detect_standsIn {thresholds : Thresholds} {catalog : Catalog} {source : String}
    {region : Region} (listed : region ∈ (detect thresholds catalog source).regions) :
    region.StandsIn source.toList := by
  rw [detect_regions_eq] at listed
  obtain ⟨literal, found, made⟩ := List.mem_filterMap.1 listed
  exact Region.standsIn_of_judge (Literal.written_of_mem_scan found)
    (Verdict.region?_eq_some.1 made)

theorem pairwise_detect (thresholds : Thresholds) (catalog : Catalog) (source : String) :
    (detect thresholds catalog source).regions.Pairwise
      fun a b => a.literalStop ≤ b.literalStart := by
  rw [detect_regions_eq, List.pairwise_filterMap]
  refine (Literal.pairwise_scan source.toList).imp ?_
  intro first second apart a madeFirst b madeSecond
  have firstCovers := (Thresholds.of_judge_eq_region (Verdict.region?_eq_some.1 madeFirst)).1
  have secondCovers := (Thresholds.of_judge_eq_region (Verdict.region?_eq_some.1 madeSecond)).1
  rw [firstCovers.literalStop, secondCovers.literalStart]
  exact apart

theorem Literal.nodup_scan (source : List Char) : (scan source).Nodup := by
  refine (pairwise_scan source).imp_of_mem ?_
  rintro literal _ found _ apart rfl
  have stands := standsIn_of_mem_scan found
  have opened := stands.opened
  have ordered := stands.ordered
  have closed := stands.closed
  omega

/-- The regions of a source are in order and apart, say what stands in the source, and come
each from a literal of its own that is long enough; and no literal counts twice. -/
theorem detect_regions (thresholds : Thresholds) (catalog : Catalog) (source : String) :
    let detection := detect thresholds catalog source
    let literals := Literal.scan source.toList
    (detection.regions.Pairwise fun a b => a.literalStop ≤ b.literalStart) ∧
    (∀ region ∈ detection.regions, region.StandsIn source.toList) ∧
    (∃ chosen, chosen.Sublist literals ∧ chosen.Nodup ∧
      List.Forall₂ (fun literal region => region.Covers literal ∧
        thresholds.minLiteralLength ≤ literal.contentLength) chosen detection.regions) ∧
    detection.literals = literals.length ∧
    detection.regions.length + detection.discarded ≤ detection.literals := by
  intro detection literals
  refine ⟨pairwise_detect thresholds catalog source, fun _ listed => detect_standsIn listed,
    ?_, List.length_map _, ?_⟩
  · obtain ⟨chosen, among, made⟩ := exists_sublist_filterMap
      (fun literal => (thresholds.judge catalog literal).region?) literals
    refine ⟨chosen, among, among.nodup (Literal.nodup_scan source.toList), ?_⟩
    rw [← detect_regions_eq] at made
    refine made.imp ?_
    intro literal region judged
    have facts := Thresholds.of_judge_eq_region (Verdict.region?_eq_some.1 judged)
    exact ⟨facts.1, facts.2.2.1⟩
  · refine length_filterMap_add_countP_le ?_ _
    intro verdict
    cases verdict <;> simp

/-- A literal that may span lines, with a character of two bytes in front of its tag, and an
empty literal. -/
theorem detect_regions_multiline :
    let source := "#\"é<B>\"+\"\""
    ∃ region ∈ (detect {} Catalog.html source).regions,
      region.content = "é<B>".toList ∧ region.StandsIn source.toList := by
  intro source
  let literal : Literal := ⟨0, 7, 2, 6, "é<B>".toList, true⟩
  let tag : Marker := ⟨.openTag, "b", 1, 3, none, true⟩
  have scanned : Literal.scan source.toList = [literal, ⟨8, 10, 9, 9, [], false⟩] := by
    decide +kernel
  have marked : Marker.scan Catalog.html literal.content = [tag] :=
    Marker.scan_eq_singleton (by decide +kernel)
  have length : literal.contentLength = 4 := rfl
  have long : ¬(4 = 0 ∨ 4 < ({} : Thresholds).minLiteralLength) := by decide
  have confident : ¬Marker.confidence [tag] 4 < ({} : Thresholds).confidenceFloor := by
    decide +kernel
  have judged : ({} : Thresholds).judge Catalog.html literal =
      .region ⟨0, 7, 2, 6, literal.content, Marker.confidence [tag] 4, [tag]⟩ := by
    simp only [Thresholds.judge, length, if_neg long, marked, List.isEmpty_cons,
      Bool.false_eq_true, if_false, if_neg confident]
    rfl
  have listed : (⟨0, 7, 2, 6, literal.content, Marker.confidence [tag] 4, [tag]⟩ : Region) ∈
      (detect {} Catalog.html source).regions := by
    rw [detect_regions_eq, scanned]
    exact List.mem_filterMap.2 ⟨literal, .head _, Verdict.region?_eq_some.2 judged⟩
  exact ⟨_, listed, rfl, (detect_regions {} Catalog.html source).2.1 _ listed⟩

end Inlay
