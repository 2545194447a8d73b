import Inlay.Proofs.Detection
import Inlay.Proofs.LineIndex.Content
import Inlay.Region.Mapping

/-!
# Positions in a region and in its document

A region and its document have line indexes of their own, and the lines of the two end at
different places: the first line of the content begins in the middle of a line of the
document, and its last line ends there.  Both ends of the content are quotes, though, so
what stands before an offset of the content stands before the same offset of the document
(`Region.QuotedIn.behindReturn_iff`).  Where carriage returns only stand before line feeds
this decides which offsets can be named by a position, so the same ones can in both
(`Region.QuotedIn.inContent_iff`), and going through a position of one of the two and back
loses nothing.
-/

namespace Inlay

open LineIndex (BehindReturn ReturnsPaired)
open Text (StandsAt)

/-! ## The content between its quotes -/

/-- The content of the region stands between two quotes of the source. -/
def Region.QuotedIn (source : List Char) (region : Region) : Prop :=
  ∃ quote, quote + 1 = region.start ∧ StandsAt source ('"' :: (region.content ++ ['"'])) quote

/-- The content of every region stands between quotes in the source. -/
theorem detect_quotedIn {thresholds : Thresholds} {catalog : Catalog} {source : String}
    {region : Region} (listed : region ∈ (detect thresholds catalog source).regions) :
    region.QuotedIn source.toList := by
  rw [detect_regions_eq] at listed
  obtain ⟨literal, found, made⟩ := List.mem_filterMap.1 listed
  have covers := (Thresholds.of_judge_eq_region (Verdict.region?_eq_some.1 made)).1
  rw [Region.QuotedIn, covers.start, covers.content]
  exact (Literal.written_of_mem_scan found).exists_quote

namespace Region.QuotedIn

variable {source : List Char} {region : Region} {offset : Nat}

theorem content_standsAt (quoted : region.QuotedIn source) :
    StandsAt source region.content region.start := by
  obtain ⟨quote, starts, place⟩ := quoted
  rw [← starts]
  exact place.trans (.of_append ['"'] region.content ['"'])

theorem getElem?_stop (quoted : region.QuotedIn source) :
    source[region.start + region.content.length]? = some '"' := by
  obtain ⟨quote, starts, place⟩ := quoted
  have inside : region.content.length + 1 < ('"' :: (region.content ++ ['"'])).length := by simp
  have last := place.getElem?_eq inside
  rw [List.getElem?_cons_succ, List.getElem?_concat_length, Nat.add_comm _ 1, ← Nat.add_assoc,
    starts] at last
  exact last

/-- A content begins behind a quote, so a return before it is no matter. -/
theorem not_behindReturn_start (quoted : region.QuotedIn source) :
    ¬BehindReturn source region.start := by
  obtain ⟨quote, starts, place⟩ := quoted
  rintro ⟨index, behind, back⟩
  obtain rfl : index = quote := by omega
  have first := place.getElem?_eq (Nat.succ_pos _)
  rw [Nat.add_zero, back] at first
  cases first

/-- What stands before an offset of the content stands before it in the source. -/
theorem behindReturn_iff (quoted : region.QuotedIn source)
    (inside : offset ≤ region.content.length) :
    BehindReturn source (region.start + offset) ↔ BehindReturn region.content offset := by
  cases offset with
  | zero =>
      refine iff_of_false quoted.not_behindReturn_start ?_
      rintro ⟨index, behind, -⟩
      exact absurd behind (Nat.succ_ne_zero index)
  | succ before =>
      have same := quoted.content_standsAt.getElem?_eq inside
      constructor
      · rintro ⟨index, behind, back⟩
        obtain rfl : index = region.start + before := by omega
        exact ⟨before, rfl, same ▸ back⟩
      · rintro ⟨index, behind, back⟩
        obtain rfl : index = before := by omega
        exact ⟨_, rfl, same.trans back⟩

theorem returnsPaired (quoted : region.QuotedIn source) (paired : ReturnsPaired source) :
    ReturnsPaired region.content := by
  intro index back
  obtain ⟨inside, -⟩ := List.getElem?_eq_some_iff.1 back
  have here := quoted.content_standsAt.getElem?_eq inside
  have feed := paired (region.start + index) (here.trans back)
  rcases Nat.lt_or_eq_of_le inside with next | last
  · rw [← feed, Nat.add_assoc]
    exact (quoted.content_standsAt.getElem?_eq next).symm
  · -- The closing quote is no line feed.
    have last : index + 1 = region.content.length := last
    rw [Nat.add_assoc, last, quoted.getElem?_stop] at feed
    cases feed

/-- A place inside the content is on its line there if it is on its line in the document. -/
theorem inContent_iff (quoted : region.QuotedIn source) (paired : ReturnsPaired source)
    (inside : offset ≤ region.content.length) :
    (LineIndex.ofChars source).InContent (region.start + offset) ↔
      (LineIndex.ofChars region.content).InContent offset := by
  have inText := quoted.content_standsAt.length_le
  rw [LineIndex.inContent_iff paired (by omega),
    LineIndex.inContent_iff (quoted.returnsPaired paired) inside, quoted.behindReturn_iff inside]

end Region.QuotedIn

/-! ## There and back -/

/-- Both parts of the position fit in 32 bits. -/
def Position.Fits32 (position : Position) : Prop :=
  position.line < 2 ^ 32 ∧ position.character < 2 ^ 32

theorem LineIndex.position_fits32 {text : List Char} {offset : Nat} (short : text.length < 2 ^ 32)
    (inText : offset ≤ text.length) : ((LineIndex.ofChars text).position offset).Fits32 := by
  have fits := LineIndex.position_le inText
  exact ⟨Nat.lt_of_le_of_lt fits.1 short, Nat.lt_of_le_of_lt fits.2 short⟩

theorem Mapping.toContent?_eq_some_iff {mapping : Mapping} {offset inner : Nat} :
    mapping.toContent? offset = some inner ↔
      mapping.documentStart + inner = offset ∧ inner < mapping.contentLength := by
  rw [toContent?, documentStop]
  split
  next inside =>
    rw [Option.some.injEq]
    omega
  next outside => simp only [reduceCtorEq, false_iff]; omega

namespace RegionMapper

theorem toDocument?_eq_some_iff {mapper : RegionMapper} {p q : Position} :
    mapper.toDocument? p = some q ↔ ∃ offset, mapper.content.offset? p = some offset ∧
      mapper.document.position (mapper.mapping.documentStart + offset) = q :=
  Option.map_eq_some_iff

theorem toContent?_eq_some_iff {mapper : RegionMapper} {p q : Position} :
    mapper.toContent? q = some p ↔ ∃ offset,
      mapper.document.offset? q = some (mapper.mapping.documentStart + offset) ∧
      offset < mapper.mapping.contentLength ∧ mapper.content.position offset = p := by
  simp only [toContent?, Option.bind_eq_bind, Option.bind_eq_some_iff, Option.some.injEq,
    Mapping.toContent?_eq_some_iff]
  constructor
  · rintro ⟨_, found, inner, ⟨rfl, inside⟩, same⟩
    exact ⟨inner, found, inside, same⟩
  · rintro ⟨inner, found, inside, same⟩
    exact ⟨_, found, inner, ⟨rfl, inside⟩, same⟩

/-- Where the offset of a position is known, the mapper takes the content offset from it. -/
theorem toContent?_eq_some_iff_of_offset? {mapper : RegionMapper} {p q : Position} {offset : Nat}
    (found : mapper.document.offset? q = some offset) :
    mapper.toContent? q = some p ↔ ∃ inner, offset = mapper.mapping.documentStart + inner ∧
      inner < mapper.mapping.contentLength ∧ mapper.content.position inner = p := by
  simp only [toContent?_eq_some_iff, found, Option.some.injEq]

/-- Positions of the content keep their order in the document. -/
theorem toDocument?_mono {mapper : RegionMapper} {a b c d : Position} (ordered : a ≤ b)
    (first : mapper.toDocument? a = some c) (second : mapper.toDocument? b = some d) : c ≤ d := by
  obtain ⟨_, foundFirst, rfl⟩ := toDocument?_eq_some_iff.1 first
  obtain ⟨_, foundSecond, rfl⟩ := toDocument?_eq_some_iff.1 second
  exact LineIndex.position_mono _
    (Nat.add_le_add_left (LineIndex.offset?_mono ordered foundFirst foundSecond) _)

/-- Positions of the document keep their order in the content. -/
theorem toContent?_mono {mapper : RegionMapper} {a b c d : Position} (ordered : a ≤ b)
    (first : mapper.toContent? a = some c) (second : mapper.toContent? b = some d) : c ≤ d := by
  obtain ⟨_, foundFirst, -, rfl⟩ := toContent?_eq_some_iff.1 first
  obtain ⟨_, foundSecond, -, rfl⟩ := toContent?_eq_some_iff.1 second
  exact LineIndex.position_mono _
    (Nat.le_of_add_le_add_left (LineIndex.offset?_mono ordered foundFirst foundSecond))

section

variable {region : Region} {source : String}

/-- A position in the content is that of its place in the document. -/
theorem toDocument?_position (quoted : region.QuotedIn source.toList)
    (paired : ReturnsPaired source.toList) {offset : Nat} (inside : offset ≤ region.content.length)
    (inContent : (LineIndex.ofText source).InContent (region.start + offset)) :
    (ofRegion region (.ofText source)).toDocument?
        ((LineIndex.ofChars region.content).position offset) =
      some ((LineIndex.ofText source).position (region.start + offset)) :=
  toDocument?_eq_some_iff.2
    ⟨offset, ((quoted.inContent_iff paired inside).1 inContent).offset?_position inside, rfl⟩

/-- A position in the document, inside the region, is that of its place in the content. -/
theorem toContent?_position (quoted : region.QuotedIn source.toList)
    (paired : ReturnsPaired source.toList) {offset : Nat} (inside : offset < region.contentLength)
    (fits : offset ≤ region.content.length)
    (inContent : (LineIndex.ofChars region.content).InContent offset) :
    (ofRegion region (.ofText source)).toContent?
        ((LineIndex.ofText source).position (region.start + offset)) =
      some ((LineIndex.ofChars region.content).position offset) := by
  have inText := quoted.content_standsAt.length_le
  exact toContent?_eq_some_iff.2
    ⟨offset, ((quoted.inContent_iff paired fits).2 inContent).offset?_position (by omega),
      inside, rfl⟩

/-- Between a region and a document whose carriage returns all stand before line feeds, the
positions that lines hold are converted there and back: one in the content to a position of
the document and back, and one in the document to a position of the content exactly when
its offset lies in the region, and back.  Positions keep their order both ways. -/
theorem ofRegion_inverse (thresholds : Thresholds) (catalog : Catalog) (source : String)
    (short : source.length < 2 ^ 32) (paired : ReturnsPaired source.toList) (region : Region)
    (listed : region ∈ (detect thresholds catalog source).regions) :
    let document := LineIndex.ofText source
    let mapper := ofRegion region document
    (∀ p, mapper.content.Holds p → ∃ offset, mapper.content.offset? p = some offset ∧
      (offset < region.contentLength →
        ∃ q, mapper.toDocument? p = some q ∧ q.Fits32 ∧ mapper.toContent? q = some p)) ∧
    (∀ q, document.Holds q → ∃ offset, document.offset? q = some offset ∧
      ((∃ p, mapper.toContent? q = some p) ↔ region.start ≤ offset ∧ offset < region.stop) ∧
      ∀ p, mapper.toContent? q = some p → p.Fits32 ∧ mapper.toDocument? p = some q) ∧
    (∀ a b c d, a ≤ b → mapper.toDocument? a = some c → mapper.toDocument? b = some d → c ≤ d) ∧
    (∀ a b c d, a ≤ b → mapper.toContent? a = some c → mapper.toContent? b = some d → c ≤ d) := by
  intro document mapper
  have quoted := detect_quotedIn listed
  have framed := detect_framed thresholds catalog source region listed
  have length := framed.contentLength_eq
  have filled := framed.filled
  have inText := quoted.content_standsAt.length_le
  rw [← String.length_toList] at short
  refine ⟨?_, ?_, fun _ _ _ _ => toDocument?_mono, fun _ _ _ _ => toContent?_mono⟩
  · intro p held
    obtain ⟨offset, found, fits, same, inContent⟩ := held.position_offset
    refine ⟨offset, found, fun inside =>
      ⟨(LineIndex.ofText source).position (region.start + offset), ?_, ?_, ?_⟩⟩
    · exact toDocument?_eq_some_iff.2 ⟨offset, found, rfl⟩
    · exact LineIndex.position_fits32 short (by omega)
    · have converted := toContent?_position quoted paired inside fits inContent
      rwa [same] at converted
  · intro q held
    obtain ⟨offset, found, fits, same, inContent⟩ := held.position_offset
    have converts (p : Position) : mapper.toContent? q = some p ↔
        ∃ inner, offset = region.start + inner ∧ inner < region.contentLength ∧
          (LineIndex.ofChars region.content).position inner = p :=
      toContent?_eq_some_iff_of_offset? found
    refine ⟨offset, found, ?_, ?_⟩
    · simp only [converts]
      constructor
      · rintro ⟨p, inner, rfl, inside, -⟩
        exact ⟨Nat.le_add_right _ _, by omega⟩
      · rintro ⟨behind, before⟩
        exact ⟨_, offset - region.start, (Nat.add_sub_cancel' behind).symm, by omega, rfl⟩
    · intro p converted
      obtain ⟨inner, rfl, inside, rfl⟩ := (converts p).1 converted
      have fits : inner ≤ region.content.length := by omega
      refine ⟨LineIndex.position_fits32 (by omega) fits, ?_⟩
      exact (toDocument?_position quoted paired fits inContent).trans (congrArg some same)

/-- A region over two lines with a carriage return before the line feed, and a wide character
before its tag: the end of its first line, and the quote behind its last character. -/
theorem ofRegion_inverse_multiline :
    let source := "x=\r\n#\"é<b>\r\nz\";"
    let literal : Literal := ⟨4, 14, 6, 13, "é<b>\r\nz".toList, true⟩
    let region := literal.region [⟨.openTag, "b", 1, 3, none, true⟩]
    let mapper := ofRegion region (.ofText source)
    region ∈ (detect {} Catalog.html source).regions ∧
      mapper.toDocument? ⟨0, 4⟩ = some ⟨1, 6⟩ ∧ mapper.toContent? ⟨1, 6⟩ = some ⟨0, 4⟩ ∧
      mapper.toContent? ⟨2, 1⟩ = none := by
  intro source literal region mapper
  have scanned : Marker.scan Catalog.html literal.content = [⟨.openTag, "b", 1, 3, none, true⟩] :=
    Marker.scan_eq_singleton (by decide +kernel)
  have listed : region ∈ (detect {} Catalog.html source).regions :=
    Literal.region_mem_detect (by decide +kernel) scanned (by decide) (by decide)
      (by decide +kernel)
  obtain ⟨fromContent, fromDocument, -⟩ :=
    ofRegion_inverse {} Catalog.html source (by decide) (by decide) region listed
  -- The end of the first line is an offset of the region,
  obtain ⟨offset, found, inverse⟩ := fromContent ⟨0, 4⟩ (by decide)
  have there : mapper.toDocument? ⟨0, 4⟩ = some ⟨1, 6⟩ := by decide
  obtain rfl : 4 = offset := Option.some.inj ((by decide : _ = some 4).symm.trans found)
  obtain ⟨q, converted, -, back⟩ := inverse (by decide)
  obtain rfl := Option.some.inj (there.symm.trans converted)
  -- and the closing quote is none.
  obtain ⟨offset, found, inside, -⟩ := fromDocument ⟨2, 1⟩ (by decide)
  obtain rfl : 13 = offset := Option.some.inj ((by decide : _ = some 13).symm.trans found)
  refine ⟨listed, there, back, Option.eq_none_iff_forall_ne_some.2 fun p converted => ?_⟩
  exact absurd (inside.1 ⟨p, converted⟩) (by decide)

end

end RegionMapper

end Inlay
