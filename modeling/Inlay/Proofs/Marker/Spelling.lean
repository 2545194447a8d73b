import Inlay.Proofs.Marker.Tags

/-!
# How markers are spelled

A marker covers a stretch of the content that is spelled as its recogniser asks, and takes
its name from there: `SpelledBy` says so for the three kinds of markers.

Where markers lie follows from this.  A tag is the only thing that begins with `<`, and it
has no other angle bracket but the `>` that ends it, so an entity, which has none, cannot
reach over either end of a tag.  The attributes of a tag are looked for between its name
and its end.  No two markers begin at one place, since tags, attributes and entities begin
with different characters; so the order in which they are listed is strict.
-/

namespace Inlay.Marker

open Text

/-! ## Markers -/

/-- The characters of the content that a marker covers. -/
def text (content : List Char) (marker : Marker) : List Char :=
  content.extract marker.offset marker.stop

/-- How the text of a marker is spelled, and what the marker takes from it. -/
inductive SpelledBy (catalog : Catalog) (marker : Marker) : List Char → Prop where
  /-- The name starts behind the `<`, or behind the `/` of a closing tag, and goes on as far
  as it can. -/
  | tag {inner name rest : List Char} (isTag : marker.kind.isTag = true)
      (plain : ∀ c ∈ inner, c ≠ '<' ∧ c ≠ '>')
      (parts : inner = (if marker.kind = .closeTag then ['/'] else []) ++ (name ++ rest))
      (first : ∃ c ∈ name.head?, isLetter c = true) (named : ∀ c ∈ name, isTagNameChar c = true)
      (behind : ∀ c ∈ rest.head?, isTagNameChar c = false)
      (lowered : marker.name = lowercase (String.ofList name))
      (known : marker.known = catalog.isKnownTag marker.name) :
      SpelledBy catalog marker ('<' :: (inner ++ ['>']))
  | assignment {name gap : List Char} (kind : marker.kind = .attribute)
      (first : ∃ c ∈ name.head?, isAttributeStart c = true)
      (named : ∀ c ∈ name, isAttributeChar c = true) (blank : ∀ c ∈ gap, isBlank c = true)
      (lowered : marker.name = lowercase (String.ofList name))
      (known : marker.known = catalog.isKnownAttribute marker.name) :
      SpelledBy catalog marker (name ++ (gap ++ ['=']))
  | entity {body : List Char} (kind : marker.kind = .entity)
      (plain : ∀ c ∈ body, c ≠ '<' ∧ c ≠ '>')
      (named : marker.name = String.ofList ('&' :: (body ++ [';']))) :
      SpelledBy catalog marker ('&' :: (body ++ [';']))

/-- The marker covers a stretch of the content that spells it. -/
def StandsIn (catalog : Catalog) (content : List Char) (marker : Marker) : Prop :=
  ∃ stretch, marker.SpelledBy catalog stretch ∧ StandsAt content stretch marker.offset ∧
    marker.length = stretch.length

/-- The marker lies strictly inside the other one. -/
def InsideOf (inner outer : Marker) : Prop :=
  outer.offset < inner.offset ∧ inner.stop < outer.stop

variable {catalog : Catalog} {content : List Char} {marker : Marker}

theorem SpelledBy.ne_nil {stretch : List Char} (spelled : marker.SpelledBy catalog stretch) :
    stretch ≠ [] := by
  cases spelled <;> simp

/-- A tag is spelled from a `<` to a `>` and has no other angle bracket. -/
theorem SpelledBy.of_isTag {stretch : List Char} (spelled : marker.SpelledBy catalog stretch)
    (isTag : marker.kind.isTag = true) :
    ∃ inner, stretch = '<' :: (inner ++ ['>']) ∧ ∀ c ∈ inner, c ≠ '<' ∧ c ≠ '>' := by
  cases spelled with
  | tag _ plain => exact ⟨_, rfl, plain⟩
  | assignment kind | entity kind => simp [kind, MarkerKind.isTag] at isTag

theorem StandsIn.within (stands : marker.StandsIn catalog content) :
    0 < marker.length ∧ marker.stop ≤ content.length := by
  obtain ⟨stretch, spelled, place, width⟩ := stands
  rw [stop, width]
  exact ⟨List.length_pos_iff.2 spelled.ne_nil, place.length_le⟩

theorem StandsIn.spelledBy_text (stands : marker.StandsIn catalog content) :
    marker.SpelledBy catalog (marker.text content) := by
  obtain ⟨stretch, spelled, place, width⟩ := stands
  rwa [text, stop, width, place.extract_eq]

/-- Only an entity begins with an ampersand. -/
theorem StandsIn.isEntity_iff (stands : marker.StandsIn catalog content) :
    marker.kind = .entity ↔ content[marker.offset]? = some '&' := by
  obtain ⟨stretch, spelled, place, -⟩ := stands
  have first := place.getElem?_eq (List.length_pos_iff.2 spelled.ne_nil)
  rw [Nat.add_zero, ← List.head?_eq_getElem?] at first
  rw [first]
  cases spelled with
  | tag isTag => cases kind : marker.kind <;> simp_all [MarkerKind.isTag]
  | @assignment name gap kind start =>
      obtain ⟨c, head, starts⟩ := start
      rw [kind, List.head?_append, Option.mem_def.1 head]
      simp only [reduceCtorEq, Option.some_or, Option.some.injEq, false_iff]
      rintro rfl
      exact absurd starts (by decide)
  | entity kind => simp [kind]

/-- A tag begins and ends with its angle brackets. -/
theorem StandsIn.brackets (stands : marker.StandsIn catalog content)
    (isTag : marker.kind.isTag = true) :
    content[marker.offset]? = some '<' ∧ content[marker.stop - 1]? = some '>' := by
  obtain ⟨stretch, spelled, place, width⟩ := stands
  cases spelled with
  | @tag inner =>
      have last : marker.stop - 1 = marker.offset + (inner.length + 1) := by
        rw [stop, width]
        simp only [List.length_cons, List.length_append, List.length_nil]
        omega
      constructor
      · exact place.getElem?_eq (Nat.succ_pos _)
      · rw [last, place.getElem?_eq (by simp)]
        simp
  | assignment kind | entity kind => simp [kind, MarkerKind.isTag] at isTag

/-- An entity holds no angle bracket, so it is in no tag and no tag in it. -/
theorem StandsIn.plain (stands : marker.StandsIn catalog content) (entity : marker.kind = .entity)
    {index : Nat} (behind : marker.offset ≤ index) (before : index < marker.stop) :
    content[index]? ≠ some '<' ∧ content[index]? ≠ some '>' := by
  obtain ⟨stretch, spelled, place, width⟩ := stands
  cases spelled with
  | @entity body _ plain =>
      obtain ⟨distance, rfl⟩ := Nat.exists_eq_add_of_le behind
      have allPlain : ∀ c ∈ '&' :: (body ++ [';']), c ≠ '<' ∧ c ≠ '>' := by
        rw [List.forall_mem_cons, List.forall_mem_append, List.forall_mem_singleton]
        exact ⟨by decide, plain, by decide⟩
      rw [stop, width] at before
      rw [place.getElem?_eq (Nat.lt_of_add_lt_add_left before)]
      constructor
      · intro less
        exact (allPlain _ (List.mem_of_getElem? less)).1 rfl
      · intro greater
        exact (allPlain _ (List.mem_of_getElem? greater)).2 rfl
  | tag isTag => simp [entity, MarkerKind.isTag] at isTag
  | assignment kind => simp [kind] at entity

/-- An entity has no angle bracket, so it does not reach over either end of a tag. -/
theorem StandsIn.apart_or_insideOf {tag : Marker} (stands : marker.StandsIn catalog content)
    (tagStands : tag.StandsIn catalog content) (entity : marker.kind = .entity)
    (isTag : tag.kind.isTag = true) :
    marker.stop ≤ tag.offset ∨ tag.stop ≤ marker.offset ∨ marker.InsideOf tag := by
  have nonempty := stands.within.1
  have tagNonempty := tagStands.within.1
  obtain ⟨less, greater⟩ := tagStands.brackets isTag
  have notFirst : ¬(marker.offset ≤ tag.offset ∧ tag.offset < marker.stop) :=
    fun ⟨behind, before⟩ => (stands.plain entity behind before).1 less
  have notLast : ¬(marker.offset ≤ tag.stop - 1 ∧ tag.stop - 1 < marker.stop) :=
    fun ⟨behind, before⟩ => (stands.plain entity behind before).2 greater
  simp only [InsideOf, stop] at nonempty tagNonempty notFirst notLast ⊢
  omega

/-- Names are made small as texts are. -/
theorem lowercase_eq_smallName (name : List Char) :
    lowercase (String.ofList name) = smallName name := by
  rw [lowercase, String.toList_ofList, smallName]

theorem ofTag_standsIn (catalog : Catalog) {found : Match Tag}
    (listed : found ∈ findAll tagAt content) :
    (ofTag catalog found).StandsIn catalog content := by
  obtain ⟨stretch, ⟨body, hasBody, rfl⟩, place, width⟩ := tagAt_reads.standsAt listed
  let slash := if (ofTag catalog found).kind = .closeTag then ['/'] else []
  have brackets : found.value.lead ++ (found.value.name ++ (body ++ ['>'])) =
      '<' :: (slash ++ (found.value.name ++ body) ++ ['>']) := by
    have closes : (ofTag catalog found).kind = .closeTag ↔ found.value.closing = true := by
      simp only [ofTag, Tag.kind]
      grind
    simp only [slash, Tag.lead, closes]
    split <;> simp
  have plain : ∀ c ∈ slash ++ (found.value.name ++ body), c ≠ '<' ∧ c ≠ '>' := by
    intro c membership
    rcases List.mem_append.1 membership with inSlash | later
    · have only : c = '/' := by
        simp only [slash] at inSlash
        split at inSlash
        · exact List.mem_singleton.1 inSlash
        · cases inSlash
      subst only
      decide
    · rcases List.mem_append.1 later with inName | inBody
      · exact plain_of_members hasBody.named (by decide) (by decide) c inName
      · exact hasBody.plain c inBody
  rw [brackets] at place width
  exact ⟨_, .tag (isTag_ofTag catalog found) plain rfl hasBody.first hasBody.named hasBody.behind
    (lowercase_eq_smallName _).symm rfl, place, width⟩

/-- An attribute stands inside its tag, at the offset within the attributes. -/
theorem ofAttribute_standsIn (catalog : Catalog) {found : Match Tag}
    {named : Match (List Char)} (listed : found ∈ findAll tagAt content)
    (within : named ∈ findAll attributeAt (found.value.attributes.getD [])) :
    let marker := ofAttribute catalog (found.start + found.value.attributesOffset) named
    marker.StandsIn catalog content ∧ marker.InsideOf (ofTag catalog found) := by
  intro marker
  obtain ⟨stretch, tagSpelled, place, tagWidth⟩ := tagAt_reads.standsAt listed
  obtain ⟨inTag, early⟩ := tagSpelled.attributes
  obtain ⟨inner, ⟨gap, rfl, first, members, blank⟩, inAttributes, width⟩ :=
    attributeAt_reads.standsAt within
  have spelled : marker.SpelledBy catalog (named.value ++ (gap ++ ['='])) :=
    .assignment rfl first members blank (lowercase_eq_smallName _).symm rfl
  refine ⟨⟨_, spelled, (place.trans inTag).trans inAttributes, width⟩, ?_⟩
  have fits := inAttributes.length_le
  have behind : 0 < found.value.attributesOffset := by
    rw [Tag.attributesOffset]
    split <;> omega
  simp only [InsideOf, stop, marker, ofAttribute, ofTag]
  omega

theorem ofEntity_standsIn {found : Match (List Char)} (listed : found ∈ findAll entityAt content) :
    (ofEntity found).StandsIn catalog content := by
  obtain ⟨stretch, ⟨same, body, rfl, plain⟩, place, width⟩ := entityAt_reads.standsAt listed
  exact ⟨_, .entity rfl plain (congrArg String.ofList same), place, width⟩

/-! ## All markers of a content -/

/-- Where a marker of the content comes from. -/
inductive Origin (catalog : Catalog) (content : List Char) : Marker → Prop where
  | tag {found : Match Tag} : found ∈ findAll tagAt content →
      Origin catalog content (ofTag catalog found)
  | inTag {found : Match Tag} {named : Match (List Char)} : found ∈ findAll tagAt content →
      named ∈ findAll attributeAt (found.value.attributes.getD []) →
      Origin catalog content
        (ofAttribute catalog (found.start + found.value.attributesOffset) named)
  | entity {found : Match (List Char)} : found ∈ findAll entityAt content →
      Origin catalog content (ofEntity found)

/-- Every marker comes from a tag, an attribute of a tag or an entity. -/
theorem origin_of_mem_scan (listed : marker ∈ scan catalog content) :
    Origin catalog content marker := by
  rw [scan, List.mem_mergeSort, List.mem_append, List.mem_flatMap, List.mem_map] at listed
  rcases listed with ⟨found, inContent, belongs⟩ | ⟨found, inContent, rfl⟩
  · rcases List.mem_cons.1 belongs with rfl | inTag
    · exact .tag inContent
    · obtain ⟨named, within, rfl⟩ := List.mem_map.1 inTag
      exact .inTag inContent within
  · exact .entity inContent

/-- Every marker stands in the content as it is spelled. -/
theorem standsIn_of_mem_scan (listed : marker ∈ scan catalog content) :
    marker.StandsIn catalog content := by
  cases origin_of_mem_scan listed with
  | tag inContent => exact ofTag_standsIn catalog inContent
  | inTag inContent within => exact (ofAttribute_standsIn catalog inContent within).1
  | entity inContent => exact ofEntity_standsIn inContent

theorem ofTag_mem_scan {found : Match Tag} (listed : found ∈ findAll tagAt content) :
    ofTag catalog found ∈ scan catalog content :=
  List.mem_mergeSort.2 (List.mem_append_left _ (List.mem_flatMap.2 ⟨found, listed, .head _⟩))

/-- The markers of a tag start inside it, one behind the other. -/
theorem pairwise_ofTagWithAttributes {found : Match Tag} (catalog : Catalog)
    (listed : found ∈ findAll tagAt content) :
    (ofTagWithAttributes catalog found).Pairwise (fun a b => a.offset < b.offset) ∧
      ∀ marker ∈ ofTagWithAttributes catalog found,
        found.start ≤ marker.offset ∧ marker.offset < found.stop := by
  constructor
  · refine List.pairwise_cons.2 ⟨?_, List.pairwise_map.2 ?_⟩
    · intro marker membership
      obtain ⟨named, within, rfl⟩ := List.mem_map.1 membership
      exact (ofAttribute_standsIn catalog listed within).2.1
    · refine (pairwise_findFrom attributeAt_reads.sound 0 0 _).imp_of_mem ?_
      intro a b first _ apart
      have nonempty := (findFrom_within attributeAt_reads.sound first).2.1
      simp only [Match.stop, ofAttribute] at apart ⊢
      omega
  · intro marker membership
    rcases List.mem_cons.1 membership with rfl | inTag
    · have nonempty := (ofTag_standsIn catalog listed).within.1
      exact ⟨Nat.le_refl _, Nat.lt_add_of_pos_right nonempty⟩
    · obtain ⟨named, within, rfl⟩ := List.mem_map.1 inTag
      obtain ⟨begins, ends⟩ := (ofAttribute_standsIn catalog listed within).2
      exact ⟨Nat.le_of_lt begins, Nat.lt_of_le_of_lt (Nat.le_add_right _ _) ends⟩

theorem kind_ne_entity_of_mem_ofTagWithAttributes {found : Match Tag}
    (membership : marker ∈ ofTagWithAttributes catalog found) : marker.kind ≠ .entity := by
  rcases List.mem_cons.1 membership with rfl | inTag
  · have isTag := isTag_ofTag catalog found
    intro entity
    rw [entity] at isTag
    cases isTag
  · obtain ⟨named, -, rfl⟩ := List.mem_map.1 inTag
    nofun

/-- No two markers start at one place. -/
theorem pairwise_scan (catalog : Catalog) (content : List Char) :
    (scan catalog content).Pairwise fun a b => a.offset < b.offset := by
  have tagged : ((findAll tagAt content).flatMap (ofTagWithAttributes catalog)).Pairwise
      fun a b => a.offset < b.offset := by
    refine List.pairwise_flatMap.2 ⟨fun found listed =>
      (pairwise_ofTagWithAttributes catalog listed).1, ?_⟩
    refine (pairwise_findFrom tagAt_sound 0 0 content).imp_of_mem ?_
    intro first second inFirst inSecond apart a ofFirst b ofSecond
    have early := (pairwise_ofTagWithAttributes catalog inFirst).2 a ofFirst
    have late := (pairwise_ofTagWithAttributes catalog inSecond).2 b ofSecond
    omega
  have entities : ((findAll entityAt content).map ofEntity).Pairwise
      fun a b => a.offset < b.offset := by
    refine List.pairwise_map.2 ((pairwise_findFrom entityAt_reads.sound 0 0 content).imp_of_mem ?_)
    intro a b first _ apart
    have nonempty := (findFrom_within entityAt_reads.sound first).2.1
    simp only [Match.stop, ofEntity] at apart ⊢
    omega
  have distinct : ((findAll tagAt content).flatMap (ofTagWithAttributes catalog) ++
      (findAll entityAt content).map ofEntity).Pairwise fun a b => a.offset ≠ b.offset := by
    refine List.pairwise_append.2 ⟨tagged.imp Nat.ne_of_lt, entities.imp Nat.ne_of_lt, ?_⟩
    intro a inTags b inEntities same
    obtain ⟨found, -, belongs⟩ := List.mem_flatMap.1 inTags
    obtain ⟨entity, -, rfl⟩ := List.mem_map.1 inEntities
    have stands : a.StandsIn catalog content :=
      standsIn_of_mem_scan (List.mem_mergeSort.2 (List.mem_append_left _ inTags))
    have entityStands : (ofEntity entity).StandsIn catalog content :=
      standsIn_of_mem_scan (List.mem_mergeSort.2 (List.mem_append_right _ inEntities))
    -- One character cannot be an ampersand and something else.
    have ampersand := entityStands.isEntity_iff.1 rfl
    rw [← same] at ampersand
    exact kind_ne_entity_of_mem_ofTagWithAttributes belongs (stands.isEntity_iff.2 ampersand)
  have apart : (scan catalog content).Pairwise fun a b => a.offset ≠ b.offset :=
    ((List.mergeSort_perm _ before).pairwise_iff Ne.symm).2 distinct
  refine (List.Pairwise.and (List.pairwise_mergeSort before_trans before_total _) apart).imp ?_
  rintro a b ⟨sorted, different⟩
  simp only [before, Bool.or_eq_true, Bool.and_eq_true, decide_eq_true_eq, beq_iff_eq] at sorted
  omega

/-- The tag of an attribute is listed before it. -/
theorem exists_tag_of_attribute {front back : List Marker}
    (split : scan catalog content = front ++ marker :: back) (kind : marker.kind = .attribute) :
    ∃ tag ∈ front, tag.kind.isTag = true ∧ marker.InsideOf tag := by
  have listed : marker ∈ scan catalog content := split ▸ List.mem_append_right _ (.head _)
  cases origin_of_mem_scan listed with
  | @tag found =>
      have isTag := isTag_ofTag catalog found
      rw [kind] at isTag
      cases isTag
  | entity => cases kind
  | @inTag found named inContent within =>
      have inside := (ofAttribute_standsIn catalog inContent within).2
      refine ⟨ofTag catalog found, ?_, isTag_ofTag catalog found, inside⟩
      have tagListed : ofTag catalog found ∈ scan catalog content := ofTag_mem_scan inContent
      have sorted := pairwise_scan catalog content
      rw [split] at tagListed sorted
      -- Behind the attribute everything starts later, and the tag starts earlier.
      rcases List.mem_append.1 tagListed with early | late
      · exact early
      · have later := List.pairwise_cons.1 (List.pairwise_append.1 sorted).2.1
        rcases List.mem_cons.1 late with same | behind
        · rw [same] at inside
          exact absurd inside.1 (Nat.lt_irrefl _)
        · exact absurd inside.1 (Nat.lt_asymm (later.1 _ behind))

/-- The markers of a content are listed in strict order of their offsets, lie in the content
and are spelled as their kinds are; tags are apart, an attribute lies in a tag that is listed
before it, and an entity lies outside a tag or strictly inside it. -/
theorem scan_spelled (catalog : Catalog) (content : List Char) :
    ((scan catalog content).Pairwise fun a b => a.offset < b.offset) ∧
    (∀ marker ∈ scan catalog content, 0 < marker.length ∧ marker.stop ≤ content.length ∧
      marker.SpelledBy catalog (marker.text content)) ∧
    (((scan catalog content).filter (·.kind.isTag)).Pairwise fun a b => a.stop ≤ b.offset) ∧
    (∀ front marker back, scan catalog content = front ++ marker :: back →
      marker.kind = .attribute → ∃ tag ∈ front, tag.kind.isTag = true ∧ marker.InsideOf tag) ∧
    (∀ entity ∈ scan catalog content, entity.kind = .entity →
      ∀ tag ∈ scan catalog content, tag.kind.isTag = true →
        entity.stop ≤ tag.offset ∨ tag.stop ≤ entity.offset ∨ entity.InsideOf tag) := by
  refine ⟨pairwise_scan catalog content, ?_, ?_, ?_, ?_⟩
  · intro marker listed
    have stands := standsIn_of_mem_scan listed
    exact ⟨stands.within.1, stands.within.2, stands.spelledBy_text⟩
  · rw [filter_isTag_scan]
    exact (tags_inOrder catalog content).apart
  · intro front marker back split kind
    exact exists_tag_of_attribute split kind
  · intro entity listed kind tag tagListed isTag
    have stands := standsIn_of_mem_scan listed
    exact stands.apart_or_insideOf (standsIn_of_mem_scan tagListed) kind isTag

/-- Capitals and a line feed in a tag that closes itself, an attribute with a blank before
its equals sign, an entity in the value of another, and one right behind the tag. -/
theorem scan_spelled_nested :
    let content := "é<A\nx =1 HREF='&amp;'/>&#x41;<".toList
    let tag : Marker := ⟨.selfClosingTag, "a", 1, 22, none, true⟩
    let href : Marker := ⟨.attribute, "href", 9, 5, none, true⟩
    let entity : Marker := ⟨.entity, "&amp;", 15, 5, none, true⟩
    scan Catalog.html content =
        [tag, ⟨.attribute, "x", 4, 3, none, false⟩, href, entity,
          ⟨.entity, "&#x41;", 23, 6, none, true⟩] ∧
      tag.SpelledBy Catalog.html "<A\nx =1 HREF='&amp;'/>".toList ∧
      href.InsideOf tag ∧ entity.InsideOf tag := by
  intro content tag href entity
  have scanned : scan Catalog.html content =
      [tag, ⟨.attribute, "x", 4, 3, none, false⟩, href, entity,
        ⟨.entity, "&#x41;", 23, 6, none, true⟩] := by
    have unsorted : (findAll tagAt content).flatMap (ofTagWithAttributes Catalog.html) ++
        (findAll entityAt content).map ofEntity =
          [tag, ⟨.attribute, "x", 4, 3, none, false⟩, href, entity,
            ⟨.entity, "&#x41;", 23, 6, none, true⟩] := by decide +kernel
    rw [scan, unsorted]
    exact List.mergeSort_of_pairwise (by decide)
  obtain ⟨-, spelled, -, attributes, entities⟩ := scan_spelled Catalog.html content
  obtain ⟨outer, among, isTag, inside⟩ := attributes [tag, _] href [entity, _] scanned rfl
  rw [scanned] at spelled entities
  have covered : tag.text content = "<A\nx =1 HREF='&amp;'/>".toList := by decide +kernel
  have spelledTag := (spelled tag (by simp)).2.2
  rw [covered] at spelledTag
  have around := entities entity (by simp) rfl tag (by simp) rfl
  refine ⟨scanned, spelledTag, ?_, ?_⟩
  · rcases List.mem_cons.1 among with rfl | other
    · exact inside
    · rw [List.mem_singleton.1 other] at isTag
      cases isTag
  · exact (around.resolve_left (by decide)).resolve_left (by decide)

end Inlay.Marker
