import Inlay.Proofs.Marker.Pairing
import Inlay.Proofs.Symbol.Conservation
import Inlay.Proofs.Symbol.Outline

/-!
# What becomes of every tag

An outline is followed from any builder over the markers still to come, and compared with
the pairing of the tags.  `OutlineBuilder.preorder` lists the elements that were read, each
before those inside it; closing an element does not change it, so it grows by one with
every tag that begins an element.  Of the tags that open one, each is paired, passed over
by a closing tag further out, or open at the end; of the closing tags, each is paired or
stray.

`OutlineBuilder.Reading` says this of a run of markers.  It is proved for one marker, by what
the marker does, and holds of two runs together when it holds of each.
-/

namespace Inlay

namespace Forest

/-- The names and the starts of the symbols of a forest, each before those below it. -/
def heads (forest : Forest) : List (String × Nat) :=
  forest.entries.map fun entry => (entry.name, entry.start)

theorem entries_append (first second : Forest) :
    entries (first ++ second) = first.entries ++ second.entries := by
  induction first with
  | nil => rfl
  | cons node rest ih =>
      rw [List.cons_append, entries_cons, entries_cons, ih, List.cons_append, List.append_assoc]

theorem heads_append (first second : Forest) :
    heads (first ++ second) = first.heads ++ second.heads := by
  rw [heads, entries_append, List.map_append]
  rfl

/-- An element comes before what is inside it, under the name and at the start of its opening
tag. -/
theorem heads_element (marker : Marker) (stop : Nat) (children : Forest) :
    heads [marker.element stop children] = marker.head :: children.heads := by
  rw [heads, entries_cons, entries_nil, List.append_nil, List.map_cons]
  rfl

end Forest

/-! ## Closing elements -/

namespace OutlineBuilder

/-- The tags of the open elements, innermost first. -/
def opened (builder : OutlineBuilder) : List Marker := builder.stack.map OpenElement.marker

/-- The elements read so far, open or closed, each before those inside it. -/
def preorder (builder : OutlineBuilder) : List (String × Nat) :=
  builder.outline.roots.heads ++
    builder.stack.reverse.flatMap fun element => element.marker.head :: element.children.heads

/-- The entries of the elements that are closed. -/
def closed (builder : OutlineBuilder) : List Entry :=
  builder.outline.roots.entries ++ builder.stack.flatMap fun element => element.children.entries

variable (catalog : Catalog) (builder : OutlineBuilder) (stop : Nat)

@[simp] theorem opened_empty : opened {} = [] := rfl

theorem opened_attach (node : Node) : (builder.attach node).opened = builder.opened := by
  obtain ⟨stack, outline⟩ := builder
  cases stack <;> rfl

theorem unclosed_attach (node : Node) :
    (builder.attach node).outline.unclosed = builder.outline.unclosed := by
  obtain ⟨stack, outline⟩ := builder
  cases stack <;> rfl

theorem strayClosers_attach (node : Node) :
    (builder.attach node).outline.strayClosers = builder.outline.strayClosers := by
  obtain ⟨stack, outline⟩ := builder
  cases stack <;> rfl

/-- An element that is attached is the last one read. -/
theorem preorder_attach (node : Node) :
    (builder.attach node).preorder = builder.preorder ++ Forest.heads [node] := by
  obtain ⟨stack, outline⟩ := builder
  cases stack with
  | nil => simp [preorder, attach, Forest.heads_append]
  | cons parent outer => simp [preorder, attach, Forest.heads_append]

theorem mem_closed_attach {node : Node} {entry : Entry} :
    entry ∈ (builder.attach node).closed ↔
      entry ∈ builder.closed ∨ entry ∈ Forest.entries [node] := by
  obtain ⟨stack, outline⟩ := builder
  cases stack with
  | nil => simp [closed, attach, Forest.entries_append]
  | cons parent outer =>
      simp only [closed, attach, Forest.entries_append, List.flatMap_cons, List.mem_append]
      tauto

/-- Closing takes the innermost element, if there is one. -/
theorem opened_closeInner : (builder.closeInner stop).opened = builder.opened.tail := by
  obtain ⟨stack, outline⟩ := builder
  cases stack with
  | nil => rfl
  | cons inner outer => exact opened_attach _ _

theorem unclosed_closeInner :
    (builder.closeInner stop).outline.unclosed = builder.outline.unclosed := by
  obtain ⟨stack, outline⟩ := builder
  cases stack with
  | nil => rfl
  | cons inner outer => exact unclosed_attach _ _

theorem strayClosers_closeInner :
    (builder.closeInner stop).outline.strayClosers = builder.outline.strayClosers := by
  obtain ⟨stack, outline⟩ := builder
  cases stack with
  | nil => rfl
  | cons inner outer => exact strayClosers_attach _ _

/-- Closing an element moves it below its parent, where it was listed already. -/
theorem preorder_closeInner : (builder.closeInner stop).preorder = builder.preorder := by
  obtain ⟨stack, outline⟩ := builder
  cases stack with
  | nil => rfl
  | cons inner outer =>
      refine (preorder_attach _ _).trans ?_
      simp [preorder, Forest.heads_element]

theorem mem_closed_closeInner {entry : Entry} (membership : entry ∈ builder.closed) :
    entry ∈ (builder.closeInner stop).closed := by
  obtain ⟨stack, outline⟩ := builder
  cases stack with
  | nil => exact membership
  | cons inner outer =>
      refine (mem_closed_attach _).2 ?_
      simp only [closed, List.flatMap_cons, List.mem_append, Forest.entries_cons,
        Marker.element, Node.children_mk, List.mem_cons] at membership ⊢
      tauto

/-- The element that is closed ends where it is closed. -/
theorem element_mem_closed_closeInner {tag : Marker} {outer : List Marker}
    (innermost : builder.opened = tag :: outer) :
    Entry.of tag.elementName .ofElement tag.offset stop .embedded ∈
      (builder.closeInner stop).closed := by
  obtain ⟨stack, outline⟩ := builder
  cases stack with
  | nil => cases innermost
  | cons inner below =>
      obtain rfl := (List.cons.inj innermost).1
      refine (mem_closed_attach _).2 (.inr ?_)
      rw [Forest.entries_cons]
      exact List.mem_cons_self

/-- The builder with some tags reported as unclosed. -/
def report (tags : List Marker) : OutlineBuilder :=
  { builder with outline.unclosed := builder.outline.unclosed ++ tags }

@[simp] theorem opened_report (tags : List Marker) :
    (builder.report tags).opened = builder.opened :=
  rfl

/-- To abandon the innermost element is to report it, unless its end is optional, and to close
it. -/
theorem abandonInner_eq : builder.abandonInner catalog stop =
      (builder.report ((builder.opened.take 1).filter (Marker.needsEnd catalog))).closeInner
        stop := by
  obtain ⟨stack, outline⟩ := builder
  cases stack with
  | nil => simp [abandonInner, report, opened, closeInner]
  | cons inner outer =>
      cases optional : catalog.hasOptionalEnd inner.marker.name <;>
        simp [abandonInner, report, opened, Marker.needsEnd, optional]

variable (count : Nat)

/-- As many elements are abandoned as is said, innermost first. -/
theorem opened_abandon :
    (builder.abandon catalog stop count).opened = builder.opened.drop count := by
  induction count generalizing builder with
  | zero => rfl
  | succ count ih =>
      rw [abandon, ih, abandonInner_eq, opened_closeInner, List.drop_tail, opened_report]

/-- Of the abandoned elements those that need an end are reported, innermost first. -/
theorem unclosed_abandon : (builder.abandon catalog stop count).outline.unclosed =
    builder.outline.unclosed ++ (builder.opened.take count).filter (Marker.needsEnd catalog) := by
  induction count generalizing builder with
  | zero => simp [abandon]
  | succ count ih =>
      rw [abandon, ih, abandonInner_eq, unclosed_closeInner, opened_closeInner, opened_report,
        report, List.append_assoc, ← List.filter_append, ← List.drop_one, ← List.take_add,
        Nat.add_comm]

theorem strayClosers_abandon :
    (builder.abandon catalog stop count).outline.strayClosers = builder.outline.strayClosers := by
  induction count generalizing builder with
  | zero => rfl
  | succ count ih =>
      rw [abandon, ih, abandonInner_eq, strayClosers_closeInner]
      rfl

/-- Abandoned elements stay in the outline. -/
theorem preorder_abandon : (builder.abandon catalog stop count).preorder = builder.preorder := by
  induction count generalizing builder with
  | zero => rfl
  | succ count ih =>
      rw [abandon, ih, abandonInner_eq, preorder_closeInner]
      rfl

theorem mem_closed_abandon {entry : Entry} (membership : entry ∈ builder.closed) :
    entry ∈ (builder.abandon catalog stop count).closed := by
  induction count generalizing builder with
  | zero => exact membership
  | succ count ih =>
      refine ih _ ?_
      rw [abandonInner_eq]
      exact mem_closed_closeInner _ stop membership

end OutlineBuilder

/-! ## Reading a tag -/

namespace OutlineBuilder

variable {catalog : Catalog} (builder : OutlineBuilder) {marker : Marker}

/-- A tag without content is an element at once, as long as the tag. -/
theorem step_of_leaf (begins : marker.begins = true) (shut : marker.opens catalog = false) :
    builder.step catalog marker = builder.attach (marker.element marker.stop []) := by
  cases kind : marker.kind <;> simp_all [Marker.begins, Marker.opens, step]

/-- An opening tag waits on the stack for its end. -/
theorem step_of_push (opens : marker.opens catalog = true) :
    builder.step catalog marker = { builder with stack := { marker } :: builder.stack } := by
  simp_all [Marker.opens, step]

/-- A closing tag abandons the elements inside the nearest open one of its name, and closes that
one. -/
theorem step_of_close {inner outer : List Marker} {tag : Marker} (kind : marker.kind = .closeTag)
    (parts : builder.opened = inner ++ tag :: outer)
    (passed : ∀ other ∈ inner, other.name ≠ marker.name) (same : tag.name = marker.name) :
    builder.step catalog marker =
      (builder.abandon catalog marker.offset inner.length).closeInner marker.stop := by
  have found : builder.stack.findIdx? (fun element => element.marker.name == marker.name) =
      some inner.length := by
    have mapped : builder.opened.findIdx? (·.name == marker.name) =
        builder.stack.findIdx? fun element => element.marker.name == marker.name :=
      List.findIdx?_map
    rw [parts, List.findIdx?_append, List.findIdx?_eq_none_iff.2 (by simpa using passed),
      List.findIdx?_cons, if_pos (by simpa using same)] at mapped
    simpa using mapped.symm
  simp only [step, kind, found]

/-- A closing tag that finds no open element of its name is noted as stray. -/
theorem step_of_stray (kind : marker.kind = .closeTag)
    (unmatched : ∀ other ∈ builder.opened, other.name ≠ marker.name) :
    builder.step catalog marker =
      { builder with outline.strayClosers := builder.outline.strayClosers ++ [marker] } := by
  have found : builder.stack.findIdx? (fun element => element.marker.name == marker.name) =
      none := by
    rw [List.findIdx?_eq_none_iff]
    intro element membership
    simpa using unmatched _ (List.mem_map_of_mem membership)
  simp only [step, kind, found]

/-- What reading markers does to a builder: which tags it pairs, which opening tags it
passes over, and which closing tags are stray. -/
structure Reading (catalog : Catalog) (before : OutlineBuilder) (markers : List Marker)
    (pairs : List (Marker × Marker)) (passed stray : List Marker) (after : OutlineBuilder) :
    Prop where
  closings : ∀ rest, Marker.closings catalog before.opened (markers ++ rest) =
    pairs ++ Marker.closings catalog after.opened rest
  preorder : after.preorder = before.preorder ++ (markers.filter Marker.begins).map Marker.head
  /-- A tag that opens an element is paired, passed over, or still open. -/
  tags : (pairs.map Prod.fst ++ passed ++ after.opened).Perm
    (before.opened ++ markers.filter (Marker.opens catalog))
  /-- A closing tag is paired or stray. -/
  closers : (pairs.map Prod.snd ++ stray).Perm (markers.filter (·.kind = .closeTag))
  among : stray.Sublist (markers.filter (·.kind = .closeTag))
  unclosed : after.outline.unclosed =
    before.outline.unclosed ++ passed.filter (Marker.needsEnd catalog)
  strayClosers : after.outline.strayClosers = before.outline.strayClosers ++ stray
  kept : ∀ entry ∈ before.closed, entry ∈ after.closed
  /-- An element that a tag of its own closes ends with that tag. -/
  ended : ∀ tag closer, (tag, closer) ∈ pairs →
    Entry.of tag.elementName .ofElement tag.offset closer.stop .embedded ∈ after.closed

/-- One marker pairs, passes over and strays as its role says. -/
theorem reading_step : ∃ pairs passed stray,
    Reading catalog builder [marker] pairs passed stray (builder.step catalog marker) := by
  cases Marker.role catalog builder.opened marker with
  | leaf begins shut =>
      have other : marker.kind ≠ .closeTag := fun kind => by simp [Marker.begins, kind] at begins
      rw [step_of_leaf builder begins shut]
      exact ⟨[], [], [], {
        closings := fun rest => by rw [opened_attach]; exact Marker.closings_leaf rest begins shut
        preorder := by
          rw [preorder_attach, Forest.heads_element, List.filter_singleton, begins]
          rfl
        tags := by simp [opened_attach, shut]
        closers := by simp [other]
        among := by simp
        unclosed := by simp [unclosed_attach]
        strayClosers := by simp [strayClosers_attach]
        kept := fun entry membership => (mem_closed_attach builder).2 (.inl membership)
        ended := by simp }⟩
  | push opens =>
      have other : marker.kind ≠ .closeTag := fun kind => by simp [Marker.opens, kind] at opens
      have begins : marker.begins = true := by simp_all [Marker.opens, Marker.begins]
      rw [step_of_push builder opens]
      exact ⟨[], [], [], {
        closings := fun rest => Marker.closings_push rest opens
        preorder := by simp [preorder, begins, Forest.heads]
        tags := by
          rw [List.filter_singleton, opens]
          exact (List.perm_append_singleton marker builder.opened).symm
        closers := by simp [other]
        among := by simp
        unclosed := by simp
        strayClosers := by simp
        kept := fun entry membership => membership
        ended := by simp }⟩
  | @close inner outer tag kind parts unmatched same =>
      have step : builder.step catalog marker =
          (builder.abandon catalog marker.offset inner.length).closeInner marker.stop :=
        step_of_close builder kind parts unmatched same
      have innermost : (builder.abandon catalog marker.offset inner.length).opened =
          tag :: outer := by
        rw [opened_abandon, parts, List.drop_left]
      have opened : (builder.step catalog marker).opened = outer := by
        rw [step, opened_closeInner, innermost, List.tail_cons]
      exact ⟨[(tag, marker)], inner, [], {
        closings := fun rest => by
          rw [opened, parts]
          exact Marker.closings_close rest kind unmatched same
        preorder := by
          rw [step, preorder_closeInner, preorder_abandon]
          simp [Marker.begins, kind]
        tags := by
          rw [opened, parts]
          simpa [Marker.opens, kind] using List.perm_middle.symm
        closers := by simp [kind]
        among := by simp
        unclosed := by
          rw [step, unclosed_closeInner, unclosed_abandon, parts, List.take_left]
        strayClosers := by rw [step, strayClosers_closeInner, strayClosers_abandon, List.append_nil]
        kept := fun entry membership => by
          rw [step]
          exact mem_closed_closeInner _ _ (mem_closed_abandon catalog builder _ _ membership)
        ended := fun tag closer paired => by
          obtain ⟨rfl, rfl⟩ := Prod.mk.inj (List.mem_singleton.1 paired)
          rw [step]
          exact element_mem_closed_closeInner _ _ innermost }⟩
  | stray kind unmatched =>
      rw [step_of_stray builder kind unmatched]
      exact ⟨[], [], [marker], {
        closings := fun rest => Marker.closings_stray rest kind unmatched
        preorder := by simp [preorder, Marker.begins, kind]
        tags := by simp [OutlineBuilder.opened, Marker.opens, kind]
        closers := by simp [kind]
        among := by simp [kind]
        unclosed := by simp
        strayClosers := rfl
        kept := fun entry membership => membership
        ended := by simp }⟩
  | plain kind =>
      have begins : marker.begins = false := by
        cases found : marker.kind <;> simp_all [Marker.begins, MarkerKind.isTag]
      have shut : marker.opens catalog = false := by
        cases found : marker.kind <;> simp_all [Marker.opens, MarkerKind.isTag]
      have other : marker.kind ≠ .closeTag := fun close => by simp [close, MarkerKind.isTag] at kind
      rw [step_of_isTag_eq_false catalog builder kind]
      exact ⟨[], [], [], {
        closings := fun rest => Marker.closings_plain rest kind
        preorder := by simp [begins]
        tags := by simp [shut]
        closers := by simp [other]
        among := by simp
        unclosed := by simp
        strayClosers := by simp
        kept := fun entry membership => membership
        ended := by simp }⟩

variable {before middle after : OutlineBuilder} {first second : List Marker}

theorem Reading.refl (catalog : Catalog) (builder : OutlineBuilder) :
    Reading catalog builder [] [] [] [] builder where
  closings _ := rfl
  preorder := (List.append_nil _).symm
  tags := by simp
  closers := .refl _
  among := .refl _
  unclosed := (List.append_nil _).symm
  strayClosers := (List.append_nil _).symm
  kept _ membership := membership
  ended := by simp

/-- Two runs of markers are one run: what the first pairs, passes over and leaves stray comes
before that of the second. -/
theorem Reading.trans {pairs pairs' : List (Marker × Marker)}
    {passed passed' stray stray' : List Marker}
    (start : Reading catalog before first pairs passed stray middle)
    (rest : Reading catalog middle second pairs' passed' stray' after) :
    Reading catalog before (first ++ second) (pairs ++ pairs') (passed ++ passed')
      (stray ++ stray') after where
  closings more := by
    rw [List.append_assoc, start.closings, rest.closings, List.append_assoc]
  preorder := by
    rw [rest.preorder, start.preorder, List.filter_append, List.map_append, List.append_assoc]
  tags := List.perm_iff_count.2 fun tag => by
    have startCount := start.tags.count_eq tag
    have restCount := rest.tags.count_eq tag
    simp only [List.map_append, List.filter_append, List.count_append] at startCount restCount ⊢
    omega
  closers := List.perm_iff_count.2 fun closer => by
    have startCount := start.closers.count_eq closer
    have restCount := rest.closers.count_eq closer
    simp only [List.map_append, List.filter_append, List.count_append] at startCount restCount ⊢
    omega
  among := by
    rw [List.filter_append]
    exact start.among.append rest.among
  unclosed := by rw [rest.unclosed, start.unclosed, List.filter_append, List.append_assoc]
  strayClosers := by rw [rest.strayClosers, start.strayClosers, List.append_assoc]
  kept entry membership := rest.kept entry (start.kept entry membership)
  ended tag closer paired := by
    rcases List.mem_append.1 paired with early | late
    · exact rest.kept _ (start.ended tag closer early)
    · exact rest.ended tag closer late

variable (catalog)

/-- Any run of markers is a reading, one step for each. -/
theorem exists_reading (markers : List Marker) : ∃ pairs passed stray,
    Reading catalog builder markers pairs passed stray (markers.foldl (step catalog) builder) := by
  induction markers generalizing builder with
  | nil => exact ⟨[], [], [], .refl catalog builder⟩
  | cons marker rest ih =>
      obtain ⟨pairs, passed, stray, first⟩ := reading_step builder
      obtain ⟨morePairs, morePassed, moreStray, later⟩ := ih (builder.step catalog marker)
      exact ⟨_, _, _, first.trans later⟩

/-- The tags are paired as `Marker.closings` says. -/
theorem reading_foldl (markers : List Marker) : ∃ passed stray,
    Reading catalog builder markers (Marker.closings catalog builder.opened markers) passed stray
      (markers.foldl (step catalog) builder) := by
  obtain ⟨pairs, passed, stray, reading⟩ := exists_reading catalog builder markers
  have same := reading.closings []
  rw [List.append_nil, Marker.closings, List.append_nil] at same
  exact ⟨passed, stray, same ▸ reading⟩

end OutlineBuilder

/-! ## Closing what is open at the end -/

namespace OutlineBuilder

variable (catalog : Catalog) (builder : OutlineBuilder) (stop : Nat)

/-- At the end every open element is abandoned. -/
theorem stack_abandon_all : (builder.abandon catalog stop builder.stack.length).stack = [] := by
  have none : (builder.abandon catalog stop builder.stack.length).opened = [] := by
    rw [opened_abandon, List.drop_eq_nil_iff, opened, List.length_map]
  exact List.map_eq_nil_iff.1 none

/-- What was read is what the outline shows, in the same order. -/
theorem heads_abandon_all :
    (builder.abandon catalog stop builder.stack.length).outline.roots.heads = builder.preorder := by
  rw [← preorder_abandon catalog builder stop builder.stack.length, preorder,
    stack_abandon_all catalog builder stop]
  exact (List.append_nil _).symm

/-- Closed elements are still in the outline at the end. -/
theorem mem_entries_abandon_all {entry : Entry} (membership : entry ∈ builder.closed) :
    entry ∈ (builder.abandon catalog stop builder.stack.length).outline.roots.entries := by
  have kept := mem_closed_abandon catalog builder stop builder.stack.length membership
  rwa [closed, stack_abandon_all catalog builder stop, List.flatMap_nil, List.append_nil] at kept

/-- At the end the open elements that need an end are reported after those passed over. -/
theorem unclosed_abandon_all :
    (builder.abandon catalog stop builder.stack.length).outline.unclosed =
      builder.outline.unclosed ++ builder.opened.filter (Marker.needsEnd catalog) := by
  have all : builder.opened.length ≤ builder.stack.length := Nat.le_of_eq (List.length_map _)
  rw [unclosed_abandon, List.take_of_length_le all]

end OutlineBuilder

end Inlay
