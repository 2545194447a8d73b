import Inlay.Proofs.Marker.Tags
import Inlay.Symbol.Outline
import Mathlib.Data.List.Nodup
import Mathlib.Data.List.TakeWhile

/-!
# Which closing tag ends which element

A content may open elements that it never closes, close elements that it never opened,
and close them in any order.  `Marker.closings` pairs the tags of a content: a closing tag
ends the innermost element of its name that is still open, and everything opened since is
no longer open.  It looks at the tags alone and builds nothing.

What a marker does depends on the tags of the open elements in five ways, which
`Marker.role` tells apart; every statement about a run of markers is proved by these
cases.
-/

namespace Inlay

namespace Marker

/-- Whether an element begins with the marker. -/
def begins (marker : Marker) : Bool := marker.kind = .openTag ∨ marker.kind = .selfClosingTag

/-- Whether the marker opens an element that can be closed. -/
def opens (catalog : Catalog) (marker : Marker) : Bool :=
  marker.kind = .openTag ∧ catalog.isVoid marker.name = false

/-- The name and the start of the element that begins with the marker. -/
def head (marker : Marker) : String × Nat := (marker.elementName, marker.offset)

/-- Whether the element has to be closed by a tag of its own. -/
def needsEnd (catalog : Catalog) (marker : Marker) : Bool := !catalog.hasOptionalEnd marker.name

/-- The opening tags that are closed by tags of their own, with these closing tags.  The
first list holds the tags of the elements that are open already, innermost first. -/
def closings (catalog : Catalog) (opened : List Marker) : List Marker → List (Marker × Marker)
  | [] => []
  | marker :: rest =>
      match marker.kind with
      | .openTag =>
          closings catalog (if catalog.isVoid marker.name then opened else marker :: opened) rest
      | .closeTag =>
          match opened.dropWhile fun tag => tag.name != marker.name with
          | tag :: outer => (tag, marker) :: closings catalog outer rest
          | [] => closings catalog opened rest
      | .selfClosingTag | .attribute | .entity => closings catalog opened rest

/-- What a marker does to the open elements, given their tags. -/
inductive Role (catalog : Catalog) (opened : List Marker) (marker : Marker) : Prop where
  | leaf (begins : marker.begins = true) (shut : marker.opens catalog = false)
  | push (opens : marker.opens catalog = true)
  /-- The inner elements are passed over and end where the closing tag starts. -/
  | close {inner outer : List Marker} {tag : Marker} (kind : marker.kind = .closeTag)
      (parts : opened = inner ++ tag :: outer) (passed : ∀ other ∈ inner, other.name ≠ marker.name)
      (same : tag.name = marker.name)
  | stray (kind : marker.kind = .closeTag) (unmatched : ∀ other ∈ opened, other.name ≠ marker.name)
  | plain (kind : marker.kind.isTag = false)

variable (catalog : Catalog) (opened : List Marker) {marker : Marker} (rest : List Marker)

/-- Every marker has one of the five roles, whatever is open. -/
theorem role (marker : Marker) : Role catalog opened marker := by
  match kind : marker.kind with
  | .openTag =>
      cases void : catalog.isVoid marker.name with
      | true => exact .leaf (by simp [begins, kind]) (by simp [opens, void])
      | false => exact .push (by simp [opens, kind, void])
  | .selfClosingTag => exact .leaf (by simp [begins, kind]) (by simp [opens, kind])
  | .closeTag =>
      cases found : opened.find? fun tag => tag.name == marker.name with
      | none => exact .stray kind (by simpa using found)
      | some tag =>
          obtain ⟨same, inner, outer, parts, passed⟩ := List.find?_eq_some_iff_append.1 found
          exact .close kind parts (by simpa using passed) (by simpa using same)
  | .attribute | .entity => exact .plain (by rw [kind]; rfl)

variable {catalog opened}

theorem closings_leaf (begins : marker.begins = true) (shut : marker.opens catalog = false) :
    closings catalog opened (marker :: rest) = closings catalog opened rest := by
  cases kind : marker.kind <;> simp_all [Marker.begins, Marker.opens, closings]

/-- An opening tag becomes the innermost open one. -/
theorem closings_push (opens : marker.opens catalog = true) :
    closings catalog opened (marker :: rest) = closings catalog (marker :: opened) rest := by
  simp_all [Marker.opens, closings]

/-- A closing tag pairs with the nearest open tag of its name, and those inside it are passed
over. -/
theorem closings_close {inner outer : List Marker} {tag : Marker} (kind : marker.kind = .closeTag)
    (passed : ∀ other ∈ inner, other.name ≠ marker.name) (same : tag.name = marker.name) :
    closings catalog (inner ++ tag :: outer) (marker :: rest) =
      (tag, marker) :: closings catalog outer rest := by
  have dropped : (inner ++ tag :: outer).dropWhile (fun tag => tag.name != marker.name) =
      tag :: outer := by
    rw [List.dropWhile_append_of_pos (by simpa using passed), List.dropWhile_cons_of_neg (by simpa)]
  simp only [closings, kind, dropped]

/-- A closing tag without a match leaves the open tags open. -/
theorem closings_stray (kind : marker.kind = .closeTag)
    (unmatched : ∀ other ∈ opened, other.name ≠ marker.name) :
    closings catalog opened (marker :: rest) = closings catalog opened rest := by
  have dropped : opened.dropWhile (fun tag => tag.name != marker.name) = [] :=
    List.dropWhile_eq_nil_iff.2 (by simpa using unmatched)
  simp only [closings, kind, dropped]

theorem closings_plain (kind : marker.kind.isTag = false) :
    closings catalog opened (marker :: rest) = closings catalog opened rest := by
  cases found : marker.kind <;> simp_all [MarkerKind.isTag, closings]

/-- A tag is closed by a later tag of the same name. -/
theorem closings_sound {tag closer : Marker} {rest : List Marker}
    (begun : ∀ other ∈ opened, other.opens catalog = true)
    (paired : (tag, closer) ∈ closings catalog opened rest) :
    (tag.opens catalog = true ∧ closer.kind = .closeTag ∧ tag.name = closer.name) ∧
      [tag, closer].Sublist (opened.reverse ++ rest) := by
  induction rest generalizing opened with
  | nil => cases paired
  | cons marker rest ih =>
      have wider : (opened.reverse ++ rest).Sublist (opened.reverse ++ marker :: rest) :=
        (List.sublist_cons_self marker rest).append_left _
      cases role catalog opened marker with
      | leaf begins shut =>
          rw [closings_leaf rest begins shut] at paired
          exact (ih begun paired).imp_right (·.trans wider)
      | push opens =>
          rw [closings_push rest opens] at paired
          refine (ih (List.forall_mem_cons.2 ⟨opens, begun⟩) paired).imp_right fun sublist => ?_
          rwa [List.reverse_cons, List.append_assoc] at sublist
      | @close inner outer target kind parts passed same =>
          subst parts
          rw [closings_close rest kind passed same] at paired
          rcases List.mem_cons.1 paired with here | later
          · obtain ⟨rfl, rfl⟩ := Prod.mk.inj here
            refine ⟨⟨begun tag (by simp), kind, same⟩, ?_⟩
            have front : [tag].Sublist (inner ++ tag :: outer).reverse :=
              List.singleton_sublist.2 (by simp)
            exact front.append (List.singleton_sublist.2 List.mem_cons_self)
          · refine (ih (fun other membership => begun other (by simp [membership])) later).imp_right
              fun sublist => sublist.trans (.append ?_ (List.sublist_cons_self marker rest))
            simp
      | stray kind unmatched =>
          rw [closings_stray rest kind unmatched] at paired
          exact (ih begun paired).imp_right (·.trans wider)
      | plain kind =>
          rw [closings_plain rest kind] at paired
          exact (ih begun paired).imp_right (·.trans wider)

/-- Which closing tags end which elements: every one of the pairs is an opening tag and
a later closing tag of its name, and no tag is in two of them. -/
structure Paired (catalog : Catalog) (markers : List Marker) (pairs : List (Marker × Marker)) :
    Prop where
  matching : ∀ tag closer, (tag, closer) ∈ pairs →
    tag.opens catalog = true ∧ closer.kind = .closeTag ∧ tag.name = closer.name
  later : ∀ tag closer, (tag, closer) ∈ pairs → [tag, closer].Sublist markers
  closedOnce : (pairs.map Prod.fst).Nodup
  closesOnce : (pairs.map Prod.snd).Nodup

/-! ## Tags in order -/

variable {catalog : Catalog} {length : Nat} {markers : List Marker}

theorem isTag_of_opens {marker : Marker} (opens : marker.opens catalog = true) :
    marker.kind.isTag = true := by
  simp_all [Marker.opens, MarkerKind.isTag]

theorem isTag_of_closeTag {marker : Marker} (kind : marker.kind = .closeTag) :
    marker.kind.isTag = true := by
  rw [kind]
  rfl

/-- Tags in order start one behind the other. -/
theorem InOrder.pairwise_filter (inOrder : InOrder length (markers.filter (·.kind.isTag)))
    {test : Marker → Bool} (tags : ∀ marker, test marker = true → marker.kind.isTag = true) :
    (markers.filter test).Pairwise fun a b => a.offset < b.offset := by
  have among : (markers.filter test).Sublist (markers.filter (·.kind.isTag)) :=
    List.monotone_filter_right markers tags
  refine (inOrder.apart.sublist among).imp_of_mem fun here _ apart => ?_
  have nonempty := (inOrder.within _ (among.subset here)).1
  simp only [Marker.stop] at apart
  omega

theorem nodup_of_pairwise (sorted : markers.Pairwise fun a b => a.offset < b.offset) :
    markers.Nodup :=
  sorted.imp fun less => by
    rintro rfl
    exact Nat.lt_irrefl _ less

/-- Of the tags that are either closed or left over, those left over are those not
closed. -/
theorem perm_filter_of_perm {closed left tags : List Marker} (distinct : tags.Nodup)
    (perm : (closed ++ left).Perm tags) : left.Perm (tags.filter (· ∉ closed)) := by
  obtain ⟨-, -, apart⟩ := List.nodup_append.1 (perm.nodup_iff.2 distinct)
  have noneClosed : closed.filter (· ∉ closed) = [] := by
    simp [List.filter_eq_nil_iff]
  have allLeft : left.filter (· ∉ closed) = left := by
    rw [List.filter_eq_self]
    intro marker listed
    simpa using fun again => apart marker again marker listed rfl
  have filtered := perm.filter (· ∉ closed)
  rwa [List.filter_append, noneClosed, allLeft] at filtered

/-- Lists of the same markers by offset are equal when no two offsets are. -/
theorem eq_of_perm_of_sorted {left tags : List Marker}
    (leftSorted : left.Pairwise fun a b => a.offset ≤ b.offset)
    (sorted : tags.Pairwise fun a b => a.offset < b.offset) (perm : left.Perm tags) :
    left = tags := by
  have distinct : (tags.map Marker.offset).Nodup :=
    List.pairwise_map.2 (sorted.imp Nat.ne_of_lt)
  refine perm.eq_of_pairwise ?_ leftSorted (sorted.imp Nat.le_of_lt)
  intro a b first second le ge
  exact List.inj_on_of_nodup_map distinct (perm.subset first) second (Nat.le_antisymm le ge)

theorem pairwise_mergeSort_offset (tags : List Marker) :
    (tags.mergeSort fun a b => a.offset ≤ b.offset).Pairwise fun a b => a.offset ≤ b.offset := by
  refine (List.pairwise_mergeSort ?_ ?_ tags).imp of_decide_eq_true
  · intro a b c ab bc
    exact decide_eq_true (Nat.le_trans (of_decide_eq_true ab) (of_decide_eq_true bc))
  · intro a b
    simpa using Nat.le_total a.offset b.offset

end Marker

end Inlay
