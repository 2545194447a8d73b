import Inlay.Proofs.Marker.Written
import Inlay.Proofs.Symbol.Outline

/-!
# Markup that is written and read back

An `Item` is a piece of markup in which every element that is opened is closed again:
text, a void element, a tag that closes itself, or an element around further items.
Its well-formedness depends on the catalog, which says which elements are void.
`Item.write` writes an item down and `Item.elements` says which elements that makes,
with their ranges.

The outline of a written text is exactly the forest of its elements.  The statement
that goes through by induction, `Item.read_write`, starts from any builder and leaves
any text to be read afterwards: reading an item attaches its elements to the innermost
open element and changes nothing else.
-/

namespace Inlay

open Text

/-! ## Items -/

/-- A piece of balanced markup. -/
inductive Item (catalog : Catalog) where
  | text (chars : List Char) (plain : '<' ∉ chars)
  | void (head : TagHead) (isVoid : catalog.isVoid head.name.text = true)
  | selfClosing (head : TagHead)
  | element (head : TagHead) (notVoid : catalog.isVoid head.name.text = false)
      (items : List (Item catalog))

/-- The entry of an element at an offset. -/
def TagHead.entry (head : TagHead) (offset length : Nat) : Entry where
  name := head.label
  kind := .ofElement
  start := offset
  stop := offset + length
  origin := .embedded

variable {catalog : Catalog}

mutual

/-- The text of an item. -/
def Item.write : Item catalog → List Char
  | .text chars _ => chars
  | .void head _ => head.openTag
  | .selfClosing head => head.selfClosingTag
  | .element head _ items => head.openTag ++ Item.writeAll items ++ head.closeTag

/-- The text of some items. -/
def Item.writeAll : List (Item catalog) → List Char
  | [] => []
  | item :: rest => item.write ++ Item.writeAll rest

end

mutual

/-- The elements of an item whose text starts at an offset. -/
def Item.elements (offset : Nat) : Item catalog → Forest
  | .text _ _ => []
  | .void head _ => [.leaf (head.entry offset head.openTag.length)]
  | .selfClosing head => [.leaf (head.entry offset head.selfClosingTag.length)]
  | .element head _ items =>
      [.mk (head.entry offset (head.openTag ++ Item.writeAll items ++ head.closeTag).length)
        (Item.elementsOfAll (offset + head.openTag.length) items)]

/-- The elements of some items. -/
def Item.elementsOfAll (offset : Nat) : List (Item catalog) → Forest
  | [] => []
  | item :: rest =>
      item.elements offset ++ Item.elementsOfAll (offset + item.write.length) rest

end

/-! ## Reading a text into a builder -/

namespace OutlineBuilder

/-- The builder after the tags of a text that starts at an offset. -/
def read (catalog : Catalog) (builder : OutlineBuilder) (offset : Nat) (chars : List Char) :
    OutlineBuilder :=
  ((findFrom Marker.tagAt 0 offset chars).map (Marker.ofTag catalog)).foldl (step catalog) builder

/-- The builder with closed elements attached one after the other. -/
def attachAll (builder : OutlineBuilder) (forest : Forest) : OutlineBuilder :=
  forest.foldl attach builder

variable (builder : OutlineBuilder) (offset : Nat)

/-- Text without an angle bracket is passed over. -/
theorem read_text {chars : List Char} (plain : '<' ∉ chars) (rest : List Char) :
    builder.read catalog offset (chars ++ rest) =
      builder.read catalog (offset + chars.length) rest := by
  have quiet : ∀ c ∈ chars, ∀ tail, Marker.tagAt (c :: tail) = none :=
    fun c membership => Marker.tagAt_eq_none fun same => plain (same ▸ membership)
  rw [read, findFrom_append quiet, read]

/-- A tag at the front of the text is one step of the builder, and the reading goes on behind
it. -/
theorem read_tag {chars rest : List Char} {tag : Marker.Tag} (nonempty : chars ≠ [])
    (recognised : Marker.tagAt (chars ++ rest) = some (tag, chars.length)) :
    builder.read catalog offset (chars ++ rest) =
      (builder.step catalog (Marker.ofTag catalog ⟨offset, chars.length, tag⟩)).read catalog
        (offset + chars.length) rest := by
  rw [read, findFrom_match nonempty recognised, List.map_cons, List.foldl_cons, read]

theorem attachAll_append (first second : Forest) :
    builder.attachAll (first ++ second) = (builder.attachAll first).attachAll second :=
  List.foldl_append

theorem attachAll_open (element : OpenElement) (outer : List OpenElement) (outline : Outline)
    (forest : Forest) :
    attachAll ⟨element :: outer, outline⟩ forest =
      ⟨{ element with children := element.children ++ forest } :: outer, outline⟩ := by
  induction forest generalizing element with
  | nil => simp [attachAll]
  | cons node rest ih =>
      have next := ih { element with children := element.children ++ [node] }
      simpa [attachAll, attach] using next

theorem attachAll_root (outline : Outline) (forest : Forest) :
    attachAll ⟨[], outline⟩ forest =
      ⟨[], { outline with roots := outline.roots ++ forest }⟩ := by
  induction forest generalizing outline with
  | nil => simp [attachAll]
  | cons node rest ih =>
      have next := ih { outline with roots := outline.roots ++ [node] }
      simpa [attachAll, attach] using next

/-! ## Reading a written tag -/

/-- The symbol of an opening tag has the range that it is closed with. -/
theorem element_ofTag (head : TagHead) (selfClosing : Bool) {length width : Nat}
    (children : Forest) :
    (Marker.ofTag catalog ⟨offset, length, head.opening selfClosing⟩).element (offset + width)
      children = .mk (head.entry offset width) children := by
  rw [Marker.element, Marker.ofTag_elementName]
  simp only [Entry.of, Marker.ofTag, TagHead.entry,
    Nat.max_eq_left (Nat.le_add_right offset width)]

theorem step_void {head : TagHead} (isVoid : catalog.isVoid head.name.text = true)
    (length : Nat) :
    builder.step catalog (Marker.ofTag catalog ⟨offset, length, head.opening false⟩) =
      builder.attach (.leaf (head.entry offset length)) := by
  have kind : (Marker.ofTag catalog ⟨offset, length, head.opening false⟩).kind = .openTag := rfl
  have leaf : (Marker.ofTag catalog ⟨offset, length, head.opening false⟩).element
      (offset + length) [] = .leaf (head.entry offset length) :=
    element_ofTag offset head false []
  simp only [step, kind, Marker.ofTag_name_opening, isVoid, if_true]
  exact congrArg builder.attach leaf

/-- A tag that closes itself is a leaf, whatever its name. -/
theorem step_selfClosing (head : TagHead) (length : Nat) :
    builder.step catalog (Marker.ofTag catalog ⟨offset, length, head.opening true⟩) =
      builder.attach (.leaf (head.entry offset length)) := by
  have kind : (Marker.ofTag catalog ⟨offset, length, head.opening true⟩).kind =
      .selfClosingTag := rfl
  have leaf : (Marker.ofTag catalog ⟨offset, length, head.opening true⟩).element
      (offset + length) [] = .leaf (head.entry offset length) :=
    element_ofTag offset head true []
  simp only [step, kind]
  exact congrArg builder.attach leaf

theorem step_open {head : TagHead} (notVoid : catalog.isVoid head.name.text = false)
    (length : Nat) :
    builder.step catalog (Marker.ofTag catalog ⟨offset, length, head.opening false⟩) =
      { builder with
        stack := { marker := Marker.ofTag catalog ⟨offset, length, head.opening false⟩ } ::
          builder.stack } := by
  have kind : (Marker.ofTag catalog ⟨offset, length, head.opening false⟩).kind = .openTag := rfl
  simp [step, kind, Marker.ofTag_name_opening, notVoid]

/-- A closing tag closes the element of its name when that is the innermost one. -/
theorem step_close (head : TagHead) {opened : Marker} (same : opened.name = head.name.text)
    (children : Forest) (outer : List OpenElement) (outline : Outline) (closedAt length : Nat) :
    step catalog ⟨⟨opened, children⟩ :: outer, outline⟩
        (Marker.ofTag catalog ⟨closedAt, length, head.closing⟩) =
      attach ⟨outer, outline⟩ (opened.element (closedAt + length) children) := by
  have kind : (Marker.ofTag catalog ⟨closedAt, length, head.closing⟩).kind = .closeTag := rfl
  have innermost : (OpenElement.mk opened children :: outer).findIdx?
      (fun element => element.marker.name == head.name.text) = some 0 := by
    simp [List.findIdx?_cons, same]
  simp only [step, kind, Marker.ofTag_name_closing, innermost]
  rfl

end OutlineBuilder

/-! ## Reading written items -/

mutual

/-- Reading an item attaches its elements, whatever is open and whatever follows. -/
theorem Item.read_write (builder : OutlineBuilder) (offset : Nat) (rest : List Char) :
    ∀ item : Item catalog,
      builder.read catalog offset (item.write ++ rest) =
        (builder.attachAll (item.elements offset)).read catalog (offset + item.write.length) rest
  | .text chars plain => builder.read_text offset plain rest
  | .void head isVoid => by
      rw [Item.write, builder.read_tag offset (by simp [TagHead.openTag])
        (Marker.tagAt_openTag head rest), builder.step_void offset isVoid]
      rfl
  | .selfClosing head => by
      rw [Item.write, builder.read_tag offset (by simp [TagHead.selfClosingTag])
        (Marker.tagAt_selfClosingTag head rest), builder.step_selfClosing offset head]
      rfl
  | .element head notVoid items => by
      obtain ⟨stack, outline⟩ := builder
      -- The opening tag is pushed, the items go below it, and the closing tag finds it on top.
      rw [Item.write, List.append_assoc, List.append_assoc,
        OutlineBuilder.read_tag _ offset (by simp [TagHead.openTag])
          (Marker.tagAt_openTag head _),
        OutlineBuilder.step_open _ offset notVoid, Item.read_writeAll,
        OutlineBuilder.attachAll_open,
        OutlineBuilder.read_tag _ _ (by simp [TagHead.closeTag])
          (Marker.tagAt_closeTag head rest),
        OutlineBuilder.step_close head (Marker.ofTag_name_opening catalog head _ _ _)]
      have width : offset + head.openTag.length + (Item.writeAll items).length +
          head.closeTag.length =
          offset + (head.openTag ++ Item.writeAll items ++ head.closeTag).length := by
        simp only [List.length_append]
        omega
      rw [width, OutlineBuilder.element_ofTag]
      rfl

/-- Items are read back one behind the other, whatever follows them. -/
theorem Item.read_writeAll (builder : OutlineBuilder) (offset : Nat) (rest : List Char) :
    ∀ items : List (Item catalog),
      builder.read catalog offset (Item.writeAll items ++ rest) =
        (builder.attachAll (Item.elementsOfAll offset items)).read catalog
          (offset + (Item.writeAll items).length) rest
  | [] => rfl
  | item :: items => by
      rw [Item.writeAll, List.append_assoc, Item.read_write, Item.read_writeAll,
        Item.elementsOfAll, OutlineBuilder.attachAll_append, List.length_append, Nat.add_assoc]

end

/-- The outline of a written text has exactly the elements that were written, with their
names and ranges, and no tag in it is stray or left open. -/
theorem Outline.build_write (catalog : Catalog) (items : List (Item catalog)) :
    Outline.build catalog (Item.writeAll items).length
        (Marker.scan catalog (Item.writeAll items)) =
      { roots := Item.elementsOfAll 0 items, unclosed := [], strayClosers := [] } := by
  have read := Item.read_writeAll {} 0 [] items
  rw [List.append_nil, OutlineBuilder.attachAll_root] at read
  have done : (Marker.tags catalog (Item.writeAll items)).foldl (OutlineBuilder.step catalog) {} =
      ⟨[], { roots := Item.elementsOfAll 0 items }⟩ := read
  rw [build_scan, Outline.build, done]
  simp [OutlineBuilder.abandon]

example (catalog : Catalog) (isVoid : catalog.isVoid (String.ofList "br".toList) = true)
    (notVoid : catalog.isVoid (String.ofList "ul".toList) = false) :
    let ul : TagName := ⟨'u', ['l'], rfl, List.all_eq_true.1 rfl⟩
    let br : TagName := ⟨'b', ['r'], rfl, List.all_eq_true.1 rfl⟩
    let nav : ElementId := ⟨"nav".toList, List.cons_ne_nil _ _, List.all_eq_true.1 rfl⟩
    let items : List (Item catalog) := [.element ⟨ul, some nav⟩ notVoid
      [.text "one".toList (by decide), .void ⟨br, none⟩ isVoid]]
    Item.writeAll items = "<ul id=\"nav\">one<br></ul>".toList := by
  rfl

end Inlay
