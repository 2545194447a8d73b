import Inlay.Marker.Basic
import Inlay.Text.Search

/-!
# Finding markers

Three recognisers pick markers out of a content.

* A tag is `<`, an optional `/`, a name, and then either nothing, a `/`, or a
  blank followed by anything without angle brackets, up to `>`.  What follows the
  name, without the blanks and the `/` that end it, holds the attributes.
* An attribute is a name followed by `=`, possibly with blanks between.
* An entity is `&name;`, `&#digits;` or `&#xhex;`.

Markers are listed by offset; a tag comes before anything else at its offset.
-/

namespace Inlay.Marker

open Text

/-! ## Names -/

/-- An ASCII letter. -/
def isLetter (c : Char) : Bool := c.isAlpha

/-- A character of a tag name after the first. -/
def isTagNameChar (c : Char) : Bool := c.isAlphanum || c == ':' || c == '-'

/-- The first character of an attribute name. -/
def isAttributeStart (c : Char) : Bool := c.isAlpha || c == '_' || c == ':'

/-- A character of an attribute name after the first. -/
def isAttributeChar (c : Char) : Bool :=
  c.isAlphanum || c == '_' || c == '.' || c == ':' || c == '-'

/-- A hexadecimal digit. -/
def isHexDigit (c : Char) : Bool :=
  c.isDigit || ('a' ≤ c && c ≤ 'f') || ('A' ≤ c && c ≤ 'F')

/-! ## Tags -/

/-- The parts of a tag. -/
structure Tag where
  closing : Bool
  name : List Char
  /-- The text between name and end; absent when no blank follows the name. -/
  attributes : Option (List Char)
  selfClosing : Bool
  deriving Repr, DecidableEq

/-- What is left of a tag's body when the blanks and the `/` that end it are
taken off. -/
def trimBody (body : List Char) : List Char :=
  let unslashed :=
    match body.reverse with
    | '/' :: rest => rest.reverse
    | _ => body
  dropRightWhile isBlank unslashed

/-- Splits what stands between the name and the `>` of a tag into attributes and
whether a `/` ends it. -/
def splitBody : List Char → Option (Option (List Char) × Bool)
  | [] => some (none, false)
  | ['/'] => some (none, true)
  | c :: rest =>
      if isBlank c then some (some (c :: trimBody rest), rest.getLast? == some '/') else none

/-- Recognises a tag whose `<` and optional `/` have been read; `lead` is their
number of characters. -/
def tagFrom (closing : Bool) (lead : Nat) (chars : List Char) : Option (Tag × Nat) :=
  match chars with
  | [] => none
  | first :: rest =>
      if isLetter first then
        let name := first :: rest.takeWhile isTagNameChar
        let afterName := rest.dropWhile isTagNameChar
        let body := afterName.takeWhile fun c => c != '<' && c != '>'
        match afterName.drop body.length, splitBody body with
        | '>' :: _, some (attributes, selfClosing) =>
            some (⟨closing, name, attributes, selfClosing⟩,
              lead + name.length + body.length + 1)
        | _, _ => none
      else none

/-- Recognises a tag. -/
def tagAt : Recogniser Tag
  | '<' :: '/' :: rest => tagFrom true 2 rest
  | '<' :: rest => tagFrom false 1 rest
  | _ => none

/-! ## Attributes -/

/-- Recognises an attribute name with its equals sign. -/
def attributeAt : Recogniser (List Char)
  | [] => none
  | first :: rest =>
      if isAttributeStart first then
        let name := first :: rest.takeWhile isAttributeChar
        let afterName := rest.dropWhile isAttributeChar
        let gap := afterName.takeWhile isBlank
        match afterName.drop gap.length with
        | '=' :: _ => some (name, name.length + gap.length + 1)
        | _ => none
      else none

/-- The text without a leading character of the given class, if there is one. -/
def dropOne (isLead : Char → Bool) : List Char → List Char
  | [] => []
  | c :: rest => if isLead c then rest else c :: rest

/-- The value of an `id` attribute that starts at the text: the name, an equals
sign, then possibly a backslash and a quote before the value. -/
def idValue? : List Char → Option (List Char)
  | 'i' :: 'd' :: rest =>
      match rest.dropWhile isBlank with
      | '=' :: rest =>
          let quoted := dropOne (· == '\\') (rest.dropWhile isBlank)
          match (dropOne (fun c => c == '"' || c == '\'') quoted).takeWhile isAttributeChar with
          | [] => none
          | value => some value
      | _ => none
  | _ => none

/-- The value of the first `id` attribute after a blank. -/
def idAfterBlank? : List Char → Option (List Char)
  | [] => none
  | c :: rest =>
      match if isBlank c then idValue? rest else none with
      | some value => some value
      | none => idAfterBlank? rest

/-- The value of the first `id` attribute, which stands at the start or after a
blank. -/
def elementId? (attributes : List Char) : Option (List Char) :=
  (idValue? attributes).or (idAfterBlank? attributes)

/-! ## Entities -/

/-- The length of an entity whose lead characters have been read: a run of the
given class, at least one, and a semicolon. -/
def entityTail (lead : Nat) (isBody : Char → Bool) (chars : List Char) : Option Nat :=
  let body := chars.takeWhile isBody
  match chars.drop body.length with
  | ';' :: _ => if body.isEmpty then none else some (lead + body.length + 1)
  | _ => none

/-- The length of the entity at the start of a text. -/
def entityLength? : List Char → Option Nat
  | '&' :: '#' :: c :: rest =>
      if c = 'x' ∨ c = 'X' then entityTail 3 isHexDigit rest
      else entityTail 2 Char.isDigit (c :: rest)
  | '&' :: c :: rest =>
      if isLetter c then entityTail 1 Char.isAlphanum (c :: rest) else none
  | _ => none

/-- Recognises an entity. -/
def entityAt : Recogniser (List Char) := fun chars =>
  (entityLength? chars).map fun length => (chars.take length, length)

/-! ## Markers of a content -/

/-- A name in small letters. -/
def smallName (name : List Char) : String := String.ofList (name.map Char.toLower)

/-- The kind of a tag. -/
def Tag.kind (tag : Tag) : MarkerKind :=
  if tag.closing then .closeTag else if tag.selfClosing then .selfClosingTag else .openTag

/-- The offset of a tag's attributes from its start. -/
def Tag.attributesOffset (tag : Tag) : Nat :=
  (if tag.closing then 2 else 1) + tag.name.length

/-- The marker of a tag. -/
def ofTag (catalog : Catalog) (found : Match Tag) : Marker :=
  let name := smallName found.value.name
  { kind := found.value.kind
    name
    offset := found.start
    length := found.length
    elementId := (found.value.attributes.bind elementId?).map String.ofList
    known := catalog.isKnownTag name }

/-- The marker of an attribute in a text that starts at the given offset. -/
def ofAttribute (catalog : Catalog) (base : Nat) (found : Match (List Char)) : Marker :=
  let name := smallName found.value
  { kind := .attribute
    name
    offset := base + found.start
    length := found.length
    known := catalog.isKnownAttribute name }

/-- The marker of an entity. -/
def ofEntity (found : Match (List Char)) : Marker :=
  { kind := .entity
    name := String.ofList found.value
    offset := found.start
    length := found.length
    known := true }

/-- The marker of a tag followed by those of its attributes. -/
def ofTagWithAttributes (catalog : Catalog) (found : Match Tag) : List Marker :=
  let base := found.start + found.value.attributesOffset
  ofTag catalog found ::
    (findAll attributeAt (found.value.attributes.getD [])).map (ofAttribute catalog base)

/-- The order of markers: by offset, a tag before anything else. -/
def before (a b : Marker) : Bool :=
  a.offset < b.offset || (a.offset == b.offset && (a.kind.isTag || !b.kind.isTag))

/-- The markers of a content, by offset. -/
def scan (catalog : Catalog) (content : List Char) : List Marker :=
  let tags := (findAll tagAt content).flatMap (ofTagWithAttributes catalog)
  let entities := (findAll entityAt content).map ofEntity
  (tags ++ entities).mergeSort before

end Inlay.Marker
