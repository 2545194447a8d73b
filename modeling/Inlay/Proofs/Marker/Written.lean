import Inlay.Marker.Scan
import Inlay.Symbol.Outline

/-!
# Tags as they are written

A tag has a name in small letters and possibly an `id`.  It is written as an opening
tag, as a tag that closes itself, or as a closing tag.  Whatever follows, the
recogniser finds exactly the tag that was written, with its `id`.
-/

namespace Inlay

open Text

/-! ## Names and ids -/

/-- A small letter, a digit, a colon or a hyphen. -/
def isSmallNameChar (c : Char) : Bool := c.isLower || c.isDigit || c == ':' || c == '-'

/-- The name of a tag: a small letter, then small letters, digits, colons and hyphens. -/
structure TagName where
  first : Char
  rest : List Char
  first_isLower : first.isLower = true
  rest_small : ∀ c ∈ rest, isSmallNameChar c = true

/-- An id: letters, digits, underscores, colons, dots and hyphens, at least one. -/
structure ElementId where
  chars : List Char
  nonempty : chars ≠ []
  named : ∀ c ∈ chars, Marker.isAttributeChar c = true

namespace TagName

def chars (name : TagName) : List Char := name.first :: name.rest

def text (name : TagName) : String := String.ofList name.chars

theorem first_isLetter (name : TagName) : Marker.isLetter name.first = true := by
  show (name.first.isUpper || name.first.isLower) = true
  rw [name.first_isLower, Bool.or_true]

theorem rest_isTagNameChar (name : TagName) : ∀ c ∈ name.rest, Marker.isTagNameChar c = true := by
  intro c membership
  have small := name.rest_small c membership
  simp only [isSmallNameChar, Bool.or_eq_true] at small
  show ((c.isUpper || c.isLower || c.isDigit) || c == ':' || c == '-') = true
  simp only [Bool.or_eq_true]
  grind

/-- Making small letters of a small name changes nothing. -/
theorem toLower_of_isSmallNameChar {c : Char} (small : isSmallNameChar c = true) :
    c.toLower = c := by
  have notUpper : ¬(c.val ≥ 'A'.val ∧ c.val ≤ 'Z'.val) := by
    simp only [isSmallNameChar, Bool.or_eq_true, beq_iff_eq] at small
    rcases small with ((lower | digit) | rfl) | rfl
    · change (decide (c.val ≥ 'a'.val) && decide (c.val ≤ 'z'.val)) = true at lower
      simp only [Bool.and_eq_true, decide_eq_true_eq] at lower
      grind
    · simp only [Char.isDigit, Bool.and_eq_true, decide_eq_true_eq] at digit
      grind
    · decide
    · decide
  exact dif_neg notUpper

/-- Small names are read as they are written. -/
theorem smallName_chars (name : TagName) : Marker.smallName name.chars = name.text := by
  have kept : name.chars.map Char.toLower = name.chars := by
    refine (List.map_congr_left ?_).trans (List.map_id _)
    intro c membership
    rcases List.mem_cons.1 membership with rfl | later
    · exact toLower_of_isSmallNameChar (by simp [isSmallNameChar, name.first_isLower])
    · exact toLower_of_isSmallNameChar (name.rest_small c later)
  rw [Marker.smallName, kept, text]

end TagName

/-! ## Writing a tag -/

/-- What an opening tag says. -/
structure TagHead where
  name : TagName
  id : Option ElementId

namespace TagHead

/-- The name of the element: that of the tag, followed by the id. -/
def label (head : TagHead) : String :=
  match head.id with
  | none => head.name.text
  | some id => head.name.text ++ "#" ++ String.ofList id.chars

/-- The attribute that gives the id. -/
def attributes (head : TagHead) : List Char :=
  match head.id with
  | none => []
  | some id => ' ' :: 'i' :: 'd' :: '=' :: '"' :: (id.chars ++ ['"'])

def openTag (head : TagHead) : List Char :=
  '<' :: (head.name.chars ++ (head.attributes ++ ['>']))

def selfClosingTag (head : TagHead) : List Char :=
  '<' :: (head.name.chars ++ (head.attributes ++ ['/', '>']))

def closeTag (head : TagHead) : List Char := '<' :: '/' :: (head.name.chars ++ ['>'])

/-- The parts of an opening tag. -/
def opening (head : TagHead) (selfClosing : Bool) : Marker.Tag :=
  ⟨false, head.name.chars, head.id.map fun _ => head.attributes, selfClosing⟩

/-- The parts of a closing tag. -/
def closing (head : TagHead) : Marker.Tag := ⟨true, head.name.chars, none, false⟩

end TagHead

/-! ## Reading a tag back -/

namespace Marker

/-- A name, a body without angle brackets and a `>` are taken apart where they meet. -/
theorem tagFrom_written (closing : Bool) (lead : Nat) (name : TagName) (body : List Char)
    {attributes : Option (List Char)} {selfClosing : Bool} (rest : List Char)
    (meets : ∀ c ∈ body.head?, isTagNameChar c = false)
    (plain : ∀ c ∈ body, (c != '<' && c != '>') = true)
    (split : splitBody body = some (attributes, selfClosing)) :
    tagFrom closing lead (name.chars ++ (body ++ '>' :: rest)) =
      some (⟨closing, name.chars, attributes, selfClosing⟩,
        lead + name.chars.length + body.length + 1) := by
  have stops : (body ++ '>' :: rest).takeWhile isTagNameChar = [] ∧
      (body ++ '>' :: rest).dropWhile isTagNameChar = body ++ '>' :: rest := by
    cases body with
    | nil => exact ⟨rfl, rfl⟩
    | cons c body =>
        have other := meets c rfl
        simp [other]
  have bodyRead : (body ++ '>' :: rest).takeWhile (fun c => c != '<' && c != '>') = body := by
    rw [List.takeWhile_append_of_pos plain, List.takeWhile_cons_of_neg (by decide),
      List.append_nil]
  simp only [TagName.chars, List.cons_append, tagFrom, name.first_isLetter, if_true,
    List.takeWhile_append_of_pos name.rest_isTagNameChar,
    List.dropWhile_append_of_pos name.rest_isTagNameChar, stops.1, stops.2, bodyRead,
    List.drop_left, split, List.append_nil]

theorem dropRightWhile_concat {drop : Char → Bool} {c : Char} (kept : drop c = false)
    (chars : List Char) : dropRightWhile drop (chars ++ [c]) = chars ++ [c] := by
  simp [dropRightWhile, kept]

theorem trimBody_quote (chars : List Char) : trimBody (chars ++ ['"']) = chars ++ ['"'] := by
  have unslashed : trimBody (chars ++ ['"']) = dropRightWhile isBlank (chars ++ ['"']) := by
    simp [trimBody]
  rw [unslashed, dropRightWhile_concat (by decide)]

/-- Of a body that ends in a quote and a slash only the slash is trimmed. -/
theorem trimBody_quote_slash (chars : List Char) :
    trimBody (chars ++ ['"', '/']) = chars ++ ['"'] := by
  have unslashed : trimBody (chars ++ ['"', '/']) = dropRightWhile isBlank (chars ++ ['"']) := by
    simp [trimBody]
  rw [unslashed, dropRightWhile_concat (by decide)]

/-- Behind a blank everything but a slash at the end is attributes. -/
theorem splitBody_blank (rest : List Char) :
    splitBody (' ' :: rest) = some (some (' ' :: trimBody rest), rest.getLast? == some '/') := rfl

/-- The attributes of an opening tag are found whole, or found absent. -/
theorem splitBody_attributes (head : TagHead) :
    splitBody head.attributes = some (head.id.map fun _ => head.attributes, false) := by
  rw [TagHead.attributes]
  cases head.id with
  | none => rfl
  | some id =>
      have trimmed := trimBody_quote ('i' :: 'd' :: '=' :: '"' :: id.chars)
      have last : ('"' :: id.chars ++ ['"']).getLast? = some '"' := List.getLast?_concat
      simp only [List.cons_append] at trimmed last
      simp [splitBody_blank, trimmed, last]

/-- A slash behind the attributes closes the element and is none of them. -/
theorem splitBody_attributes_slash (head : TagHead) :
    splitBody (head.attributes ++ ['/']) = some (head.id.map fun _ => head.attributes, true) := by
  rw [TagHead.attributes]
  cases head.id with
  | none => rfl
  | some id =>
      have trimmed := trimBody_quote_slash ('i' :: 'd' :: '=' :: '"' :: id.chars)
      have last : ('"' :: id.chars ++ ['"', '/']).getLast? = some '/' := by
        rw [List.append_cons]
        exact List.getLast?_concat
      simp only [List.cons_append] at trimmed last
      simp [splitBody_blank, trimmed, last]

/-- No attribute begins like a name, so the name of a tag ends before its attributes. -/
theorem attributes_meet (head : TagHead) (ending : List Char)
    (meets : ∀ c ∈ ending.head?, isTagNameChar c = false) :
    ∀ c ∈ (head.attributes ++ ending).head?, isTagNameChar c = false := by
  rw [TagHead.attributes]
  cases head.id with
  | none => exact meets
  | some id => simp [isTagNameChar]

/-- The attributes hold no angle bracket, so the tag ends behind them. -/
theorem attributes_plain (head : TagHead) :
    ∀ c ∈ head.attributes, (c != '<' && c != '>') = true := by
  rw [TagHead.attributes]
  cases head.id with
  | none => simp
  | some id =>
      intro c membership
      simp only [List.mem_cons, List.mem_append, List.not_mem_nil, or_false] at membership
      rcases membership with rfl | rfl | rfl | rfl | rfl | inId | rfl
      case inr.inr.inr.inr.inr.inl =>
        have named := id.named c inId
        rw [Bool.and_eq_true, bne_iff_ne, bne_iff_ne]
        constructor <;> rintro rfl <;> simp [isAttributeChar] at named
      all_goals decide

/-- A letter behind the `<` begins an opening tag. -/
theorem tagAt_eq_tagFrom (name : TagName) (rest : List Char) :
    tagAt ('<' :: (name.chars ++ rest)) = tagFrom false 1 (name.chars ++ rest) := by
  have letter := name.first_isLower
  rw [tagAt.eq_def]
  split
  next same =>
    have slash : name.first = '/' := by simpa [TagName.chars] using congrArg (·.tail.head?) same
    rw [slash] at letter
    cases letter
  next same => rw [(List.cons.inj same).2]
  next _ other => exact absurd rfl (other _)

/-- An opening tag is read as it was written, whatever follows. -/
theorem tagAt_openTag (head : TagHead) (rest : List Char) :
    tagAt (head.openTag ++ rest) = some (head.opening false, head.openTag.length) := by
  have meets := attributes_meet head [] (by simp)
  rw [List.append_nil] at meets
  have read := tagFrom_written false 1 head.name _ rest meets (attributes_plain head)
    (splitBody_attributes head)
  simp only [TagHead.openTag, List.cons_append, List.append_assoc, List.nil_append,
    tagAt_eq_tagFrom, read, TagHead.opening, List.length_cons, List.length_append,
    List.length_nil]
  congr 2
  omega

theorem tagAt_selfClosingTag (head : TagHead) (rest : List Char) :
    tagAt (head.selfClosingTag ++ rest) =
      some (head.opening true, head.selfClosingTag.length) := by
  have plain : ∀ c ∈ head.attributes ++ ['/'], (c != '<' && c != '>') = true := by
    intro c membership
    rcases List.mem_append.1 membership with early | last
    · exact attributes_plain head c early
    · obtain rfl := List.mem_singleton.1 last
      decide
  have read := tagFrom_written false 1 head.name _ rest
    (attributes_meet head ['/'] (by simp [isTagNameChar])) plain (splitBody_attributes_slash head)
  simp only [List.append_assoc, List.cons_append, List.nil_append] at read
  simp only [TagHead.selfClosingTag, List.cons_append, List.append_assoc, List.nil_append,
    tagAt_eq_tagFrom, read, TagHead.opening, List.length_cons, List.length_append,
    List.length_nil]
  congr 2
  omega

/-- A closing tag is read as it was written, whatever follows. -/
theorem tagAt_closeTag (head : TagHead) (rest : List Char) :
    tagAt (head.closeTag ++ rest) = some (head.closing, head.closeTag.length) := by
  have slash (rest : List Char) : tagAt ('<' :: '/' :: rest) = tagFrom true 2 rest := rfl
  have read := tagFrom_written true 2 head.name [] rest (by simp) (by simp) rfl
  rw [List.nil_append] at read
  simp only [TagHead.closeTag, List.cons_append, List.append_assoc, List.nil_append, slash, read,
    TagHead.closing, List.length_cons, List.length_append, List.length_nil]
  congr 2
  omega

/-! ## What the marker of a tag says -/

theorem idValue?_quoted (rest : List Char) :
    idValue? ('i' :: 'd' :: '=' :: '"' :: rest) =
      match rest.takeWhile isAttributeChar with
      | [] => none
      | value => some value := rfl

theorem elementId?_blank (rest : List Char) :
    elementId? (' ' :: rest) =
      match idValue? rest with
      | some value => some value
      | none => idAfterBlank? rest := rfl

/-- The id is read up to the quote that ends it. -/
theorem elementId?_attributes (id : ElementId) :
    elementId? (' ' :: 'i' :: 'd' :: '=' :: '"' :: (id.chars ++ ['"'])) = some id.chars := by
  have value : (id.chars ++ ['"']).takeWhile isAttributeChar = id.chars := by
    rw [List.takeWhile_append_of_pos id.named, List.takeWhile_cons_of_neg (by decide),
      List.append_nil]
  rw [elementId?_blank, idValue?_quoted, value]
  cases chars : id.chars with
  | nil => exact absurd chars id.nonempty
  | cons c rest => rfl

variable (catalog : Catalog) (head : TagHead) (offset length : Nat)

theorem ofTag_name_opening (selfClosing : Bool) :
    (ofTag catalog ⟨offset, length, head.opening selfClosing⟩).name = head.name.text :=
  head.name.smallName_chars

theorem ofTag_name_closing :
    (ofTag catalog ⟨offset, length, head.closing⟩).name = head.name.text :=
  head.name.smallName_chars

/-- The element of an opening tag is named by the tag and its id. -/
theorem ofTag_elementName (selfClosing : Bool) :
    (ofTag catalog ⟨offset, length, head.opening selfClosing⟩).elementName = head.label := by
  obtain ⟨name, id⟩ := head
  have small := name.smallName_chars
  cases id with
  | none => simp only [elementName, ofTag, TagHead.opening, TagHead.label, small, Option.map_none,
      Option.bind_none]
  | some id =>
      simp only [elementName, ofTag, TagHead.opening, TagHead.label, small, Option.map_some,
        Option.bind_some, TagHead.attributes, elementId?_attributes]

end Marker

end Inlay
