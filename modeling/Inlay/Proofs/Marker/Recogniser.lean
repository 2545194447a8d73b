import Inlay.Marker.Scan
import Inlay.Proofs.Text.Search
import Mathlib.Data.List.TakeWhile

/-!
# What the recognisers of markers accept

Each recogniser accepts a text only if it is spelled in a certain way: `Tag.SpelledBy`,
`AttributeSpelledBy` and `EntitySpelledBy` say how, in terms of the parts that the
recogniser reports.  A tag has no angle bracket but the two at its ends, and an entity has
none; the attributes of a tag stand between its name and its end.
-/

namespace Inlay.Marker

open Text

theorem eq_false_of_mem_head?_dropWhile {test : Char → Bool} {chars : List Char} {c : Char}
    (first : c ∈ (chars.dropWhile test).head?) : test c = false := by
  have stopped := List.head?_dropWhile_not test chars
  rwa [Option.mem_def.1 first] at stopped

/-- A class of characters without angle brackets. -/
theorem plain_of_members {isMember : Char → Bool} {chars : List Char}
    (members : ∀ c ∈ chars, isMember c = true) (less : isMember '<' = false)
    (greater : isMember '>' = false) : ∀ c ∈ chars, c ≠ '<' ∧ c ≠ '>' := by
  intro c membership
  have member := members c membership
  constructor
  · rintro rfl
    exact Bool.false_ne_true (less.symm.trans member)
  · rintro rfl
    exact Bool.false_ne_true (greater.symm.trans member)

/-! ## Tags -/

namespace Tag

/-- What a tag begins with. -/
def lead (tag : Tag) : List Char := if tag.closing then ['<', '/'] else ['<']

/-- The body of a tag stands between its name, which it does not continue, and the `>`. -/
structure HasBody (tag : Tag) (body : List Char) : Prop where
  first : ∃ c ∈ tag.name.head?, isLetter c = true
  named : ∀ c ∈ tag.name, isTagNameChar c = true
  behind : ∀ c ∈ body.head?, isTagNameChar c = false
  plain : ∀ c ∈ body, c ≠ '<' ∧ c ≠ '>'
  split : splitBody body = some (tag.attributes, tag.selfClosing)

/-- The text of a tag. -/
def SpelledBy (tag : Tag) (text : List Char) : Prop :=
  ∃ body, tag.HasBody body ∧ text = tag.lead ++ (tag.name ++ (body ++ ['>']))

/-- The attributes begin right behind the name. -/
theorem attributesOffset_eq (tag : Tag) :
    tag.attributesOffset = tag.lead.length + tag.name.length := by
  rw [attributesOffset, lead]
  cases tag.closing <;> rfl

end Tag

theorem isTagNameChar_of_isLetter {c : Char} (letter : isLetter c = true) :
    isTagNameChar c = true := by
  rw [isLetter] at letter
  simp [isTagNameChar, Char.isAlphanum, letter]

/-- What is recognised behind the lead is a name and a body up to the closing bracket. -/
theorem tagFrom_eq_some {closing : Bool} {lead length : Nat} {chars : List Char} {tag : Tag}
    (recognised : tagFrom closing lead chars = some (tag, length)) :
    ∃ body back, tag.closing = closing ∧ tag.HasBody body ∧
      chars = tag.name ++ (body ++ ['>']) ++ back ∧
      length = lead + (tag.name ++ (body ++ ['>'])).length := by
  cases chars with
  | nil => cases recognised
  | cons first rest =>
      simp only [tagFrom] at recognised
      split at recognised
      next letter =>
        split at recognised
        next back attributes selfClosing closed split =>
          cases recognised
          have isPrefix := List.takeWhile_prefix (l := rest.dropWhile isTagNameChar)
            fun c => c != '<' && c != '>'
          have afterName := List.prefix_iff_eq_append.1 isPrefix
          rw [closed] at afterName
          refine ⟨_, back, rfl, ⟨⟨first, rfl, letter⟩, ?_, ?_, ?_, split⟩, ?_, ?_⟩
          · exact List.forall_mem_cons.2
              ⟨isTagNameChar_of_isLetter letter, fun c => List.mem_takeWhile_imp⟩
          · intro c front
            have behind : c ∈ (rest.dropWhile isTagNameChar).head? := by
              rw [← afterName, List.head?_append, Option.mem_def.1 front]
              rfl
            exact eq_false_of_mem_head?_dropWhile behind
          · intro c inBody
            simpa using List.mem_takeWhile_imp inBody
          · simp only [List.cons_append, List.append_assoc, List.nil_append, afterName,
              List.takeWhile_append_dropWhile]
          · simp only [List.length_append, List.length_cons, List.length_nil]
            omega
        next => cases recognised
      next => cases recognised

/-- Every tag that is recognised is spelled out at the front of the text. -/
theorem tagAt_reads : Recogniser.Reads tagAt Tag.SpelledBy := by
  intro chars tag length recognised
  rw [tagAt.eq_def] at recognised
  split at recognised
  next rest =>
    obtain ⟨body, back, closing, hasBody, rfl, rfl⟩ := tagFrom_eq_some recognised
    have lead : tag.lead = ['<', '/'] := if_pos closing
    exact ⟨_, back, ⟨body, hasBody, rfl⟩, by simp [lead], by simp [lead],
      by simp [lead]; omega⟩
  next rest _ =>
    obtain ⟨body, back, closing, hasBody, rfl, rfl⟩ := tagFrom_eq_some recognised
    have lead : tag.lead = ['<'] := if_neg (by simp [closing])
    exact ⟨_, back, ⟨body, hasBody, rfl⟩, by simp [lead], by simp [lead],
      by simp [lead, Nat.add_comm]⟩
  next => cases recognised

theorem isPrefix_dropRightWhile (drop : Char → Bool) (chars : List Char) :
    dropRightWhile drop chars <+: chars := by
  have suffix := List.dropWhile_suffix (l := chars.reverse) drop
  rw [← List.reverse_prefix, List.reverse_reverse] at suffix
  exact suffix

theorem isPrefix_trimBody (body : List Char) : trimBody body <+: body := by
  rw [trimBody]
  refine (isPrefix_dropRightWhile _ _).trans ?_
  split
  next rest reversed =>
    have whole := List.reverse_reverse body
    rw [reversed, List.reverse_cons] at whole
    exact ⟨['/'], whole⟩
  next => exact List.prefix_rfl

/-- The attributes are at the front of the body. -/
theorem isPrefix_splitBody {body : List Char} {attributes : Option (List Char)}
    {selfClosing : Bool} (split : splitBody body = some (attributes, selfClosing)) :
    attributes.getD [] <+: body := by
  rw [splitBody.eq_def] at split
  split at split
  next => cases split; exact List.nil_prefix
  next => cases split; exact List.nil_prefix
  next c rest _ =>
    split at split
    · cases split
      exact (List.prefix_cons_inj c).2 (isPrefix_trimBody rest)
    · cases split

/-- The attributes of a tag stand in its text in front of its end. -/
theorem Tag.SpelledBy.attributes {tag : Tag} {text : List Char} (spelled : tag.SpelledBy text) :
    StandsAt text (tag.attributes.getD []) tag.attributesOffset ∧
      tag.attributesOffset + (tag.attributes.getD []).length < text.length := by
  obtain ⟨body, hasBody, rfl⟩ := spelled
  obtain ⟨back, rfl⟩ := isPrefix_splitBody hasBody.split
  rw [attributesOffset_eq]
  constructor
  · rw [← List.length_append, ← List.append_assoc, List.append_assoc _ back]
    exact .of_append _ _ _
  · simp only [List.length_append, List.length_singleton]
    omega

/-! ## Attributes and entities -/

/-- The text of an attribute: its name, possibly blanks, and an equals sign. -/
def AttributeSpelledBy (name text : List Char) : Prop :=
  ∃ gap, text = name ++ (gap ++ ['=']) ∧ (∃ c ∈ name.head?, isAttributeStart c = true) ∧
    (∀ c ∈ name, isAttributeChar c = true) ∧ ∀ c ∈ gap, isBlank c = true

theorem isAttributeChar_of_isAttributeStart {c : Char} (start : isAttributeStart c = true) :
    isAttributeChar c = true := by
  simp only [isAttributeStart, Bool.or_eq_true] at start
  simp only [isAttributeChar, Char.isAlphanum, Bool.or_eq_true]
  grind

theorem attributeAt_reads : Recogniser.Reads attributeAt AttributeSpelledBy := by
  intro chars name length recognised
  cases chars with
  | nil => cases recognised
  | cons first rest =>
      simp only [attributeAt] at recognised
      split at recognised
      next start =>
        split at recognised
        next back equals =>
          cases recognised
          have gap := List.prefix_iff_eq_append.1
            (List.takeWhile_prefix (l := rest.dropWhile isAttributeChar) isBlank)
          rw [equals] at gap
          have blank : ∀ c ∈ (rest.dropWhile isAttributeChar).takeWhile isBlank,
              isBlank c = true := fun c => List.mem_takeWhile_imp
          refine ⟨_, back, ⟨_, rfl, ⟨first, rfl, start⟩, ?_, blank⟩, List.cons_ne_nil _ _, ?_, ?_⟩
          · exact List.forall_mem_cons.2
              ⟨isAttributeChar_of_isAttributeStart start, fun c => List.mem_takeWhile_imp⟩
          · simp only [List.cons_append, List.append_assoc, List.nil_append, gap,
              List.takeWhile_append_dropWhile]
          · simp only [List.length_append, List.length_cons, List.length_nil]
            omega
        next => cases recognised
      next => cases recognised

/-- An entity is its own text. -/
def EntitySpelledBy (entity text : List Char) : Prop :=
  entity = text ∧ ∃ body, text = '&' :: (body ++ [';']) ∧ ∀ c ∈ body, c ≠ '<' ∧ c ≠ '>'

theorem entityTail_eq_some {lead length : Nat} {isBody : Char → Bool} {chars : List Char}
    (recognised : entityTail lead isBody chars = some length) :
    ∃ body back, chars = body ++ ';' :: back ∧ length = lead + body.length + 1 ∧
      ∀ c ∈ body, isBody c = true := by
  simp only [entityTail] at recognised
  split at recognised
  next back semicolon =>
    split at recognised
    · cases recognised
    · cases recognised
      have body := List.prefix_iff_eq_append.1 (List.takeWhile_prefix (l := chars) isBody)
      rw [semicolon] at body
      exact ⟨_, back, body.symm, rfl, fun c => List.mem_takeWhile_imp⟩
  next => cases recognised

/-- An entity runs from an ampersand to a semicolon and holds no angle bracket. -/
theorem entityLength?_eq_some {chars : List Char} {length : Nat}
    (recognised : entityLength? chars = some length) :
    ∃ body back, chars = '&' :: (body ++ [';']) ++ back ∧ length = body.length + 2 ∧
      ∀ c ∈ body, c ≠ '<' ∧ c ≠ '>' := by
  rw [entityLength?.eq_def] at recognised
  split at recognised
  next c rest =>
    split at recognised
    next hex =>
      obtain ⟨body, back, rfl, rfl, members⟩ := entityTail_eq_some recognised
      refine ⟨'#' :: c :: body, back, by simp, by simp; omega, ?_⟩
      have plain := plain_of_members members (by decide) (by decide)
      rcases hex with rfl | rfl <;> simpa using plain
    next =>
      obtain ⟨body, back, parts, rfl, members⟩ := entityTail_eq_some recognised
      refine ⟨'#' :: body, back, by simp [parts], by simp; omega, ?_⟩
      have plain := plain_of_members members (by decide) (by decide)
      simpa using plain
  next c rest _ =>
    split at recognised
    next =>
      obtain ⟨body, back, parts, rfl, members⟩ := entityTail_eq_some recognised
      have plain := plain_of_members members (by decide) (by decide)
      exact ⟨body, back, by simp [parts], by omega, plain⟩
    next => cases recognised
  next => cases recognised

theorem entityAt_reads : Recogniser.Reads entityAt EntitySpelledBy := by
  intro chars entity length recognised
  obtain ⟨width, found, same⟩ := Option.map_eq_some_iff.1 recognised
  cases same
  obtain ⟨body, back, rfl, rfl, plain⟩ := entityLength?_eq_some found
  have front : ('&' :: (body ++ [';']) ++ back).take (body.length + 2) = '&' :: (body ++ [';']) :=
    List.take_left' (by simp)
  rw [front]
  exact ⟨_, back, ⟨rfl, body, rfl, plain⟩, List.cons_ne_nil _ _, rfl, by simp⟩

end Inlay.Marker
