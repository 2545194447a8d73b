import Mathlib.Algebra.Group.Int.Defs
import Mathlib.Algebra.Group.Nat.Defs
import Mathlib.Data.List.TakeWhile
import Inlay.Json.Reader
import Inlay.Proofs.Json.Value
import Inlay.Proofs.Json.Writer

/-!
# What is written is read back

The writer and the reader agree on values whose numbers are integers of 64 bits and whose
objects have their members in order, at any depth that the reader takes
(`parseChars?_chars`).  Floats are left out: the digits they are written with need not be
read as the same float.  The order asks for nothing that a value lacks, since every value that
is read has it (`parse?_inOrder`).

Each part is read up to whatever comes behind it.  A string ends at its quote, so anything
may follow.  A number has no end of its own, and what follows must not go on with one
(`NumberEnds`): inside arrays and objects that is a comma or a bracket.  The reader skips white
space in front of a value and looks for a closing bracket there, so it matters that no value
begins with either (`Begins`).
-/

namespace Inlay.Json

/-! ## Strings -/

theorem readString_letter {letter c : Char} (short : letter ≠ 'u')
    (escaped : escaped? letter = some c) (read rest : List Char) :
    readString read ('\\' :: letter :: rest) = readString (c :: read) rest := by
  rw [readString]
  · rw [escaped]
  · simp [short]

/-- An escaped code below the surrogates stands for one character by itself. -/
theorem readString_unit {a b c d : Char} {code : Nat} (unit : unit? a b c d = some code)
    (low : code < 0xD800) (read rest : List Char) :
    readString read ('\\' :: 'u' :: a :: b :: c :: d :: rest) =
      readString (Char.ofNat code :: read) rest := by
  rw [readString]
  simp only [unit]
  rw [if_neg (by omega), if_neg (by omega)]

theorem readString_plain {c : Char} (high : 0x20 ≤ c.toNat) (notQuote : c ≠ '"')
    (notBack : c ≠ '\\') (read rest : List Char) :
    readString read (c :: rest) = readString (c :: read) rest := by
  rw [readString]
  · rw [if_neg (by simp [notBack]; omega)]
  · simp [notQuote]
  · simp [notBack]
  · simp [notBack]

/-- However a character is written, it is the one that is read. -/
theorem readString_escape {c : Char} {written : List Char} (escape : Escape c written)
    (read rest : List Char) :
    readString read (written ++ rest) = readString (c :: read) rest := by
  cases escape with
  | letter listed =>
      have table : ∀ pair ∈ letterEscapes, pair.1 ≠ 'u' ∧ escaped? pair.1 = some pair.2 := by decide
      obtain ⟨short, escaped⟩ := table _ listed
      exact readString_letter short escaped read rest
  | unit control =>
      have table : ∀ n < 0x20, unit? '0' '0' (hexChar (n / 16)) (hexChar (n % 16)) = some n := by
        decide
      have coded := readString_unit (table _ control) (by omega) read rest
      rwa [Char.ofNat_toNat] at coded
  | plain high notQuote notBack => exact readString_plain high notQuote notBack read rest

/-- An escaped text is read up to the quote behind it, whatever was read before. -/
theorem readString_flatMap (read text rest : List Char) :
    readString read (text.flatMap charEscaped ++ '"' :: rest) =
      some (String.ofList (read.reverse ++ text), rest) := by
  induction text generalizing read with
  | nil => simp [readString]
  | cons c text ih =>
      rw [List.flatMap_cons, List.append_assoc, readString_escape (charEscaped_escape c), ih]
      simp

/-- A quoted text is read back whole, and the reader is nearer the end than before. -/
theorem readString_stringChars (text : String) (rest : List Char) :
    ∃ body, stringChars text ++ rest = '"' :: body ∧ readString [] body = some (text, rest) ∧
      rest.length < body.length := by
  refine ⟨text.toList.flatMap charEscaped ++ '"' :: rest, by simp [stringChars], ?_, ?_⟩
  · rw [readString_flatMap, List.reverse_nil, List.nil_append, String.ofList_toList]
  · simp only [List.length_append, List.length_cons]
    omega

/-! ## Numbers -/

/-- No number goes on in the rest. -/
def NumberEnds (rest : List Char) : Prop :=
  ∀ c ∈ rest.head?, c.isDigit = false ∧ c ≠ '.' ∧ c ≠ 'e' ∧ c ≠ 'E'

/-- Where no number goes on there is no fraction. -/
theorem readFraction_of_ends {rest : List Char} (ends : NumberEnds rest) :
    readFraction rest = some ([], rest) := by
  rw [readFraction]
  rintro tail rfl
  exact (ends '.' rfl).2.1 rfl

theorem readExponent_of_ends {rest : List Char} (ends : NumberEnds rest) :
    readExponent rest = some (none, rest) := by
  cases rest with
  | nil => rfl
  | cons c rest =>
      obtain ⟨-, -, small, capital⟩ := ends c rfl
      simp [readExponent, small, capital]

/-- The digits of a number are read as a whole number. -/
theorem readNumber_toDigits (negative : Bool) (n : Nat) {rest : List Char}
    (ends : NumberEnds rest) :
    readNumber negative (Nat.toDigits 10 n ++ rest) =
      (wholeNumber negative (Nat.toDigits 10 n)).map fun value => (value, rest) := by
  obtain ⟨taken, left⟩ := Text.takeWhile_isDigit_toDigits n fun c first => (ends c first).1
  rw [readNumber]
  simp only [taken, left]
  split
  next empty => exact absurd empty Nat.toDigits_ne_nil
  next c rest leading => exact absurd leading (Text.toDigits_ne_zero_cons n c rest)
  next =>
    simp only [readFraction_of_ends ends, readExponent_of_ends ends, Option.bind_eq_bind,
      Option.bind_some]
    cases wholeNumber negative (Nat.toDigits 10 n) with
    | none => rfl
    | some value => rfl

/-- The integer fits in 64 bits, with a sign if it is negative. -/
def Fits64 (value : Int) : Prop := -2 ^ 63 ≤ value ∧ value < 2 ^ 64

/-- A number is an integer of 64 bits. -/
def IsWhole : Json → Prop
  | .int value => Fits64 value
  | .real _ => False
  | _ => True

/-- A negative number of 64 bits is read back, the least of them included. -/
theorem wholeNumber_negative {n : Nat} (positive : 0 < n) (fits : n ≤ 2 ^ 63) :
    wholeNumber true (Nat.toDigits 10 n) = some (.int (-n)) := by
  simp only [wholeNumber, Text.digitsValue_toDigits, if_true, UInt64.size]
  rw [if_pos ⟨positive, by omega⟩]

/-- Any number of 64 bits is read back without a loss. -/
theorem wholeNumber_positive {n : Nat} (fits : n < 2 ^ 64) :
    wholeNumber false (Nat.toDigits 10 n) = some (.int n) := by
  have below : n < UInt64.size := fits
  simp only [wholeNumber, Text.digitsValue_toDigits, if_pos below, Bool.false_eq_true, if_false]

theorem readValue_digit (depth : Nat) {c : Char} (digit : c.isDigit = true) (rest : List Char) :
    readValue depth (c :: rest) = readNumber false (c :: rest) := by
  rw [readValue]
  all_goals
    rintro _ same
    obtain ⟨rfl, -⟩ := List.cons.inj same
    cases digit

/-- A whole number of 64 bits is read back up to what ends it. -/
theorem readValue_intChars {value : Int} (fits : Fits64 value) (depth : Nat) {rest : List Char}
    (ends : NumberEnds rest) :
    readValue depth (intChars value ++ rest) = some (.int value, rest) := by
  obtain ⟨low, high⟩ := fits
  rw [intChars]
  split
  next negative =>
    rw [List.cons_append, readValue, readNumber_toDigits true _ ends,
      wholeNumber_negative (by omega) (by omega)]
    have same : -(value.natAbs : Int) = value := by omega
    rw [Option.map_some, same]
  next positive =>
    cases cut : Nat.toDigits 10 value.natAbs with
    | nil => exact absurd cut Nat.toDigits_ne_nil
    | cons c digits =>
        have digit : c.isDigit = true := Text.isDigit_of_mem_toDigits (cut ▸ List.mem_cons_self)
        rw [List.cons_append, readValue_digit depth digit, ← List.cons_append, ← cut,
          readNumber_toDigits false _ ends, wholeNumber_positive (by omega)]
        have same : (value.natAbs : Int) = value := by omega
        rw [Option.map_some, same]

/-! ## The first character of a value -/

theorem skipSpace_cons {c : Char} (solid : isSpace c = false) (rest : List Char) :
    skipSpace (c :: rest) = c :: rest := by
  simp [skipSpace, solid]

/-- The text begins with something that is no white space and closes nothing. -/
def Begins (text : List Char) : Prop :=
  ∃ c rest, text = c :: rest ∧ isSpace c = false ∧ c ≠ ']' ∧ c ≠ '}'

theorem Begins.skipSpace {text : List Char} (begins : Begins text) : skipSpace text = text := by
  obtain ⟨c, rest, rfl, solid, -⟩ := begins
  exact skipSpace_cons solid rest

theorem Begins.append {text : List Char} (begins : Begins text) (more : List Char) :
    Begins (text ++ more) := by
  obtain ⟨c, rest, rfl, opens⟩ := begins
  exact ⟨c, rest ++ more, rfl, opens⟩

theorem begins_of_isDigit {c : Char} (digit : c.isDigit = true) (rest : List Char) :
    Begins (c :: rest) := by
  have other {mark : Char} (noDigit : mark.isDigit = false) : c ≠ mark := by
    rintro rfl
    exact absurd digit (by simp [noDigit])
  refine ⟨c, rest, rfl, ?_, other rfl, other rfl⟩
  simp only [isSpace, beq_eq_false_iff_ne.2 (@other ' ' rfl),
    beq_eq_false_iff_ne.2 (@other '\n' rfl), beq_eq_false_iff_ne.2 (@other '\t' rfl),
    beq_eq_false_iff_ne.2 (@other '\r' rfl), Bool.or_false]

theorem begins_intChars (value : Int) : Begins (intChars value) := by
  rw [intChars]
  split
  next negative => exact ⟨'-', _, rfl, by decide⟩
  next positive =>
    cases cut : Nat.toDigits 10 value.natAbs with
    | nil => exact absurd cut Nat.toDigits_ne_nil
    | cons c digits =>
        exact begins_of_isDigit (Text.isDigit_of_mem_toDigits (cut ▸ List.mem_cons_self)) digits

/-- Every written value begins with something that is no white space and closes nothing. -/
theorem begins_chars {value : Json} (whole : value.Each IsWhole) : Begins value.chars := by
  cases value with
  | null => exact ⟨'n', _, rfl, by decide⟩
  | bool truth => cases truth <;> exact ⟨_, _, rfl, by decide⟩
  | int value => simpa only [chars] using begins_intChars value
  | real value => exact absurd whole (by simp [Each, IsWhole])
  | str text => exact ⟨'"', _, rfl, by decide⟩
  | arr items => exact ⟨'[', _, by rw [chars], by decide⟩
  | obj members => exact ⟨'{', _, by rw [chars], by decide⟩

theorem begins_itemChars {item : Json} (whole : item.Each IsWhole) (items : List Json) :
    Begins (itemChars (item :: items)) := by
  cases items with
  | nil => simpa only [itemChars] using begins_chars whole
  | cons next rest => simpa only [itemChars] using (begins_chars whole).append _

theorem begins_memberChars (member : String × Json) (members : List (String × Json)) :
    Begins (memberChars (member :: members)) := by
  obtain ⟨key, value⟩ := member
  cases members with
  | nil => exact ⟨'"', _, by rw [memberChars, stringChars, List.cons_append], by decide⟩
  | cons next rest => exact ⟨'"', _, by rw [memberChars, stringChars, List.cons_append], by decide⟩

/-! ## Items and members -/

section

variable {depth : Nat} {text more next rest : List Char} {item value : Json} {items : List Json}
  {key : String} {members : List (String × Json)}

theorem readItems_last (read : readValue depth text = some (item, ']' :: rest)) :
    readItems depth text = some ([item], rest) := by
  rw [readItems, read]
  simp only [skipSpace_cons (show isSpace ']' = false by decide)]

/-- Behind a comma the reader goes on with the other items. -/
theorem readItems_next (read : readValue depth text = some (item, ',' :: next))
    (begins : Begins next) (shorter : next.length < text.length)
    (others : readItems depth next = some (items, rest)) :
    readItems depth text = some (item :: items, rest) := by
  rw [readItems, read]
  simp only [skipSpace_cons (show isSpace ',' = false by decide), begins.skipSpace, shorter, others,
    if_true, Option.map_some]

/-- An array is its items, one level deeper. -/
theorem readValue_items (begins : Begins text) (read : readItems depth text = some (items, rest)) :
    readValue (depth + 1) ('[' :: text) = some (.arr items, rest) := by
  rw [readValue]
  simp only [begins.skipSpace]
  split
  next closed =>
    obtain ⟨c, tail, same, -, opens, -⟩ := begins
    exact absurd (List.cons.inj same).1.symm opens
  next => rw [read, Option.map_some]

theorem readMembers_last (readKey : readString [] text = some (key, ':' :: more))
    (begins : Begins more) (shorter : more.length ≤ text.length)
    (read : readValue depth more = some (value, '}' :: rest)) :
    readMembers depth ('"' :: text) = some ([(key, value)], rest) := by
  rw [readMembers, readKey]
  simp only [skipSpace_cons (show isSpace ':' = false by decide), begins.skipSpace, shorter,
    if_true, read, skipSpace_cons (show isSpace '}' = false by decide)]

theorem readMembers_next (readKey : readString [] text = some (key, ':' :: more))
    (begins : Begins more) (shorter : more.length ≤ text.length)
    (read : readValue depth more = some (value, ',' :: next)) (goesOn : Begins next)
    (nextShorter : next.length ≤ text.length)
    (others : readMembers depth next = some (members, rest)) :
    readMembers depth ('"' :: text) = some ((key, value) :: members, rest) := by
  rw [readMembers, readKey]
  simp only [skipSpace_cons (show isSpace ':' = false by decide), begins.skipSpace, shorter,
    if_true, read, skipSpace_cons (show isSpace ',' = false by decide), goesOn.skipSpace,
    nextShorter, others, Option.map_some]

/-- An object is its members in the order of their keys, one level deeper. -/
theorem readValue_members (begins : Begins text)
    (read : readMembers depth text = some (members, rest)) :
    readValue (depth + 1) ('{' :: text) = some (ofMembers members, rest) := by
  rw [readValue]
  simp only [begins.skipSpace]
  split
  next closed =>
    obtain ⟨c, tail, same, -, -, opens⟩ := begins
    exact absurd (List.cons.inj same).1.symm opens
  next => rw [read, Option.map_some]

end

/-! ## Values -/

/-- No number goes on behind a mark of an array or an object. -/
theorem numberEnds_cons {c : Char} (mark : c ∈ [',', ']', '}']) (rest : List Char) :
    NumberEnds (c :: rest) := by
  intro first same
  obtain rfl := Option.some.inj same
  simp only [List.mem_cons, List.not_mem_nil, or_false] at mark
  obtain rfl | rfl | rfl := mark <;> decide

theorem numberEnds_of_blank {rest : List Char} (blank : ∀ c ∈ rest, isSpace c = true) :
    NumberEnds rest := by
  intro c first
  have space := blank c (List.mem_of_mem_head? first)
  simp only [isSpace, Bool.or_eq_true, beq_iff_eq] at space
  obtain ((rfl | rfl) | rfl) | rfl := space <;> decide

mutual

/-- A value is read back from what it is written as, whatever comes behind it. -/
theorem readValue_chars : ∀ value : Json, value.Each InOrder → value.Each IsWhole →
    ∀ (depth : Nat) (rest : List Char), value.nesting ≤ depth → NumberEnds rest →
      readValue depth (value.chars ++ rest) = some (value, rest)
  | .null, _, _, depth, rest, _, _ => by simp [chars, readValue, afterWord]
  | .bool true, _, _, depth, rest, _, _ => by simp [chars, readValue, afterWord]
  | .bool false, _, _, depth, rest, _, _ => by simp [chars, readValue, afterWord]
  | .int value, _, whole, depth, rest, _, ends => by
      rw [chars]
      exact readValue_intChars whole depth ends
  | .real _, _, whole, _, _, _, _ => absurd whole (by simp [Each, IsWhole])
  | .str text, _, _, depth, rest, _, _ => by
      obtain ⟨body, written, read, -⟩ := readString_stringChars text rest
      rw [chars, written, readValue, read]
      rfl
  | .arr items, ordered, whole, depth, rest, deep, _ => by
      -- The array takes one of the containers that are left.
      rw [nesting] at deep
      obtain ⟨inner, rfl⟩ := Nat.exists_eq_add_of_le' (Nat.le_trans (Nat.le_add_right 1 _) deep)
      cases items with
      | nil => simp [chars, itemChars, readValue, skipSpace, isSpace]
      | cons item items =>
          have read := readItems_itemChars (item :: items) (by simp) ordered.2 whole.2 inner rest
            (by omega)
          rw [chars, List.cons_append, List.append_assoc]
          exact readValue_items ((begins_itemChars whole.2.1 items).append _) read
  | .obj members, ordered, whole, depth, rest, deep, _ => by
      rw [nesting] at deep
      obtain ⟨inner, rfl⟩ := Nat.exists_eq_add_of_le' (Nat.le_trans (Nat.le_add_right 1 _) deep)
      cases members with
      | nil => simp [chars, memberChars, readValue, skipSpace, isSpace]
      | cons member members =>
          have read := readMembers_memberChars (member :: members) (by simp) ordered.2 whole.2 inner
            rest (by omega)
          have built := readValue_members ((begins_memberChars member members).append _) read
          rw [ofMembers_of_inOrder ordered.1] at built
          rw [chars, List.cons_append, List.append_assoc]
          exact built

/-- Items are read back up to the bracket that closes their array. -/
theorem readItems_itemChars : ∀ items : List Json, items ≠ [] → EachItem InOrder items →
    EachItem IsWhole items → ∀ (depth : Nat) (rest : List Char), itemsNesting items ≤ depth →
      readItems depth (itemChars items ++ ']' :: rest) = some (items, rest)
  | [], nonempty, _, _, _, _, _ => absurd rfl nonempty
  | [item], _, ordered, whole, depth, rest, deep => by
      rw [itemsNesting, Nat.max_le] at deep
      rw [itemChars]
      exact readItems_last (readValue_chars item ordered.1 whole.1 depth _ deep.1
        (numberEnds_cons (by simp) rest))
  | item :: next :: items, _, ordered, whole, depth, rest, deep => by
      rw [itemsNesting, Nat.max_le] at deep
      -- What comes behind the item is a comma, so a number ends there.
      have read := readValue_chars item ordered.1 whole.1 depth
        (',' :: (itemChars (next :: items) ++ ']' :: rest)) deep.1 (numberEnds_cons (by simp) _)
      have others := readItems_itemChars (next :: items) (by simp) ordered.2 whole.2 depth rest
        deep.2
      rw [itemChars, List.append_assoc, List.cons_append]
      -- The reader only goes on when the text gets shorter, which the item sees to.
      refine readItems_next read ((begins_itemChars whole.2.1 items).append _) ?_ others
      simp only [List.length_append, List.length_cons]
      omega

/-- Members are read back up to the brace that closes their object. -/
theorem readMembers_memberChars : ∀ members : List (String × Json), members ≠ [] →
    EachMember InOrder members → EachMember IsWhole members →
    ∀ (depth : Nat) (rest : List Char), membersNesting members ≤ depth →
      readMembers depth (memberChars members ++ '}' :: rest) = some (members, rest)
  | [], nonempty, _, _, _, _, _ => absurd rfl nonempty
  | [(key, value)], _, ordered, whole, depth, rest, deep => by
      rw [membersNesting, Nat.max_le] at deep
      have read := readValue_chars value ordered.1 whole.1 depth ('}' :: rest) deep.1
        (numberEnds_cons (by simp) rest)
      obtain ⟨body, written, readKey, shorter⟩ :=
        readString_stringChars key (':' :: (value.chars ++ '}' :: rest))
      rw [List.length_cons] at shorter
      rw [memberChars, List.append_assoc, List.cons_append, written]
      exact readMembers_last readKey ((begins_chars whole.1).append _) (by omega) read
  | (key, value) :: next :: members, _, ordered, whole, depth, rest, deep => by
      rw [membersNesting, Nat.max_le] at deep
      have read := readValue_chars value ordered.1 whole.1 depth
        (',' :: (memberChars (next :: members) ++ '}' :: rest)) deep.1 (numberEnds_cons (by simp) _)
      have others := readMembers_memberChars (next :: members) (by simp) ordered.2 whole.2 depth
        rest deep.2
      obtain ⟨body, written, readKey, shorter⟩ := readString_stringChars key
        (':' :: (value.chars ++ ',' :: (memberChars (next :: members) ++ '}' :: rest)))
      simp only [List.length_cons, List.length_append] at shorter
      rw [memberChars, List.append_assoc, List.cons_append, List.append_assoc, List.cons_append,
        written]
      refine readMembers_next readKey ((begins_chars whole.1).append _) ?_ read
        ((begins_memberChars next members).append _) ?_ others
      · simp only [List.length_cons, List.length_append]
        omega
      · simp only [List.length_cons, List.length_append]
        omega

end

/-- A value is read back from the text that it is written as, with white space behind it or none. -/
theorem parseChars?_chars {value : Json} (ordered : value.Each InOrder) (whole : value.Each IsWhole)
    (shallow : value.nesting ≤ maxNesting) (back : List Char)
    (blank : ∀ c ∈ back, isSpace c = true) :
    parseChars? (value.chars ++ back) = some value := by
  rw [parseChars?, ((begins_chars whole).append back).skipSpace,
    readValue_chars value ordered whole maxNesting back shallow (numberEnds_of_blank blank)]
  have nothing : skipSpace back = [] := List.dropWhile_eq_nil_iff.2 blank
  simp [nothing]

/-! ## What is read is in order -/

theorem inOrder_of_map {α : Type} {found : Option α} {make : α → Json × List Char} {value : Json}
    {rest : List Char} (read : found.map make = some (value, rest))
    (ordered : ∀ part, (make part).1.Each InOrder) : value.Each InOrder := by
  obtain ⟨part, -, made⟩ := Option.map_eq_some_iff.1 read
  have here := ordered part
  rwa [made] at here

/-- A number has no members that could be out of order. -/
theorem wholeNumber_inOrder {negative : Bool} {digits : List Char} {value : Json}
    (read : wholeNumber negative digits = some value) : value.Each InOrder := by
  have float {found : Option Float} (read : found.map real = some value) : value.Each InOrder := by
    obtain ⟨_, -, rfl⟩ := Option.map_eq_some_iff.1 read
    trivial
  simp only [wholeNumber] at read
  split at read
  · split at read
    · cases read
      trivial
    · exact float read
  · split at read
    · cases read
      trivial
    · exact float read

theorem readNumber_inOrder {negative : Bool} {text rest : List Char} {value : Json}
    (read : readNumber negative text = some (value, rest)) : value.Each InOrder := by
  simp only [readNumber] at read
  split at read
  · cases read
  · cases read
  · -- A number with a fraction or an exponent is a float, any other is a whole number.
    simp only [Option.bind_eq_bind, Option.bind_eq_some_iff, Prod.exists] at read
    obtain ⟨fraction, behind, -, exponent, after, -, read⟩ := read
    split at read
    · obtain ⟨value, whole, same⟩ := Option.bind_eq_some_iff.1 read
      cases same
      exact wholeNumber_inOrder whole
    · obtain ⟨value, -, same⟩ := Option.bind_eq_some_iff.1 read
      cases same
      trivial

mutual

/-- Whatever the text, the objects in the value that is read have their members in order. -/
theorem readValue_inOrder (depth : Nat) (text : List Char) :
    ∀ {value : Json} {rest : List Char}, readValue depth text = some (value, rest) →
      value.Each InOrder := by
  intro value rest read
  rw [readValue.eq_def] at read
  split at read
  next => exact inOrder_of_map read fun _ => trivial
  next => exact inOrder_of_map read fun _ => trivial
  next => exact inOrder_of_map read fun _ => trivial
  next => exact inOrder_of_map read fun _ => trivial
  next => exact readNumber_inOrder read
  next =>
    split at read
    · cases read
    · split at read
      · cases read
        exact ⟨trivial, trivial⟩
      · obtain ⟨⟨items, _⟩, inner, same⟩ := Option.map_eq_some_iff.1 read
        cases same
        exact ⟨trivial, readItems_inOrder _ _ inner⟩
  next =>
    split at read
    · cases read
    · split at read
      · cases read
        exact ⟨List.Pairwise.nil, trivial⟩
      · obtain ⟨⟨members, _⟩, inner, same⟩ := Option.map_eq_some_iff.1 read
        cases same
        exact each_inOrder_ofMembers (readMembers_inOrder _ _ inner)
  next => exact readNumber_inOrder read
termination_by (depth, text.length, 0)

/-- Whatever items are read, the objects among them and inside them are in order. -/
theorem readItems_inOrder (depth : Nat) (text : List Char) :
    ∀ {items : List Json} {rest : List Char}, readItems depth text = some (items, rest) →
      EachItem InOrder items := by
  intro items rest read
  rw [readItems.eq_def] at read
  split at read
  next => cases read
  next item behind first =>
    have here := readValue_inOrder depth text first
    split at read
    · cases read
      exact ⟨here, trivial⟩
    · split at read
      · obtain ⟨⟨others, _⟩, later, same⟩ := Option.map_eq_some_iff.1 read
        cases same
        exact ⟨here, readItems_inOrder depth _ later⟩
      · cases read
    · cases read
termination_by (depth, text.length, 1)

theorem readMembers_inOrder (depth : Nat) (text : List Char) :
    ∀ {members : List (String × Json)} {rest : List Char},
      readMembers depth text = some (members, rest) → EachMember InOrder members := by
  intro members rest read
  rw [readMembers.eq_def] at read
  split at read
  next afterQuote =>
    have quoted : afterQuote.length < ('"' :: afterQuote).length := Nat.lt_succ_self _
    split at read
    · cases read
    · split at read
      · split at read
        next shorter =>
          split at read
          · cases read
          next value behind first =>
            have here := readValue_inOrder depth _ first
            split at read
            · cases read
              exact ⟨here, trivial⟩
            · split at read
              next nextShorter =>
                obtain ⟨⟨others, _⟩, later, same⟩ := Option.map_eq_some_iff.1 read
                cases same
                exact ⟨here, readMembers_inOrder depth _ later⟩
              next => cases read
            · cases read
        next => cases read
      · cases read
  next => cases read
termination_by (depth, text.length, 1)
decreasing_by
  all_goals
    subst_vars
    exact Prod.Lex.right _ (Prod.Lex.left _ _ (by omega))

end

/-- A text is read as a value whose objects have their members in order. -/
theorem parse?_inOrder {text : String} {value : Json} (read : parse? text = some value) :
    value.Each InOrder := by
  rw [parse?, parseChars?] at read
  split at read
  next found behind first =>
    split at read
    · cases read
      exact readValue_inOrder _ _ first
    · cases read
  next => cases read

end Inlay.Json
