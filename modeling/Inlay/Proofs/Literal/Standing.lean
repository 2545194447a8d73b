import Inlay.Proofs.Lexeme
import Inlay.Proofs.Text.Search

/-!
# Where literals stand in a source

Nothing is asked of the source here: comments and literals may be left open, a literal
may break off at a line feed, and the last character may be a backslash.  Every literal
that the scanner finds is nevertheless a piece of the source that `Lexeme` describes,
from its opening to its closing quote.

This is read off the scanner while it runs.  `Mode.Turn` lists what one character can do
to it, as far as string literals go.  `Mode.Reading` says what the mode knows of the text
read so far: behind a `#` that this is its last character, and inside a literal that it
ends with the opening and quoted characters, the last of which may still lack the character
behind its backslash.  Closing the literal then completes the piece.

A literal that is still to be found starts no earlier than the token that is being read,
`Mode.tokenStart`, and those found end no later.  So literals are in order and apart.
-/

namespace Inlay

/-! ## Quoted characters -/

namespace Quoted

/-- Reads quoted characters from the left, a backslash together with the character behind
it; a backslash at the end of the text has none. -/
def read : List Char → Option (List Quoted)
  | [] => some []
  | ['\\'] => none
  | '\\' :: c :: rest => (read rest).map (.escaped c :: ·)
  | c :: rest => (read rest).map (.plain c :: ·)

/-- Quoted characters are read back as they were written, if none that stands for itself is
special. -/
theorem read_writeAll {special : List Char} {body : List Quoted} (backslash : '\\' ∈ special)
    (avoid : Avoid special body) : read (writeAll body) = some body := by
  induction body with
  | nil => rfl
  | cons piece rest ih =>
      rw [writeAll, List.flatMap_cons, ← writeAll]
      cases piece with
      | plain c =>
          have plain : c ≠ '\\' := by
            rintro rfl
            exact avoid '\\' (.head _) backslash
          simp [write, read, plain, ih avoid.tail]
      | escaped c => simp [write, read, ih avoid.tail]

/-- One more piece keeps special characters out if it is escaped or not special. -/
theorem Avoid.concat {special : List Char} {body : List Quoted} {piece : Quoted}
    (avoid : Avoid special body) (last : ∀ c, piece = .plain c → c ∉ special) :
    Avoid special (body ++ [piece]) := by
  intro c membership
  rcases List.mem_append.1 membership with early | late
  · exact avoid c early
  · exact last c (List.mem_singleton.1 late).symm

theorem writeAll_concat (body : List Quoted) (piece : Quoted) :
    writeAll (body ++ [piece]) = writeAll body ++ piece.write := by
  rw [writeAll, List.flatMap_append, List.flatMap_singleton, ← writeAll]

end Quoted

namespace Literal

open Text (StandsAt)

/-- A backslash never stands for itself, in either kind of literal. -/
theorem backslash_mem_special (multiline : Bool) : '\\' ∈ special multiline := by
  cases multiline <;> simp [special]

/-! ## Literals as pieces of a text -/

/-- A piece of the text is the literal. -/
def WrittenIn (text : List Char) (literal : Literal) : Prop :=
  ∃ (piece : Lexeme) (offset : Nat),
    StandsAt text piece.write offset ∧ piece.literalAt offset = some literal

theorem WrittenIn.append {text : List Char} {literal : Literal} (written : literal.WrittenIn text)
    (more : List Char) : literal.WrittenIn (text ++ more) := by
  obtain ⟨piece, offset, place, same⟩ := written
  exact ⟨piece, offset, place.append more, same⟩

/-- The text ends with the opening, quoted characters and the given tail, and nothing else
has been read of the literal. -/
def Opening.BegunIn (text tail : List Char) (opening : Opening) : Prop :=
  ∃ (front : List Char) (body : List Quoted),
    Quoted.Avoid (special opening.multiline) body ∧
    text = front ++ (Lexeme.opening opening.multiline ++ (Quoted.writeAll body ++ tail)) ∧
    opening.start = front.length ∧
    opening.contentStart = front.length + (Lexeme.opening opening.multiline).length ∧
    opening.read.reverse = Quoted.writeAll body ++ tail

namespace Opening.BegunIn

variable {text tail : List Char} {opening : Opening}

theorem start_le (begun : opening.BegunIn text tail) : opening.start ≤ text.length := by
  obtain ⟨front, body, -, rfl, starts, -⟩ := begun
  rw [starts, List.length_append]
  exact Nat.le_add_right _ _

theorem of_opening (front : List Char) (multiline : Bool) :
    Opening.BegunIn (front ++ Lexeme.opening multiline) []
      ⟨front.length, front.length + (Lexeme.opening multiline).length, multiline, []⟩ :=
  ⟨front, [], nofun, by simp [Quoted.writeAll], rfl, rfl, rfl⟩

/-- A quoted character that is read to its end. -/
theorem complete {c : Char} (piece : Quoted) (begun : opening.BegunIn text tail)
    (written : tail ++ [c] = piece.write)
    (plain : ∀ c, piece = .plain c → c ∉ special opening.multiline) :
    (opening.push c).BegunIn (text ++ [c]) [] := by
  obtain ⟨front, body, avoid, rfl, starts, contentStarts, read⟩ := begun
  refine ⟨front, body ++ [piece], avoid.concat plain, ?_, starts, contentStarts, ?_⟩
  · simp only [Quoted.writeAll_concat, ← written, List.append_assoc, List.append_nil, push]
  · simp only [push, List.reverse_cons, read, Quoted.writeAll_concat, ← written,
      List.append_assoc, List.append_nil]

/-- A backslash waits for the character behind it. -/
theorem backslash (begun : opening.BegunIn text []) :
    (opening.push '\\').BegunIn (text ++ ['\\']) ['\\'] := by
  obtain ⟨front, body, avoid, rfl, starts, contentStarts, read⟩ := begun
  refine ⟨front, body, avoid, ?_, starts, contentStarts, ?_⟩
  · simp only [List.append_assoc, List.append_nil, push]
  · simp only [push, List.reverse_cons, read, List.append_nil]

/-- A closing quote makes the literal a piece of the text. -/
theorem close (begun : opening.BegunIn text []) :
    (opening.closeAt text.length).WrittenIn (text ++ ['"']) := by
  obtain ⟨front, body, avoid, rfl, starts, contentStarts, read⟩ := begun
  refine ⟨.text opening.multiline body avoid, front.length, ⟨front, [], ?_, rfl⟩, ?_⟩
  · simp only [Lexeme.write, List.append_assoc, List.append_nil]
  · simp only [Lexeme.literalAt, closeAt, starts, contentStarts, read, List.append_nil,
      List.length_append, Nat.add_assoc]

end Opening.BegunIn

/-! ## One character -/

/-- Whether no string literal is open and none may just have begun. -/
def Mode.Aside : Mode → Prop
  | .hash | .text _ | .textEscape _ => False
  | _ => True

/-- What a character at an offset can do: the mode before and after it, and the literal
that it closes. -/
inductive Mode.Turn (offset : Nat) (c : Char) : Mode → Mode → Option Literal → Prop where
  /-- Also a literal that breaks off at a line feed. -/
  | pass {mode next : Mode} : next.Aside → Turn offset c mode next none
  | sharp {mode : Mode} : c = '#' → Turn offset c mode .hash none
  | quote {mode : Mode} : c = '"' → Turn offset c mode (.text ⟨offset, offset + 1, false, []⟩) none
  | sharpQuote : c = '"' → Turn offset c .hash (.text ⟨offset - 1, offset + 1, true, []⟩) none
  | plain {opening : Opening} : c ∉ special opening.multiline →
      Turn offset c (.text opening) (.text (opening.push c)) none
  | backslash {opening : Opening} : c = '\\' →
      Turn offset c (.text opening) (.textEscape (opening.push c)) none
  | escaped {opening : Opening} :
      Turn offset c (.textEscape opening) (.text (opening.push c)) none
  | close {opening : Opening} : c = '"' →
      Turn offset c (.text opening) .code (some (opening.closeAt offset))

/-- Outside of literals and comments a character closes nothing. -/
theorem Mode.turn_afterCode (offset : Nat) (c : Char) (mode : Mode) :
    Turn offset c mode (afterCode offset c) none := by
  unfold afterCode
  split
  · exact .pass trivial
  split
  next hash => exact .sharp hash
  split
  · exact .pass trivial
  split
  next quote => exact .quote quote
  next => exact .pass trivial

/-- Whatever the mode, a character does one of the things listed. -/
theorem Mode.turn (offset : Nat) (c : Char) (mode : Mode) :
    Turn offset c mode (mode.next offset c).1 (mode.next offset c).2 := by
  have code := Mode.turn_afterCode offset c mode
  cases mode with
  | code => exact code
  | slash =>
      simp only [Mode.next]
      split
      · exact .pass trivial
      split
      · exact .pass trivial
      · exact code
  | hash =>
      simp only [Mode.next]
      split
      next quote => exact .sharpQuote quote
      next => exact code
  | lineComment | blockComment =>
      simp only [Mode.next]
      split <;> exact .pass trivial
  | blockStar | charLiteral =>
      simp only [Mode.next]
      split
      · exact .pass trivial
      split <;> exact .pass trivial
  | charEscape => exact .pass trivial
  | text opening =>
      simp only [Mode.next]
      split
      next backslash => exact .backslash backslash
      next notBackslash =>
        split
        next quote => exact .close quote
        next notQuote =>
          split
          next => exact .pass trivial
          next notBreak =>
            refine .plain ?_
            cases single : opening.multiline <;> simp_all [special]
  | textEscape opening => exact .escaped

/-! ## What the scanner knows of the text read -/

/-- The text read so far ends as the mode says. -/
def Mode.Reading (text : List Char) : Mode → Prop
  | .hash => ∃ front, text = front ++ ['#']
  | .text opening => opening.BegunIn text []
  | .textEscape opening => opening.BegunIn text ['\\']
  | _ => True

/-- Where the token that is being read starts. -/
def Mode.tokenStart (offset : Nat) : Mode → Nat
  | .hash => offset - 1
  | .text opening | .textEscape opening => opening.start
  | _ => offset

theorem Mode.Aside.reading {mode : Mode} (aside : mode.Aside) (text : List Char) :
    mode.Reading text := by
  cases mode <;> trivial

theorem Mode.Aside.tokenStart_eq {mode : Mode} (aside : mode.Aside) (offset : Nat) :
    mode.tokenStart offset = offset := by
  cases mode <;> trivial

variable {mode next : Mode} {text : List Char} {c : Char} {closed : Option Literal}

/-- The token that is being read starts in the text read so far. -/
theorem Mode.Reading.tokenStart_le (reading : mode.Reading text) :
    mode.tokenStart text.length ≤ text.length := by
  cases mode with
  | hash => exact Nat.sub_le _ _
  | text opening | textEscape opening => exact Opening.BegunIn.start_le reading
  | _ => exact Nat.le_refl _

/-- Each thing a character can do keeps what the mode says of the text. -/
theorem Mode.Turn.reading (turn : Turn text.length c mode next closed)
    (reading : mode.Reading text) : next.Reading (text ++ [c]) := by
  cases turn with
  | pass aside => exact aside.reading _
  | sharp hash => exact ⟨text, by rw [hash]⟩
  | quote quote =>
      subst quote
      exact .of_opening text false
  | sharpQuote quote =>
      obtain ⟨front, rfl⟩ := reading
      subst quote
      have opened := Opening.BegunIn.of_opening front true
      simpa [Mode.Reading, Lexeme.opening] using opened
  | @plain opening plain =>
      refine Opening.BegunIn.complete (.plain c) reading rfl ?_
      rintro _ ⟨⟩
      exact plain
  | backslash backslash =>
      subst backslash
      exact Opening.BegunIn.backslash reading
  | escaped => exact Opening.BegunIn.complete (.escaped c) reading rfl nofun
  | close => trivial

/-- The token that is being read never starts earlier than the one before. -/
theorem Mode.Turn.tokenStart_le (turn : Turn text.length c mode next closed)
    (reading : mode.Reading text) :
    mode.tokenStart text.length ≤ next.tokenStart (text.length + 1) := by
  have before := reading.tokenStart_le
  cases turn with
  | pass aside => exact aside.tokenStart_eq _ ▸ Nat.le_succ_of_le before
  | sharp | quote => exact before
  | sharpQuote | plain | backslash | escaped => exact Nat.le_refl _
  | close => exact Nat.le_succ_of_le before

/-- A literal that is closed is a piece of the text that starts where the token did. -/
theorem Mode.Turn.closes (turn : Turn text.length c mode next closed)
    (reading : mode.Reading text) : ∀ literal ∈ closed, literal.WrittenIn (text ++ [c]) ∧
      literal.start = mode.tokenStart text.length ∧ literal.stop = text.length + 1 ∧
      next.tokenStart (text.length + 1) = text.length + 1 := by
  cases turn with
  | close quote =>
      rintro _ ⟨⟩
      subst quote
      exact ⟨Opening.BegunIn.close reading, rfl, rfl, rfl⟩
  | _ => nofun

/-! ## A whole text -/

/-- The literals found in a text are pieces of it, the last one first, and end before the
token that is being read. -/
structure Scan.Follows (text : List Char) (scan : Scan) : Prop where
  offset : scan.offset = text.length
  reading : scan.mode.Reading text
  written : ∀ literal ∈ scan.found, literal.WrittenIn text
  behind : ∀ literal ∈ scan.found, literal.stop ≤ scan.mode.tokenStart text.length
  apart : scan.found.Pairwise fun later earlier => earlier.stop ≤ later.start

/-- One character more, and the scanner still knows the text. -/
theorem Scan.Follows.step {scan : Scan} (follows : scan.Follows text) (c : Char) :
    (scan.step c).Follows (text ++ [c]) := by
  have turn := Mode.turn text.length c scan.mode
  have later := turn.tokenStart_le follows.reading
  have closes := turn.closes follows.reading
  have length : (text ++ [c]).length = text.length + 1 := List.length_append
  simp only [Scan.step, follows.offset]
  refine ⟨length.symm, turn.reading follows.reading, ?_, ?_, ?_⟩
  · intro literal membership
    rcases List.mem_append.1 membership with new | old
    · exact (closes literal (Option.mem_toList.1 new)).1
    · exact (follows.written literal old).append [c]
  · intro literal membership
    rw [length]
    rcases List.mem_append.1 membership with new | old
    · obtain ⟨-, -, stop, start⟩ := closes literal (Option.mem_toList.1 new)
      exact Nat.le_of_eq (stop.trans start.symm)
    · exact Nat.le_trans (follows.behind literal old) later
  · refine List.pairwise_append.2 ⟨?_, follows.apart, ?_⟩
    · cases (scan.mode.next text.length c).2 <;> simp
    · intro literal new earlier old
      obtain ⟨-, start, -⟩ := closes literal (Option.mem_toList.1 new)
      exact start ▸ follows.behind earlier old

theorem Scan.Follows.run {scan : Scan} (follows : scan.Follows text) (more : List Char) :
    (scan.run more).Follows (text ++ more) := by
  induction more generalizing scan text with
  | nil => rwa [List.append_nil]
  | cons c rest ih =>
      have read := ih (follows.step c)
      rwa [List.append_assoc] at read

/-- Whatever the source, the scanner knows it at the end. -/
theorem Scan.follows (source : List Char) : (Scan.run {} source).Follows source := by
  have begun : Scan.Follows [] {} := ⟨rfl, trivial, nofun, nofun, .nil⟩
  exact begun.run source

/-- Every literal of a source is a piece of it. -/
theorem written_of_mem_scan {source : List Char} {literal : Literal}
    (found : literal ∈ scan source) : literal.WrittenIn source :=
  (Scan.follows source).written literal (List.mem_reverse.1 found)

/-- Literals are in order and apart. -/
theorem pairwise_scan (source : List Char) :
    (scan source).Pairwise fun a b => a.stop ≤ b.start :=
  List.pairwise_reverse.2 (Scan.follows source).apart

/-! ## What a literal says of the source -/

/-- The delimiters of the literal stand in the source, and what stands between them is its
content, which reads as quoted characters that need no further backslash. -/
structure StandsIn (source : List Char) (literal : Literal) : Prop where
  opened : literal.start < literal.contentStart
  ordered : literal.contentStart ≤ literal.contentStop
  closed : literal.stop = literal.contentStop + 1
  within : literal.stop ≤ source.length
  opening : source.extract literal.start literal.contentStart =
    Lexeme.opening literal.multiline
  content : source.extract literal.contentStart literal.contentStop = literal.content
  quote : source[literal.contentStop]? = some '"'
  quoted : ∃ body, Quoted.read literal.content = some body ∧
    ∀ c, .plain c ∈ body → c ≠ '"' ∧ (literal.multiline = false → c ≠ '\n')

/-- The content of a literal stands in the source where the literal says. -/
theorem WrittenIn.content_standsAt {source : List Char} {literal : Literal}
    (written : literal.WrittenIn source) :
    StandsAt source literal.content literal.contentStart := by
  obtain ⟨piece, offset, place, same⟩ := written
  cases piece with
  | text multiline body avoid =>
      obtain rfl := Option.some.inj same
      exact place.trans (.of_append _ _ _)
  | _ => cases same

/-- The content of a literal stands between two quotes. -/
theorem WrittenIn.exists_quote {source : List Char} {literal : Literal}
    (written : literal.WrittenIn source) : ∃ quote, quote + 1 = literal.contentStart ∧
      StandsAt source ('"' :: (literal.content ++ ['"'])) quote := by
  obtain ⟨piece, offset, place, same⟩ := written
  cases piece with
  | text multiline body avoid =>
      obtain rfl := Option.some.inj same
      cases multiline with
      | false => exact ⟨offset, rfl, place⟩
      | true =>
          have behindMark : StandsAt (Lexeme.write (.text true body avoid))
              ('"' :: (Quoted.writeAll body ++ ['"'])) 1 :=
            ⟨['#'], [], by simp [Lexeme.write, Lexeme.opening], rfl⟩
          exact ⟨offset + 1, rfl, place.trans behindMark⟩
  | _ => cases same

/-- A literal that is a piece of the source has its quotes, its content and its escapes there.
-/
theorem WrittenIn.standsIn {source : List Char} {literal : Literal}
    (written : literal.WrittenIn source) : literal.StandsIn source := by
  have content := written.content_standsAt.extract_eq
  obtain ⟨piece, offset, place, same⟩ := written
  cases piece with
  | text multiline body avoid =>
      obtain rfl := Option.some.inj same
      have opens : 0 < (Lexeme.opening multiline).length := by cases multiline <;> decide
      have opening := place.trans (.of_append [] (Lexeme.opening multiline) _)
      have parts : Lexeme.write (.text multiline body avoid) =
          Lexeme.opening multiline ++ Quoted.writeAll body ++ ['"'] := by
        rw [Lexeme.write, List.append_assoc]
      rw [parts] at place
      have within : offset + (Lexeme.opening multiline).length + (Quoted.writeAll body).length + 1 ≤
          source.length := by
        have fits := place.length_le
        rwa [List.length_append, List.length_append, ← Nat.add_assoc, ← Nat.add_assoc] at fits
      have quote : source[offset + (Lexeme.opening multiline).length +
          (Quoted.writeAll body).length]? = some '"' := by
        rw [Nat.add_assoc, ← List.length_append, place.getElem?_eq (by simp),
          List.getElem?_concat_length]
      refine ⟨Nat.lt_add_of_pos_right opens, Nat.le_add_right _ _, rfl, within,
        opening.extract_eq, content, quote, body,
        Quoted.read_writeAll (backslash_mem_special multiline) avoid, ?_⟩
      intro c plain
      have allowed := avoid c plain
      cases multiline <;> simp_all [special]
  | _ => cases same

/-- Every literal that is found stands in the source. -/
theorem standsIn_of_mem_scan {source : List Char} {literal : Literal}
    (found : literal ∈ scan source) : literal.StandsIn source :=
  (written_of_mem_scan found).standsIn

/-- The literals of a source are in order and apart, and each stands in it from its opening
to its closing quote, whatever the rest of the source is. -/
theorem scan_standsIn (source : List Char) :
    ((scan source).Pairwise fun a b => a.stop ≤ b.start) ∧
      ∀ literal ∈ scan source, literal.StandsIn source :=
  ⟨pairwise_scan source, fun _ found => standsIn_of_mem_scan found⟩

/-- A literal that breaks off, a quote in a comment that is never ended by its first star,
an escaped quote behind an escaped backslash, and a literal over two lines that the source
leaves open. -/
theorem scan_standsIn_broken :
    let source := "\"a\\\"\n/* \"**/\"\\\\\\\"\"#\"b\n".toList
    let literal : Literal := ⟨12, 18, 13, 17, "\\\\\\\"".toList, false⟩
    literal ∈ scan source ∧ literal.StandsIn source := by
  intro source literal
  have found : literal ∈ scan source := by decide
  exact ⟨found, (scan_standsIn source).2 literal found⟩

/-! ## Reading on -/

/-- A literal is found at its closing quote. -/
theorem Mode.Turn.stop_eq {offset : Nat} (turn : Turn offset c mode next closed) :
    ∀ literal ∈ closed, literal.stop = offset + 1 := by
  cases turn with
  | close =>
      rintro _ ⟨⟩
      rfl
  | _ => nofun

/-- A text adds literals that end in it. -/
theorem Scan.found_run (scan : Scan) (more : List Char) :
    ∃ later, (scan.run more).found = later ++ scan.found ∧
      ∀ literal ∈ later, scan.offset < literal.stop := by
  induction more generalizing scan with
  | nil => exact ⟨[], rfl, nofun⟩
  | cons c rest ih =>
      obtain ⟨later, found, behind⟩ := ih (scan.step c)
      have stops := (Mode.turn scan.offset c scan.mode).stop_eq
      refine ⟨later ++ (scan.mode.next scan.offset c).2.toList, ?_, ?_⟩
      · rw [run_cons, found, List.append_assoc]
        rfl
      · intro literal membership
        rcases List.mem_append.1 membership with inRest | here
        · exact Nat.lt_of_succ_lt (behind literal inRest)
        · rw [stops literal (Option.mem_toList.1 here)]
          exact Nat.lt_succ_self _

/-- Reading on finds the same literals, and others that end in what is added. -/
theorem scan_append (source more : List Char) :
    ∃ later, scan (source ++ more) = scan source ++ later ∧
      ∀ literal ∈ later, source.length < literal.stop := by
  obtain ⟨later, found, behind⟩ := (Scan.run {} source).found_run more
  refine ⟨later.reverse, ?_, ?_⟩
  · rw [scan, Scan.run_append, found, List.reverse_append, ← scan]
  · intro literal membership
    rw [← (Scan.follows source).offset]
    exact behind literal (List.mem_reverse.1 membership)

/-- What is added to a source changes none of its literals: they are the first ones, and
those of all that end in the source. -/
theorem filter_scan_append (source more : List Char) :
    (scan (source ++ more)).filter (·.stop ≤ source.length) = scan source ∧
      scan source <+: scan (source ++ more) := by
  obtain ⟨later, joined, behind⟩ := scan_append source more
  have kept : (scan source).filter (·.stop ≤ source.length) = scan source := by
    rw [List.filter_eq_self]
    intro literal found
    exact decide_eq_true (standsIn_of_mem_scan found).within
  have dropped : later.filter (·.stop ≤ source.length) = [] := by
    rw [List.filter_eq_nil_iff]
    intro literal found
    simpa using behind literal found
  rw [joined, List.filter_append, kept, dropped, List.append_nil]
  exact ⟨rfl, List.prefix_append _ _⟩

end Literal

end Inlay
