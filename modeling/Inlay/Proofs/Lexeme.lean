import Inlay.Literal
import Mathlib.Data.List.Infix

/-!
# The lexical grammar of the host language

A `Lexeme` is a piece of source that the scanner has to tell apart: a comment of either
form, a character literal, a string literal of either form, or a single other character.
`Lexeme.write` writes it down and `Lexeme.literalAt` says which string literal that is.

Two pieces written side by side can read as something else: a `/` in front of `/` or `*`
begins a comment, and a `#` in front of a quote begins a literal that spans lines.
`Lexeme.Separated` rules this out, and nothing else is asked of the order of the pieces.

The scanner finds exactly the string literals that were written.  It looks at one
character at a time, so after a `/` or a `#` it waits for the next character before it
knows what it has read; `Mode.Rests` says that what follows lets it go on as between
tokens.  Each piece takes the scanner from one such mode to another.
-/

namespace Inlay

/-! ## Pieces of source -/

/-- A character between quotes, as it is or behind a backslash. -/
inductive Quoted where
  | plain (c : Char)
  | escaped (c : Char)
  deriving Repr, DecidableEq

namespace Quoted

/-- The text of a quoted character. -/
def write : Quoted → List Char
  | .plain c => [c]
  | .escaped c => ['\\', c]

/-- The text between the quotes. -/
def writeAll (body : List Quoted) : List Char := body.flatMap write

/-- No character but those behind a backslash is one of the given ones. -/
def Avoid (special : List Char) (body : List Quoted) : Prop :=
  ∀ c, .plain c ∈ body → c ∉ special

theorem Avoid.tail {special : List Char} {piece : Quoted} {body : List Quoted}
    (avoid : Avoid special (piece :: body)) : Avoid special body :=
  fun c membership => avoid c (.tail _ membership)

end Quoted

/-- What may not stand in a string literal without a backslash. -/
def Literal.special (multiline : Bool) : List Char :=
  if multiline then ['"', '\\'] else ['"', '\\', '\n']

/-- A piece of source. -/
inductive Lexeme where
  | lineComment (body : List Char) (oneLine : '\n' ∉ body)
  | blockComment (body : List Char) (unended : ¬['*', '/'] <:+: body)
  | charLiteral (body : List Quoted) (avoid : Quoted.Avoid ['\'', '\\', '\n'] body)
  | text (multiline : Bool) (body : List Quoted)
      (avoid : Quoted.Avoid (Literal.special multiline) body)
  | other (c : Char) (unquoted : c ≠ '\'' ∧ c ≠ '"')

namespace Lexeme

/-- What a string literal starts with. -/
def opening (multiline : Bool) : List Char := if multiline then ['#', '"'] else ['"']

/-- The text of a piece. -/
def write : Lexeme → List Char
  | .lineComment body _ => '/' :: '/' :: (body ++ ['\n'])
  | .blockComment body _ => '/' :: '*' :: (body ++ ['*', '/'])
  | .charLiteral body _ => '\'' :: (Quoted.writeAll body ++ ['\''])
  | .text multiline body _ => opening multiline ++ (Quoted.writeAll body ++ ['"'])
  | .other c _ => [c]

/-- The text of a source. -/
def writeAll (source : List Lexeme) : List Char := source.flatMap write

/-- A character can be told from what begins with it when this text follows. -/
def Alone (c : Char) (following : List Char) : Prop :=
  (c = '/' → following.head? ≠ some '/' ∧ following.head? ≠ some '*') ∧
    (c = '#' → following.head? ≠ some '"')

/-- No character of the source begins a comment or a literal with what follows it. -/
def Separated : List Lexeme → Prop
  | [] => True
  | .other c _ :: rest => Alone c (writeAll rest) ∧ Separated rest
  | _ :: rest => Separated rest

/-- The string literal that a piece is when its text starts at an offset. -/
def literalAt (offset : Nat) : Lexeme → Option Literal
  | .text multiline body _ =>
      let contentStart := offset + (opening multiline).length
      let contentStop := contentStart + (Quoted.writeAll body).length
      some ⟨offset, contentStop + 1, contentStart, contentStop, Quoted.writeAll body, multiline⟩
  | _ => none

/-- The string literals of a source whose text starts at an offset. -/
def literals (offset : Nat) : List Lexeme → List Literal
  | [] => []
  | piece :: rest => (piece.literalAt offset).toList ++ literals (offset + piece.write.length) rest

theorem Separated.tail {piece : Lexeme} {rest : List Lexeme}
    (separated : Separated (piece :: rest)) : Separated rest := by
  cases piece with
  | other c unquoted => exact separated.2
  | _ => exact separated

end Lexeme

/-! ## Reading the inside of a piece -/

namespace Literal

/-- The scanner goes on as between tokens when the text follows. -/
def Mode.Rests (following : List Char) : Mode → Prop
  | .code => True
  | .slash => following.head? ≠ some '/' ∧ following.head? ≠ some '*'
  | .hash => following.head? ≠ some '"'
  | _ => False

theorem Mode.Rests.next {mode : Mode} {c : Char} {following : List Char}
    (rests : mode.Rests (c :: following)) (offset : Nat) :
    mode.next offset c = (.afterCode offset c, none) := by
  cases mode with
  | code => rfl
  | slash =>
      obtain ⟨notSlash, notStar⟩ := rests
      simp only [List.head?_cons, ne_eq, Option.some.injEq] at notSlash notStar
      simp only [Mode.next, if_neg notSlash, if_neg notStar]
  | hash =>
      have notQuote : c ≠ '"' := by simpa [Rests] using rests
      simp only [Mode.next, if_neg notQuote]
  | _ => cases rests

variable (offset : Nat) (found : List Literal)

theorem Scan.run_cons (scan : Scan) (c : Char) (rest : List Char) :
    scan.run (c :: rest) = (scan.step c).run rest := rfl

/-- The first character of a piece is read as between tokens. -/
theorem Scan.run_cons_of_rests {mode : Mode} {c : Char} {following : List Char}
    (rests : mode.Rests (c :: following)) (rest : List Char) :
    Scan.run ⟨mode, offset, found⟩ (c :: rest) =
      Scan.run ⟨.afterCode offset c, offset + 1, found⟩ rest := by
  rw [run_cons, step, rests.next]
  rfl

theorem Scan.run_lineComment {body : List Char} (oneLine : '\n' ∉ body) :
    Scan.run ⟨.lineComment, offset, found⟩ body =
      ⟨.lineComment, offset + body.length, found⟩ := by
  induction body generalizing offset with
  | nil => rfl
  | cons c rest ih =>
      obtain ⟨notBreak, restOneLine⟩ := List.ne_and_not_mem_of_not_mem_cons oneLine
      have step : Scan.step ⟨.lineComment, offset, found⟩ c =
          ⟨.lineComment, offset + 1, found⟩ := by
        simp [Scan.step, Mode.next, notBreak.symm]
      rw [run_cons, step, ih _ restOneLine, List.length_cons, Nat.add_right_comm, Nat.add_assoc]

/-- A comment ends at the first `*/` behind its body: where the scanner stands past a star,
no slash of the body follows. -/
theorem Scan.run_blockComment {body : List Char} {mode : Mode} (unended : ¬['*', '/'] <:+: body)
    (inside : mode = .blockComment ∨ mode = .blockStar ∧ body.head? ≠ some '/') :
    Scan.run ⟨mode, offset, found⟩ (body ++ ['*', '/']) =
      ⟨.code, offset + (body ++ ['*', '/']).length, found⟩ := by
  induction body generalizing offset mode with
  | nil => rcases inside with rfl | ⟨rfl, -⟩ <;> rfl
  | cons c rest ih =>
      have restOpen : ¬['*', '/'] <:+: rest := fun within => unended (within.trans
        (List.suffix_cons c rest).isInfix)
      have step : ∃ next : Mode, Scan.step ⟨mode, offset, found⟩ c = ⟨next, offset + 1, found⟩ ∧
          (next = .blockComment ∨ next = .blockStar ∧ rest.head? ≠ some '/') := by
        by_cases star : c = '*'
        · -- A slash behind the star would end the comment within its body.
          refine ⟨.blockStar, ?_, .inr ⟨rfl, fun slash => unended ?_⟩⟩
          · rcases inside with rfl | ⟨rfl, -⟩ <;> simp [Scan.step, Mode.next, star]
          · obtain ⟨tail, rfl⟩ := List.head?_eq_some_iff.1 slash
            exact star ▸ (List.prefix_append ['*', '/'] tail).isInfix
        · refine ⟨.blockComment, ?_, .inl rfl⟩
          rcases inside with rfl | ⟨rfl, notSlash⟩
          · simp [Scan.step, Mode.next, star]
          · have plain : c ≠ '/' := by simpa using notSlash
            simp [Scan.step, Mode.next, star, plain]
      obtain ⟨next, stepped, nextInside⟩ := step
      rw [List.cons_append, run_cons, stepped, ih _ restOpen nextInside, List.length_cons,
        Nat.add_right_comm, Nat.add_assoc]

theorem Scan.run_charLiteral {body : List Quoted} (avoid : Quoted.Avoid ['\'', '\\', '\n'] body) :
    Scan.run ⟨.charLiteral, offset, found⟩ (Quoted.writeAll body) =
      ⟨.charLiteral, offset + (Quoted.writeAll body).length, found⟩ := by
  induction body generalizing offset with
  | nil => rfl
  | cons piece rest ih =>
      have step : Scan.run ⟨.charLiteral, offset, found⟩ piece.write =
          ⟨.charLiteral, offset + piece.write.length, found⟩ := by
        cases piece with
        | plain c =>
            have plain := avoid c (.head _)
            simp only [List.mem_cons, List.not_mem_nil, or_false, not_or] at plain
            simp [Scan.run, Scan.step, Mode.next, Quoted.write, plain]
        | escaped c => simp [Scan.run, Scan.step, Mode.next, Quoted.write]
      rw [Quoted.writeAll, List.flatMap_cons, run_append, step, ← Quoted.writeAll,
        ih _ avoid.tail, List.length_append, Nat.add_assoc]

/-- The opening with a text read behind it. -/
def Opening.pushAll (opening : Opening) (chars : List Char) : Opening :=
  { opening with read := chars.reverse ++ opening.read }

theorem Scan.run_text {body : List Quoted} (opening : Opening)
    (avoid : Quoted.Avoid (special opening.multiline) body) :
    Scan.run ⟨.text opening, offset, found⟩ (Quoted.writeAll body) =
      ⟨.text (opening.pushAll (Quoted.writeAll body)),
        offset + (Quoted.writeAll body).length, found⟩ := by
  induction body generalizing offset opening with
  | nil => rfl
  | cons piece rest ih =>
      have step : Scan.run ⟨.text opening, offset, found⟩ piece.write =
          ⟨.text (opening.pushAll piece.write), offset + piece.write.length, found⟩ := by
        cases piece with
        | plain c =>
            have plain := avoid c (.head _)
            have notBackslash : c ≠ '\\' := by
              rintro rfl
              exact plain (by unfold special; split <;> simp)
            have notQuote : c ≠ '"' := by
              rintro rfl
              exact plain (by unfold special; split <;> simp)
            have notBreak : ¬(c = '\n' ∧ ¬opening.multiline = true) := by
              rintro ⟨rfl, single⟩
              exact plain (by simp [special, single])
            simp only [Quoted.write, Scan.run, List.foldl_cons, List.foldl_nil, Scan.step,
              Mode.next, if_neg notBackslash, if_neg notQuote, if_neg notBreak]
            rfl
        | escaped c => rfl
      rw [Quoted.writeAll, List.flatMap_cons, run_append, step, ← Quoted.writeAll,
        ih _ (opening.pushAll piece.write) avoid.tail, List.length_append, Nat.add_assoc]
      simp [Opening.pushAll]

/-! ## Reading a piece -/

/-- Reading a piece finds the literal it is and leaves the scanner between tokens. -/
theorem Scan.run_write (piece : Lexeme) {mode : Mode} {rest : List Char}
    (rests : mode.Rests (piece.write ++ rest))
    (alone : ∀ c unquoted, piece = .other c unquoted → Lexeme.Alone c rest) :
    ∃ next : Mode, next.Rests rest ∧
      Scan.run ⟨mode, offset, found⟩ piece.write =
        ⟨next, offset + piece.write.length, (piece.literalAt offset).toList ++ found⟩ := by
  cases piece with
  | lineComment body oneLine =>
      refine ⟨.code, trivial, ?_⟩
      have opened : Scan.run ⟨mode, offset, found⟩ ['/', '/'] =
          ⟨.lineComment, offset + 2, found⟩ := run_cons_of_rests offset found rests ['/']
      have split : Lexeme.write (.lineComment body oneLine) = ['/', '/'] ++ body ++ ['\n'] := rfl
      rw [split, List.length_append, List.length_append, ← Nat.add_assoc, ← Nat.add_assoc,
        run_append, run_append, opened, run_lineComment _ _ oneLine]
      rfl
  | blockComment body unended =>
      refine ⟨.code, trivial, ?_⟩
      have opened : Scan.run ⟨mode, offset, found⟩ ['/', '*'] =
          ⟨.blockComment, offset + 2, found⟩ := run_cons_of_rests offset found rests ['*']
      have split : Lexeme.write (.blockComment body unended) =
          ['/', '*'] ++ (body ++ ['*', '/']) := rfl
      rw [split, List.length_append, ← Nat.add_assoc, run_append, opened,
        run_blockComment _ _ unended (.inl rfl)]
      rfl
  | charLiteral body avoid =>
      refine ⟨.code, trivial, ?_⟩
      have opened : Scan.run ⟨mode, offset, found⟩ ['\''] =
          ⟨.charLiteral, offset + 1, found⟩ := run_cons_of_rests offset found rests []
      have split : Lexeme.write (.charLiteral body avoid) =
          ['\''] ++ Quoted.writeAll body ++ ['\''] := rfl
      rw [split, List.length_append, List.length_append, ← Nat.add_assoc, ← Nat.add_assoc,
        run_append, run_append, opened, run_charLiteral _ _ avoid]
      rfl
  | text multiline body avoid =>
      refine ⟨.code, trivial, ?_⟩
      have opened : Scan.run ⟨mode, offset, found⟩ (Lexeme.opening multiline) =
          ⟨.text ⟨offset, offset + (Lexeme.opening multiline).length, multiline, []⟩,
            offset + (Lexeme.opening multiline).length, found⟩ := by
        cases multiline with
        | true => exact run_cons_of_rests offset found rests ['"']
        | false => exact run_cons_of_rests offset found rests []
      have split : Lexeme.write (.text multiline body avoid) =
          Lexeme.opening multiline ++ Quoted.writeAll body ++ ['"'] := by
        rw [Lexeme.write, List.append_assoc]
      rw [split, List.length_append, List.length_append, ← Nat.add_assoc, ← Nat.add_assoc,
        run_append, run_append, opened, run_text _ _ _ avoid]
      simp [Scan.run, Scan.step, Mode.next, Lexeme.literalAt, Opening.pushAll, Opening.closeAt]
  | other c unquoted =>
      obtain ⟨slash, hash⟩ := alone c unquoted rfl
      refine ⟨.afterCode offset c, ?_, run_cons_of_rests offset found rests []⟩
      unfold Mode.afterCode
      split
      next isSlash => exact slash isSlash
      split
      next isHash => exact hash isHash
      rw [if_neg unquoted.1, if_neg unquoted.2]
      trivial

/-- Reading a source finds its literals. -/
theorem Scan.run_writeAll {source : List Lexeme} (separated : Lexeme.Separated source)
    {mode : Mode} (rests : mode.Rests (Lexeme.writeAll source)) :
    (Scan.run ⟨mode, offset, found⟩ (Lexeme.writeAll source)).found =
      (Lexeme.literals offset source).reverse ++ found := by
  induction source generalizing mode offset found with
  | nil => rfl
  | cons piece rest ih =>
      rw [Lexeme.writeAll, List.flatMap_cons, ← Lexeme.writeAll] at rests ⊢
      have alone : ∀ c unquoted, piece = .other c unquoted →
          Lexeme.Alone c (Lexeme.writeAll rest) := by
        rintro c unquoted rfl
        exact separated.1
      obtain ⟨next, nextRests, read⟩ := run_write offset found piece rests alone
      rw [run_append, read, ih _ _ separated.tail nextRests, Lexeme.literals,
        List.reverse_append, List.append_assoc]
      cases piece.literalAt offset <;> rfl

/-- The literals of a source are exactly its string literals, in order, with their offsets
and their contents as they were written. -/
theorem scan_writeAll (source : List Lexeme) (separated : Lexeme.Separated source) :
    scan (Lexeme.writeAll source) = Lexeme.literals 0 source := by
  have begun : Mode.Rests (Lexeme.writeAll source) .code := trivial
  rw [scan, Scan.run_writeAll 0 [] separated begun, List.append_nil, List.reverse_reverse]

/-- A quote in a character literal, a comment whose body is a slash, a comment opener and an
escaped quote in a literal, and a literal over two lines behind a `#` and in front of a
quote in a comment. -/
theorem scan_writeAll_mixed :
    scan "'\"'/*/*/\"//\\\"\"##\"a\n\"// \"\n".toList =
      [⟨8, 14, 9, 13, "//\\\"".toList, false⟩, ⟨15, 20, 17, 19, "a\n".toList, true⟩] := by
  let source : List Lexeme := [
    .charLiteral [.plain '"'] (by simp [Quoted.Avoid]),
    .blockComment ['/'] (by decide),
    .text false [.plain '/', .plain '/', .escaped '"'] (by simp [Quoted.Avoid, special]),
    .other '#' (by decide),
    .text true [.plain 'a', .plain '\n'] (by simp [Quoted.Avoid, special]),
    .lineComment [' ', '"'] (by decide)]
  have separated : Lexeme.Separated source :=
    ⟨⟨by decide, by decide⟩, trivial⟩
  exact scan_writeAll source separated

end Literal

end Inlay
