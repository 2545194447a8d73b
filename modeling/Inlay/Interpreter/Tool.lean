import Inlay.Interpreter.Basic
import Inlay.Text.Digits
import Inlay.Text.Utf8

/-!
# Line tools as interpreters

Small programs that read lines and write lines can be put in the place of an
interpreter to try out the wiring: one that echoes its input, one that
substitutes text in every line, one that only sleeps, and a shell that runs a
list of simple commands.  Every other program is absent.
-/

namespace Inlay

/-! ## Patterns -/

/-- One character of a pattern. -/
inductive Atom where
  | char (c : Char)
  | any
  | set (negated : Bool) (members : List (Char × Char))
  deriving Repr, DecidableEq

/-- Whether a character fits. -/
def Atom.fits (c : Char) : Atom → Bool
  | .char expected => c == expected
  | .any => true
  | .set negated members =>
      (members.any fun range => range.1 ≤ c && c ≤ range.2) != negated

/-- A character of a pattern, once or any number of times. -/
structure Piece where
  atom : Atom
  starred : Bool
  deriving Repr, DecidableEq

/-- A pattern. -/
structure Pattern where
  pieces : List Piece
  /-- Only at the start of the line. -/
  atStart : Bool
  /-- Only at the end of the line. -/
  atEnd : Bool
  deriving Repr, DecidableEq

namespace Pattern

/-- The length of the match at the start of a text; repetition takes as much as
it can. -/
def matchPieces (atEnd : Bool) : List Piece → List Char → Option Nat
  | [], chars => if atEnd && !chars.isEmpty then none else some 0
  | piece :: rest, chars =>
      if piece.starred then
        let run := (chars.takeWhile fun c => piece.atom.fits c).length
        (List.range (run + 1)).reverse.findSome? fun count =>
          (matchPieces atEnd rest (chars.drop count)).map (count + ·)
      else
        match chars with
        | [] => none
        | c :: chars =>
            if piece.atom.fits c then (matchPieces atEnd rest chars).map (1 + ·) else none

/-- The members of a bracketed set, up to the closing bracket. -/
def readSet (members : List (Char × Char)) : List Char → List (Char × Char) × List Char
  | [] => (members, [])
  | ']' :: rest => (members, rest)
  | low :: '-' :: high :: rest =>
      if high = ']' then ((low, low) :: ('-', '-') :: members, rest)
      else readSet ((low, high) :: members) rest
  | c :: rest => readSet ((c, c) :: members) rest

/-- Reads pieces; the first argument bounds their number. -/
def readPieces : Nat → List Char → List Piece × Bool
  | 0, _ => ([], false)
  | _ + 1, [] => ([], false)
  | _ + 1, ['$'] => ([], true)
  | bound + 1, chars =>
      let (atom, rest) :=
        match chars with
        | '\\' :: c :: rest => (Atom.char c, rest)
        | '.' :: rest => (Atom.any, rest)
        | '[' :: '^' :: rest =>
            let (members, rest) := readSet [] rest
            (Atom.set true members, rest)
        | '[' :: rest =>
            let (members, rest) := readSet [] rest
            (Atom.set false members, rest)
        | c :: rest => (Atom.char c, rest)
        | [] => (Atom.any, [])
      match rest with
      | '*' :: rest =>
          let (pieces, atEnd) := readPieces bound rest
          (⟨atom, true⟩ :: pieces, atEnd)
      | rest =>
          let (pieces, atEnd) := readPieces bound rest
          (⟨atom, false⟩ :: pieces, atEnd)

/-- Reads a pattern. -/
def parse (chars : List Char) : Pattern :=
  let (atStart, body) :=
    match chars with
    | '^' :: rest => (true, rest)
    | chars => (false, chars)
  let (pieces, atEnd) := readPieces (body.length + 1) body
  ⟨pieces, atStart, atEnd⟩

end Pattern

/-! ## Substitution -/

/-- A rule that replaces matches of a pattern. -/
structure Substitution where
  pattern : Pattern
  replacement : List Char
  /-- Whether every match is replaced, or only the first. -/
  everywhere : Bool
  deriving Repr, DecidableEq

namespace Substitution

/-- The replacement of a match, in which `&` stands for the match. -/
def fill (found : List Char) : List Char → List Char
  | '\\' :: 'n' :: rest => '\n' :: fill found rest
  | '\\' :: c :: rest => c :: fill found rest
  | '&' :: rest => found ++ fill found rest
  | c :: rest => c :: fill found rest
  | [] => []

/-- Replaces matches in a text; the next `skip` characters were part of one. -/
def applyFrom (rule : Substitution) (isStart : Bool) (skip : Nat) : List Char → List Char
  | [] =>
      if isStart && (rule.pattern.pieces.all Piece.starred) && skip = 0 then
        fill [] rule.replacement
      else []
  | c :: rest =>
      match skip with
      | left + 1 => applyFrom rule false left rest
      | 0 =>
          let found :=
            if rule.pattern.atStart && !isStart then none
            else Pattern.matchPieces rule.pattern.atEnd rule.pattern.pieces (c :: rest)
          match found with
          | some length =>
              let text := fill ((c :: rest).take length) rule.replacement
              if length = 0 then
                if rule.everywhere then text ++ c :: applyFrom rule false 0 rest
                else text ++ c :: rest
              else if rule.everywhere then text ++ applyFrom rule false (length - 1) rest
              else text ++ (c :: rest).drop length
          | none => c :: applyFrom rule false 0 rest

/-- Applies the rule to a line. -/
def apply (rule : Substitution) (line : List Char) : List Char := rule.applyFrom true 0 line

/-- Splits off what stands before an unescaped mark; an escaped mark loses its
backslash. -/
def splitAtMark (mark : Char) : List Char → List Char × List Char
  | [] => ([], [])
  | '\\' :: c :: rest =>
      let (before, after) := splitAtMark mark rest
      (if c = mark then c :: before else '\\' :: c :: before, after)
  | c :: rest =>
      if c = mark then ([], rest)
      else
        let (before, after) := splitAtMark mark rest
        (c :: before, after)

/-- Reads rules separated by semicolons; the first argument bounds their
number. -/
def parseAll : Nat → List Char → List Substitution
  | 0, _ => []
  | bound + 1, chars =>
      match chars.dropWhile fun c => c == ';' || c == ' ' || c == '\n' with
      | 's' :: mark :: rest =>
          let (pattern, rest) := splitAtMark mark rest
          let (replacement, rest) := splitAtMark mark rest
          let flags := rest.takeWhile fun c => c != ';' && c != '\n'
          ⟨.parse pattern, replacement, flags.contains 'g'⟩
            :: parseAll bound (rest.drop flags.length)
      | _ => []

end Substitution

/-! ## Tools -/

/-- A simple command of a shell. -/
inductive ShellCommand where
  /-- Waits for a line of input. -/
  | read
  | exit
  | sleep (ms : Nat)
  | print (text : String)
  /-- Echoes all input from here on. -/
  | echoInput
  deriving Repr, DecidableEq

/-- A program of the host system. -/
inductive Tool where
  | echo
  | substitute (rules : List Substitution)
  | sleeper (ms : Nat)
  | shell (commands : List ShellCommand)
  | missing
  deriving Repr, DecidableEq

namespace Tool

/-- A number of seconds, possibly with a fraction, in milliseconds. -/
def milliseconds (text : String) : Nat :=
  let chars := text.toList
  let whole := chars.takeWhile Char.isDigit
  let places := ((chars.drop (whole.length + 1)).takeWhile Char.isDigit ++ ['0', '0', '0']).take 3
  Text.digitsValue whole * 1000 + Text.digitsValue places

/-- A text without the quotes around it. -/
def unquote (text : String) : String :=
  match text.toList with
  | first :: rest =>
      if (first == '\'' || first == '"') && rest.getLast? == some first then
        String.ofList rest.dropLast
      else text
  | [] => text

/-- Reads one command of a shell. -/
def command? (text : String) : Option ShellCommand :=
  match (text.splitOn " ").filter fun word => !word.isEmpty with
  | "read" :: _ => some .read
  | "exit" :: _ => some .exit
  | ["cat"] => some .echoInput
  | "sleep" :: time :: _ => some (.sleep (milliseconds time))
  | "echo" :: words => some (.print (unquote (" ".intercalate words)))
  | _ => none

/-- The tool that a command line starts. -/
def ofCommand (program : String) (args : List String) : Tool :=
  match (program.splitOn "/").getLast?, args with
  | some "cat", _ => .echo
  | some "sed", args =>
      .substitute ((args.filter fun arg => !arg.startsWith "-").flatMap fun script =>
        Substitution.parseAll (script.length + 1) script.toList)
  | some "sleep", time :: _ => .sleeper (milliseconds time)
  | some "sh", ["-c", script] => .shell ((script.splitOn ";").filterMap command?)
  | _, _ => .missing

/-- Programs are found by name or in the usual directories. -/
def isInstalled (program : String) : Bool :=
  ["cat", "sed", "sleep", "sh"].any fun name =>
    program == name || program == "/bin/" ++ name || program == "/usr/bin/" ++ name

/-- Runs a shell up to the next command that waits for input; returns the
commands left. -/
def runShell (waited : Nat) : List ShellCommand → List ShellCommand × List Delayed
  | [] => ([], [⟨waited, .exit⟩])
  | .exit :: _ => ([], [⟨waited, .exit⟩])
  | .read :: rest => (.read :: rest, [])
  | .echoInput :: rest => (.echoInput :: rest, [])
  | .sleep ms :: rest => runShell (waited + ms) rest
  | .print text :: rest =>
      let (left, effects) := runShell waited rest
      (left, ⟨waited, .output (Text.encode (text ++ "\n"))⟩ :: effects)

/-- How the operating system describes a program that does not exist. -/
def missingFile : String := "No such file or directory (os error 2)"

/-- The interpreter that a command line starts.  Its state is what a shell has
left to do. -/
def interpreter (description program : String) (args : List String) :
    Interpreter (List ShellCommand) where
  description := description
  start _ :=
    match if isInstalled program then ofCommand program args else .missing with
    | .missing => ([], .error missingFile)
    | .sleeper ms => ([], .ok [⟨ms, .exit⟩])
    | .shell commands =>
        let (left, effects) := runShell 0 commands
        (left, .ok effects)
    | .echo | .substitute _ => ([], .ok [])
  receive left line :=
    match ofCommand program args with
    | .echo => (left, [⟨0, .output (Text.encode line)⟩])
    | .substitute rules =>
        let content := line.toList.filter (· != '\n')
        let changed := rules.foldl (fun text rule => rule.apply text) content
        (left, [⟨0, .output (Text.encode (String.ofList changed ++ "\n"))⟩])
    | .shell _ =>
        match left with
        | .read :: rest => runShell 0 rest
        | .echoInput :: rest => (.echoInput :: rest, [⟨0, .output (Text.encode line)⟩])
        | other => (other, [])
    | .sleeper _ | .missing => (left, [])

end Tool

end Inlay
