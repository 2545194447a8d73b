import Inlay.Uri.Percent

/-!
# Paths of URIs

A path is read segment by segment.  A segment of one dot is left out, and one of
two dots takes the segment before it away.  In the path of a file a first segment
that names a drive, a letter and a colon or a bar, is written with a colon.

Tabs and line ends are ignored in a URI.  What stands before one is written out at
once, and a drive that has been written out is closed by a slash before the next
character of its segment.
-/

namespace Inlay.Uri

/-- Characters that are ignored wherever they stand. -/
def isIgnored (c : Char) : Bool := c == '\t' || c == '\n' || c == '\r'

/-- The first character that is not ignored, and what follows it. -/
def next? : List Char → Option (Char × List Char)
  | [] => none
  | c :: rest => if isIgnored c then next? rest else some (c, rest)

/-! ## Segments -/

/-- A segment that stands for the place itself. -/
def isSingleDot (segment : List Char) : Bool :=
  [".", "%2e"].contains (String.ofList (segment.map Char.toLower))

/-- A segment that stands for the place above. -/
def isDoubleDot (segment : List Char) : Bool :=
  ["..", ".%2e", "%2e.", "%2e%2e"].contains (String.ofList (segment.map Char.toLower))

/-- A letter followed by a colon or a bar: the name of a drive. -/
def isDrive (segment : List Char) : Bool :=
  match segment with
  | [letter, mark] => letter.isAlpha && (mark == ':' || mark == '|')
  | _ => false

/-- The name of a drive with a colon. -/
def isSettledDrive (segment : List Char) : Bool :=
  isDrive segment && segment.getLast? == some ':'

/-- Whether a text starts with the name of a drive, which ends there or with its
segment. -/
def startsWithDrive (chars : List Char) : Bool :=
  isDrive (chars.take 2)
    && ((chars[2]?.map fun c => ['/', '\\', '?', '#'].contains c).getD true)

/-- Which rules a path follows. -/
structure PathRules where
  /-- Drives are recognised. -/
  isFile : Bool
  /-- A backslash counts as a slash. -/
  isSpecial : Bool
  deriving Repr, DecidableEq

/-- Whether a character ends a segment. -/
def PathRules.isSlash (rules : PathRules) (c : Char) : Bool :=
  c == '/' || (rules.isSpecial && c == '\\')

/-! ## Taking segments away -/

/-- The length of a text up to its last slash, that slash included. -/
def lengthToSlash (chars : List Char) : Nat :=
  chars.length - (chars.reverse.takeWhile (· != '/')).length

/-- Whether the slash that ends a path belongs to a segment that can be taken
away: neither the first slash nor the one after a drive does. -/
def canDropSlash (path : List Char) : Bool :=
  let before := lengthToSlash path.dropLast
  path.getLast? == some '/' && before != 0 && !startsWithDrive (path.drop before)

/-- The path without what follows its last slash; in the path of a file a drive
stays. -/
def dropSegment (rules : PathRules) (path : List Char) : List Char :=
  let start := lengthToSlash path
  if rules.isFile && isSettledDrive (path.drop start) then path else path.take start

/-- The path above the one that ends with a slash. -/
def placeAbove (rules : PathRules) (path : List Char) : List Char :=
  dropSegment rules (if canDropSlash path then path.dropLast else path)

/-- The path with a slash at its end. -/
def withSlash (path : List Char) : List Char :=
  if path.getLast? == some '/' then path else path ++ ['/']

/-! ## Reading -/

/-- A path that is being read. -/
structure PathDraft where
  /-- The path so far. -/
  text : List Char
  /-- Where the current segment starts. -/
  start : Nat := text.length
  /-- Characters of the segment that are still to be written. -/
  pending : List Char := []
  /-- Whether the path starts with a drive. -/
  hasDrive : Bool := false
  deriving Repr, DecidableEq

namespace PathDraft

/-- Writes the pending characters. -/
def flush (draft : PathDraft) : PathDraft :=
  { draft with text := draft.text ++ percentEncode encodedInPath draft.pending, pending := [] }

/-- Takes a character of the segment. -/
def push (rules : PathRules) (draft : PathDraft) (c : Char) : PathDraft :=
  if rules.isFile && isSettledDrive (draft.text.drop 1) then
    let draft := draft.flush
    { draft with text := draft.text ++ ['/'], start := draft.start + 1, pending := [c] }
  else { draft with pending := draft.pending ++ [c] }

/-- Ends the segment; `slash` is what ends it. -/
def endSegment (rules : PathRules) (slash : List Char) (draft : PathDraft) : PathDraft :=
  let draft := draft.flush
  let segment := draft.text.drop draft.start
  let before := draft.text.take draft.start
  if isDoubleDot segment then
    let above := placeAbove rules before
    { draft with text := if slash.isEmpty then above else withSlash above }
  else if isSingleDot segment then { draft with text := withSlash before }
  else if rules.isFile && draft.start == 1 && isDrive segment then
    { draft with text := before ++ segment.take 1 ++ ':' :: slash, hasDrive := true }
  else { draft with text := draft.text ++ slash }

/-- Ends the segment with a slash and starts the next one. -/
def nextSegment (rules : PathRules) (draft : PathDraft) : PathDraft :=
  let draft := draft.endSegment rules ['/']
  { draft with start := draft.text.length }

/-- Reads a path up to a query or a fragment. -/
def read (rules : PathRules) (draft : PathDraft) : List Char → PathDraft × List Char
  | [] => (draft.endSegment rules [], [])
  | c :: rest =>
      if isIgnored c then read rules draft.flush rest
      else if rules.isSlash c then read rules (draft.nextSegment rules) rest
      else if c == '?' || c == '#' then (draft.endSegment rules [], c :: rest)
      else read rules (draft.push rules c) rest

/-- The path that was read; that of a file starts with one slash. -/
def path (rules : PathRules) (draft : PathDraft) : String :=
  if rules.isFile then String.ofList ('/' :: draft.text.dropWhile (· == '/'))
  else String.ofList draft.text

end PathDraft

/-- A path, whether it starts with a drive, and what follows it. -/
structure PathRead where
  path : String
  hasDrive : Bool
  rest : List Char
  deriving Repr, DecidableEq

/-- Reads the path that goes on after an opening. -/
def readPath (rules : PathRules) (opening chars : List Char) : PathRead :=
  let (draft, rest) := PathDraft.read rules { text := opening } chars
  { path := draft.path rules, hasDrive := draft.hasDrive, rest }

/-- Reads a path that is never empty: its first slash may be left out. -/
def readRooted (rules : PathRules) (chars : List Char) : PathRead :=
  match next? chars with
  | some (c, rest) => readPath rules ['/'] (if rules.isSlash c then rest else chars)
  | none => readPath rules ['/'] []

/-- Reads a path that may be empty. -/
def readOptional (rules : PathRules) (chars : List Char) : PathRead :=
  match next? chars with
  | some (c, _) =>
      readPath rules (if c == '/' || c == '?' || c == '#' then [] else ['/']) chars
  | none => readPath rules [] []

end Inlay.Uri
