import Inlay.Location
import Inlay.Position
import Inlay.Uri.Basic

/-!
# URIs and files

The interpreter works on files, the editor on URIs.  A path is a list of bytes,
since file names need not be text.
-/

namespace Inlay

/-- A file path. -/
abbrev FilePath := List UInt8

namespace FilePath

/-- The byte that separates the parts of a path. -/
def slash : UInt8 := 0x2F

/-- The byte of a dot. -/
def dot : UInt8 := 0x2E

/-- Whether a path starts at the root. -/
def isAbsolute (path : FilePath) : Bool := path.head? == some slash

/-- The pieces of a path between separators. -/
def pieces : List UInt8 → List (List UInt8)
  | [] => [[]]
  | byte :: rest =>
      if byte == slash then [] :: pieces rest
      else
        match pieces rest with
        | [] => [[byte]]
        | piece :: others => (byte :: piece) :: others

/-- The parts of an absolute path: empty pieces and single dots do not count,
double dots do. -/
def parts (path : FilePath) : List (List UInt8) :=
  (pieces path).filter fun piece => !piece.isEmpty && piece != [dot]

/-- The absolute path with the given parts. -/
def ofParts (parts : List (List UInt8)) : FilePath :=
  if parts.isEmpty then [slash] else parts.flatMap fun part => slash :: part

/-- The directory that holds the file at an absolute path; the root has none. -/
def parent? (path : FilePath) : Option FilePath :=
  if (parts path).isEmpty then none else some (ofParts (parts path).dropLast)

/-- A path taken relative to a directory, unless it is absolute. -/
def join (directory path : FilePath) : FilePath :=
  if path.isAbsolute then path else directory ++ slash :: path

end FilePath

namespace Uri

/-- The URI of an absolute path. -/
def ofFilePath? (path : FilePath) : Option Uri :=
  if path.isAbsolute then
    let segments := path.parts.map fun part =>
      String.ofList (percentEncodeBytes encodedInFileName part)
    some {
      scheme := "file"
      authority := some {}
      path := if segments.isEmpty then "/" else String.join (segments.map ("/" ++ ·)) }
  else none

/-- Whether a URI names no host, or the local one. -/
def isLocal (uri : Uri) : Bool :=
  match uri.authority with
  | none => true
  | some authority => authority.host.isEmpty || authority.host == "localhost"

/-- A drive name at the end of a path is followed by a separator. -/
def closeDrive (path : FilePath) : FilePath :=
  match path.reverse with
  | mark :: letter :: _ :: _ =>
      if (mark == 0x3A || mark == 0x7C) && (Char.ofNat letter.toNat).isAlpha then
        path ++ [FilePath.slash]
      else path
  | _ => path

/-- The file path a URI names, if it has segments and no foreign host. -/
def toFilePath? (uri : Uri) : Option FilePath := do
  let segments ← uri.segments?
  if uri.isLocal then
    some (closeDrive (segments.flatMap fun segment =>
      FilePath.slash :: percentDecode (String.ofList segment)))
  else none

/-- The path handed to the interpreter for a document: its file path, or the URI
itself when it names no file. -/
def documentPath (uri : Uri) : String :=
  match uri.toFilePath? with
  | some path => Text.decodeLossy path
  | none => uri.render

end Uri

/-- The document a place lies in, seen from the document that asked.  An empty
path means that document; a path with a scheme of more than one letter is a URI;
a relative path is taken from the directory of the document that asked. -/
def Location.uri? (location : Location) (origin : Uri) : Option Uri :=
  if location.path.isEmpty then some origin
  else
    match (Uri.parse? location.path).filter fun uri => 1 < uri.scheme.length with
    | some uri => some uri
    | none =>
        let path : FilePath := Text.encode location.path
        if path.isAbsolute then Uri.ofFilePath? path
        else do
          let directory ← FilePath.parent? (← origin.toFilePath?)
          Uri.ofFilePath? (directory.join path)

/-- The empty range at the start of the place's line. -/
def Location.range (location : Location) : Range :=
  ⟨⟨location.line, 0⟩, ⟨location.line, 0⟩⟩

end Inlay
