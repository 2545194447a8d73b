import Inlay.Json.Value
import Inlay.Text.Letter
import Inlay.WordSet

/-!
# Tokens

The interpreter's tokenizer reports the text of each token and the line it
stands on, counted from one.  It may classify a token; otherwise the class is
found here from the configured keywords and the shape of the text.
-/

namespace Inlay

/-- The class of a token. -/
inductive TokenKind where
  | identifier
  | keyword
  | other
  deriving Repr, DecidableEq

namespace TokenKind

/-- The name of a class on the wire. -/
def name : TokenKind → String
  | .identifier => "identifier"
  | .keyword => "keyword"
  | .other => "other"

/-- The class of a name. -/
def ofName? (name : String) : Option TokenKind :=
  [TokenKind.identifier, .keyword, .other].find? fun kind => kind.name = name

end TokenKind

/-- A token. -/
structure Token where
  text : String
  /-- The line it stands on, counted from one. -/
  line : Nat
  kind : TokenKind
  deriving Repr, DecidableEq

namespace Token

/-- The line counted from zero. -/
def lineIndex (token : Token) : Nat := token.line - 1

/-- Whether the token is an identifier. -/
def isIdentifier (token : Token) : Bool := token.kind = .identifier

/-- The number of characters. -/
def width (token : Token) : Nat := token.text.length

end Token

/-- A token as the interpreter reports it. -/
structure RawToken where
  text : String
  line : Nat
  kind : Option TokenKind := none
  deriving Repr, DecidableEq

/-- Decodes a reported token. -/
def RawToken.ofJson? (value : Json) : Option RawToken := do
  let field ← value.record? ["text", "line", "kind"]
  let text ← Json.required (field "text") Json.text?
  let line ← Json.required (field "line") Json.nat32?
  let kind ← Json.optional (field "kind") none
    (Json.nullable fun kind => kind.choice?.bind TokenKind.ofName?)
  some { text, line, kind }

/-! ## Keywords -/

/-- The keywords of the host language. -/
abbrev Keywords := WordSet

namespace Keywords

/-- The keywords used when none are configured. -/
def standard : Keywords := .ofList [
  "array", "auto", "break", "case", "catch", "class", "constant", "continue",
  "default", "do", "else", "enum", "extern", "final", "float", "for",
  "foreach", "function", "gauge", "global", "if", "import", "inherit",
  "inline", "int", "lambda", "local", "mapping", "mixed", "multiset",
  "object", "optional", "predef", "private", "program", "protected",
  "public", "return", "sscanf", "static", "string", "switch", "typedef",
  "typeof", "variant", "void", "while", "zero"]

end Keywords

/-- An identifier starts with a letter or an underscore and goes on with
letters, numbers and underscores. -/
def isIdentifierText (text : String) : Bool :=
  match text.toList with
  | [] => false
  | first :: rest =>
      (Text.isAlphabetic first || first == '_')
        && rest.all fun c => Text.isAlphanumeric c || c == '_'

/-- The class of a token's text: keywords first, then identifiers. -/
def Keywords.classify (keywords : Keywords) (text : String) : TokenKind :=
  if keywords.contains text then .keyword
  else if isIdentifierText text then .identifier
  else .other

/-- A reported token with its class settled and its line at least one. -/
def Keywords.token (keywords : Keywords) (raw : RawToken) : Token :=
  { text := raw.text
    line := max raw.line 1
    kind := raw.kind.getD (keywords.classify raw.text) }

end Inlay
