import Inlay.Json.Value
import Inlay.Text.Blank
import Inlay.WordSet

/-!
# The vocabulary of the markup

Which tags and attributes are known, which tags never take a closing tag, which
closing tags may be left out, and which tags are deprecated in favour of what.
Tables for HTML are built in; configuration may replace each of them.  Look-ups
ignore the case of ASCII letters in the name looked up.
-/

namespace Inlay

/-- The tables of the markup language. -/
structure Catalog where
  tags : WordSet
  /-- Elements that never take a closing tag. -/
  voidTags : WordSet
  /-- Elements whose closing tag may be left out. -/
  optionalEndTags : WordSet
  attributes : WordSet
  /-- Deprecated tags and what to use instead, in increasing order of the tag. -/
  deprecatedTags : List (String × String)
  deriving Repr, DecidableEq

namespace Catalog

/-! ## The built-in tables -/

/-- Known tags of HTML, deprecated ones included. -/
def htmlTags : WordSet := .ofList [
  "a", "abbr", "address", "area", "article", "aside", "audio", "b", "base",
  "blockquote", "body", "br", "button", "canvas", "caption", "cite", "code",
  "col", "colgroup", "data", "dd", "del", "details", "dfn", "dialog", "div",
  "dl", "dt", "em", "embed", "fieldset", "figcaption", "figure", "footer",
  "form", "h1", "h2", "h3", "h4", "h5", "h6", "head", "header", "hr", "html",
  "i", "iframe", "img", "input", "ins", "kbd", "label", "legend", "li",
  "link", "main", "map", "mark", "meta", "nav", "noscript", "object", "ol",
  "optgroup", "option", "output", "p", "param", "picture", "pre", "progress",
  "q", "s", "samp", "script", "section", "select", "small", "source", "span",
  "strong", "style", "sub", "summary", "sup", "table", "tbody", "td",
  "template", "textarea", "tfoot", "th", "thead", "time", "title", "tr",
  "track", "u", "ul", "var", "video", "wbr",
  "acronym", "applet", "basefont", "big", "blink", "center", "dir", "font",
  "frame", "frameset", "marquee", "strike", "tt"]

/-- Elements of HTML that never take a closing tag. -/
def htmlVoidTags : WordSet := .ofList [
  "area", "base", "br", "col", "embed", "hr", "img", "input", "link", "meta",
  "param", "source", "track", "wbr", "basefont", "frame"]

/-- Elements of HTML whose closing tag may be left out. -/
def htmlOptionalEndTags : WordSet := .ofList [
  "li", "dt", "dd", "p", "tr", "td", "th", "option", "optgroup", "thead",
  "tbody", "tfoot", "colgroup"]

/-- Known attributes of HTML. -/
def htmlAttributes : WordSet := .ofList [
  "accept", "action", "align", "alt", "autocomplete", "bgcolor", "border",
  "checked", "class", "cols", "colspan", "content", "data", "disabled",
  "enctype", "for", "height", "href", "id", "lang", "method", "multiple",
  "name", "placeholder", "readonly", "rel", "required", "rows", "rowspan",
  "selected", "size", "src", "style", "tabindex", "target", "title", "type",
  "value", "width"]

/-- Deprecated tags of HTML. -/
def htmlDeprecatedTags : List (String × String) := [
  ("acronym", "abbr"),
  ("applet", "object"),
  ("basefont", "CSS font properties"),
  ("big", "CSS font-size"),
  ("blink", "CSS animations"),
  ("center", "CSS text-align"),
  ("dir", "ul"),
  ("font", "CSS font properties"),
  ("frame", "iframe"),
  ("frameset", "CSS layout"),
  ("marquee", "CSS animations"),
  ("strike", "del or s"),
  ("tt", "code or kbd")]

/-- The built-in catalog. -/
def html : Catalog where
  tags := htmlTags
  voidTags := htmlVoidTags
  optionalEndTags := htmlOptionalEndTags
  attributes := htmlAttributes
  deprecatedTags := htmlDeprecatedTags

/-! ## Look-ups -/

/-- Whether a tag is known. -/
def isKnownTag (catalog : Catalog) (name : String) : Bool :=
  catalog.tags.contains (Text.lowercase name)

/-- Whether an element never takes a closing tag. -/
def isVoid (catalog : Catalog) (name : String) : Bool :=
  catalog.voidTags.contains (Text.lowercase name)

/-- Whether an element's closing tag may be left out. -/
def hasOptionalEnd (catalog : Catalog) (name : String) : Bool :=
  catalog.optionalEndTags.contains (Text.lowercase name)

/-- Beginnings that make any attribute name a known one. -/
def openFamilies : List String := ["data-", "aria-"]

/-- Whether an attribute is known. -/
def isKnownAttribute (catalog : Catalog) (name : String) : Bool :=
  let name := Text.lowercase name
  catalog.attributes.contains name || openFamilies.any fun family => name.startsWith family

/-- What to use instead of a deprecated tag. -/
def deprecation? (catalog : Catalog) (name : String) : Option String :=
  catalog.deprecatedTags.lookup (Text.lowercase name)

/-! ## Reading and writing -/

/-- The settings of a catalog, in the order of their positions. -/
def fieldNames : List String :=
  ["tags", "voidTags", "optionalEndTags", "attributes", "deprecatedTags"]

/-- A set of words written as an array. -/
def wordSet? (value : Json) : Option WordSet := value.texts?.map WordSet.ofList

/-- A table from words to texts, written as an object. -/
def wordTable? : Json → Option (List (String × String))
  | .obj members => members.mapM fun member => member.2.text?.map fun text => (member.1, text)
  | _ => none

/-- Decodes a catalog; a setting that is missing keeps its built-in table. -/
def ofJson? (value : Json) : Option Catalog := do
  let field ← value.record? fieldNames
  some {
    tags := ← Json.optional (field "tags") htmlTags wordSet?
    voidTags := ← Json.optional (field "voidTags") htmlVoidTags wordSet?
    optionalEndTags := ← Json.optional (field "optionalEndTags") htmlOptionalEndTags wordSet?
    attributes := ← Json.optional (field "attributes") htmlAttributes wordSet?
    deprecatedTags := ← Json.optional (field "deprecatedTags") htmlDeprecatedTags wordTable? }

/-- Encodes a catalog. -/
def toJson (catalog : Catalog) : Json :=
  let words (set : WordSet) := Json.list Json.str set.words
  Json.ofMembers [
    ("tags", words catalog.tags),
    ("voidTags", words catalog.voidTags),
    ("optionalEndTags", words catalog.optionalEndTags),
    ("attributes", words catalog.attributes),
    ("deprecatedTags",
      Json.ofMembers (catalog.deprecatedTags.map fun entry => (entry.1, .str entry.2)))]

end Catalog

end Inlay
