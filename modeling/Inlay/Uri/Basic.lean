import Inlay.Domain.Name
import Inlay.Uri.Address
import Inlay.Uri.Path

/-!
# URIs

Documents are named by URIs.  Reading a URI brings it into a normal form: the
scheme and a registered host in small letters, the default service dropped, dot
segments resolved, and characters that may not stand where they do
percent-encoded.  Two URIs name one document when their normal forms agree.

A URI whose scheme-specific part does not start with a slash is opaque: its
path is one text without segments, as in `untitled:Untitled-1`.
-/

namespace Inlay

/-- The part of a URI that names a host. -/
structure Authority where
  /-- User name and password as written before the `@`, encoded. -/
  userInfo : String := ""
  host : String := ""
  /-- The number of the service at the host, unless it is the one the scheme means. -/
  service : Option Nat := none
  deriving Repr, DecidableEq

/-- A URI in normal form. -/
structure Uri where
  scheme : String
  authority : Option Authority
  path : String
  query : Option String := none
  fragment : Option String := none
  deriving Repr, DecidableEq

namespace Uri

/-- What is wrong with a text that is no URI. -/
inductive Fault where
  | noScheme
  | emptyHost
  | badName
  | badHost
  | badFourBytes
  | badEightPieces
  | badService
  deriving Repr, DecidableEq

/-- A fault in words. -/
def Fault.message : Fault → String
  | .noScheme => "relative URL without a base"
  | .emptyHost => "empty host"
  | .badName => "invalid international domain name"
  | .badHost => "invalid domain character"
  | .badFourBytes => "invalid IPv4 address"
  | .badEightPieces => "invalid IPv6 address"
  | .badService => "invalid port number"

/-- The segments of a path that starts with a slash. -/
def segments? (uri : Uri) : Option (List (List Char)) :=
  match uri.path.toList with
  | '/' :: rest => some (Text.pieces (· == '/') rest)
  | _ => none

/-! ## Writing -/

/-- An authority as text. -/
def renderAuthority (authority : Authority) : String :=
  (if authority.userInfo.isEmpty then "" else authority.userInfo ++ "@")
    ++ authority.host
    ++ (match authority.service with
        | some service => ":" ++ toString service
        | none => "")

/-- A URI as text.  Without an authority a path does not start with two slashes,
so that it is not taken for one. -/
def render (uri : Uri) : String :=
  uri.scheme ++ ":"
    ++ (match uri.authority with
        | some authority => "//" ++ renderAuthority authority
        | none => if uri.path.startsWith "//" then "/." else "")
    ++ uri.path
    ++ (match uri.query with
        | some query => "?" ++ query
        | none => "")
    ++ (match uri.fragment with
        | some fragment => "#" ++ fragment
        | none => "")

/-! ## Schemes -/

/-- The service that a scheme means when none is given.  The schemes that have
one have registered hosts. -/
def defaultService? : String → Option Nat
  | "http" | "ws" => some 80
  | "https" | "wss" => some 443
  | "ftp" => some 21
  | _ => none

/-- Schemes in which a backslash counts as a slash and a path is never empty. -/
def isSpecial (scheme : String) : Bool := scheme == "file" || (defaultService? scheme).isSome

/-- The rules for the paths of a scheme. -/
def pathRules (scheme : String) : PathRules := ⟨scheme == "file", isSpecial scheme⟩

/-- A character of a scheme after the first. -/
def isSchemeChar (c : Char) : Bool := c.isAlphanum || c == '+' || c == '-' || c == '.'

/-- Splits off the scheme. -/
def splitScheme? (chars : List Char) : Option (String × List Char) := do
  let inScheme (c : Char) := isSchemeChar c || isIgnored c
  let scheme := (chars.takeWhile inScheme).filter isSchemeChar
  let first ← scheme.head?
  match chars.dropWhile inScheme with
  | ':' :: rest =>
      if first.isAlpha then some (String.ofList (scheme.map Char.toLower), rest) else none
  | _ => none

/-! ## Hosts -/

/-- Characters that never stand in a host without a registered name. -/
def isForbiddenInHost (c : Char) : Bool :=
  ['\x00', '\t', '\n', '\r', ' ', '#', '/', ':', '<', '>', '?', '@', '[', '\\', ']', '^',
    '|'].contains c

/-- The host of an address between brackets, the first of which is dropped. -/
def bracketedHost (chars : List Char) : Except Fault String :=
  match chars.getLast?, eightPieces? chars.dropLast with
  | some ']', some pieces => .ok ("[" ++ renderPieces pieces ++ "]")
  | _, _ => .error .badEightPieces

/-- The host of a scheme that knows no registered names. -/
def plainHost (chars : List Char) : Except Fault String :=
  if chars.any isForbiddenInHost then .error .badHost
  else .ok (String.ofList (percentEncode isControl chars))

/-- The host of a scheme with registered names: percent-encoded characters are
decoded, and a name whose last label is a number is an address. -/
def registeredHost (chars : List Char) : Except Fault String :=
  match Domain.ascii? (percentDecode (String.ofList chars)) with
  | none => .error .badName
  | some [] => .error .emptyHost
  | some name =>
      if isNumeric name then
        match fourBytes? name with
        | some bytes => .ok (renderBytes bytes)
        | none => .error .badFourBytes
      else .ok (String.ofList name)

/-- The host of a text. -/
def hostOf (special : Bool) (chars : List Char) : Except Fault String :=
  match chars with
  | '[' :: rest => bracketedHost rest
  | _ => if special then registeredHost chars else plainHost chars

/-! ## Authorities -/

/-- User name and password; an empty password is dropped with its colon. -/
def userInfoOf (chars : List Char) : String :=
  let encoded (part : List Char) := String.ofList (percentEncode encodedInUserInfo part)
  match Text.cutFirst ':' chars with
  | (name, none) | (name, some []) => encoded name
  | (name, some password) => encoded name ++ ":" ++ encoded password

/-- Cuts a text at the first colon outside brackets; the colon is kept. -/
def cutHost (inBrackets : Bool) : List Char → List Char × List Char
  | [] => ([], [])
  | c :: rest =>
      if c == ':' && !inBrackets then ([], c :: rest)
      else
        let (host, after) := cutHost (c == '[' || (inBrackets && c != ']')) rest
        (c :: host, after)

/-- The service of a text that starts with a colon, if it is not the default, and
what follows it.  Only a backslash may follow. -/
def serviceOf (scheme : String) (chars : List Char) : Except Fault (Option Nat × List Char) :=
  let digits := (chars.drop 1).takeWhile Char.isDigit
  let rest := (chars.drop 1).dropWhile Char.isDigit
  let service := Text.digitsValue digits
  if UInt16.size ≤ service || (rest.head?.map (· != '\\')).getD false then .error .badService
  else if digits.isEmpty || defaultService? scheme == some service then .ok (none, rest)
  else .ok (some service, rest)

/-- The authority of a text and what follows it.  A host may only be left out in
schemes without registered names, and then user and service must be left out
too. -/
def authorityOf (scheme userInfo : String) (chars : List Char) :
    Except Fault (Authority × List Char) := do
  let (hostChars, after) := cutHost false chars
  if hostChars.isEmpty && isSpecial scheme then throw .emptyHost
  let host ← hostOf (isSpecial scheme) hostChars
  if hostChars.isEmpty && !after.isEmpty then throw .emptyHost
  let (service, rest) ← serviceOf scheme after
  if hostChars.isEmpty && !userInfo.isEmpty then throw .emptyHost
  return ({ userInfo, host, service }, rest)

/-! ## Reading -/

/-- Authority, path and rest of a URI. -/
abbrev Place := Option Authority × PathRead

/-- Reads what follows the two slashes that introduce a host.  A mark of a user
without a user needs a host, or nothing at all. -/
def afterSlashes (scheme : String) (chars : List Char) : Except Fault Place := do
  let isEnd (c : Char) := c == '?' || c == '#' || (pathRules scheme).isSlash c
  let named := (chars.takeWhile fun c => !isEnd c).filter fun c => !isIgnored c
  let rest := chars.dropWhile fun c => !isEnd c
  let (user, place) := (Text.cutLast? '@' named).getD ([], named)
  if named == ['@'] && !rest.isEmpty then throw .emptyHost
  let (authority, after) ← authorityOf scheme (userInfoOf user) place
  let read := if isSpecial scheme then readRooted else readOptional
  return (some authority, read (pathRules scheme) (after ++ rest))

/-- Reads what follows the two slashes of a file URI: the host is empty unless one
other than the local host is named, and it is dropped before a drive. -/
def afterFileSlashes (chars : List Char) : Except Fault Place := do
  let isEnd (c : Char) := c == '/' || c == '\\' || c == '?' || c == '#'
  let named := (chars.takeWhile fun c => !isEnd c).filter fun c => !isIgnored c
  let rest := chars.dropWhile fun c => !isEnd c
  let rules := pathRules "file"
  if isDrive named then return (some {}, readPath rules ['/'] chars)
  let host ← if named.isEmpty then pure "" else hostOf true named
  if host.isEmpty || host == "localhost" then return (some {}, readPath rules ['/'] rest)
  let read := readRooted rules rest
  return (some { host := if read.hasDrive then "" else host }, read)

/-- Whether a character is a slash or a backslash. -/
def isAnySlash (c : Char) : Bool := c == '/' || c == '\\'

/-- Reads what follows the scheme of a file URI. -/
def filePlace (chars : List Char) : Except Fault Place :=
  let rules := pathRules "file"
  match next? chars with
  | none => .ok (some {}, readPath rules ['/'] [])
  | some (first, afterFirst) =>
      if isAnySlash first then
        match next? afterFirst with
        | none => .ok (some {}, readPath rules [] chars)
        | some (second, afterSecond) =>
            if isAnySlash second then afterFileSlashes afterSecond
            else .ok (some {}, readPath rules [] chars)
      else .ok (some {}, readPath rules ['/'] chars)

/-- The path of an opaque URI and what follows it. -/
def readOpaque (chars : List Char) : PathRead :=
  let isEnd (c : Char) := c == '?' || c == '#'
  let text := (chars.takeWhile fun c => !isEnd c).filter fun c => !isIgnored c
  { path := String.ofList (percentEncode isControl text)
    hasDrive := false
    rest := chars.dropWhile fun c => !isEnd c }

/-- Reads what follows a scheme without rules of its own. -/
def plainPlace (scheme : String) (chars : List Char) : Except Fault Place :=
  match next? chars with
  | some ('/', afterFirst) =>
      match next? afterFirst with
      | some ('/', afterSecond) => afterSlashes scheme afterSecond
      | _ => .ok (none, readPath (pathRules scheme) ['/'] afterFirst)
  | _ => .ok (none, readOpaque chars)

/-- Reads what follows the scheme. -/
def placeOf (scheme : String) (chars : List Char) : Except Fault Place :=
  if scheme == "file" then filePlace chars
  else if isSpecial scheme then
    afterSlashes scheme (chars.dropWhile fun c => isAnySlash c || isIgnored c)
  else plainPlace scheme chars

/-- Splits what follows a path into query and fragment. -/
def splitQuery (chars : List Char) : Option (List Char) × Option (List Char) :=
  match Text.cutFirst '#' (chars.filter fun c => !isIgnored c) with
  | ('?' :: query, fragment) => (some query, fragment)
  | (_, fragment) => (none, fragment)

/-- A control character or a space, dropped at both ends of a URI. -/
def isOuterBlank (c : Char) : Bool := c.toNat ≤ 0x20

/-- Reads a URI. -/
def parse (text : String) : Except Fault Uri := do
  let trimmed := Text.dropRightWhile isOuterBlank (text.toList.dropWhile isOuterBlank)
  match splitScheme? trimmed with
  | none => throw .noScheme
  | some (scheme, rest) =>
      let (authority, read) ← placeOf scheme rest
      let (query, fragment) := splitQuery read.rest
      let inQuery (c : Char) := encodedInQuery c || (isSpecial scheme && c == '\'')
      return {
        scheme, authority, path := read.path
        query := query.map fun query => String.ofList (percentEncode inQuery query)
        fragment := fragment.map fun fragment =>
          String.ofList (percentEncode encodedInFragment fragment) }

/-- Reads a URI, if the text is one. -/
def parse? (text : String) : Option Uri := (parse text).toOption

end Uri

end Inlay
