import OverpassQuery.Binary64.Decimal
import OverpassQuery.Text.FormUrl

/-!
# Addresses on the web

The address of a resource on an HTTP server, as browsers read it: blanks around
it and line breaks in it are ignored, a backslash counts as a slash, dot
segments are resolved, and characters that a request line cannot hold are
written as percent signs with hexadecimal digits. User names and fragments play
no part in a request and are dropped.

Only the schemes `http` and `https` have an address here, and host names are in
ASCII.
-/

set_option autoImplicit false

namespace OverpassQuery

/-- The two schemes. -/
inductive Scheme where
  | http
  | https
  deriving DecidableEq

/-- The address of a resource. -/
structure Url where
  scheme : Scheme
  host : String
  /-- The number at which the server listens at its host. -/
  portNumber : Nat
  path : String
  query : String
  deriving DecidableEq

namespace Scheme

/-- The number at which servers listen if their address names none. -/
def defaultPortNumber : Scheme → Nat
  | .http => 80
  | .https => 443

/-- The scheme with a name in lower case. -/
def ofName? (name : String) : Option Scheme :=
  if name = "http" then some .http
  else if name = "https" then some .https
  else none

end Scheme

namespace Url

/-! ## Characters -/

/-- A character that is dropped at either end of an address. -/
def isMargin (char : Char) : Bool := char.toNat ≤ 0x20

/-- A character that is dropped anywhere in an address. -/
def isIgnored (char : Char) : Bool := char == '\t' || char == '\n' || char == '\r'

/-- An address without the characters that do not count. -/
def cleaned (text : String) : List Char :=
  let trimmed := (text.toList.dropWhile isMargin).reverse.dropWhile isMargin
  trimmed.reverse.filter fun char => !isIgnored char

/-- A slash of either kind. -/
def isSlash (char : Char) : Bool := char == '/' || char == '\\'

/-- A character that ends the part of an address that names the server. -/
def endsAuthority (char : Char) : Bool := isSlash char || char == '?' || char == '#'

/-- A character as it stands in a request: its bytes as percent signs with digits if it is
one of a list or outside printable ASCII, and otherwise itself. -/
def percentEncoded (reserved : List Char) (char : Char) : List Char :=
  if char.toNat < 0x20 ∨ 0x7E < char.toNat ∨ char ∈ reserved then
    (String.utf8EncodeChar char).flatMap FormUrl.percentChars
  else [char]

/-- The characters that do not stand for themselves in a path. -/
def reservedInPath : List Char := [' ', '"', '#', '<', '>', '?', '`', '\x7b', '\x7d']

/-- The characters that do not stand for themselves in a query. -/
def reservedInQuery : List Char := [' ', '"', '#', '<', '>', '\'']

/-! ## The server -/

/-- The name of a scheme and what follows its colon. -/
def splitScheme? (chars : List Char) : Option (String × List Char) :=
  let isNameChar (char : Char) : Bool :=
    char.isAlphanum || char == '+' || char == '-' || char == '.'
  match chars.takeWhile isNameChar, chars.dropWhile isNameChar with
  | first :: name, ':' :: rest =>
      if first.isAlpha then some (String.ofList ((first :: name).map Char.toLower), rest) else none
  | _, _ => none

/-- What stands after the last sign `@`, if there is one. -/
def afterUserInfo (authority : List Char) : List Char :=
  (authority.reverse.takeWhile (· ≠ '@')).reverse

/-- Whether a character may stand in a host name, or inside the brackets of a numeric one. -/
def isHostChar (char : Char) : Bool :=
  char.isAlphanum || char == '-' || char == '.' || char == '_' || char == '~' || char == '!'
    || char == '$' || char == '&' || char == '\'' || char == '(' || char == ')' || char == '*'
    || char == '+' || char == ',' || char == ';' || char == '='

/-- The host and what follows it in the part that names the server. -/
def splitHost? (server : List Char) : Option (List Char × List Char) :=
  match server with
  | '[' :: rest =>
      match rest.dropWhile (· ≠ ']') with
      | ']' :: after => some ('[' :: rest.takeWhile (· ≠ ']') ++ [']'], after)
      | _ => none
  | server =>
      let host := server.takeWhile (· ≠ ':')
      if host ≠ [] ∧ host.all isHostChar then
        some (host.map Char.toLower, server.dropWhile (· ≠ ':'))
      else none

/-- The greatest number at which a server can listen. -/
def maxPortNumber : Nat := 65535

/-- The number that follows a host: a colon and digits, which may be left out. -/
def portNumber? (scheme : Scheme) : List Char → Option Nat
  | [] | [':'] => some scheme.defaultPortNumber
  | ':' :: digits =>
      if digits.all Char.isDigit then
        let number := Decimal.ofDigits digits
        if number ≤ maxPortNumber then some number else none
      else none
  | _ => none

/-! ## The path -/

/-- The pieces of a path between slashes. -/
def segments (chars : List Char) : List (List Char) := chars.splitOnP isSlash

/-- A segment in which a dot that is spelled with a percent sign stands as a dot. -/
def plainDots : List Char → List Char
  | '%' :: '2' :: letter :: rest =>
      if letter = 'e' ∨ letter = 'E' then '.' :: plainDots rest
      else '%' :: '2' :: plainDots (letter :: rest)
  | char :: rest => char :: plainDots rest
  | [] => []

/-- The segments left, the latest first, when those that name the directory itself or the
one above are resolved. At the end such a segment leaves an empty one. -/
def resolve (kept : List (List Char)) : List (List Char) → List (List Char)
  | [] => kept
  | segment :: rest =>
      let dots := plainDots segment
      if dots = ['.', '.'] then
        resolve (if rest = [] then [] :: kept.tail else kept.tail) rest
      else if dots = ['.'] then resolve (if rest = [] then [] :: kept else kept) rest
      else resolve (segment.flatMap (percentEncoded reservedInPath) :: kept) rest

/-- The path of a request, which starts with a slash. -/
def pathText (chars : List Char) : String :=
  let relative := match chars with
    | first :: rest => if isSlash first then rest else first :: rest
    | [] => []
  let pieces := (resolve [] (segments relative)).reverse
  String.ofList (pieces.flatMap ('/' :: ·))

/-! ## Reading and writing -/

/-- The address that a text spells. -/
def ofText? (text : String) : Option Url := do
  let (name, rest) ← splitScheme? (cleaned text)
  let scheme ← Scheme.ofName? name
  let unslashed := rest.dropWhile isSlash
  let authority := unslashed.takeWhile fun char => !endsAuthority char
  let resource := (unslashed.dropWhile fun char => !endsAuthority char).takeWhile (· ≠ '#')
  let (host, afterHost) ← splitHost? (afterUserInfo authority)
  let portNumber ← portNumber? scheme afterHost
  let query := (resource.dropWhile (· ≠ '?')).tail
  return {
    scheme := scheme
    host := String.ofList host
    portNumber := portNumber
    path := pathText (resource.takeWhile (· ≠ '?'))
    query := String.ofList (query.flatMap (percentEncoded reservedInQuery)) }

/-- An address with parameters after those that it has. -/
def withParameters (url : Url) (parameters : List (String × String)) : Url :=
  let added := FormUrl.encodePairs parameters
  { url with query := if url.query = "" then added else url.query ++ "&" ++ added }

/-- What a request line says: the path, and the query if there is one. -/
def target (url : Url) : String :=
  if url.query = "" then url.path else url.path ++ "?" ++ url.query

example : (ofText? " HTTP:/\\Example.org:080\\a/./b/../%2E%2e/c d?x='#y ").map target
    = some "/c%20d?x=%27" := by decide +kernel

end Url

end OverpassQuery
