import OverpassQuery.Data.Json.Lexer
import OverpassQuery.Http.Exchange

/-!
# HTTP messages

A request as it is sent, and an answer as it is received on a connection that the
server closes after it. The body of an answer ends where its header says: after a
number of octets, after the last of its chunks, or at the end of the connection.
A body that ends earlier is no answer.
-/

set_option autoImplicit false

namespace OverpassQuery

namespace Http

/-! ## Requests -/

/-- The host of an address, with the number behind it if it is not the usual one. -/
def hostText (url : Url) : String :=
  if url.portNumber = url.scheme.defaultPortNumber then url.host
  else url.host ++ ":" ++ toString url.portNumber

/-- The fields of a request's header. -/
def requestFields (request : Request) : List (String × String) :=
  let content := match request.contentType with
    | none => []
    | some mediaType =>
        [("Content-Type", mediaType), ("Content-Length", toString request.body.length)]
  [("Host", hostText request.url), ("User-Agent", request.userAgent), ("Accept", "*/*")]
    ++ content ++ [("Connection", "close")]

/-- A request as it is sent. -/
def Request.bytes (request : Request) : Bytes :=
  let fields := (requestFields request).map fun (name, value) => name ++ ": " ++ value ++ "\r\n"
  let header := request.method.name ++ " " ++ request.url.target ++ " HTTP/1.1\r\n"
    ++ String.join fields ++ "\r\n"
  Utf8.encode header ++ request.body

/-! ## Answers -/

/-- What comes before the first empty line, and what comes after it. -/
def splitHeader? : Bytes → Option (Bytes × Bytes)
  | 13 :: 10 :: 13 :: 10 :: rest => some ([], rest)
  | byte :: rest => (splitHeader? rest).map fun (header, body) => (byte :: header, body)
  | [] => none

/-- A text without the blanks around it. -/
def trimmed (chars : List Char) : List Char :=
  let isBlank (char : Char) : Bool := char == ' ' || char == '\t' || char == '\r'
  ((chars.dropWhile isBlank).reverse.dropWhile isBlank).reverse

/-- The lines of a header. -/
def headerLines (header : Bytes) : List (List Char) :=
  ((Json.octets header).splitOn '\n').map trimmed

/-- The status that the first line of a header states. -/
def status? (line : List Char) : Option Nat :=
  match line.splitOn ' ' with
  | version :: code :: _ =>
      if version.take 7 = "HTTP/1.".toList ∧ code.length = 3 then Decimal.naturalOfDigits? code
      else none
  | _ => none

/-- The value of a field; names are compared without regard to case. -/
def field? (name : String) (lines : List (List Char)) : Option (List Char) :=
  (lines.find? fun line =>
    (line.takeWhile (· ≠ ':')).map Char.toLower = name.toList).map fun line =>
      trimmed (line.drop (name.length + 1))

/-- The content of a body in chunks, each after its length. The steps allowed are as many as
there are octets. -/
def joinedChunks? : Nat → Bytes → Option Bytes
  | 0, _ => none
  | steps + 1, bytes => do
      let digits := (Json.octets bytes).takeWhile fun char => (Json.hexValue? char).isSome
      let length := digits.foldl (fun total digit => 16 * total + (Json.hexValue? digit).getD 0) 0
      let content := (bytes.dropWhile (· ≠ 10)).drop 1
      if digits = [] ∨ content.length < length then none
      else if length = 0 then some []
      else (joinedChunks? steps (content.drop (length + 2))).map (content.take length ++ ·)

/-- The body of an answer, given its header. -/
def body? (lines : List (List Char)) (rest : Bytes) : Option Bytes :=
  if (field? "transfer-encoding" lines).map (·.map Char.toLower) = some "chunked".toList then
    joinedChunks? rest.length rest
  else
    match field? "content-length" lines with
    | none => some rest
    | some digits => do
        let length ← Decimal.naturalOfDigits? digits
        if rest.length < length then none else some (rest.take length)

/-- The answer that was received on a connection. -/
def answer (bytes : Bytes) : Except String Response :=
  match splitHeader? bytes with
  | none => .error "connection closed without an answer"
  | some (header, rest) =>
      let lines := headerLines header
      match lines.head?.bind status? with
      | none => .error "the answer is not in HTTP"
      | some status =>
          if isBodiless status then .ok (received status [])
          else
            match body? lines rest with
            | none => .error "connection closed before the end of the body"
            | some content => .ok (received status content)

end Http

end OverpassQuery
