import FacetSearch.Http.Answer
import FacetSearch.Http.Request
import FacetSearch.Text.Base64

/-!
# HTTP on the wire

A request is written for a connection that carries it alone: the host closes the connection behind
its answer, so that everything that is received belongs to the answer. The body of an answer has the
length that its head gives, comes in chunks, or lasts until the end; an answer that breaks off is
none.
-/

namespace FacetSearch.Http

/-! ## Writing requests -/

/-- The address of the host as the request names it. -/
def hostText (authority : Authority) : String := authority.host.text ++ authority.portText

/-- The name and the password of the user, as a header has them. -/
def credentialsText (authority : Authority) : String :=
  let user := Percent.decode authority.user.toList
  let password := Percent.decode (authority.password.getD "").toList
  String.ofList (Base64.encode (user ++ Utf8.encode [':'] ++ password))

/-- The headers that depend on the address. -/
def addressHeaders (url : Url) : List (String × String) :=
  match url.authority with
  | none => []
  | some authority =>
    let host := ("host", hostText authority)
    if authority.user.isEmpty && authority.password.isNone then [host]
    else [host, ("authorization", "Basic " ++ credentialsText authority)]

/-- The headers that depend on what is carried. -/
def payloadHeaders : Option Payload → List (String × String)
  | none => []
  | some payload => [("content-type", payload.contentType),
      ("content-length", toString payload.text.utf8ByteSize)]

/-- The text of a request. -/
def Request.text (request : Request) : String :=
  let headers := addressHeaders request.url ++ payloadHeaders request.payload ++
    [("accept", "*/*"), ("connection", "close")]
  let first := s!"{request.method.name} {request.url.target} HTTP/1.1\r\n"
  first ++ String.join (headers.map fun (name, value) ↦ s!"{name}: {value}\r\n") ++ "\r\n" ++
    (request.payload.map Payload.text).getD ""

/-! ## Reading answers -/

/-- The octets that end a line. -/
def lineEnd : List UInt8 := [13, 10]

/-- The octets before the first end of a line, and those after it. -/
def splitLine : List UInt8 → Option (List UInt8 × List UInt8)
  | 13 :: 10 :: rest => some ([], rest)
  | octet :: rest => (splitLine rest).map fun (line, rest) ↦ (octet :: line, rest)
  | [] => none

/-- The text of a line of the head, an octet for each character. -/
def lineText (octets : List UInt8) : List Char := octets.map fun octet ↦ Char.ofNat octet.toNat

/-- The lines of the head up to the blank one, and the octets behind it. -/
def splitHead : (fuel : Nat) → List UInt8 → Option (List (List Char) × List UInt8)
  | 0, _ => none
  | fuel + 1, octets => do
    let (line, rest) ← splitLine octets
    if line.isEmpty then some ([], rest)
    else do
      let (lines, rest) ← splitHead fuel rest
      some (lineText line :: lines, rest)

/-- The number that digits of a base stand for. -/
def numberIn (base : Nat) (digits : List Char) : Option Nat :=
  if digits.isEmpty then none
  else digits.foldlM (fun n c ↦ ((Text.hexValue c).filter (· < base)).map (base * n + ·)) 0

/-- The status in the first line of an answer. -/
def statusOf (line : List Char) : Option UInt16 := do
  match Text.words line with
  | version :: status :: _ =>
    if ['H', 'T', 'T', 'P', '/', '1', '.'].isPrefixOf version && status.length == 3 then
      (numberIn 10 status).map UInt16.ofNat
    else none
  | _ => none

/-- The value of a header, whose name may be written in any case. -/
def headerOf (name : String) (lines : List (List Char)) : Option (List Char) :=
  (lines.find? fun line ↦
    Text.sameIgnoringCase (String.ofList (line.takeWhile (· ≠ ':'))) name).map fun line ↦
      Text.trim ((line.dropWhile (· ≠ ':')).drop 1)

/-- The chunks of a body, each behind a line with its length; an empty one is the last. -/
def splitChunks : (fuel : Nat) → List UInt8 → Option (List (List UInt8))
  | 0, _ => none
  | fuel + 1, octets => do
    let (line, rest) ← splitLine octets
    let length ← numberIn 16 (Text.trim ((lineText line).takeWhile (· ≠ ';')))
    if length = 0 then some []
    else if rest.length < length + 2 then none
    else do
      let others ← splitChunks fuel (rest.drop (length + 2))
      some (rest.take length :: others)

/-- The body that follows a head. -/
def bodyOf (headers : List (List Char)) (rest : List UInt8) : Option Body :=
  let chunked := (headerOf "transfer-encoding" headers).any fun value ↦
    Text.sameIgnoringCase (String.ofList value) "chunked"
  if chunked then (splitChunks (rest.length + 1) rest).map fun parts ↦ ⟨none, parts, nofun⟩
  else match headerOf "content-length" headers with
    | none => some ⟨none, [rest], nofun⟩
    | some digits => do
      let length ← numberIn 10 digits
      if hlength : length ≤ rest.length then
        some ⟨some length, [rest.take length], by simp [hlength]⟩
      else none

/-- The answer to a request that all octets received stand for. -/
def Answer.ofOctets (method : Method) (octets : List UInt8) : Option Answer := do
  match ← splitHead (octets.length + 1) octets with
  | (first :: headers, rest) => do
    let status ← statusOf first
    if method = .head || status = 204 || status = 304 then return ⟨status, .empty⟩
    let body ← bodyOf headers rest
    return ⟨status, body⟩
  | ([], _) => none

end FacetSearch.Http
