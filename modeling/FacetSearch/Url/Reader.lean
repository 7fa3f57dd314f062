import FacetSearch.Url.Basic

/-!
# Reading URLs

A URL is read as browsers do: blanks around it, and tabs and line breaks anywhere, do not count; in
schemes that everyone knows a backslash is a slash, and how many of them follow the scheme does not
matter. Every part is written in its encoded form. Dots in the path are followed, but not out of a
drive.
-/

namespace FacetSearch.Url

/-- The characters of a URL without those that do not count. -/
def significant (cs : List Char) : List Char :=
  let isMargin (c : Char) : Bool := c.toNat ≤ 0x20
  (((cs.dropWhile isMargin).reverse.dropWhile isMargin).reverse).filter fun c ↦ !isPassedOver c

def isSchemeChar (c : Char) : Bool := c.isAlphanum || c == '+' || c == '-' || c == '.'

/-- Splits off a scheme with its colon. -/
def readScheme (cs : List Char) : Option (String × List Char) :=
  match cs.head?, cs.dropWhile isSchemeChar with
  | some first, ':' :: rest =>
    if first.isAlpha then
      some (String.ofList ((cs.takeWhile isSchemeChar).map Char.toLower), rest)
    else none
  | _, _ => none

/-- A slash, also one that leans the other way where the scheme admits it. -/
def isSlash (special : Bool) (c : Char) : Bool := c == '/' || (special && c == '\\')

/-- A character that ends the authority. -/
def endsAuthority (special : Bool) (c : Char) : Bool := isSlash special c || c == '?' || c == '#'

/-! ## The authority -/

/-- The parts of a text before and after the last occurrence of a character. -/
def splitLast (mark : Char) (cs : List Char) : Option (List Char × List Char) :=
  match cs.reverse.dropWhile (· ≠ mark) with
  | [] => none
  | _ :: before => some (before.reverse, (cs.reverse.takeWhile (· ≠ mark)).reverse)

/-- The name of the user and the password before the host. -/
def readCredentials (cs : List Char) : String × Option String :=
  let encoded (cs : List Char) : String := String.ofList (Percent.encode Percent.inUserInfo cs)
  match cs.dropWhile (· ≠ ':') with
  | _ :: first :: rest => (encoded (cs.takeWhile (· ≠ ':')), some (encoded (first :: rest)))
  | _ => (encoded (cs.takeWhile (· ≠ ':')), none)

/-- Splits a host from the colon and the port after it; a colon between brackets does not count. -/
def splitHost (bracketed : Bool) : List Char → List Char × List Char
  | [] => ([], [])
  | c :: rest =>
    if c = ':' ∧ !bracketed then ([], c :: rest)
    else
      let within := if c = '[' then true else if c = ']' then false else bracketed
      let (host, rest) := splitHost within rest
      (c :: host, rest)

/-- The port that digits stand for, `port` being what has been read of it. -/
def readPort (port : Nat) : List Char → Except UrlFault Nat
  | [] => .ok port
  | c :: rest =>
    let next := 10 * port + (c.toNat - 48)
    if !c.isDigit || 65535 < next then .error .invalidPort else readPort next rest

/-- The port that digits stand for, unless it is that of the scheme. -/
def portOf (scheme : String) (digits : List Char) : Except UrlFault (Option Nat) := do
  if digits.isEmpty then return none
  let port ← readPort 0 digits
  return if defaultPort scheme = some port then none else some port

/-- The authority that a text stands for, and what a backslash in the place of the port leaves of
it; `atEnd` says that nothing follows the text. -/
def readAuthority (scheme : String) (atEnd : Bool) (cs : List Char) :
    Except UrlFault (Authority × List Char) := do
  let (credentials, address) := (splitLast '@' cs).getD ([], cs)
  if cs = ['@'] && !atEnd then .error .emptyHost
  let (user, password) := readCredentials credentials
  let (hostText, portText) := splitHost false address
  let special := isSpecialScheme scheme
  if hostText.isEmpty && (special || !portText.isEmpty) then .error .emptyHost
  let host ← if special then Host.parse hostText else Host.parseOpaque hostText
  let port ← portOf scheme ((portText.drop 1).takeWhile (· ≠ '\\'))
  if hostText.isEmpty && (!user.isEmpty || password.isSome) then .error .emptyHost
  return (⟨user, password, host, port⟩, portText.dropWhile (· ≠ '\\'))

/-! ## Path, query and fragment -/

/-- One dot, which may be encoded. -/
def isSingleDot (segment : List Char) : Bool :=
  segment == ['.'] || segment.map Char.toLower == ['%', '2', 'e']

/-- Two dots, each of which may be encoded. -/
def isDoubleDot (segment : List Char) : Bool :=
  match segment.map Char.toLower with
  | '.' :: rest => isSingleDot rest
  | '%' :: '2' :: 'e' :: rest => isSingleDot rest
  | _ => false

/-- A segment as it is written behind others; a drive in front of the path of a file has a colon. -/
def writtenSegment (file : Bool) (before : List String) (segment : List Char) : String :=
  let text := String.ofList (Percent.encode Percent.inPath segment)
  if file && before.isEmpty && isDrive text then String.ofList (segment.take 1 ++ [':']) else text

/-- The path after the segments `before`, with the dots in the further segments followed. -/
def followDots (file : Bool) (before : List String) : List (List Char) → List String
  | [] => before
  | [last] =>
    if isDoubleDot last then parent before ++ [""]
    else if isSingleDot last then before ++ [""]
    else before ++ [writtenSegment file before last]
  | segment :: rest =>
    if isDoubleDot segment then followDots file (parent before) rest
    else if isSingleDot segment then followDots file before rest
    else followDots file (before ++ [writtenSegment file before segment]) rest

/-- The segments of a path that is written without the slash in front. -/
def readSegments (scheme : String) (cs : List Char) : List String :=
  followDots (scheme == "file") []
    (Text.pieces '/' (cs.map fun c ↦ if isSlash (isSpecialScheme scheme) c then '/' else c))

/-- The segments of the path after an authority. -/
def readPath (scheme : String) : List Char → List String
  | [] => if isSpecialScheme scheme then [""] else []
  | c :: rest => readSegments scheme (if isSlash (isSpecialScheme scheme) c then rest else c :: rest)

def endsPath (c : Char) : Bool := c == '?' || c == '#'

/-- The query and the fragment of the text that follows a path. -/
def readEnd (special : Bool) (cs : List Char) : Option String × Option String :=
  let fragment := match cs.dropWhile (· ≠ '#') with
    | _ :: rest => some (String.ofList (Percent.encode Percent.inFragment rest))
    | [] => none
  let query := match cs.takeWhile (· ≠ '#') with
    | _ :: rest => some (String.ofList (Percent.encode (Percent.inQuery special) rest))
    | [] => none
  (query, fragment)

/-- A URL with the query and the fragment of the text that follows the path. -/
def withEnd (scheme : String) (authority : Option Authority) (path : UrlPath) (rest : List Char) :
    Url :=
  let (query, fragment) := readEnd (isSpecialScheme scheme) rest
  ⟨scheme, authority, path, query, fragment⟩

/-- Reads what follows the two slashes in front of an authority. -/
def readNetwork (scheme : String) (cs : List Char) : Except UrlFault Url := do
  let special := isSpecialScheme scheme
  let rest := cs.dropWhile fun c ↦ !endsAuthority special c
  let (authority, left) ←
    readAuthority scheme rest.isEmpty (cs.takeWhile fun c ↦ !endsAuthority special c)
  let rest := left ++ rest
  return withEnd scheme (some authority)
    (.segments (readPath scheme (rest.takeWhile fun c ↦ !endsPath c)))
    (rest.dropWhile fun c ↦ !endsPath c)

/-! ## Files -/

/-- The path of a file without empty segments in front. -/
def trimmedSegments : List String → List String
  | "" :: next :: rest => trimmedSegments (next :: rest)
  | segments => segments

/-- The host of a file, unless it is the local one. -/
def readFileHost (cs : List Char) : Except UrlFault (Option Host) := do
  if cs.isEmpty then return none
  let host ← Host.parse cs
  return if host = .domain "localhost" then none else some host

/-- A file of a host; a drive has none. -/
def ofFile (host : Host) (path : List String) (rest : List Char) : Url :=
  let host := if path.head?.any isDrive then .domain "" else host
  withEnd "file" (some ⟨"", none, host, none⟩) (.segments (trimmedSegments path)) rest

/-- Reads the host of a file and what follows it; a drive is the beginning of the path. -/
def readFileNetwork (cs : List Char) : Except UrlFault Url := do
  let hostText := cs.takeWhile fun c ↦ !endsAuthority true c
  let path := cs.takeWhile fun c ↦ !endsPath c
  let rest := cs.dropWhile fun c ↦ !endsPath c
  if isDrive (String.ofList hostText) then
    return ofFile (.domain "") (readPath "file" path) rest
  let path := path.drop hostText.length
  match ← readFileHost hostText with
  | none => return ofFile (.domain "") (readSegments "file" path) rest
  | some host => return ofFile host (readPath "file" path) rest

/-- Reads what follows the scheme of a file. -/
def readFile (cs : List Char) : Except UrlFault Url :=
  match cs.takeWhile (isSlash true) with
  | _ :: _ :: _ => readFileNetwork (cs.drop 2)
  | _ => .ok (ofFile (.domain "") (readPath "file" (cs.takeWhile fun c ↦ !endsPath c))
      (cs.dropWhile fun c ↦ !endsPath c))

/-! ## Any URL -/

/-- Reads what follows a scheme that few know. -/
def readOther (scheme : String) : List Char → Except UrlFault Url
  | '/' :: '/' :: rest => readNetwork scheme rest
  | '/' :: rest => .ok (withEnd scheme none
      (.segments (readSegments scheme (rest.takeWhile fun c ↦ !endsPath c)))
      (rest.dropWhile fun c ↦ !endsPath c))
  | rest => .ok (withEnd scheme none
      (.opaqueText (String.ofList (Percent.encode (fun _ ↦ false)
        (rest.takeWhile fun c ↦ !endsPath c))))
      (rest.dropWhile fun c ↦ !endsPath c))

/-- The URL that a text stands for. -/
def read (text : String) : Except UrlFault Url :=
  match readScheme (significant text.toList) with
  | none => .error .noBase
  | some (scheme, rest) =>
    if scheme = "file" then readFile rest
    else if isSpecialScheme scheme then readNetwork scheme (rest.dropWhile (isSlash true))
    else readOther scheme rest

end FacetSearch.Url
