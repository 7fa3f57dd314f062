import FacetSearch.Url.Host

/-!
# URLs

A URL has a scheme, perhaps an authority, a path, perhaps a query and perhaps a fragment. The path
is a list of segments, each as it is written, unless the URL cannot be a base. `appended` adds
segments to a path; a segment that is one dot or two changes nothing, and one that becomes so when
its line breaks and tabs are taken out leads to the same place or a level up.
-/

namespace FacetSearch

/-- Who a URL is meant for, and where it leads. -/
structure Authority where
  /-- The name of the user, encoded, which may be empty. -/
  user : String
  /-- The password, encoded. -/
  password : Option String
  host : Host
  /-- The port, if it is not that of the scheme. -/
  port : Option Nat
deriving DecidableEq

inductive UrlPath where
  /-- Text of a URL that cannot be a base. -/
  | opaqueText (text : String)
  | segments (segments : List String)
deriving DecidableEq

structure Url where
  scheme : String
  authority : Option Authority
  path : UrlPath
  query : Option String
  fragment : Option String
deriving DecidableEq

/-- The port of a scheme that everyone knows. -/
def defaultPort (scheme : String) : Option Nat :=
  if scheme = "http" ∨ scheme = "ws" then some 80
  else if scheme = "https" ∨ scheme = "wss" then some 443
  else if scheme = "ftp" then some 21
  else none

namespace Authority

/-- What stands before the host. -/
def credentials (authority : Authority) : String :=
  match authority.password with
  | some password => authority.user ++ ":" ++ password ++ "@"
  | none => if authority.user.isEmpty then "" else authority.user ++ "@"

def portText (authority : Authority) : String :=
  match authority.port with
  | some port => ":" ++ toString port
  | none => ""

def text (authority : Authority) : String :=
  authority.credentials ++ authority.host.text ++ authority.portText

end Authority

namespace Url

/-! ## Paths -/

/-- A scheme that everyone knows. -/
def isSpecialScheme (scheme : String) : Bool :=
  (defaultPort scheme).isSome || scheme == "file"

def isSpecial (url : Url) : Bool := isSpecialScheme url.scheme

/-- The text of a path with the given segments. -/
def pathText (segments : List String) : String :=
  String.join (segments.map fun segment ↦ "/" ++ segment)

/-- The path without an empty last segment, unless it is the only one. -/
def popEmpty (path : List String) : List String :=
  if path.getLast? = some "" ∧ 1 < path.length then path.dropLast else path

/-- The path to which an empty segment has been added; an empty one that is alone serves. -/
def opened (path : List String) : List String :=
  if path = [""] then path else path ++ [""]

/-- A tab or a part of a line break, which URLs pass over. -/
def isPassedOver (c : Char) : Bool := c == '\t' || c == '\n' || c == '\r'

/-- The text of an appended segment. -/
def segmentText (special : Bool) (segment : String) : String :=
  String.ofList
    (Percent.encode (Percent.inSegment special) (segment.toList.filter fun c ↦ !isPassedOver c))

/-- A drive: a letter with a colon or a bar. -/
def isDrive (segment : String) : Bool :=
  match segment.toList with
  | [letter, mark] => letter.isAlpha && (mark == ':' || mark == '|')
  | _ => false

/-- A drive, also with a backslash and more behind it. -/
def beginsWithDrive (segment : String) : Bool :=
  isDrive (String.ofList (segment.toList.take 2)) &&
    ((segment.toList.drop 2).isEmpty || (segment.toList.drop 2).head? == some '\\')

/-- The path one level up; a drive is not left. -/
def parent (path : List String) : List String :=
  if path.getLast?.any beginsWithDrive then path else path.dropLast

/-- The path with one segment appended. -/
def appendSegment (special : Bool) (path : List String) (segment : String) : List String :=
  if segment = "." ∨ segment = ".." then path
  else
    let path := opened path
    let text := segmentText special segment
    if text = "." then path
    else if text = ".." then parent path.dropLast ++ [""]
    else path.dropLast ++ [text]

/-- The path with segments appended in order, after an empty last one has been dropped. -/
def appended (special : Bool) (path segments : List String) : List String :=
  segments.foldl (appendSegment special) (popEmpty path)

/-- The URL with segments appended to its path, if it can be a base. -/
def withSegments (url : Url) (segments : List String) : Url :=
  match url.path with
  | .opaqueText _ => url
  | .segments path => { url with path := .segments (appended url.isSpecial path segments) }

/-! ## Queries -/

/-- The text of a name and a value as in a form. -/
def parameterText (parameter : String × String) : String :=
  String.ofList (Percent.encodeForm parameter.1.toList) ++ "=" ++
    String.ofList (Percent.encodeForm parameter.2.toList)

/-- The URL with a parameter behind those that it has. -/
def withParameter (url : Url) (name value : String) : Url :=
  let text := parameterText (name, value)
  { url with query := some (match url.query with
    | none | some "" => text
    | some query => query ++ "&" ++ text) }

/-! ## The text of a URL -/

def authorityText (url : Url) : String :=
  match url.authority, url.path with
  | some authority, _ => "//" ++ authority.text
  | none, .segments ("" :: _ :: _) => "/."
  | none, _ => ""

/-- The text of the path, with a slash before every segment. -/
def pathString (url : Url) : String :=
  match url.path with
  | .opaqueText text => text
  | .segments segments => pathText segments

def queryText (url : Url) : String :=
  match url.query with
  | some query => "?" ++ query
  | none => ""

def fragmentText (url : Url) : String :=
  match url.fragment with
  | some fragment => "#" ++ fragment
  | none => ""

def text (url : Url) : String :=
  url.scheme ++ ":" ++ url.authorityText ++ url.pathString ++ url.queryText ++ url.fragmentText

/-- What a request asks the host for. -/
def target (url : Url) : String :=
  let path := if url.pathString.isEmpty then "/" else url.pathString
  path ++ url.queryText

end Url

end FacetSearch
