import FacetSearch.Text.Hex

/-!
# Percent-encoding

A character is written as itself or as its UTF-8 octets, each a percent sign and two digits. Control
characters and everything beyond ASCII are always encoded; which other characters are depends on the
part of the URL. Values of a query that is built from names and values are encoded as forms are.
-/

namespace FacetSearch.Percent

/-- The text of an encoded octet. -/
def encodeOctet (octet : UInt8) : List Char :=
  ['%', Text.upperHexDigit (octet.toNat / 16), Text.upperHexDigit (octet.toNat % 16)]

/-- A character that every part of a URL encodes. -/
def isAlwaysEncoded (c : Char) : Bool := c.toNat < 0x20 || 0x7F ≤ c.toNat

/-- A character as it is written where some characters of ASCII are encoded. -/
def encodeChar (encoded : Char → Bool) (c : Char) : List Char :=
  if isAlwaysEncoded c || encoded c then (String.utf8EncodeChar c).flatMap encodeOctet else [c]

def encode (encoded : Char → Bool) (cs : List Char) : List Char := cs.flatMap (encodeChar encoded)

/-- The octets of a text in which an octet may be encoded. -/
def decode : List Char → List UInt8
  | '%' :: a :: b :: rest =>
    match Text.hexValue a, Text.hexValue b with
    | some high, some low => UInt8.ofNat (16 * high + low) :: decode rest
    | _, _ => '%'.toUInt8 :: decode (a :: b :: rest)
  | c :: rest => String.utf8EncodeChar c ++ decode rest
  | [] => []

/-- The mark that is also a grave accent. -/
def backquote : Char := Char.ofNat 96

def inFragment (c : Char) : Bool := c == ' ' || c == '"' || c == '<' || c == '>' || c == backquote

def inPath (c : Char) : Bool :=
  inFragment c || c == '#' || c == '?' || c == '\x7b' || c == '\x7d'

/-- What is encoded in one segment that is appended to a path. -/
def inSegment (special : Bool) (c : Char) : Bool :=
  inPath c || c == '/' || c == '%' || (special && c == '\\')

def inUserInfo (c : Char) : Bool :=
  inPath c || c == '/' || c == ':' || c == ';' || c == '=' || c == '@' || c == '[' || c == '\\' ||
    c == ']' || c == '^' || c == '|'

/-- What is encoded in a query. -/
def inQuery (special : Bool) (c : Char) : Bool :=
  c == ' ' || c == '"' || c == '#' || c == '<' || c == '>' || (special && c.toNat == 39)

/-- A character as it is written in a form. -/
def encodeFormChar (c : Char) : List Char :=
  if c.isAlphanum || c == '*' || c == '-' || c == '.' || c == '_' then [c]
  else if c == ' ' then ['+']
  else (String.utf8EncodeChar c).flatMap encodeOctet

def encodeForm (cs : List Char) : List Char := cs.flatMap encodeFormChar

end FacetSearch.Percent
