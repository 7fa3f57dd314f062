import FacetSearch.Json.Literal
import FacetSearch.Json.Raw
import FacetSearch.Text.Hex

/-!
# Reading JSON text

`RawJson.read` reads a whole text: one value between blanks, with nothing after it. A string holds
no character below space and ends at its quote; `\u` escapes of the two surrogates of a pair make
one character, and a lone surrogate makes the string unreadable. Containers may be nested 127 deep,
deeper ones are unreadable. `Json.read` reads a text to the value it stands for.
-/

namespace FacetSearch

namespace RawJson

/-- The blanks between tokens. -/
def isSpace (c : Char) : Bool := c == ' ' || c == '\n' || c == '\t' || c == '\r'

def skipSpace (cs : List Char) : List Char := cs.dropWhile isSpace

/-- A part of a string: a character as written, or a UTF-16 unit from an escape. -/
inductive Piece where
  | char (c : Char)
  | unit (n : Nat)

def hexUnit (a b c d : Char) : Option Nat := do
  let a ← Text.hexValue a
  let b ← Text.hexValue b
  let c ← Text.hexValue c
  let d ← Text.hexValue d
  some (((a * 16 + b) * 16 + c) * 16 + d)

/-- The character of a two-character escape. -/
def escaped (c : Char) : Option Char :=
  if c = '"' ∨ c = '\\' ∨ c = '/' then some c
  else if c = 'b' then some (Char.ofNat 8)
  else if c = 'f' then some (Char.ofNat 12)
  else if c = 'n' then some '\n'
  else if c = 'r' then some '\r'
  else if c = 't' then some '\t'
  else none

/-- Reads the pieces of a string up to its closing quote. -/
def readPieces : List Char → Option (List Piece × List Char)
  | [] => none
  | '"' :: rest => some ([], rest)
  | '\\' :: 'u' :: a :: b :: c :: d :: rest => do
    let n ← hexUnit a b c d
    let (pieces, rest) ← readPieces rest
    some (.unit n :: pieces, rest)
  | '\\' :: c :: rest => do
    let c ← escaped c
    let (pieces, rest) ← readPieces rest
    some (.char c :: pieces, rest)
  | c :: rest =>
    if c.toNat < 32 ∨ c = '\\' then none
    else do
      let (pieces, rest) ← readPieces rest
      some (.char c :: pieces, rest)

def isHighSurrogate (n : Nat) : Bool := 0xD800 ≤ n && n < 0xDC00

def isLowSurrogate (n : Nat) : Bool := 0xDC00 ≤ n && n < 0xE000

/-- The characters of a string, unless it has a lone surrogate. -/
def joinPieces : List Piece → Option (List Char)
  | [] => some []
  | .char c :: rest => (joinPieces rest).map (c :: ·)
  | .unit n :: rest =>
    if isHighSurrogate n then match rest with
      | .unit m :: rest =>
        if isLowSurrogate m then
          (joinPieces rest).map
            (Char.ofNat (0x10000 + (n - 0xD800) * 0x400 + (m - 0xDC00)) :: ·)
        else none
      | _ => none
    else if isLowSurrogate n then none
    else (joinPieces rest).map (Char.ofNat n :: ·)

/-- Reads the rest of a string after its opening quote. -/
def readString (cs : List Char) : Option (Option String × List Char) :=
  (readPieces cs).map fun (pieces, rest) ↦ ((joinPieces pieces).map String.ofList, rest)

def readNumber (cs : List Char) : Option (RawJson × List Char) :=
  (Literal.read cs).map fun (literal, rest) ↦
    ((literal.value?.map num).getD unreadable, rest)

mutual

/-- Reads a value and gives the text after it; `fuel` bounds the number of nested calls. -/
def readValue : (fuel : Nat) → List Char → Option (RawJson × List Char)
  | 0, _ => none
  | fuel + 1, cs => match skipSpace cs with
    | 'n' :: 'u' :: 'l' :: 'l' :: rest => some (null, rest)
    | 't' :: 'r' :: 'u' :: 'e' :: rest => some (bool true, rest)
    | 'f' :: 'a' :: 'l' :: 's' :: 'e' :: rest => some (bool false, rest)
    | '"' :: rest => (readString rest).map fun (s?, rest) ↦ ((s?.map str).getD unreadable, rest)
    | '[' :: rest => match skipSpace rest with
      | ']' :: rest => some (arr [], rest)
      | _ => (readElements fuel rest).map fun (elements, rest) ↦ (arr elements, rest)
    | '{' :: rest => match skipSpace rest with
      | '}' :: rest => some (obj [], rest)
      | _ => (readMembers fuel rest).map fun (members, rest) ↦ (obj members, rest)
    | cs => readNumber cs

/-- Reads one element or more up to the closing bracket. -/
def readElements : (fuel : Nat) → List Char → Option (List RawJson × List Char)
  | 0, _ => none
  | fuel + 1, cs => do
    let (element, rest) ← readValue fuel cs
    match skipSpace rest with
    | ',' :: rest => do
      let (elements, rest) ← readElements fuel rest
      some (element :: elements, rest)
    | ']' :: rest => some ([element], rest)
    | _ => none

/-- Reads one member or more up to the closing brace. -/
def readMembers : (fuel : Nat) → List Char → Option (List (Option String × RawJson) × List Char)
  | 0, _ => none
  | fuel + 1, cs => match skipSpace cs with
    | '"' :: rest => do
      let (name?, rest) ← readString rest
      match skipSpace rest with
      | ':' :: rest => do
        let (value, rest) ← readValue fuel rest
        match skipSpace rest with
        | ',' :: rest => do
          let (members, rest) ← readMembers fuel rest
          some ((name?, value) :: members, rest)
        | '}' :: rest => some ([(name?, value)], rest)
        | _ => none
      | _ => none
    | _ => none

end

/-- The number of levels to which containers may be nested. -/
def greatestDepth : Nat := 127

/-- Reads a whole text. -/
def read (text : List Char) : Option RawJson := do
  let (value, rest) ← readValue (2 * text.length + 1) text
  if (skipSpace rest).isEmpty then some (value.limited greatestDepth) else none

end RawJson

/-- The value that a text stands for. -/
def Json.read (text : String) : Option Json := (RawJson.read text.toList).bind RawJson.toJson?

end FacetSearch
