import FacetSearch.Toml.Scalar
import FacetSearch.Toml.Text

/-!
# Reading TOML

A document is a sequence of lines, each with a key-value pair, a header or neither, and each with
an optional comment. Arrays may span lines, tables between braces may not. Containers may be nested
79 deep.
-/

namespace FacetSearch.Toml

def isGap (c : Char) : Bool := c == ' ' || c == '\t'

def skipGaps (cs : List Char) : List Char := cs.dropWhile isGap

/-- Drops a comment; its characters may not be control characters. -/
def skipComment : List Char → Option (List Char)
  | '#' :: rest =>
    match rest.dropWhile isPlain with
    | [] => some []
    | '\n' :: rest => some ('\n' :: rest)
    | '\r' :: '\n' :: rest => some ('\n' :: rest)
    | _ => none
  | cs => some cs

/-- Drops a line break, if there is one in front. -/
def skipLineBreak : List Char → Option (List Char)
  | '\n' :: rest => some rest
  | '\r' :: '\n' :: rest => some rest
  | _ => none

/-- Drops blanks, comments and line breaks. -/
def skipLines : (fuel : Nat) → List Char → Option (List Char)
  | 0, cs => some cs
  | fuel + 1, cs => do
    let cs ← skipComment (skipGaps cs)
    match skipLineBreak cs with
    | some rest => skipLines fuel rest
    | none => some cs

def isBareKeyChar (c : Char) : Bool := c.isAlphanum || c == '_' || c == '-'

/-- Reads a segment of a key, which is bare or a string on one line. -/
def readSegment : List Char → Option (String × List Char)
  | '"' :: rest => (readBasic rest).map fun (text, rest) ↦ (String.ofList text, rest)
  | c :: rest =>
    if c = apostrophe then
      (readLiteral rest).map fun (text, rest) ↦ (String.ofList text, rest)
    else if isBareKeyChar c then
      some (String.ofList (c :: rest.takeWhile isBareKeyChar), rest.dropWhile isBareKeyChar)
    else none
  | [] => none

/-- Reads the segments of a dotted key, the blanks around them included. -/
def readKey : (fuel : Nat) → List Char → Option (List String × List Char)
  | 0, _ => none
  | fuel + 1, cs => do
    let (segment, rest) ← readSegment (skipGaps cs)
    match skipGaps rest with
    | '.' :: rest => do
      let (segments, rest) ← readKey fuel rest
      some (segment :: segments, rest)
    | rest => some ([segment], rest)

/-- The greatest number of segments of a key, and of containers in one another. -/
def greatestDepth : Nat := 79

/-- Reads a key and splits off its last segment. -/
def readPath (cs : List Char) : Option (List String × String × List Char) := do
  let (segments, rest) ← readKey cs.length cs
  let key ← segments.getLast?
  if segments.length ≤ greatestDepth then some (segments.dropLast, key, rest) else none

abbrev ValueReader := List Char → Option (Toml × List Char)

/-- Reads a key, the equals sign and a value. -/
def readPair (value : ValueReader) (cs : List Char) : Option (Pair × List Char) := do
  let (path, key, rest) ← readPath cs
  match rest with
  | '=' :: rest => do
    let (value, rest) ← value (skipGaps rest)
    some (⟨path, key, value⟩, rest)
  | _ => none

/-- Reads the elements of an array up to the closing bracket. -/
def readElements (value : ValueReader) : (fuel : Nat) → List Char → Option (List Toml × List Char)
  | 0, _ => none
  | fuel + 1, cs => do
    match ← skipLines cs.length cs with
    | ']' :: rest => some ([], rest)
    | cs => do
      let (element, rest) ← value cs
      match ← skipLines rest.length rest with
      | ']' :: rest => some ([element], rest)
      | ',' :: rest => do
        let (elements, rest) ← readElements value fuel rest
        some (element :: elements, rest)
      | _ => none

/-- Reads the pairs of a table between braces, of which there is at least one. -/
def readPairs (value : ValueReader) : (fuel : Nat) → List Char → Option (List Pair × List Char)
  | 0, _ => none
  | fuel + 1, cs => do
    let (pair, rest) ← readPair value (skipGaps cs)
    match skipGaps rest with
    | '\x7d' :: rest => some ([pair], rest)
    | ',' :: rest => do
      let (pairs, rest) ← readPairs value fuel rest
      some (pair :: pairs, rest)
    | _ => none

/-- Reads a value in which containers are nested at most `depth` deep. -/
def readValue : (depth : Nat) → ValueReader
  | depth, '[' :: rest => match depth with
    | 0 => none
    | depth + 1 => (readElements (readValue depth) (rest.length + 1) rest).map
      fun (elements, rest) ↦ (array elements, rest)
  | depth, '\x7b' :: rest => match depth with
    | 0 => none
    | depth + 1 => match skipGaps rest with
      | '\x7d' :: rest => some (table .inline [], rest)
      | rest => do
        let (pairs, rest) ← readPairs (readValue depth) (rest.length + 1) rest
        let entries ← addPairs [] pairs
        some (table .inline entries, rest)
  | _, cs => match readString cs with
    | some (text, rest) => some (string (String.ofList text), rest)
    | none =>
      let (token, rest) := splitToken cs
      (readToken token).map fun value ↦ (value, rest)

/-- Reads the rest of a line after a pair or a header. -/
def readLineEnd (cs : List Char) : Option (List Char) := do
  match ← skipComment (skipGaps cs) with
  | [] => some []
  | cs => skipLineBreak cs

/-- Reads a header after its opening brackets. -/
def readHeader (repeated : Bool) (cs : List Char) : Option (Block × List Char) := do
  let (path, key, rest) ← readPath cs
  match repeated, rest with
  | false, ']' :: rest => some (⟨path, key, false, []⟩, ← readLineEnd rest)
  | true, ']' :: ']' :: rest => some (⟨path, key, true, []⟩, ← readLineEnd rest)
  | _, _ => none

/-- Reads the pairs in front of the first header, and the blocks after it. -/
def readBlocks : (fuel : Nat) → List Char → Option (List Pair × List Block)
  | 0, _ => none
  | fuel + 1, cs => do
    match ← skipLines cs.length cs with
    | [] => some ([], [])
    | '[' :: rest => do
      let (block, rest) ← match rest with
        | '[' :: rest => readHeader true rest
        | rest => readHeader false rest
      let (pairs, blocks) ← readBlocks fuel rest
      some ([], { block with pairs := pairs } :: blocks)
    | cs => do
      let (pair, rest) ← readPair (readValue greatestDepth) cs
      let rest ← readLineEnd rest
      let (pairs, blocks) ← readBlocks fuel rest
      some (pair :: pairs, blocks)

/-- A byte order mark in front does not count. -/
def dropMark : List Char → List Char
  | c :: rest => if c.toNat = 0xFEFF then rest else c :: rest
  | [] => []

/-- The entries of the document that a text stands for. -/
def read (text : String) : Option (List (String × Toml)) := do
  let cs := dropMark text.toList
  let (pairs, blocks) ← readBlocks (cs.length + 1) cs
  document pairs blocks

end FacetSearch.Toml
