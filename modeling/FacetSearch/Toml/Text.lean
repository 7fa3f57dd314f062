import FacetSearch.Text.Hex

/-!
# Strings in TOML

A string stands between quotes, with escapes, or between apostrophes, as it is. Tripled marks let
it span lines: a line break right after the opening marks is dropped, one or two marks may stand
before the closing ones, and a backslash at the end of a line joins it to the next word. `quote`
chooses the plainest form in which a string can be written.
-/

namespace FacetSearch.Toml

/-- The mark `'`. -/
def apostrophe : Char := Char.ofNat 39

/-- A character that may stand as it is: a tab, or no control character. -/
def isPlain (c : Char) : Bool := c == '\t' || (32 ≤ c.toNat && c.toNat ≠ 127)

/-- The character of a code point, unless it is a surrogate or too large. -/
def charOf (n : Nat) : Option Char := if n.isValidChar then some (Char.ofNat n) else none

/-- The number that hexadecimal digits stand for. -/
def hexNumber (digits : List Char) : Option Nat :=
  digits.foldlM (fun n c ↦ (Text.hexValue c).map (16 * n + ·)) 0

/-- The character of a two-character escape. -/
def escaped (c : Char) : Option Char :=
  if c = '"' ∨ c = '\\' then some c
  else if c = 'b' then some (Char.ofNat 8)
  else if c = 't' then some '\t'
  else if c = 'n' then some '\n'
  else if c = 'f' then some (Char.ofNat 12)
  else if c = 'r' then some '\r'
  else none

/-- Puts a character in front of what is read. -/
def andThen (c : Char) (read : Option (List Char × List Char)) : Option (List Char × List Char) :=
  read.map fun (text, rest) ↦ (c :: text, rest)

/-- Reads a string on one line up to its closing quote. -/
def readBasic : List Char → Option (List Char × List Char)
  | [] => none
  | '"' :: rest => some ([], rest)
  | '\\' :: 'u' :: a :: b :: c :: d :: rest => do
    let char ← charOf (← hexNumber [a, b, c, d])
    andThen char (readBasic rest)
  | '\\' :: 'U' :: a :: b :: c :: d :: e :: f :: g :: h :: rest => do
    let char ← charOf (← hexNumber [a, b, c, d, e, f, g, h])
    andThen char (readBasic rest)
  | '\\' :: c :: rest => do andThen (← escaped c) (readBasic rest)
  | c :: rest => if isPlain c ∧ c ≠ '\\' then andThen c (readBasic rest) else none

/-- Reads a string on one line up to its closing apostrophe. -/
def readLiteral : List Char → Option (List Char × List Char)
  | [] => none
  | c :: rest =>
    if c = apostrophe then some ([], rest)
    else if isPlain c then andThen c (readLiteral rest)
    else none

/-- One or two marks may stand right before the closing ones. -/
def closing (mark : Char) : List Char → List Char × List Char
  | a :: b :: rest =>
    if a = mark then if b = mark then ([mark, mark], rest) else ([mark], b :: rest)
    else ([], a :: b :: rest)
  | [a] => if a = mark then ([mark], []) else ([], [a])
  | [] => ([], [])

/-- What blanks mean while a string that spans lines is read. -/
inductive LineMode where
  /-- They belong to the string. -/
  | kept
  /-- A backslash was read, and only blanks may stand before the end of the line. -/
  | ending
  /-- They are skipped up to the next word. -/
  | skipped
deriving DecidableEq

/-- Reads a string that spans lines up to its closing quotes. -/
def readMultiline (mode : LineMode) : List Char → Option (List Char × List Char)
  | [] => none
  | '\r' :: '\n' :: rest =>
    if mode = .kept then andThen '\n' (readMultiline .kept rest) else readMultiline .skipped rest
  | '\n' :: rest =>
    if mode = .kept then andThen '\n' (readMultiline .kept rest) else readMultiline .skipped rest
  | '"' :: '"' :: '"' :: rest =>
    if mode = .ending then none else some (closing '"' rest)
  | '\\' :: 'u' :: a :: b :: c :: d :: rest => do
    if mode = .ending then none
    let char ← charOf (← hexNumber [a, b, c, d])
    andThen char (readMultiline .kept rest)
  | '\\' :: 'U' :: a :: b :: c :: d :: e :: f :: g :: h :: rest => do
    if mode = .ending then none
    let char ← charOf (← hexNumber [a, b, c, d, e, f, g, h])
    andThen char (readMultiline .kept rest)
  | '\\' :: c :: rest =>
    if mode = .ending then none
    else if c = ' ' ∨ c = '\t' then readMultiline .ending rest
    else if c = '\n' then readMultiline .skipped rest
    else if c = '\r' then match rest with
      | '\n' :: rest => readMultiline .skipped rest
      | _ => none
    else do andThen (← escaped c) (readMultiline .kept rest)
  | c :: rest =>
    if c = ' ' ∨ c = '\t' then
      if mode = .kept then andThen c (readMultiline .kept rest) else readMultiline mode rest
    else if mode = .ending then none
    else if isPlain c ∧ c ≠ '\\' then andThen c (readMultiline .kept rest)
    else none

/-- Reads a string that spans lines up to its closing apostrophes. -/
def readMultilineLiteral : List Char → Option (List Char × List Char)
  | [] => none
  | '\r' :: '\n' :: rest => andThen '\n' (readMultilineLiteral rest)
  | '\n' :: rest => andThen '\n' (readMultilineLiteral rest)
  | a :: b :: c :: rest =>
    if a = apostrophe ∧ b = apostrophe ∧ c = apostrophe then some (closing apostrophe rest)
    else if isPlain a then andThen a (readMultilineLiteral (b :: c :: rest))
    else none
  | _ :: _ => none

/-- The text without the line break that it begins with. -/
def dropLineBreak : List Char → List Char
  | '\n' :: rest => rest
  | '\r' :: '\n' :: rest => rest
  | cs => cs

/-- Reads a string in any of its forms. -/
def readString : List Char → Option (List Char × List Char)
  | '"' :: '"' :: '"' :: rest => readMultiline .kept (dropLineBreak rest)
  | '"' :: rest => readBasic rest
  | a :: b :: c :: rest =>
    if a = apostrophe then
      if b = apostrophe ∧ c = apostrophe then readMultilineLiteral (dropLineBreak rest)
      else readLiteral (b :: c :: rest)
    else none
  | [a, b] => if a = apostrophe then readLiteral [b] else none
  | _ => none

/-- The length of the longest run of a mark, of which `run` have just been met. -/
def longestRun (mark : Char) (run : Nat) : List Char → Nat
  | [] => run
  | c :: rest => if c = mark then longestRun mark (run + 1) rest
    else max run (longestRun mark 0 rest)

/-- A control character that has to be escaped, tabs and line breaks aside. -/
def isControl (c : Char) : Bool := (c.toNat < 32 && c != '\t' && c != '\n') || c.toNat == 127

/-- The escape of a character, if it has to be escaped. -/
def escape (multiline : Bool) (c : Char) : Option (List Char) :=
  if c = '\\' then some ['\\', '\\']
  else if c.toNat = 8 then some ['\\', 'b']
  else if c = '\t' then some ['\\', 't']
  else if c = '\n' then if multiline then none else some ['\\', 'n']
  else if c.toNat = 12 then some ['\\', 'f']
  else if c = '\r' then some ['\\', 'r']
  else if isControl c then
    some ['\\', 'u', '0', '0', Text.upperHexDigit (c.toNat / 16), Text.upperHexDigit (c.toNat % 16)]
  else none

/-- The text with escapes; quotes are escaped where more than the admitted number would follow one
another, `run` being those just written. -/
def escapeText (multiline : Bool) (run : Nat) : List Char → List Char
  | [] => []
  | c :: rest =>
    if c = '"' then
      if (if multiline then 2 else 0) ≤ run then '\\' :: '"' :: escapeText multiline 0 rest
      else '"' :: escapeText multiline (run + 1) rest
    else match escape multiline c with
      | some text => text ++ escapeText multiline 0 rest
      | none => c :: escapeText multiline 0 rest

/-- A string between quotes. -/
def quoteBasic (cs : List Char) : List Char := '"' :: (escapeText false 0 cs ++ ['"'])

/-- A line break after the opening marks of a string that has line breaks. -/
def leadingBreak (cs : List Char) : List Char := if cs.contains '\n' then ['\n'] else []

/-- A string between tripled quotes. -/
def quoteMultiline (cs : List Char) : List Char :=
  ['"', '"', '"'] ++ leadingBreak cs ++ escapeText true 0 cs ++ ['"', '"', '"']

/-- A string between tripled apostrophes. -/
def quoteMultilineLiteral (cs : List Char) : List Char :=
  let marks := List.replicate 3 apostrophe
  marks ++ leadingBreak cs ++ cs ++ marks

/-- The plainest form of a string: between quotes if nothing has to be escaped, else between
apostrophes, else between tripled marks, and with escapes if there is no other way. -/
def quote (cs : List Char) : List Char :=
  let control := cs.any isControl
  let backslash := cs.contains '\\'
  let lines := cs.contains '\n'
  let quotes := longestRun '"' 0 cs
  let apostrophes := longestRun apostrophe 0 cs
  if !control && !backslash && quotes == 0 && !lines then quoteBasic cs
  else if !control && apostrophes == 0 && !lines then apostrophe :: (cs ++ [apostrophe])
  else if !control && !backslash && quotes ≤ 2 then quoteMultiline cs
  else if !control && apostrophes ≤ 2 then quoteMultilineLiteral cs
  else if lines then quoteMultiline cs
  else quoteBasic cs

end FacetSearch.Toml
