import FacetSearch.Json.Basic
import FacetSearch.Decimal.Shortest
import FacetSearch.Text.Hex

/-!
# JSON text

The compact text of a value has no blanks; the pretty text has a line for each element and member,
indented by two spaces. Strings escape the quote, the backslash and the characters below space.
Numbers of the binary format are written with their shortest digits, positionally for decimal
exponents from -5 to 15, so that a point or an exponent tells them from integers.
-/

namespace FacetSearch

/-- Exponents from -5 to 15 are positional. -/
def Number.layout : FloatLayout := ⟨-5, 15⟩

/-- The text of a number. -/
def Number.text : Number → List Char
  | int i => intText i
  | float x =>
    let magnitude := layout.text (BinaryFormat.double.shortest x.position)
    if x.negative then '-' :: magnitude else magnitude

namespace Json

/-- A character as it stands in a string. -/
def escapeChar (c : Char) : List Char :=
  if c = '"' then ['\\', '"']
  else if c = '\\' then ['\\', '\\']
  else if c.toNat = 8 then ['\\', 'b']
  else if c.toNat = 9 then ['\\', 't']
  else if c.toNat = 10 then ['\\', 'n']
  else if c.toNat = 12 then ['\\', 'f']
  else if c.toNat = 13 then ['\\', 'r']
  else if c.toNat < 32 then
    ['\\', 'u', '0', '0', Text.hexDigit (c.toNat / 16), Text.hexDigit (c.toNat % 16)]
  else [c]

/-- A string between quotes. -/
def quoted (s : String) : List Char := '"' :: (s.toList.flatMap escapeChar ++ ['"'])

mutual

/-- The compact text of a value. -/
def text : Json → List Char
  | null => ['n', 'u', 'l', 'l']
  | bool true => ['t', 'r', 'u', 'e']
  | bool false => ['f', 'a', 'l', 's', 'e']
  | num n => n.text
  | str s => quoted s
  | arr elements => '[' :: (elementsText elements ++ [']'])
  | obj members => '{' :: (membersText members ++ ['}'])

/-- The texts of elements, with commas between them. -/
def elementsText : List Json → List Char
  | [] => []
  | [last] => text last
  | element :: rest => text element ++ ',' :: elementsText rest

/-- The texts of members, with commas between them. -/
def membersText : List (String × Json) → List Char
  | [] => []
  | [(name, value)] => quoted name ++ ':' :: text value
  | (name, value) :: rest => quoted name ++ ':' :: (text value ++ ',' :: membersText rest)

end

/-- The compact text of a value as a string. -/
def compact (json : Json) : String := String.ofList json.text

def lineBreak (depth : Nat) : List Char := '\n' :: List.replicate (2 * depth) ' '

mutual

/-- The pretty text of a value that stands `depth` levels deep. -/
def prettyText (depth : Nat) : Json → List Char
  | arr (element :: rest) =>
    '[' :: (prettyElements (depth + 1) (element :: rest) ++ lineBreak depth ++ [']'])
  | obj (member :: rest) =>
    '{' :: (prettyMembers (depth + 1) (member :: rest) ++ lineBreak depth ++ ['}'])
  | arr [] => ['[', ']']
  | obj [] => ['{', '}']
  | null => text null
  | bool b => text (bool b)
  | num n => text (num n)
  | str s => text (str s)

/-- Elements on lines of their own, with commas after all but the last. -/
def prettyElements (depth : Nat) : List Json → List Char
  | [] => []
  | [last] => lineBreak depth ++ prettyText depth last
  | element :: rest =>
    lineBreak depth ++ prettyText depth element ++ ',' :: prettyElements depth rest

/-- Members on lines of their own, with commas after all but the last. -/
def prettyMembers (depth : Nat) : List (String × Json) → List Char
  | [] => []
  | [(name, value)] => lineBreak depth ++ quoted name ++ ':' :: ' ' :: prettyText depth value
  | (name, value) :: rest =>
    lineBreak depth ++ quoted name ++ ':' :: ' ' :: prettyText depth value ++
      ',' :: prettyMembers depth rest

end

/-- The pretty text of a value as a string. -/
def pretty (json : Json) : String := String.ofList (prettyText 0 json)

end Json

end FacetSearch
