import FacetSearch.Text.Blank
import FacetSearch.Text.Hex

/-!
# Tables of characters

Properties of Unicode characters are written as lines of words. A word is a character or a range of
characters in hexadecimal, as in `AD` or `FE00-FE0F`, perhaps with values after an equals sign, as
in `132=69.6A`. A plus sign at the end says that the value grows with the character: in
`B2-B3=32+` the values are 32 and 33.
-/

namespace FacetSearch.Text

/-- What a table says about the characters from `first` to `last`. -/
structure CharRow where
  first : Nat
  last : Nat
  values : List Nat
  /-- The values are those of the first character, and grow with the character. -/
  grows : Bool

namespace CharRow

def contains (row : CharRow) (n : Nat) : Bool := row.first ≤ n && n ≤ row.last

/-- The values of a character of the row. -/
def valuesOf (row : CharRow) (n : Nat) : List Nat :=
  if row.grows then row.values.map (· + (n - row.first)) else row.values

/-- The row that a word stands for. -/
def ofWord (word : List Char) : CharRow :=
  let number (cs : List Char) : Nat := cs.foldl (fun n c ↦ 16 * n + (hexValue c).getD 0) 0
  let range := pieces '-' (word.takeWhile (· ≠ '='))
  let values := ((word.dropWhile (· ≠ '=')).drop 1).filter (· ≠ '+')
  { first := number (range.headD [])
    last := number (range.getLastD [])
    values := if values.isEmpty then [] else (pieces '.' values).map number
    grows := word.contains '+' }

end CharRow

/-- The table with the given lines. -/
def readTable (lines : List String) : List CharRow :=
  lines.flatMap fun line ↦ ((pieces ' ' line.toList).map CharRow.ofWord)

/-- The row of a character. -/
def rowOf? (table : List CharRow) (c : Char) : Option CharRow :=
  table.find? fun row ↦ row.contains c.toNat

/-- The values of a character. -/
def valuesOf? (table : List CharRow) (c : Char) : Option (List Nat) :=
  (rowOf? table c).map fun row ↦ row.valuesOf c.toNat

def isInTable (table : List CharRow) (c : Char) : Bool := (rowOf? table c).isSome

end FacetSearch.Text
