import FacetSearch.Json.Literal

/-!
# Reading decimal numbers

A decimal number has an optional sign, digits with an optional point among, before or after them,
and an optional exponent. It is read to the nearest double, in one rounding of its exact value;
a number beyond the finite doubles is not read.
-/

namespace FacetSearch.Decimal

open Literal (digitsValue)

/-- Reads a sign, which says whether the number is negative. -/
def readSign : List Char → Bool × List Char
  | '-' :: rest => (true, rest)
  | '+' :: rest => (false, rest)
  | cs => (false, cs)

/-- Reads the digits of a number and gives how many stand after the point. -/
def readMantissa (cs : List Char) : Option (List Char × Nat × List Char) :=
  let whole := cs.takeWhile Char.isDigit
  let (fraction, rest) := match cs.dropWhile Char.isDigit with
    | '.' :: rest => (rest.takeWhile Char.isDigit, rest.dropWhile Char.isDigit)
    | rest => ([], rest)
  if whole.isEmpty && fraction.isEmpty then none
  else some (whole ++ fraction, fraction.length, rest)

/-- Reads the exponent that ends a number. -/
def readExponent : List Char → Option Int
  | [] => some 0
  | c :: rest =>
    if c = 'e' ∨ c = 'E' then
      let (negative, digits) := readSign rest
      if digits.isEmpty || !digits.all Char.isDigit then none
      else if negative then some (-(digitsValue digits : Int))
      else some (digitsValue digits)
    else none

/-- The double nearest to the number that a text stands for. -/
def read? (text : List Char) : Option Binary64 := do
  let (negative, rest) := readSign text
  let (digits, decimals, rest) ← readMantissa rest
  let exponent ← readExponent rest
  Binary64.ofDecimal? negative (digitsValue digits) (exponent - decimals)

end FacetSearch.Decimal
