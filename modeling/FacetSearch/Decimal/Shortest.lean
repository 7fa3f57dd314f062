import FacetSearch.Decimal.Binary

/-!
# Shortest decimal text

The digits of a binary number are the fewest that read back as that number and, among as many
digits, those nearest to it. A number of `count` digits that comes into question is one of the two
neighbours of the value on the grid of that many digits; the nearer is tried first, a tie in favour
of the even one. Reading back is `roundPosition`, the rounding of `FacetSearch.Decimal.Binary`.

How digits are laid out is a `FloatLayout`: which decimal exponents are written positionally, and
how the exponent of the others is marked.
-/

namespace FacetSearch

/-- The number `digits · 10 ^ exponent`. -/
structure Digits where
  digits : Nat
  exponent : Int
deriving DecidableEq

/-- A binary format: the bits of its fraction, and the number of its units in one. -/
structure BinaryFormat where
  fraction : Nat
  unitsPerOne : Nat

def BinaryFormat.double : BinaryFormat := ⟨52, twoPow 1074⟩

def BinaryFormat.single : BinaryFormat := ⟨23, twoPow 149⟩

namespace BinaryFormat

variable (format : BinaryFormat)

/-- The position of the magnitude nearest to a decimal number. -/
def nearest (d : Digits) : Nat :=
  if 0 ≤ d.exponent then
    roundPosition format.fraction (d.digits * tenPow d.exponent.toNat * format.unitsPerOne) 1
  else roundPosition format.fraction (d.digits * format.unitsPerOne) (tenPow (-d.exponent).toNat)

/-- The decimal digits before the point of the magnitude of that many units, less the zeros after
it. -/
def decimalOrder (units : Nat) : Int :=
  (decimalLength (units * tenPow 350 / format.unitsPerOne) : Int) - 350

/-- The two neighbours of a number of units on the grid of the multiples of `10 ^ exponent`, the
nearer first. -/
def neighbours (units : Nat) (exponent : Int) : List Digits :=
  let (n, d) :=
    if 0 ≤ exponent then (units, format.unitsPerOne * tenPow exponent.toNat)
    else (units * tenPow (-exponent).toNat, format.unitsPerOne)
  let below := n / d
  let near := divHalfEven n d
  [⟨near, exponent⟩, ⟨if near = below then below + 1 else below, exponent⟩]

/-- The numbers of one digit, of two, and so on up to seventeen that lie next to a number of
units. -/
def candidates (units : Nat) : List Digits :=
  let order := format.decimalOrder units
  (List.range 17).flatMap fun shorter ↦
    format.neighbours units (order - ((shorter + 1 : Nat) : Int))

/-- The first candidate that reads back as the magnitude at a position, or else its exact value. -/
def shortest (position : Nat) : Digits :=
  let units := positionUnits format.fraction position
  ((format.candidates units).find? fun d ↦ format.nearest d == position).getD
    ⟨units * Nat.pow 5 format.unitsPerOne.log2, -format.unitsPerOne.log2⟩

end BinaryFormat

/-- Which decimal exponents are written positionally. -/
structure FloatLayout where
  leastPositional : Int
  greatestPositional : Int

/-- The digits without trailing zeros, with the exponent they then have. -/
def Digits.strip (d : Digits) : List Char × Int :=
  let all := Nat.toDigits 10 d.digits
  let kept := (all.reverse.dropWhile (· == '0')).reverse
  (kept, d.exponent + (all.length - kept.length : Nat))

def intText (i : Int) : List Char :=
  if i < 0 then '-' :: Nat.toDigits 10 i.natAbs else Nat.toDigits 10 i.natAbs

/-- The text of a magnitude: with a point and at least one digit on both sides of it, or else in
scientific form with a signed exponent. -/
def FloatLayout.text (layout : FloatLayout) (d : Digits) : List Char :=
  let (digits, exponent) := d.strip
  let leading : Int := exponent + digits.length - 1
  if digits.isEmpty then ['0', '.', '0']
  else if leading < layout.leastPositional ∨ layout.greatestPositional < leading then
    let mantissa := match digits with
      | first :: second :: rest => first :: '.' :: second :: rest
      | short => short
    mantissa ++ 'e' :: (if leading < 0 then intText leading else '+' :: intText leading)
  else if 0 ≤ exponent then
    digits ++ List.replicate exponent.toNat '0' ++ ['.', '0']
  else if 0 ≤ leading then
    digits.take (leading.toNat + 1) ++ '.' :: digits.drop (leading.toNat + 1)
  else '0' :: '.' :: (List.replicate (-leading - 1).toNat '0' ++ digits)

end FacetSearch
