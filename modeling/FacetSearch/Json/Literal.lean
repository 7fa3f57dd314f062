import FacetSearch.Json.Basic

/-!
# Number literals

A literal without fraction and exponent is an integer when it fits 64 bits, signed if negative and
unsigned otherwise. Any other literal is a number of the binary format, in the following arithmetic:
leading digits are gathered while they fit an unsigned 64-bit significand, the significand is
rounded, and the result is scaled by a power of ten, with one rounding for every step of at most
308 places. A literal whose value lies beyond the finite numbers has none.
-/

namespace FacetSearch

/-- The parts of a number literal, each a list of digits. -/
structure Literal where
  negative : Bool
  whole : List Char
  fraction : Option (List Char)
  exponent : Option (Bool × List Char)

namespace Literal

def digitValue (c : Char) : Nat := c.toNat - 48

def digitsValue (digits : List Char) : Nat :=
  digits.foldl (fun n c ↦ 10 * n + digitValue c) 0

/-- Splits off the digits in front; there must be one. -/
def readDigits (cs : List Char) : Option (List Char × List Char) :=
  match cs.takeWhile Char.isDigit with
  | [] => none
  | digits => some (digits, cs.dropWhile Char.isDigit)

/-- Reads the digits before the point, where a leading zero stands alone. -/
def readWhole : List Char → Option (List Char × List Char)
  | '0' :: rest => match rest with
    | c :: _ => if c.isDigit then none else some (['0'], rest)
    | [] => some (['0'], rest)
  | cs => readDigits cs

def readFraction : List Char → Option (Option (List Char) × List Char)
  | '.' :: rest => (readDigits rest).map fun (digits, rest) ↦ (some digits, rest)
  | cs => some (none, cs)

/-- Reads the digits of an exponent after its sign, which says whether it is negative. -/
def readSigned (negative : Bool) (cs : List Char) :
    Option (Option (Bool × List Char) × List Char) :=
  (readDigits cs).map fun (digits, rest) ↦ (some (negative, digits), rest)

def readExponent : List Char → Option (Option (Bool × List Char) × List Char)
  | c :: rest =>
    if c = 'e' ∨ c = 'E' then match rest with
      | '+' :: rest => readSigned false rest
      | '-' :: rest => readSigned true rest
      | _ => readSigned false rest
    else some (none, c :: rest)
  | [] => some (none, [])

def readUnsigned (negative : Bool) (cs : List Char) : Option (Literal × List Char) := do
  let (whole, cs) ← readWhole cs
  let (fraction, cs) ← readFraction cs
  let (exponent, cs) ← readExponent cs
  some (⟨negative, whole, fraction, exponent⟩, cs)

/-- Reads a literal and gives the text after it. -/
def read : List Char → Option (Literal × List Char)
  | '-' :: rest => readUnsigned true rest
  | cs => readUnsigned false cs

/-- Gathers digits into a significand while it fits 64 bits, and counts those taken. -/
def gather (significand : Nat) : List Char → Nat × Nat
  | [] => (significand, 0)
  | c :: rest =>
    let next := 10 * significand + digitValue c
    if next < UInt64.size then
      let (result, taken) := gather next rest
      (result, taken + 1)
    else (significand, 0)

/-- The double nearest to a power of ten. -/
def tenTo (n : Nat) : Binary64 := (Binary64.ofDecimal? false 1 n).getD default

/-- Scales by a power of ten, with one rounding for every step of at most 308 places. -/
def scale (x : Binary64) (exponent : Int) : Option Binary64 :=
  if x.position = 0 then some x
  else if 308 < exponent then none
  else if 0 ≤ exponent then x.mul? (tenTo exponent.toNat)
  else if -308 ≤ exponent then x.div? (tenTo (-exponent).toNat)
  else do
    let smaller ← x.div? (tenTo 308)
    if -616 ≤ exponent then smaller.div? (tenTo (-exponent - 308).toNat)
    else some (Binary64.zero x.negative)

def exponentValue (literal : Literal) : Int :=
  match literal.exponent with
  | none => 0
  | some (negative, digits) =>
    if negative then -(digitsValue digits : Int) else digitsValue digits

/-- The number that a literal stands for, unless it lies beyond the finite ones. -/
def value? (literal : Literal) : Option Number :=
  let (significand, taken) := gather 0 literal.whole
  let dropped := literal.whole.length - taken
  let isInteger := literal.fraction.isNone && literal.exponent.isNone && dropped == 0
  if isInteger && !literal.negative then some (.int significand)
  else if isInteger && 0 < significand && 2 * significand ≤ UInt64.size then
    some (.int (-significand))
  else do
    let (significand, decimals) := gather significand (literal.fraction.getD [])
    let mantissa ← Binary64.round? literal.negative (significand * Binary64.unitsPerOne) 1
    let x ← scale mantissa (dropped - decimals + literal.exponentValue)
    some (.float x)

end Literal

end FacetSearch
