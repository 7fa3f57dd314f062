import FacetSearch.Toml.Basic
import FacetSearch.Json.Literal
import FacetSearch.Text.Hex

/-!
# Numbers, booleans and times in TOML

A value that is no string and no container is one token without blanks, except that a blank may
stand between a date and a time. Integers are decimal with an optional sign, or hexadecimal, octal
or binary; an underscore may stand between two digits. Integers beyond 64 bits are refused, and so
is a float beyond the greatest.
-/

namespace FacetSearch.Toml

open Literal (digitsValue)

/-- The value of a digit in a base up to sixteen. -/
def digitIn (base : Nat) (c : Char) : Option Nat :=
  (Text.hexValue c).filter (· < base)

/-- The digits of a number in a base, with the underscores between them taken out. -/
def ungrouped (base : Nat) : List Char → Option (List Char)
  | [] => none
  | [c] => (digitIn base c).map fun _ ↦ [c]
  | c :: '_' :: rest => do
    let _ ← digitIn base c
    (ungrouped base rest).map (c :: ·)
  | c :: rest => do
    let _ ← digitIn base c
    (ungrouped base rest).map (c :: ·)

def valueIn (base : Nat) (digits : List Char) : Nat :=
  digits.foldl (fun n c ↦ base * n + (digitIn base c).getD 0) 0

/-- Digits without a leading zero, unless zero is the only one. -/
def readDecimal (cs : List Char) : Option (List Char) :=
  match ungrouped 10 cs with
  | some ('0' :: _ :: _) => none
  | digits => digits

/-- An integer that 64 bits hold. -/
def fitsInt64 (i : Int) : Bool := Int64.minValue.toInt ≤ i && i ≤ Int64.maxValue.toInt

def boundedInteger (i : Int) : Option Toml := if fitsInt64 i then some (.integer i) else none

def withoutSign : List Char → Bool × List Char
  | '-' :: rest => (true, rest)
  | '+' :: rest => (false, rest)
  | cs => (false, cs)

def readInteger : List Char → Option Toml
  | '0' :: 'x' :: rest => (ungrouped 16 rest).bind fun digits ↦ boundedInteger (valueIn 16 digits)
  | '0' :: 'o' :: rest => (ungrouped 8 rest).bind fun digits ↦ boundedInteger (valueIn 8 digits)
  | '0' :: 'b' :: rest => (ungrouped 2 rest).bind fun digits ↦ boundedInteger (valueIn 2 digits)
  | cs =>
    let (negative, rest) := withoutSign cs
    (readDecimal rest).bind fun digits ↦
      boundedInteger (if negative then -(digitsValue digits : Int) else digitsValue digits)

/-- The exponent of a float, if it is well formed. -/
def readExponent (cs : List Char) : Option Int :=
  let (negative, digits) := withoutSign cs
  (ungrouped 10 digits).map fun digits ↦
    if negative then -(digitsValue digits : Int) else digitsValue digits

/-- The parts of a text before and after the first character of a kind. -/
def splitAtFirst (p : Char → Bool) (cs : List Char) : List Char × Option (List Char) :=
  match cs.dropWhile fun c ↦ !p c with
  | [] => (cs, none)
  | _ :: rest => (cs.takeWhile fun c ↦ !p c, some rest)

def isExponentMark (c : Char) : Bool := c == 'e' || c == 'E'

/-- A float has a fraction or an exponent, or is infinite or no number. -/
def readFloat (cs : List Char) : Option Toml := do
  let (negative, rest) := withoutSign cs
  if rest = ['i', 'n', 'f'] ∨ rest = ['n', 'a', 'n'] then return .float (String.ofList cs)
  let (mantissa, exponent?) := splitAtFirst isExponentMark rest
  let (whole, fraction?) := splitAtFirst (· == '.') mantissa
  if exponent?.isNone && fraction?.isNone then none
  let whole ← readDecimal whole
  let fraction ← match fraction? with
    | none => some []
    | some digits => ungrouped 10 digits
  let exponent ← match exponent? with
    | none => some 0
    | some text => readExponent text
  let value? := Binary64.ofDecimal? negative (digitsValue (whole ++ fraction))
    (exponent - fraction.length)
  if value?.isNone && !negative then none
  return .float (String.ofList cs)

/-- The number that exactly that many digits stand for. -/
def fixedDigits (count : Nat) (cs : List Char) : Option Nat :=
  if cs.length = count ∧ cs.all Char.isDigit then some (digitsValue cs) else none

def daysIn (year month : Nat) : Nat :=
  if month = 2 then
    if (year % 4 = 0 ∧ year % 100 ≠ 0) ∨ year % 400 = 0 then 29 else 28
  else if month = 4 ∨ month = 6 ∨ month = 9 ∨ month = 11 then 30
  else 31

/-- A date, written year, month and day with dashes. -/
def isDate (cs : List Char) : Bool :=
  (do
    let year ← fixedDigits 4 (cs.take 4)
    let month ← fixedDigits 2 ((cs.drop 5).take 2)
    let day ← fixedDigits 2 (cs.drop 8)
    some (cs[4]? == some '-' && cs[7]? == some '-' && 1 ≤ month && month ≤ 12 && 1 ≤ day &&
      day ≤ daysIn year month)).getD false

/-- Hours and minutes with a colon between them. -/
def isHourMinute (cs : List Char) : Bool :=
  (do
    let hour ← fixedDigits 2 (cs.take 2)
    let minute ← fixedDigits 2 (cs.drop 3)
    some (cs[2]? == some ':' && hour ≤ 23 && minute ≤ 59)).getD false

/-- A time with seconds, which may have a fraction. -/
def isTime (cs : List Char) : Bool :=
  isHourMinute (cs.take 5) && cs[5]? == some ':' &&
    ((fixedDigits 2 ((cs.drop 6).take 2)).any (· ≤ 60)) &&
    (match cs.drop 8 with
      | [] => true
      | '.' :: fraction => !fraction.isEmpty && fraction.all Char.isDigit
      | _ => false)

/-- A difference from universal time: none, or a signed one. -/
def isOffset : List Char → Bool
  | ['Z'] | ['z'] => true
  | '+' :: rest | '-' :: rest => isHourMinute rest
  | _ => false

/-- A time that an offset may follow. -/
def isOffsetTime (cs : List Char) : Bool :=
  let isEnd (c : Char) : Bool := c == 'Z' || c == 'z' || c == '+' || c == '-'
  isTime cs || (isTime (cs.takeWhile fun c ↦ !isEnd c) && isOffset (cs.dropWhile fun c ↦ !isEnd c))

/-- A date, a time, or both with a letter or a blank between them. -/
def readDateTime (cs : List Char) : Option Toml :=
  let isBoth := isDate (cs.take 10) &&
    (cs[10]?.any fun c ↦ c == 'T' || c == 't' || c == ' ') && isOffsetTime (cs.drop 11)
  if isDate cs || isTime cs || isBoth then some (.dateTime (String.ofList cs)) else none

/-- A character of a token. -/
def isTokenChar (c : Char) : Bool :=
  c.isAlphanum || c == '_' || c == '+' || c == '-' || c == '.' || c == ':'

/-- Splits off a token; a date takes a time after a blank with it. -/
def splitToken (cs : List Char) : List Char × List Char :=
  let token := cs.takeWhile isTokenChar
  match isDate token, cs.dropWhile isTokenChar with
  | true, ' ' :: c :: rest =>
    if c.isDigit then
      (token ++ ' ' :: (c :: rest).takeWhile isTokenChar, (c :: rest).dropWhile isTokenChar)
    else (token, ' ' :: c :: rest)
  | _, rest => (token, rest)

/-- The value of a token. -/
def readToken (token : List Char) : Option Toml :=
  if token = ['t', 'r', 'u', 'e'] then some (.boolean true)
  else if token = ['f', 'a', 'l', 's', 'e'] then some (.boolean false)
  else readInteger token <|> readFloat token <|> readDateTime token

end FacetSearch.Toml
