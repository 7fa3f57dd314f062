/-!
# Punycode

The label of a domain in ASCII: its ASCII characters, and then, for each other character in
ascending order, the distance from the one before in digits of base 36. The thresholds between
digits adapt to the distances written so far. Numbers that do not fit into 32 bits are not read.
-/

namespace FacetSearch.Domain.Punycode

def digit (n : Nat) : Char := if n < 26 then Char.ofNat (97 + n) else Char.ofNat (22 + n)

/-- The threshold of a digit at a position. -/
def threshold (bias position : Nat) : Nat :=
  if position ≤ bias then 1 else min 26 (position - bias)

/-- The digits of a distance. -/
def distance (bias : Nat) : (fuel position n : Nat) → List Char
  | 0, _, _ => []
  | fuel + 1, position, n =>
    let t := threshold bias position
    if n < t then [digit n]
    else digit (t + (n - t) % (36 - t)) :: distance bias fuel (position + 36) ((n - t) / (36 - t))

/-- The bias for a distance that has been scaled. -/
def biasFor : (fuel scaled bias : Nat) → Nat
  | 0, _, bias => bias
  | fuel + 1, scaled, bias =>
    if 455 < scaled then biasFor fuel (scaled / 35) (bias + 36)
    else bias + 36 * scaled / (scaled + 38)

/-- The bias after a distance, when `count` characters have been written. -/
def adapt (n count : Nat) (first : Bool) : Nat :=
  let scaled := if first then n / 700 else n / 2
  biasFor (scaled + 1) (scaled + scaled / count) 0

/-! ## Writing -/

/-- How far a label has been written. -/
structure Progress where
  written : List Char
  /-- The distance that has not been written yet. -/
  pending : Nat
  bias : Nat
  count : Nat

/-- Passes over a character while those with the value `current` are written. -/
def pass (basicCount current : Nat) (progress : Progress) (c : Char) : Progress :=
  if c.toNat < current then { progress with pending := progress.pending + 1 }
  else if c.toNat = current then {
    written := progress.written ++
      distance progress.bias (progress.pending + 1) 36 progress.pending
    pending := 0
    bias := adapt progress.pending (progress.count + 1) (progress.count == basicCount)
    count := progress.count + 1 }
  else progress

/-- Writes the characters with the given values, in ascending order. -/
def writeAll (label : List Char) (basicCount : Nat) :
    (from? : Nat) → List Nat → Progress → Progress
  | _, [], progress => progress
  | from?, current :: others, progress =>
    let skipped := { progress with
      pending := progress.pending + (current - from?) * (progress.count + 1) }
    let passed := label.foldl (pass basicCount current) skipped
    writeAll label basicCount (current + 1) others { passed with pending := passed.pending + 1 }

/-- A number put into an ascending list, unless it is there. -/
def insert (n : Nat) : List Nat → List Nat
  | [] => [n]
  | m :: rest => if n < m then n :: m :: rest else if n = m then m :: rest else m :: insert n rest

def isBasic (c : Char) : Bool := c.toNat < 0x80

/-- A label in ASCII, without the mark that tells it from others. -/
def encode (label : List Char) : List Char :=
  let basic := label.filter isBasic
  let others := (label.filter fun c ↦ !isBasic c).foldr (fun c found ↦ insert c.toNat found) []
  let progress := writeAll label basic.length 0x80 others ⟨[], 0, 72, basic.length⟩
  (if basic.isEmpty then [] else basic ++ ['-']) ++ progress.written

/-! ## Reading -/

/-- The value of a digit. -/
def digitValue (c : Char) : Option Nat :=
  if 'a' ≤ c ∧ c ≤ 'z' then some (c.toNat - 97) else if c.isDigit then some (c.toNat - 22) else none

/-- How far a label has been read. -/
structure Reading where
  label : List Char
  /-- The value of the character that is inserted next, if its place is in the label. -/
  value : Nat
  /-- The place behind the last character that was inserted. -/
  start : Nat
  /-- The place of the next character, as far as its digits have been read. -/
  place : Nat
  bias : Nat
  /-- What the next digit is multiplied by. -/
  weight : Nat
  position : Nat

namespace Reading

/-- Numbers from this one on are not read. -/
def limit : Nat := 0x100000000

/-- The reading after a character has been inserted at the place that has been read. -/
def insertNext (reading : Reading) : Option Reading :=
  let count := reading.label.length + 1
  let value := reading.value + reading.place / count
  let place := reading.place % count
  if value.isValidChar then some {
    label := reading.label.take place ++ Char.ofNat value :: reading.label.drop place
    value := value
    start := place + 1
    place := place + 1
    bias := adapt (reading.place - reading.start) count (reading.start == 0)
    weight := 1
    position := 36 }
  else none

/-- The reading after a further digit. -/
def step (reading : Reading) (c : Char) : Option Reading := do
  let digit ← digitValue c
  let place := reading.place + digit * reading.weight
  let threshold := threshold reading.bias reading.position
  let weight := reading.weight * (36 - threshold)
  if limit ≤ place then none
  else if digit < threshold then insertNext { reading with place := place }
  else if limit ≤ weight then none
  else some { reading with place := place, weight := weight, position := reading.position + 36 }

end Reading

/-- The basic characters of a label and the digits after them. -/
def splitBasic (cs : List Char) : List Char × List Char :=
  match cs.reverse.dropWhile (· ≠ '-') with
  | _ :: first :: others => ((first :: others).reverse, (cs.reverse.takeWhile (· ≠ '-')).reverse)
  | _ => ([], cs)

/-- The label that a text without the mark stands for. -/
def decode (cs : List Char) : Option (List Char) := do
  let (basic, digits) := splitBasic cs
  let reading ← digits.foldlM Reading.step ⟨basic, 0x80, 0, 0, 72, 1, 36⟩
  if reading.position = 36 then some reading.label else none

end FacetSearch.Domain.Punycode
