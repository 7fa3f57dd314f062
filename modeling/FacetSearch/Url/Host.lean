import FacetSearch.Domain.Name
import FacetSearch.Error
import FacetSearch.Text.Utf8
import FacetSearch.Url.Percent

/-!
# Hosts of URLs

A host is a domain or an address. A domain that ends in a number has to be an address of version 4,
whose parts may be decimal, octal or hexadecimal and of which the last one fills what is missing.
Addresses of version 6 stand between brackets and are written with their longest run of zeros left
out.
-/

namespace FacetSearch

inductive Host where
  | domain (name : String)
  | ipv4 (address : Nat)
  | ipv6 (parts : List Nat)
deriving DecidableEq

namespace Host

/-! ## Domains -/

/-- The domain that a text stands for, whose octets may be encoded. -/
def domainOf (cs : List Char) : Option (List Char) :=
  (Utf8.decode? (Percent.decode cs)).bind Domain.ofText

/-! ## Addresses of version 4 -/

/-- The digits of a number and their base. -/
def baseOf : List Char → Nat × List Char
  | '0' :: 'x' :: rest | '0' :: 'X' :: rest => (16, rest)
  | '0' :: c :: rest => (8, c :: rest)
  | cs => (10, cs)

/-- The number that a part of an address stands for. -/
def numberOf (part : List Char) : Option Nat :=
  if part.isEmpty then none
  else
    let (base, digits) := baseOf part
    digits.foldlM (fun n c ↦ ((Text.hexValue c).filter (· < base)).map (base * n + ·)) 0

/-- The parts of a domain, an empty last one left out. -/
def partsOf (domain : List Char) : List (List Char) :=
  let parts := Text.pieces '.' domain
  if 1 < parts.length && parts.getLast? == some [] then parts.dropLast else parts

/-- The last part of a domain is a number. -/
def endsInNumber (domain : List Char) : Bool :=
  match (partsOf domain).getLast? with
  | some part => (!part.isEmpty && part.all Char.isDigit) || (numberOf part).isSome
  | none => false

/-- The address with the given numbers. -/
def addressOf (numbers : List Nat) : Option Nat :=
  match numbers.getLast? with
  | none => none
  | some last =>
    let leading := numbers.dropLast
    if leading.length < 4 ∧ leading.all (· < 256) ∧ last < Nat.pow 256 (4 - leading.length) then
      some (leading.foldl (fun n part ↦ 256 * n + part) 0 * Nat.pow 256 (4 - leading.length) + last)
    else none

def ipv4Of (domain : List Char) : Option Host :=
  (((partsOf domain).mapM numberOf).bind addressOf).map ipv4

/-! ## Addresses of version 6 -/

/-- The number of at most four hexadecimal digits. -/
def quadOf (cs : List Char) : Option Nat :=
  if cs.isEmpty ∨ 4 < cs.length then none
  else cs.foldlM (fun n c ↦ (Text.hexValue c).map (16 * n + ·)) 0

/-- One of four decimal numbers, without leading zeros. -/
def decimalPart (cs : List Char) : Option Nat :=
  if cs.isEmpty ∨ !cs.all Char.isDigit ∨ (cs.head? = some '0' ∧ 1 < cs.length) then none
  else (numberOf cs).filter (· < 256)

/-- The two last parts, written as four decimal numbers. -/
def dottedOf (cs : List Char) : Option (List Nat) := do
  match ← (Text.pieces '.' cs).mapM decimalPart with
  | [a, b, c, d] => some [256 * a + b, 256 * c + d]
  | _ => none

/-- The parts between colons, of which the last may be dotted if it is the end of the address. -/
def quadsOf (atEnd : Bool) : List (List Char) → Option (List Nat)
  | [] => some []
  | [last] => if atEnd && last.contains '.' then dottedOf last else (quadOf last).map ([·])
  | part :: rest => do
    let quad ← quadOf part
    let quads ← quadsOf atEnd rest
    some (quad :: quads)

/-- The text before and after the first double colon. -/
def splitDoubleColon : List Char → Option (List Char × List Char)
  | ':' :: ':' :: rest => some ([], rest)
  | c :: rest => (splitDoubleColon rest).map fun (before, after) ↦ (c :: before, after)
  | [] => none

/-- The parts of a text that is not empty. -/
def colonParts (cs : List Char) : List (List Char) := if cs.isEmpty then [] else Text.pieces ':' cs

def ipv6Of (cs : List Char) : Option Host := do
  match splitDoubleColon cs with
  | none =>
    let parts ← quadsOf true (Text.pieces ':' cs)
    if parts.length = 8 then some (ipv6 parts) else none
  | some (before, after) =>
    let before ← quadsOf false (colonParts before)
    let after ← quadsOf true (colonParts after)
    let given := before.length + after.length
    if given < 8 then some (ipv6 (before ++ List.replicate (8 - given) 0 ++ after)) else none

/-! ## Any host -/

/-- The host that a text stands for in a URL of a scheme that everyone knows. -/
def parse (cs : List Char) : Except UrlFault Host :=
  match cs with
  | '[' :: rest =>
    match rest.getLast?, ipv6Of rest.dropLast with
    | some ']', some host => .ok host
    | _, _ => .error .invalidIpv6
  | _ => match domainOf cs with
    | none => .error .invalidDomain
    | some [] => .error .emptyHost
    | some name =>
      if endsInNumber name then match ipv4Of name with
        | some host => .ok host
        | none => .error .invalidIpv4
      else .ok (domain (String.ofList name))

/-- A character that a host of an unknown scheme may not contain. -/
def isForbiddenOpaque (c : Char) : Bool :=
  [Char.ofNat 0, '\t', '\n', '\r', ' ', '#', '/', ':', '<', '>', '?', '@', '[', '\\', ']', '^',
    '|'].contains c

/-- The host that a text stands for in a URL of an unknown scheme. -/
def parseOpaque (cs : List Char) : Except UrlFault Host :=
  if cs.head? = some '[' then parse cs
  else if cs.any isForbiddenOpaque then .error .invalidDomainCharacter
  else .ok (domain (String.ofList (Percent.encode (fun _ ↦ false) cs)))

/-! ## The text of a host -/

/-- The start and the length of the longest run of zeros, the first of several; `position` is that
of the first part, and `run` the number of zeros before it. -/
def longestZeros (position run : Nat) : List Nat → Nat × Nat
  | [] => (position - run, run)
  | part :: rest =>
    if part = 0 then longestZeros (position + 1) (run + 1) rest
    else
      let later := longestZeros (position + 1) 0 rest
      if later.2 ≤ run then (position - run, run) else later

def hexText (n : Nat) : String := String.ofList (Nat.toDigits 16 n)

/-- Parts with colons between them. -/
def joined (parts : List Nat) : String := ":".intercalate (parts.map hexText)

def ipv6Text (parts : List Nat) : String :=
  let (start, length) := longestZeros 0 0 parts
  if length < 2 then joined parts
  else joined (parts.take start) ++ "::" ++ joined (parts.drop (start + length))

def text : Host → String
  | domain name => name
  | ipv4 address => ".".intercalate
      ([16777216, 65536, 256, 1].map fun unit ↦ toString (address / unit % 256))
  | ipv6 parts => "[" ++ ipv6Text parts ++ "]"

end Host

end FacetSearch
