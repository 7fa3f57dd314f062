/-!
# UTF-8

Octets are decoded by a machine that waits for the continuation octets of a character. Where an
octet does not fit, the octets read for the character are one malformed unit, and the octet is read
again as a first one. Text that must be well formed is refused if there is such a unit; other text
has the replacement character in its place.
-/

namespace FacetSearch.Utf8

/-- The octets of a text. -/
def encode (cs : List Char) : List UInt8 := cs.flatMap String.utf8EncodeChar

/-- A character of which some octets have been read. -/
structure Partial where
  /-- The value of the octets read. -/
  value : Nat
  /-- How many octets are missing after the next one. -/
  missing : Nat
  /-- The least and the greatest value that the next octet may have. -/
  least : Nat
  greatest : Nat

/-- A decoded character, or `none` for octets that form none. -/
abbrev Unit := Option Char

/-- Reads a first octet: a whole unit, or the start of a character. -/
def start (octet : Nat) : Unit ⊕ Partial :=
  if octet < 0x80 then .inl (some (Char.ofNat octet))
  else if octet < 0xC2 then .inl none
  else if octet < 0xE0 then .inr ⟨octet - 0xC0, 0, 0x80, 0xBF⟩
  else if octet < 0xF0 then
    .inr ⟨octet - 0xE0, 1, if octet = 0xE0 then 0xA0 else 0x80,
      if octet = 0xED then 0x9F else 0xBF⟩
  else if octet < 0xF5 then
    .inr ⟨octet - 0xF0, 2, if octet = 0xF0 then 0x90 else 0x80,
      if octet = 0xF4 then 0x8F else 0xBF⟩
  else .inl none

/-- The units of octets, when `partial?` has been read of a character. -/
def unitsFrom (partial? : Option Partial) : List UInt8 → List Unit
  | [] => match partial? with
    | none => []
    | some _ => [none]
  | octet :: rest =>
    let restart (before : List Unit) : List Unit := before ++ match start octet.toNat with
      | .inl unit => unit :: unitsFrom none rest
      | .inr begun => unitsFrom (some begun) rest
    match partial? with
    | none => restart []
    | some begun =>
      if begun.least ≤ octet.toNat ∧ octet.toNat ≤ begun.greatest then
        let value := 64 * begun.value + (octet.toNat - 0x80)
        match begun.missing with
        | 0 => some (Char.ofNat value) :: unitsFrom none rest
        | missing + 1 => unitsFrom (some ⟨value, missing, 0x80, 0xBF⟩) rest
      else restart [none]

def units (octets : List UInt8) : List Unit := unitsFrom none octets

/-- The text of well-formed octets. -/
def decode? (octets : List UInt8) : Option (List Char) := (units octets).mapM id

/-- The text of octets with the replacement character for malformed units. -/
def decodeLossy (octets : List UInt8) : List Char :=
  (units octets).map fun unit ↦ unit.getD (Char.ofNat 0xFFFD)

end FacetSearch.Utf8
