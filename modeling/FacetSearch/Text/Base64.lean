/-!
# Base64

Three octets are written as four characters; one or two octets at the end are filled up with equals
signs.
-/

namespace FacetSearch.Base64

/-- The character of a number below 64. -/
def digit (n : Nat) : Char :=
  if n < 26 then Char.ofNat (65 + n)
  else if n < 52 then Char.ofNat (71 + n)
  else if n < 62 then Char.ofNat (n - 4)
  else if n = 62 then '+' else '/'

/-- The first `count` of the four characters of three octets. -/
def group (count : Nat) (a b c : UInt8) : List Char :=
  let n := 65536 * a.toNat + 256 * b.toNat + c.toNat
  [digit (n / 262144), digit (n / 4096 % 64), digit (n / 64 % 64), digit (n % 64)].take count

def encode : List UInt8 → List Char
  | a :: b :: c :: rest => group 4 a b c ++ encode rest
  | [a, b] => group 3 a b 0 ++ ['=']
  | [a] => group 2 a 0 0 ++ ['=', '=']
  | [] => []

end FacetSearch.Base64
