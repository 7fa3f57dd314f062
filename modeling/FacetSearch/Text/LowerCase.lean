import FacetSearch.Text.LetterCase

/-!
# Conversion to lower case

The full conversion of Unicode: every character by itself, except that a capital sigma becomes a
final sigma where it ends a word. That is so when a cased letter comes before it and none after
it, characters with the property `Case_Ignorable` being skipped on both sides.
-/

namespace FacetSearch.Text

/-- The lower-case form of one character, without regard to its neighbours. -/
def lowerCaseChar (c : Char) : List Char :=
  if c.toNat = 0x130 then ['i', Char.ofNat 0x307]
  else match lowerCaseRuns.find? fun run ↦ run.contains c.toNat with
    | none => [c]
    | some run => [Char.ofNat (c.toNat + run.up - run.down)]

/-- The nearest character that is not ignorable is cased. -/
def nextIsCased : List Char → Bool
  | [] => false
  | c :: rest => if isCaseIgnorable c then nextIsCased rest else isCased c

def capitalSigma : Char := Char.ofNat 0x3A3

def finalSigma : Char := Char.ofNat 0x3C2

/-- The lower-case form of a text that follows the characters `before`, the last of them first. -/
def lowerCaseAfter (before : List Char) : List Char → List Char
  | [] => []
  | c :: rest =>
    (if c = capitalSigma ∧ nextIsCased before ∧ ¬ nextIsCased rest then [finalSigma]
      else lowerCaseChar c) ++ lowerCaseAfter (c :: before) rest

/-- The lower-case form of a text. -/
def lowerCase (cs : List Char) : List Char := lowerCaseAfter [] cs

end FacetSearch.Text
