import FacetSearch.Domain.Direction
import FacetSearch.Domain.Joining
import FacetSearch.Domain.Mapping
import FacetSearch.Domain.Punycode
import FacetSearch.Text.Mark

/-!
# Names of domains

A domain consists of labels with dots between them. Its characters are replaced by what they stand
for, and every label beyond ASCII is written in Punycode behind a mark. A label that has this mark
already has to stand for a label that is written so. No label begins with a character that combines
with the one before, and the order of writing is clear.
-/

namespace FacetSearch.Domain

/-- A character that no domain contains. -/
def isForbidden (c : Char) : Bool :=
  c.toNat ≤ 0x20 || c.toNat == 0x7F || ['#', '%', '/', ':', '<', '>', '?', '@', '[', '\\', ']',
    '^', '|'].contains c

/-- What a label in Punycode begins with. -/
def punycodeMark : List Char := ['x', 'n', '-', '-']

/-- Labels with more characters are not written in Punycode. -/
def longestWritten : Nat := 1000

/-- Labels with more characters after the mark are not read from Punycode. -/
def longestRead : Nat := 2000

/-- A part of a domain. -/
structure Label where
  /-- What the label stands for. -/
  characters : List Char
  /-- The label in ASCII. -/
  ascii : List Char
deriving DecidableEq

namespace Label

/-- A text is what it stands for, and may be in a label. -/
def isReplaced (cs : List Char) : Bool :=
  replaceAll cs == some cs && !cs.any fun c ↦ isForbidden c || c == '.'

/-- The label that a text behind the mark stands for. -/
def ofPunycode (cs : List Char) : Option Label := do
  if cs.isEmpty || longestRead < cs.length || cs.getLast? == some '-' then none
  let characters ← Punycode.decode cs
  if isReplaced characters then some ⟨characters, punycodeMark ++ cs⟩ else none

/-- The label of a text whose characters have been replaced. -/
def ofReplaced (cs : List Char) : Option Label :=
  if punycodeMark.isPrefixOf cs then ofPunycode (cs.drop punycodeMark.length)
  else if cs.all Punycode.isBasic then some ⟨cs, cs⟩
  else if longestWritten < cs.length then none
  else some ⟨cs, punycodeMark ++ Punycode.encode cs⟩

/-- The characters of the label may stand where they stand. -/
def isSound (label : Label) : Bool :=
  !(label.characters.head?.any Text.isMark) && joinersFit [] label.characters

end Label

/-- The labels of a domain, if they can follow each other. -/
def labelsOf (cs : List Char) : Option (List Label) := do
  let labels ← (Text.pieces '.' cs).mapM Label.ofReplaced
  let ordered := labels.any fun label ↦ label.characters.any Direction.matters
  if labels.all fun label ↦ label.isSound && (!ordered || Direction.fits label.characters) then
    some labels
  else none

/-- The domain in ASCII that a text stands for. -/
def ofText (cs : List Char) : Option (List Char) := do
  let replaced ← replaceAll cs
  if replaced.any isForbidden then none
  let labels ← labelsOf replaced
  some (['.'].intercalate (labels.map Label.ascii))

end FacetSearch.Domain
