import FacetSearch.Json.Printer
import FacetSearch.Text.Blank
import FacetSearch.Text.LowerCase

/-!
# Document sources as text

A document source is flattened to one text for each dotted path of its members. Nested objects add
to the path; an array is the texts of its scalars, joined by spaces; nulls have no text. Later
members replace earlier ones with the same path. A suggestion is cleaned to lower-case words
without brackets, colons and commas.
-/

namespace FacetSearch

namespace Source

mutual

/-- The texts of the scalars of a value that is no object. -/
def scalars : Json → List String
  | .null => []
  | .obj _ => []
  | .str s => [s]
  | .bool b => [(Json.bool b).compact]
  | .num n => [(Json.num n).compact]
  | .arr elements => match scalarsOfElements elements with
    | [] => []
    | parts => [" ".intercalate parts]

/-- The texts of all elements. -/
def scalarsOfElements : List Json → List String
  | [] => []
  | element :: rest => scalars element ++ scalarsOfElements rest

end

/-- The path of a member below a path, which is empty at the root. -/
def joinPath (path name : String) : String :=
  if path.isEmpty then name else path ++ "." ++ name

mutual

/-- The paths and texts of a member, in order. -/
def flattenMember (path : String) : Json → List (String × String)
  | .obj members => flattenMembers path members
  | .null => []
  | .bool b => (scalars (.bool b)).map fun text ↦ (path, text)
  | .num n => (scalars (.num n)).map fun text ↦ (path, text)
  | .str s => (scalars (.str s)).map fun text ↦ (path, text)
  | .arr elements => (scalars (.arr elements)).map fun text ↦ (path, text)

/-- The paths and texts of the members of an object, in order. -/
def flattenMembers (path : String) : List (String × Json) → List (String × String)
  | [] => []
  | (name, value) :: rest =>
    flattenMember (joinPath path name) value ++ flattenMembers path rest

end

/-- The texts of the members of a source under their dotted paths. -/
def flatten (source : StringMap Json) : StringMap String :=
  .ofList (flattenMembers "" source.entries)

end Source

/-- The characters that are removed from suggestions. -/
def isNoise (c : Char) : Bool := ['[', ']', '(', ')', '{', '}', ':', ','].contains c

/-- A suggestion in lower case, without noise and with single spaces between words. -/
def cleanSuggestion (value : String) : String :=
  let words := (Text.words (Text.lowerCase value.toList)).map fun word ↦
    String.ofList (word.filter fun c ↦ !isNoise c)
  " ".intercalate (words.filter fun word ↦ !word.isEmpty)

end FacetSearch
