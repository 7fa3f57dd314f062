import FacetSearch.Json.Basic

/-!
# JSON texts as they are written

A `RawJson` keeps what a value forgets: members stand in the order of the text and a name may be
repeated. A part that no value can stand for is `unreadable`: a number beyond the finite ones, a
string with a lone surrogate, a container nested too deep. It does no harm where nobody looks at
it, and `RawJson.toJson?` fails on it. Of members with one name the last counts.
-/

namespace FacetSearch

/-- A JSON text as it is written; an unreadable name is `none`. -/
inductive RawJson where
  | null
  | bool (b : Bool)
  | num (n : Number)
  | str (s : String)
  | arr (elements : List RawJson)
  | obj (members : List (Option String × RawJson))
  | unreadable

namespace RawJson

instance : Inhabited RawJson := ⟨null⟩

mutual

/-- The value that a text stands for, unless a part of it is unreadable. -/
def toJson? : RawJson → Option Json
  | null => some .null
  | bool b => some (.bool b)
  | num n => some (.num n)
  | str s => some (.str s)
  | arr elements => (toJsonElements? elements).map .arr
  | obj members => (toJsonMembers? members).map Json.ofMembers
  | unreadable => none

/-- The values of all elements. -/
def toJsonElements? : List RawJson → Option (List Json)
  | [] => some []
  | element :: rest => do
    let value ← toJson? element
    let values ← toJsonElements? rest
    some (value :: values)

/-- The names and values of all members, in the order of the text. -/
def toJsonMembers? : List (Option String × RawJson) → Option (List (String × Json))
  | [] => some []
  | (name?, element) :: rest => do
    let name ← name?
    let value ← toJson? element
    let values ← toJsonMembers? rest
    some ((name, value) :: values)

end

mutual

/-- The text that writes a value member by member. -/
def ofJson : Json → RawJson
  | .null => null
  | .bool b => bool b
  | .num n => num n
  | .str s => str s
  | .arr elements => arr (ofJsonElements elements)
  | .obj members => obj (ofJsonMembers members)

/-- The texts of all elements. -/
def ofJsonElements : List Json → List RawJson
  | [] => []
  | element :: rest => ofJson element :: ofJsonElements rest

/-- The texts of all members. -/
def ofJsonMembers : List (String × Json) → List (Option String × RawJson)
  | [] => []
  | (name, value) :: rest => (some name, ofJson value) :: ofJsonMembers rest

end

mutual

/-- The text in which containers more than `depth` levels deep are unreadable. -/
def limited (depth : Nat) : RawJson → RawJson
  | arr elements => match depth with
    | 0 => unreadable
    | depth + 1 => arr (limitedElements depth elements)
  | obj members => match depth with
    | 0 => unreadable
    | depth + 1 => obj (limitedMembers depth members)
  | other => other

/-- The elements with their containers limited in depth. -/
def limitedElements (depth : Nat) : List RawJson → List RawJson
  | [] => []
  | element :: rest => limited depth element :: limitedElements depth rest

/-- The members with their containers limited in depth. -/
def limitedMembers (depth : Nat) : List (Option String × RawJson) → List (Option String × RawJson)
  | [] => []
  | (name?, element) :: rest => (name?, limited depth element) :: limitedMembers depth rest

end

end RawJson

end FacetSearch
