import FacetSearch.File
import FacetSearch.Index.Manager

/-!
# Mappings

A dotted field is analyzed if somewhere below it the mapping has a member `analyzed`: the segments
of the field and then `analyzed` are met in this order on a way down from the root, with any
members between them. The mapping of a new index is read from a file of its name.
-/

namespace FacetSearch

namespace Mapping

mutual

/-- The names are met in order on some way down from a value. -/
def meets (path : List String) : Json → Bool
  | .obj members => path.isEmpty || meetsMembers path members
  | .arr elements => path.isEmpty || meetsElements path elements
  | .null | .bool _ | .num _ | .str _ => path.isEmpty

/-- The names are met in order on some way down from an element. -/
def meetsElements (path : List String) : List Json → Bool
  | [] => false
  | element :: rest => meets path element || meetsElements path rest

/-- The names are met in order on some way down from a member, whose own name counts. -/
def meetsMembers (path : List String) : List (String × Json) → Bool
  | [] => false
  | (name, value) :: rest =>
    (match path with
      | [] => true
      | first :: others => name == first && meets others value) ||
      meets path value || meetsMembers path rest

end

/-- The segments of a dotted field, blank ones left out. -/
def segments (field : String) : List String :=
  ((Text.pieces '.' field.toList).filter fun piece ↦ !piece.isEmpty).map String.ofList

def isAnalyzed (mapping : Json) (field : String) : Bool :=
  meets (segments field ++ ["analyzed"]) mapping

/-- The file with the mapping of an index. -/
def path (dir index : String) : String := joinPaths dir (index ++ ".json")

/-- The mapping in a file, which may be the value of a member `mappings`. -/
def ofText (content : String) : Except Error Json :=
  match Json.read content with
  | none => .error .json
  | some mapping => .ok ((mapping.member? "mappings").getD mapping)

/-- Applies the mapping that is read from the file of a new index, if there is one. -/
def listener (read : String → FileContent) (dir : String) : Listener := fun index ↦
  match read (path dir index) with
  | .error .absent => return ()
  | .error _ => .fail .io
  | .ok content => do
    let mapping ← (ofText content : Except Error Json)
    Program.request (.putMapping index mapping)

end Mapping

end FacetSearch
