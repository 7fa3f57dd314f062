import FacetSearch.Json.Reader

/-!
# Decoding JSON into records

A record is given as an object, in which unknown members are ignored and a known one may stand
only once, or as the array of its fields in declaration order. A missing or null optional field is
`none`; a field with a default may be missing but not null. Integer fields take integers in range,
float fields any number. A decoder is a function from `RawJson`, so that a text and a value are
decoded by one definition; an alternative of a union looks at a part only if all of it is readable.
-/

namespace FacetSearch

/-- The name of a field with its other accepted names. -/
structure Field where
  name : String
  aliases : List String
  /-- Whether the field may be missing at the end of an array. -/
  defaulted : Bool

namespace Field

def required (name : String) : Field := ⟨name, [], false⟩

def defaultable (name : String) : Field := ⟨name, [], true⟩

def isNamed (field : Field) (name? : Option String) : Bool :=
  match name? with
  | some name => name == field.name || field.aliases.contains name
  | none => false

end Field

namespace RawJson

def isReadable (raw : RawJson) : Bool := raw.toJson?.isSome

/-- The one member of that name, if there is one; there may not be several. -/
def uniqueMember (members : List (Option String × RawJson)) (field : Field) :
    Option (Option RawJson) :=
  match members.filter fun member ↦ field.isNamed member.1 with
  | [] => some none
  | [(_, value)] => some (some value)
  | _ => none

/-- The fields of a record given as the list of its members. -/
def memberFields (fields : List Field) (members : List (Option String × RawJson)) :
    Option (List (Option RawJson)) :=
  if members.all fun member ↦ member.1.isSome then fields.mapM (uniqueMember members) else none

/-- The fields of a record given as the list of its first fields. -/
def elementFields : List Field → List RawJson → Option (List (Option RawJson))
  | [], [] => some []
  | [], _ :: _ => none
  | field :: fields, [] =>
    if field.defaulted then (elementFields fields []).map (none :: ·) else none
  | _ :: fields, element :: elements => (elementFields fields elements).map (some element :: ·)

/-- The fields of a record. -/
def record (fields : List Field) : RawJson → Option (List (Option RawJson))
  | obj members => memberFields fields members
  | arr elements => elementFields fields elements
  | _ => none

def string : RawJson → Option String
  | str s => some s
  | _ => none

def boolean : RawJson → Option Bool
  | bool b => some b
  | _ => none

/-- An unsigned integer below a bound. -/
def natBelow (bound : Nat) : RawJson → Option Nat
  | num (.int i) => if 0 ≤ i ∧ i < bound then some i.toNat else none
  | _ => none

def uint64 (raw : RawJson) : Option UInt64 := (natBelow UInt64.size raw).map UInt64.ofNat

def uint16 (raw : RawJson) : Option UInt16 := (natBelow UInt16.size raw).map UInt16.ofNat

def binary64 : RawJson → Option Binary64
  | num (.int i) => Binary64.ofInt? i
  | num (.float x) => some x
  | _ => none

def binary32 : RawJson → Option Binary32
  | num (.int i) => some (Binary32.ofInt i)
  | num (.float x) => some (Binary32.ofBinary64 x)
  | _ => none

def list {α : Type} (item : RawJson → Option α) : RawJson → Option (List α)
  | arr elements => elements.mapM item
  | _ => none

/-- An object as the list of its members. -/
def entries {α : Type} (item : RawJson → Option α) : RawJson → Option (List (String × α))
  | obj members => members.mapM fun (name?, value) ↦ do
    let name ← name?
    let value ← item value
    some (name, value)
  | _ => none

/-- An object as a map; of members with one name the last counts. -/
def stringMap {α : Type} (item : RawJson → Option α) (raw : RawJson) : Option (StringMap α) :=
  (entries item raw).map StringMap.ofList

def strings : RawJson → Option (List String) := list string

def stringSet (raw : RawJson) : Option StringSet := (strings raw).map StringSet.ofList

/-- A field that must be there. -/
def needed {α : Type} (item : RawJson → Option α) (field : Option RawJson) : Option α :=
  field.bind item

/-- A field that may be missing or null. -/
def optional {α : Type} (item : RawJson → Option α) : Option RawJson → Option (Option α)
  | none | some null => some none
  | some raw => (item raw).map some

/-- A field that has a default when it is missing. -/
def withDefault {α : Type} (default : α) (item : RawJson → Option α) : Option RawJson → Option α
  | none => some default
  | some raw => item raw

/-- A name of an enumeration without data, given as a string or as the only member of an object,
whose value is null. -/
def unitName : RawJson → Option String
  | str s => some s
  | obj [(some name, null)] => some name
  | _ => none

mutual

/-- The number of containers that are nested in one another, with one for the innermost value. -/
def depth : RawJson → Nat
  | arr elements => depthElements elements + 1
  | obj members => depthMembers members + 1
  | _ => 1

/-- The greatest depth of an element. -/
def depthElements : List RawJson → Nat
  | [] => 0
  | element :: rest => max (depth element) (depthElements rest)

/-- The greatest depth of a member. -/
def depthMembers : List (Option String × RawJson) → Nat
  | [] => 0
  | (_, value) :: rest => max (depth value) (depthMembers rest)

end

end RawJson

/-- Decodes a value. -/
def Json.decode {α : Type} (decoder : RawJson → Option α) (json : Json) : Option α :=
  decoder (RawJson.ofJson json)

/-- Decodes a text. -/
def Json.decodeText {α : Type} (decoder : RawJson → Option α) (text : String) : Option α :=
  (RawJson.read text.toList).bind decoder

/-- The members of an object that are present. -/
def Json.record (members : List (String × Option Json)) : Json :=
  .ofMembers (members.filterMap fun (name, value?) ↦ value?.map fun value ↦ (name, value))

/-- An optional field that is written as null when absent. -/
def Json.orNull (value? : Option Json) : Json := value?.getD .null

/-- A list that is left out when empty. -/
def Json.unlessEmpty {α : Type} (list : List α) (encode : List α → Json) : Option Json :=
  if list.isEmpty then none else some (encode list)

end FacetSearch
