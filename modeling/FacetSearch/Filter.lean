import FacetSearch.Query.Codec
import FacetSearch.Query.Meaning

/-!
# Filters

An id filter restricts a search to documents by the value of one field: to listed values, or to
listed paths less the excluded ones. `IdFilter.matches` decides it on the value itself, and
`IdFilter.toQuery` composes the query that decides it in the engine. A term filter demands one
value of one field and is void without a value.
-/

namespace FacetSearch

/-- A restriction of a search by the value of a field. -/
inductive IdFilter where
  /-- One of the values; without values, the field is absent. -/
  | plain (field : String) (values : StringSet)
  /-- A path that is listed, or lies below a listed value that ends in a slash, and does not start
  with an excluded one. -/
  | path (field : String) (values excluded : StringSet)
deriving DecidableEq

def startsWith (s start : String) : Bool := start.toList.isPrefixOf s.toList

/-- A path that stands for everything below it. -/
def isFolder (path : String) : Bool := path.toList.getLast? == some '/'

namespace IdFilter

def field : IdFilter → String
  | plain field _ => field
  | path field _ _ => field

def values : IdFilter → StringSet
  | plain _ values => values
  | path _ values _ => values

/-- The filter on the value of its field, which is `none` when the document lacks it. -/
def «matches» (filter : IdFilter) (candidate : Option String) : Bool :=
  match filter, candidate with
  | plain _ values, none => values.isEmpty
  | plain _ values, some value => values.contains value
  | path .., none => false
  | path _ values excluded, some value =>
    values.toList.any (fun path ↦ if isFolder path then startsWith value path else value == path) &&
      !excluded.toList.any (startsWith value ·)

/-- A path as a query. -/
def pathQuery (field path : String) : Query :=
  if isFolder path then .fieldStartsWith field path else .termIs field (.str path)

/-- The listed paths less the excluded ones. -/
def pathsQuery (field : String) (values excluded : StringSet) : Query :=
  let included := Query.anyOf (values.toList.map (pathQuery field))
  if excluded.isEmpty then included
  else .bool [included] [] [.anyOf (excluded.toList.map (.fieldStartsWith field ·))] []

/-- The filter as a query. -/
def toQuery : IdFilter → Query
  | path field values excluded => pathsQuery field values excluded
  | plain field values =>
    if values.isEmpty then .bool [] [] [.hasField field] []
    else if field = idField then .ids values.toList
    else .anyOf (values.toList.map fun value ↦ .termIs field (.str value))

def toJson : IdFilter → Json
  | plain field values => .record [("kind", some (.str "plain")), ("field", some (.str field)),
      ("values", some (.strings values.toList))]
  | path field values excluded => .record [("kind", some (.str "path")),
      ("field", some (.str field)), ("values", some (.strings values.toList)),
      ("excluded", some (.strings excluded.toList))]

def decodeKind (kind : String) (raw : RawJson) : Option IdFilter :=
  if kind = "plain" then do
    match ← raw.record [.required "field", .required "values"] with
    | [field, values] => some (plain (← RawJson.needed RawJson.string field)
        (← RawJson.needed RawJson.stringSet values))
    | _ => none
  else if kind = "path" then do
    match ← raw.record [.required "field", .required "values", .defaultable "excluded"] with
    | [field, values, excluded] => some (path (← RawJson.needed RawJson.string field)
        (← RawJson.needed RawJson.stringSet values)
        (← RawJson.withDefault .empty RawJson.stringSet excluded))
    | _ => none
  else none

/-- The kind stands in a member of its own, or comes first in an array. -/
def decode (raw : RawJson) : Option IdFilter :=
  if raw.isReadable then
    match raw with
    | .obj members => do
      let kind ← RawJson.needed RawJson.string (← RawJson.uniqueMember members (.required "kind"))
      decodeKind kind raw
    | .arr (kind :: rest) => do decodeKind (← kind.string) (.arr rest)
    | _ => none
  else none

end IdFilter

/-- A demand on the value of one field, void without a value. -/
structure TermFilter where
  field : String
  value : Option String
deriving DecidableEq

namespace TermFilter

def toQuery? (filter : TermFilter) : Option Query :=
  filter.value.map fun value ↦ .termIs filter.field (.str value)

def toJson (filter : TermFilter) : Json :=
  .record [("field", some (.str filter.field)), ("value", some (.orNull (filter.value.map .str)))]

def decode (raw : RawJson) : Option TermFilter := do
  match ← raw.record [.required "field", .required "value"] with
  | [field, value] => some ⟨← RawJson.needed RawJson.string field,
      ← RawJson.optional RawJson.string value⟩
  | _ => none

end TermFilter

/-- Both filters, or the one that applies. -/
def composeFilters (idFilter : Option IdFilter) (termFilter : Option TermFilter) : Option Query :=
  match idFilter.map IdFilter.toQuery, termFilter.bind TermFilter.toQuery? with
  | some id, some term => some (id.and term)
  | some id, none => some id
  | none, term => term

end FacetSearch
