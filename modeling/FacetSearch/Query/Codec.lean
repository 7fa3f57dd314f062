import FacetSearch.Query.Basic
import FacetSearch.Decimal.Shortest
import FacetSearch.Json.Decode

/-!
# Queries as JSON

A query is an object with exactly one member, named for its kind. As a value it has a boost as the
same number of the longer binary format; where a request is sent as text, the digits of a boost are
the shortest of its own format. An infinite boost is null.
-/

namespace FacetSearch

def TextQuery.toJson (query : TextQuery) : Json :=
  .record [("query", some (.str query.query)),
    ("default_field", query.defaultField.map .str),
    ("fields", query.fields.map .strings),
    ("default_operator", query.defaultOperator.map .str)]

def TextQuery.decode (raw : RawJson) : Option TextQuery := do
  match ← raw.record [.required "query", .defaultable "default_field", .defaultable "fields",
    .defaultable "default_operator"] with
  | [query, defaultField, fields, defaultOperator] => some {
      query := ← RawJson.needed RawJson.string query
      defaultField := ← RawJson.optional RawJson.string defaultField
      fields := ← RawJson.optional RawJson.strings fields
      defaultOperator := ← RawJson.optional RawJson.string defaultOperator }
  | _ => none

namespace Query

/-- A boost as a number of the longer format. -/
def boostJson (boost : Binary32) : Json := .orNull (boost.toBinary64?.map .float)

/-- A boost as the number with the shortest digits that its own format can tell from others. -/
def shortBoostJson (boost : Binary32) : Json :=
  let shortest := BinaryFormat.single.shortest boost.position
  .orNull (if boost.isFinite then
      (Binary64.ofDecimal? boost.negative shortest.digits shortest.exponent).map .float
    else none)

mutual

/-- The JSON form of a query, with boosts written as given. -/
def written (boostForm : Binary32 → Json) : Query → Json
  | matchAll boost => .obj [("match_all", .record [("boost", boost.map boostForm)])]
  | term values => .obj [("term", .ofMap values)]
  | startsWith values => .obj [("prefix", .ofMap (values.map .str))]
  | bool must should mustNot filter => .obj [("bool", .record [
      ("must", if must.isEmpty then none else some (.arr (writtenList boostForm must))),
      ("should", if should.isEmpty then none else some (.arr (writtenList boostForm should))),
      ("must_not", if mustNot.isEmpty then none else some (.arr (writtenList boostForm mustNot))),
      ("filter", if filter.isEmpty then none else some (.arr (writtenList boostForm filter)))])]
  | hasField field => .obj [("exists", .obj [("field", .str field)])]
  | text query => .obj [("query_string", query.toJson)]
  | ids values => .obj [("ids", .obj [("values", .strings values)])]

/-- The JSON forms of the queries of a list. -/
def writtenList (boostForm : Binary32 → Json) : List Query → List Json
  | [] => []
  | query :: rest => written boostForm query :: writtenList boostForm rest

end

/-- The JSON form of a query as a value. -/
def toJson : Query → Json := written boostJson

/-- Decodes a query that is nested at most `depth` levels deep. -/
def decodeWithin : (depth : Nat) → RawJson → Option Query
  | 0, _ => none
  | _ + 1, .obj [(some "match_all", raw)] => do
    match ← raw.record [.defaultable "boost"] with
    | [boost] => some (matchAll (← RawJson.optional RawJson.binary32 boost))
    | _ => none
  | _ + 1, .obj [(some "term", raw)] => (raw.stringMap RawJson.toJson?).map term
  | _ + 1, .obj [(some "prefix", raw)] => (raw.stringMap RawJson.string).map startsWith
  | depth + 1, .obj [(some "bool", raw)] => do
    let clauses (field : Option RawJson) : Option (List Query) :=
      RawJson.withDefault [] (RawJson.list (decodeWithin depth)) field
    match ← raw.record [.defaultable "must", .defaultable "should", .defaultable "must_not",
      .defaultable "filter"] with
    | [must, should, mustNot, filter] =>
      some (bool (← clauses must) (← clauses should) (← clauses mustNot) (← clauses filter))
    | _ => none
  | _ + 1, .obj [(some "exists", raw)] => do
    match ← raw.record [.required "field"] with
    | [field] => some (hasField (← RawJson.needed RawJson.string field))
    | _ => none
  | _ + 1, .obj [(some "query_string", raw)] => (TextQuery.decode raw).map text
  | _ + 1, .obj [(some "ids", raw)] => do
    match ← raw.record [.required "values"] with
    | [values] => some (ids (← RawJson.needed RawJson.strings values))
    | _ => none
  | _ + 1, _ => none

def decode (raw : RawJson) : Option Query := decodeWithin raw.depth raw

end Query

def SortDirection.toJson (direction : SortDirection) : Json := .str direction.name

def SortDirection.decode (raw : RawJson) : Option SortDirection := raw.unitName.bind ofName?

namespace SortClause

def toJson : SortClause → Json
  | field name => .str name
  | directed fields =>
    .ofMap (fields.map fun direction ↦ .obj [("order", direction.toJson)])

/-- The direction of one field. -/
def decodeDirection (raw : RawJson) : Option SortDirection := do
  match ← raw.record [.required "order"] with
  | [order] => RawJson.needed SortDirection.decode order
  | _ => none

def decode (raw : RawJson) : Option SortClause :=
  if raw.isReadable then
    raw.string.map field <|> (raw.stringMap decodeDirection).map directed
  else none

end SortClause

namespace SourceFilter

def toJson : SourceFilter → Json
  | all returned => .bool returned
  | fields names => .strings names
  | patterns includes excludes =>
    .record [("includes", includes.map .strings), ("excludes", excludes.map .strings)]

def decodePatterns : RawJson → Option SourceFilter
  | .obj members => do
    match ← RawJson.memberFields [.defaultable "includes", .defaultable "excludes"] members with
    | [includes, excludes] => some (patterns (← RawJson.optional RawJson.strings includes)
        (← RawJson.optional RawJson.strings excludes))
    | _ => none
  | _ => none

def decode (raw : RawJson) : Option SourceFilter :=
  if raw.isReadable then
    raw.boolean.map all <|> raw.strings.map fields <|> decodePatterns raw
  else none

end SourceFilter

namespace TotalHits

def toJson : TotalHits → Json
  | counted exactly => .bool exactly
  | upTo count => .nat count.toNat

def decode (raw : RawJson) : Option TotalHits :=
  raw.boolean.map counted <|> raw.uint64.map upTo

end TotalHits

end FacetSearch
