import FacetSearch.Aggregation.Basic
import FacetSearch.Json.Decode
import FacetSearch.Text.Blank

/-!
# Properties that declare aggregations

A flat map of properties declares aggregations: a bare key asks for the terms of a field, and a key
`root.suffix` with one of four suffixes sets how the aggregations of the root are built. Every key
belongs to one root.
-/

namespace FacetSearch

abbrev Properties := StringMap String

/-- The suffixes that set something about a root. -/
inductive Suffix where
  | localized
  | aliases
  | type
  | ranges
deriving DecidableEq

def Suffix.text : Suffix → String
  | localized => "localized"
  | aliases => "alias"
  | type => "type"
  | ranges => "ranges"

namespace Properties

/-- The property `root.suffix`. -/
def suffixed (properties : Properties) (root suffix : String) : Option String :=
  properties.get? (root ++ "." ++ suffix)

def get (properties : Properties) (root : String) (suffix : Suffix) : Option String :=
  properties.suffixed root suffix.text

/-- The key without the suffix and the dot before it, unless nothing is left. -/
def withoutSuffix (key : String) (suffix : Suffix) : Option String :=
  let ending := ('.' :: suffix.text.toList).reverse
  let reversed := key.toList.reverse
  if ending.isPrefixOf reversed && ending.length < reversed.length then
    some (String.ofList (reversed.drop ending.length).reverse)
  else none

/-- The root that a key belongs to. -/
def rootOf (key : String) : String :=
  (withoutSuffix key .localized <|> withoutSuffix key .aliases <|> withoutSuffix key .type <|>
    withoutSuffix key .ranges).getD key

/-- The roots of all keys, each once and in ascending order. -/
def roots (properties : Properties) : List String :=
  (StringSet.ofList (properties.keys.map rootOf)).toList

def toJson (properties : Properties) : Json := .ofMap (properties.map .str)

def decode (raw : RawJson) : Option Properties := raw.stringMap RawJson.string

end Properties

/-- The kinds of aggregations that properties can ask for. -/
inductive AggregationKind where
  | terms
  | stats
  | range
deriving DecidableEq

namespace AggregationKind

def name : AggregationKind → String
  | terms => "terms"
  | stats => "stats"
  | range => "range"

/-- The kind with exactly that name. -/
def ofName? (name : String) : Option AggregationKind :=
  if name = "terms" then some terms
  else if name = "stats" then some stats
  else if name = "range" then some range
  else none

/-- The kind that a token names, blanks around it and the case of its letters aside. -/
def ofToken? (token : String) : Option AggregationKind :=
  ofName? (String.ofList ((Text.trim token.toList).map Char.toLower))

def decode (raw : RawJson) : Option AggregationKind := raw.unitName.bind ofName?

end AggregationKind

end FacetSearch
