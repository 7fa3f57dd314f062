import FacetSearch.Response.Codec
import FacetSearch.Error

/-!
# Search results

The results of a search, free of the engine's typed keys: the total, the documents found, and the
aggregations as a tree. An aggregation is recognized by the kind before the first `#` of its key
and is named by all that follows; members of other kinds are skipped whatever they hold. A
recognized member that does not decode makes the whole response unreadable.
-/

namespace FacetSearch

/-- A document of a result. -/
structure DocumentResult where
  id : String
  index : Option String
  score : Option Binary64
  source : Option (StringMap Json)
  /-- The compact text of the source. -/
  sourceText : Option String
  className : Option String
deriving DecidableEq

mutual

/-- The value of an aggregation. -/
inductive AggregationValue where
  | global (docCount : UInt64)
  | terms (buckets : List TermsBucket)
  | stats (stats : Stats)
  | range (buckets : List RangeBucket)

/-- The documents with one value of a field. -/
inductive TermsBucket where
  | mk (key : String) (docCount : UInt64) (aggregations : List (String × AggregationValue))

/-- The documents with the values of an interval. -/
inductive RangeBucket where
  | mk (key : String) (lower upper : Option Binary64) (docCount : UInt64)
    (aggregations : List (String × AggregationValue))

end

/-- The aggregations of a result or a bucket under their names, in order. -/
abbrev NamedValues := List (String × AggregationValue)

/-- The results of a search. -/
structure SearchResults where
  total : UInt64
  documents : List DocumentResult
  aggregations : NamedValues

/-- The name of the aggregation that counts all documents. -/
def totalCountName : String := "_all"

/-- The source member that holds the class of a document. -/
def classNameField : String := "className"

/-- The kinds of aggregations that are recognized. -/
inductive TypedKind where
  | global
  | terms
  | stats
  | range
deriving DecidableEq

def TypedKind.ofText? (kind : String) : Option TypedKind :=
  if kind = "global" then some global
  else if ["sterms", "lterms", "dterms", "umterms", "multi_terms"].contains kind then some terms
  else if kind = "stats" then some stats
  else if ["range", "date_range"].contains kind then some range
  else none

/-- The parts of a typed key before and after the first `#`. -/
def splitTypedKey (key : String) : Option (String × String) :=
  match key.toList.dropWhile (· ≠ '#') with
  | '#' :: name => some (String.ofList (key.toList.takeWhile (· ≠ '#')), String.ofList name)
  | _ => none

/-- The recognized kind and the name of a typed key. -/
def recognize (key : String) : Option (TypedKind × String) := do
  let (kind, name) ← splitTypedKey key
  let kind ← TypedKind.ofText? kind
  some (kind, name)

/-- The value that a body stands for; `below` reads the members of a bucket. -/
def bodyValue (below : List (String × Json) → Option NamedValues) (body : Json) :
    TypedKind → Option AggregationValue
  | .global => (body.decode decodeDocCount).map .global
  | .stats => (body.decode Stats.decode).map .stats
  | .terms => do
    let buckets ← body.decode Bucket.decodeAll
    let buckets ← buckets.mapM fun bucket ↦ (below bucket.others.entries).map
      (TermsBucket.mk bucket.keyText bucket.docCount)
    some (.terms buckets)
  | .range => do
    let buckets ← body.decode Bucket.decodeAll
    let buckets ← buckets.mapM fun bucket ↦ (below bucket.others.entries).map
      (RangeBucket.mk bucket.keyText bucket.lower bucket.upper bucket.docCount)
    some (.range buckets)

/-- The named value of a member, if its kind is recognized. -/
def memberValue (below : List (String × Json) → Option NamedValues) (member : String × Json) :
    Option (Option (String × AggregationValue)) :=
  match recognize member.1 with
  | none => some none
  | some (kind, name) => (bodyValue below member.2 kind).map fun value ↦ some (name, value)

/-- The named values of members that are nested at most `depth` levels deep. -/
def normalizeWithin : (depth : Nat) → List (String × Json) → Option NamedValues
  | 0, _ => none
  | depth + 1, members =>
    (members.mapM (memberValue (normalizeWithin depth))).map fun values ↦ values.filterMap id

/-- The named values of the members of an object. -/
def normalizeAggregations (members : List (String × Json)) : Option NamedValues :=
  normalizeWithin (RawJson.ofJson (.obj members)).depth members

def DocumentResult.ofHit (hit : Hit) : DocumentResult where
  id := hit.id
  index := hit.index
  score := hit.score
  source := hit.source
  sourceText := hit.source.map fun source ↦ (Json.ofMap source).compact
  className := hit.source.bind fun source ↦ (source.get? classNameField).bind Json.str?

namespace SearchResults

def empty : SearchResults := ⟨0, [], []⟩

/-- A total and nothing else. -/
def ofCount (count : UInt64) : SearchResults := ⟨count, [], []⟩

/-- The results that a response stands for. -/
def ofResponse (response : SearchResponse) : Except Error SearchResults :=
  match normalizeAggregations response.aggregations.entries with
  | none => .error .json
  | some aggregations => .ok {
      total := (response.hits.total.map HitCount.value).getD response.hits.hits.length.toUInt64
      documents := response.hits.hits.map DocumentResult.ofHit
      aggregations := aggregations }

/-- The first aggregation of that name. -/
def find? (results : SearchResults) (name : String) : Option AggregationValue :=
  Entries.get? results.aggregations name

/-- The keys and counts of the buckets of an aggregation; of buckets with one key, the last. -/
def bucketCounts (results : SearchResults) (name : String) : StringMap UInt64 :=
  match results.find? name with
  | some (.terms buckets) => .ofList (buckets.map fun | .mk key count _ => (key, count))
  | some (.range buckets) => .ofList (buckets.map fun | .mk key _ _ count _ => (key, count))
  | _ => ∅

/-- The count of all documents, if it was asked for. -/
def totalCount? (results : SearchResults) : Option UInt64 :=
  match results.find? totalCountName with
  | some (.global count) => some count
  | _ => none

def stats? (results : SearchResults) (name : String) : Option Stats :=
  match results.find? name with
  | some (.stats stats) => some stats
  | _ => none

end SearchResults

end FacetSearch
