import FacetSearch.Aggregation.Plan
import FacetSearch.Engine.Program
import FacetSearch.Filter
import FacetSearch.Results
import FacetSearch.Search.Query
import FacetSearch.Source

/-!
# Searching

Every entry point builds one request, makes one call of the engine and turns the response into
results. Properties are planned before the engine is called, so that a fault in them costs no call.
-/

namespace FacetSearch

/-- Whether a search wants documents or counts only. -/
inductive Scope where
  | detail
  | aggregation
deriving DecidableEq

/-- A page of a listing of documents. -/
structure Listing where
  start : UInt64
  limit : UInt64
  /-- The field to sort by; without one the best score comes first. -/
  sort : Option String
  order : Option String
  text : Option String
  /-- The fields that the text is looked for in. -/
  fields : List String
  termFilter : Option TermFilter
  idFilter : Option IdFilter
  /-- Flags; documents with one of them set are left out. -/
  excludedFields : List String

namespace Listing

def empty : Listing := ⟨0, defaultSize, none, none, none, [], none, none, []⟩

/-- Descending if it says so, in any case of letters, and else ascending. -/
def directionOf (order : Option String) : SortDirection :=
  if order.any (Text.sameIgnoringCase "desc" ·) then .descending else .ascending

def sortClause (listing : Listing) : SortClause :=
  match listing.sort with
  | some field => .orderedBy field (directionOf listing.order)
  | none => .bestScore

/-- The condition on the documents of a listing, flags aside. -/
def condition (listing : Listing) : Option Query :=
  let text := listing.text.map fun text ↦ Query.text
    ⟨text, none, if listing.fields.isEmpty then none else some listing.fields, none⟩
  match text, composeFilters listing.idFilter listing.termFilter with
  | some text, some filter => some (.bool [text] [] [] [filter])
  | some text, none => some text
  | none, filter => filter

/-- A flag is set. -/
def flagged (field : String) : Query := (Query.termIs field (.str "true")).and (.hasField field)

/-- The condition on the documents of a listing. -/
def query (listing : Listing) : Query :=
  let condition := listing.condition
  if listing.excludedFields.isEmpty then condition.getD .all
  else .bool condition.toList [] (listing.excludedFields.map flagged) []

/-- The class of the document is the given one. -/
def ofClass (className : String) : Query :=
  .text ⟨className, none, some [classNameField], none⟩

/-- The condition on the documents of a class. -/
def classQuery (listing : Listing) (className : String) : Query :=
  let query := match listing.text with
    | some text => (ofClass className).and (.ofText text)
    | none => ofClass className
  match composeFilters listing.idFilter listing.termFilter with
  | some filter => query.and filter
  | none => query

/-- The request for a page of the documents that match a query. -/
def request (listing : Listing) (query : Query) : SearchRequest :=
  { SearchRequest.empty with
    query := some query
    start := some listing.start
    size := some listing.limit
    sort := [listing.sortClause] }

end Listing

/-- The place in a field that stands for the locale. -/
def localePlaceholder : String := "\x7blocale\x7d"

/-- The ending of a field that is searched but not returned. -/
def analyzedEnding : String := ".analyzed"

/-- The text with every occurrence of a part, from left to right, replaced; `skip` characters of an
occurrence are still to be passed over. -/
def replaceFrom (part replacement : List Char) (skip : Nat) : List Char → List Char
  | [] => []
  | c :: rest =>
    if 0 < skip then replaceFrom part replacement (skip - 1) rest
    else if part.isPrefixOf (c :: rest) then
      replacement ++ replaceFrom part replacement (part.length - 1) rest
    else c :: replaceFrom part replacement 0 rest

/-- The string with every occurrence of a part that is not blank replaced. -/
def replaceAll (s part replacement : String) : String :=
  String.ofList (replaceFrom part.toList replacement.toList 0 s.toList)

structure Searcher where
  planner : Planner
  compiler : Compiler

namespace Searcher

/-- The condition of a query, if it sets one, and that of the filter. -/
def effectiveQuery (query : SearchQuery) (idFilter : Option IdFilter) : Query :=
  let condition := query.query.getD .all
  match idFilter with
  | some filter => condition.and filter.toQuery
  | none => condition

/-- The list without repetitions, each item where it first stands. -/
def distinct (list : List String) : List String :=
  list.foldl (fun kept item ↦ if kept.contains item then kept else kept ++ [item]) []

/-- What is returned of the document source. -/
def projection (scope : Scope) (query : SearchQuery) (mandatory : List String) :
    Option SourceFilter :=
  match scope, query.sourceFields with
  | .aggregation, _ => some (.all false)
  | .detail, none => none
  | .detail, some [] => some (.all false)
  | .detail, some fields => some (.patterns (some (distinct (fields ++ mandatory))) none)

/-- Aggregations with the count of all documents among them. -/
def withTotalCount (aggregations : List (String × Aggregation)) : List (String × Aggregation) :=
  Entries.insert aggregations totalCountName .everything

/-- The aggregations of properties, which also stand below those of the bucket fields. -/
def bucketAggregations (searcher : Searcher) (bucketFields : List String)
    (properties : Properties) : Except Error (List (String × Aggregation)) :=
  let nested : StringMap Properties := .ofList (bucketFields.map fun field ↦ (field, properties))
  match searcher.planner.planNested properties nested with
  | .ok plan => .ok (withTotalCount plan.definitions)
  | .error fault => .error (.property fault)

/-- The request for a search in a scope. -/
def searchRequest (query : SearchQuery) (scope : Scope) (mandatory : List String)
    (aggregations : List (String × Aggregation)) (idFilter : Option IdFilter) : SearchRequest where
  query := some (effectiveQuery query idFilter)
  start := some query.start
  size := some (match scope with | .detail => query.size | .aggregation => 0)
  source := projection scope query mandatory
  aggregations := aggregations
  sort := query.sort
  totalHits := some (.counted true)

/-- The request for aggregations only. -/
def coverageRequest (query : Query) (aggregations : List (String × Aggregation)) :
    SearchRequest where
  query := some query
  start := some 0
  size := some 0
  source := some (.all false)
  aggregations := aggregations
  sort := []
  totalHits := some (.counted true)

/-- Makes a search and turns the response into results. -/
def search (index : String) (request : SearchRequest) : Program SearchResults := do
  let response ← Program.request (.search index request)
  (SearchResults.ofResponse response : Except Error SearchResults)

/-- Documents with aggregations, or aggregations only. -/
def query (searcher : Searcher) (index : String) (query : SearchQuery) (scope : Scope)
    (mandatory : List String) (properties : Properties) (idFilter : Option IdFilter) :
    Program SearchResults := do
  let aggregations ← (searcher.bucketAggregations query.bucketFields properties : Except Error _)
  search index (searchRequest query scope mandatory aggregations idFilter)

/-- Aggregations only. -/
def cover (searcher : Searcher) (index : String) (query : SearchQuery) (properties : Properties)
    (idFilter : Option IdFilter) : Program SearchResults := do
  let aggregations ← (searcher.bucketAggregations query.bucketFields properties : Except Error _)
  search index (coverageRequest (effectiveQuery query idFilter) aggregations)

/-- Aggregations with those of further properties below them, given for bucket fields. -/
def aggregate (searcher : Searcher) (index : String) (query : SearchQuery)
    (properties : Properties) (nested : StringMap Properties) (idFilter : Option IdFilter) :
    Program SearchResults :=
  match searcher.planner.planNested properties nested with
  | .error fault => .fail (.property fault)
  | .ok plan =>
    search index (coverageRequest (effectiveQuery query idFilter) (withTotalCount plan.definitions))

/-- The request for the documents that a compiled text asks for. -/
def findRequest (query : SearchQuery) (idFilter : Option IdFilter) : SearchRequest :=
  { SearchRequest.empty with
    query := some (effectiveQuery query idFilter)
    start := some query.start
    size := some query.size
    sort := if query.sort.isEmpty then [.bestScore] else query.sort }

/-- The documents that a text asks for, the best first unless it says otherwise. -/
def find (searcher : Searcher) (index text : String) (idFilter : Option IdFilter) :
    Program SearchResults :=
  search index (findRequest (searcher.compiler.compile text) idFilter)

/-- The request that counts the distinct values of fields. -/
def countRequest (query : Query) (fields : List String) : SearchRequest :=
  { SearchRequest.empty with
    query := some query
    start := some 0
    size := some 0
    aggregations := Entries.sorted (fields.map fun field ↦ (field, .allTerms field)) }

/-- The number of the documents that a text asks for, or of the values of the fields it names. -/
def count (searcher : Searcher) (index text : String) (idFilter : Option IdFilter) :
    Program SearchResults := do
  let compiled := searcher.compiler.compile text
  let effective := effectiveQuery compiled idFilter
  if compiled.countedFields.isEmpty then
    let count ← Program.request (.count index effective)
    return SearchResults.ofCount count
  else search index (countRequest effective compiled.countedFields)

/-- The field of a pattern in a locale. -/
def localizedField (pattern locale : String) : String :=
  replaceAll pattern localePlaceholder locale

/-- The field that is returned for a field that is searched. -/
def sourceField (localized : String) : String := replaceAll localized analyzedEnding ""

/-- The request for suggestions. -/
def suggestRequest (limit : UInt64) (localized text : String) : SearchRequest :=
  { SearchRequest.empty with
    query := some (.text ⟨text, some localized, none, some "OR"⟩)
    start := some 0
    size := some limit
    source := some (.patterns (some [sourceField localized]) none)
    sort := [.bestScore] }

/-- The cleaned texts of a field of the documents found, blank ones left out. -/
def suggestions (field : String) (hits : List Hit) : List String :=
  let texts := (hits.filterMap Hit.source).filterMap fun source ↦ (Source.flatten source).get? field
  (texts.map cleanSuggestion).filter fun text ↦ !text.isEmpty

/-- The values of a localized field in the documents that best match a text. -/
def suggest (index : String) (limit : UInt64) (locale text pattern : String) :
    Program (List String) := do
  let localized := localizedField pattern locale
  let response ← Program.request (.search index (suggestRequest limit localized text))
  return suggestions (sourceField localized) response.hits.hits

/-- The first document that matches a query. -/
def firstDocument (index : String) (query : Query) : Program (Option DocumentResult) := do
  let results ← search index { SearchRequest.empty with query := some query }
  return results.documents.head?

def documentById (index id : String) : Program (Option DocumentResult) :=
  firstDocument index (.ids [id])

/-- The document with an identifier, if it has the class. -/
def documentByClassName (index className id : String) : Program (Option DocumentResult) :=
  firstDocument index ((Listing.ofClass className).and (.ids [id]))

def documents (index : String) (listing : Listing) : Program SearchResults :=
  search index (listing.request listing.query)

def documentsByClassName (index className : String) (listing : Listing) : Program SearchResults :=
  search index (listing.request (listing.classQuery className))

/-- The request that counts the values of a field under a name without dots. -/
def fieldCountRequest (field name : String) : SearchRequest :=
  { SearchRequest.empty with
    query := some (.anyOf [.hasField field])
    start := some 0
    size := some 0
    aggregations := [(name, .allTerms field)] }

/-- The number of distinct values of a field; an absent index has none. -/
def countDocumentsWithField (index field : String) : Program UInt64 := do
  let name := String.ofList (field.toList.map fun c ↦ if c = '.' then '-' else c)
  match ← (Program.request (.search index (fieldCountRequest field name))).attempt with
  | .ok response =>
    let results ← (SearchResults.ofResponse response : Except Error SearchResults)
    return (results.bucketCounts name).size.toUInt64
  | .error (.indexNotFound _) => return 0
  | .error e => Program.fail e

end Searcher

end FacetSearch
